import BatchLaunch.Launch.Collecting
import BatchLaunch.Launch.DryRun

/-!
The three ways to go through a batch, and the choice between them.
-/
namespace BatchLaunch

inductive Mode where
  | detached
  | collecting (timeout : Timeout)
  | dryRun
  deriving DecidableEq, Repr

namespace Mode

/-- A dry run wins over waiting, and a timeout without waiting means nothing. -/
def choose (dryRun wait : Bool) (timeout : Timeout) : Mode :=
  if dryRun then .dryRun else if wait then .collecting timeout else .detached

structure Launched (World : Type) where
  report : Except BatchError Report
  out : Sink
  world : World
  log : List LogLine
  waitLog : List LogLine

variable {World Log Child : Type}

def execute (mode : Mode) (machine : Machine World Log Child) (settings : Settings) (dir : String)
    (jobs : List Job) (out : Sink) (world : World) : Launched World :=
  match mode with
  | .detached =>
      let done := Detached.execute machine settings dir jobs world
      ⟨.ok done.value, out, done.world, done.log, []⟩
  | .collecting timeout =>
      let done := Collecting.execute machine settings dir timeout jobs world
      match done.value with
      | .error error => ⟨.error error, out, done.world, done.log, []⟩
      | .ok collected => ⟨.ok collected.report, out, done.world, done.log, collected.waitLog⟩
  | .dryRun =>
      let (after, report) := DryRun.execute settings dir jobs out
      ⟨report, after, world, [], []⟩

end Mode
end BatchLaunch
