import BatchLaunch.Invocation
import BatchLaunch.Report
import BatchLaunch.Text.Utf8

/-!
A dry run writes the shell command of each job and starts nothing. What it writes to may have room
for so many octets only.
-/
namespace BatchLaunch

structure Sink where
  taken : Octets
  /-- How many more octets fit; `none` is no bound. -/
  room : Option Nat
  deriving DecidableEq, Repr

namespace Sink

def unbounded : Sink := ⟨[], none⟩

def bounded (limit : Nat) : Sink := ⟨[], some limit⟩

/-- Takes what fits. The answer tells whether that was everything. -/
def write (sink : Sink) (octets : Octets) : Sink × Bool :=
  match sink.room with
  | none => (⟨sink.taken ++ octets, none⟩, true)
  | some room =>
      (⟨sink.taken ++ octets.take room, some (room - octets.length)⟩, octets.length ≤ room)

/-- Writes pieces in order and stops at the first that is cut short. -/
def writeAll (sink : Sink) : List String → Sink × Bool
  | [] => (sink, true)
  | piece :: pieces =>
      match sink.write (Text.Utf8.encode piece) with
      | (after, true) => after.writeAll pieces
      | (after, false) => (after, false)

end Sink
end BatchLaunch

namespace BatchLaunch.DryRun

/-- Writes the jobs' commands in order, up to the first that does not fit. -/
def writeJobs (settings : Settings) (dir : String) : List Job → Sink → Sink × Bool
  | [], sink => (sink, true)
  | job :: jobs, sink =>
      match sink.writeAll (((Invocation.ofJob settings job).within dir).pieces ++ ["\n"]) with
      | (after, true) => writeJobs settings dir jobs after
      | (after, false) => (after, false)

/-- The sink afterwards, and a report if everything could be written. -/
def execute (settings : Settings) (dir : String) (jobs : List Job) (sink : Sink) :
    Sink × Except BatchError Report :=
  match writeJobs settings dir jobs sink with
  | (after, true) => (after, .ok ⟨jobs.map fun job => (job, .printed)⟩)
  | (after, false) => (after, .error .output)

end BatchLaunch.DryRun
