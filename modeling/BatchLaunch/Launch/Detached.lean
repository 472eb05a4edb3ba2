import BatchLaunch.Invocation
import BatchLaunch.Launch.Machine
import BatchLaunch.Report
import BatchLaunch.Text.Quoted

/-!
Starting jobs, each with a log of its own, without waiting for them. A job that cannot be started
is logged and does not keep the later ones from starting.
-/
namespace BatchLaunch

/-- What a program writes to. Each has a handle of its own on the log. -/
inductive Stream where
  | output
  | errors
  deriving DecidableEq, Repr

inductive SpawnError where
  | createLog (path : String) (stream : Stream)
  | start (program : String)
  deriving DecidableEq, Repr

def SpawnError.message : SpawnError → String
  | createLog path _ => "Failed to create log file " ++ path
  | start program => "Failed to spawn " ++ Text.Quoted.render program

/-- A job with the child that runs it, or with the reason why none does. -/
structure Attempt (Child : Type) where
  job : Job
  result : Except SpawnError Child

namespace Detached

variable {World Log Child : Type}

def spawn (machine : Machine World Log Child) (settings : Settings) (dir : String) (job : Job)
    (world : World) : Done World (Except SpawnError Child) :=
  let invocation := Invocation.ofJob settings job
  let path := Path.join dir invocation.logPath
  match machine.openLog world path with
  | (none, after) => ⟨.error (.createLog path .output), after, []⟩
  | (some output, opened) =>
      match machine.copyLog opened output with
      | (none, after) => ⟨.error (.createLog path .errors), after, []⟩
      | (some errors, copied) =>
          let spawning := LogLine.debug ("Spawning " ++ invocation.line)
          match machine.start copied invocation.program invocation.args output errors with
          | (none, after) => ⟨.error (.start invocation.program), after, [spawning]⟩
          | (some child, after) =>
              ⟨.ok child, after, [spawning, .info ("Started " ++ job.display)]⟩

def attempt (machine : Machine World Log Child) (settings : Settings) (dir : String) (job : Job)
    (world : World) : Done World (Attempt Child) :=
  let done := spawn machine settings dir job world
  match done.value with
  | .ok child => ⟨⟨job, .ok child⟩, done.world, done.log⟩
  | .error error =>
      ⟨⟨job, .error error⟩, done.world,
        done.log ++ [.error ("Failed to start " ++ job.display ++ ": " ++ error.message)]⟩

def spawnAll (machine : Machine World Log Child) (settings : Settings) (dir : String) :
    List Job → World → Done World (List (Attempt Child))
  | [], world => ⟨[], world, []⟩
  | job :: jobs, world =>
      let first := attempt machine settings dir job world
      let rest := spawnAll machine settings dir jobs first.world
      ⟨first.value :: rest.value, rest.world, first.log ++ rest.log⟩

def outcome (attempt : Attempt Child) : Outcome :=
  match attempt.result with
  | .ok _ => .spawned
  | .error error => .spawnFailed error.message

def execute (machine : Machine World Log Child) (settings : Settings) (dir : String)
    (jobs : List Job) (world : World) : Done World Report :=
  let done := spawnAll machine settings dir jobs world
  ⟨⟨done.value.map fun attempt => (attempt.job, outcome attempt)⟩, done.world,
    done.log ++ [.info "Done with launching"]⟩

end Detached
end BatchLaunch
