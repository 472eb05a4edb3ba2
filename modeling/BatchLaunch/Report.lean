import BatchLaunch.Job

/-!
What became of the jobs of a launch, as far as the launcher observed it.
-/
namespace BatchLaunch

inductive Outcome where
  /-- Only shown, nothing was started. -/
  | printed
  /-- Started and left running. -/
  | spawned
  | spawnFailed (message : String)
  | exited (code : Int)
  | signalled (signal : Int)
  /-- Still running once the bound on waiting passed. -/
  | timedOut
  | waitFailed (message : String)
  deriving DecidableEq, Repr

def Outcome.isFailure : Outcome → Bool
  | printed | spawned => false
  | exited code => code ≠ 0
  | spawnFailed _ | signalled _ | timedOut | waitFailed _ => true

/-- One outcome per job, in launch order. -/
structure Report where
  outcomes : List (Job × Outcome)
  deriving DecidableEq, Repr

namespace Report

def empty : Report := ⟨[]⟩

def add (report : Report) (job : Job) (outcome : Outcome) : Report :=
  ⟨report.outcomes ++ [(job, outcome)]⟩

def failures (report : Report) : Nat := report.outcomes.countP fun entry => entry.2.isFailure

def isSuccess (report : Report) : Bool := report.failures = 0

end Report

/-- Why going through a batch gives no report. -/
inductive BatchError where
  | threadPool
  | output
  deriving DecidableEq, Repr

def BatchError.message : BatchError → String
  | threadPool => "Failed to build wait pool"
  | output => "Failed to write dry run output"

end BatchLaunch
