import BatchLaunch.Launch.Detached

/-!
Starting jobs and then waiting for all of them at once. Every start comes before the first wait,
and the report keeps launch order whatever order the waits end in.
-/
namespace BatchLaunch.Collecting

variable {World Log Child : Type}

def outcomeOf : Waited → Outcome
  | .ended (.exited code) => .exited code
  | .ended (.signalled signal) => .signalled signal
  | .running => .timedOut
  | .failed message => .waitFailed message

/-- How a message spells an ending; the time it took is left open. -/
def endingText : Status → String
  | .exited code => "Exited \x7b code: " ++ toString code ++ ", elapsed: _ \x7d"
  | .signalled signal => "Signalled \x7b signal: " ++ toString signal ++ ", elapsed: _ \x7d"

def waitLine (job : Job) (waited : Waited) : LogLine :=
  match waited with
  | .ended status =>
      if (outcomeOf waited).isFailure then
        .warn (job.display ++ " finished unsuccessfully: " ++ endingText status)
      else .info (job.display ++ " finished: " ++ endingText status)
  | .running => .warn (job.display ++ " still running after timeout, leaving it be")
  | .failed _ => .warn ("Failed to wait for " ++ job.display)

/-- The jobs that were started, in launch order, with their children. -/
def started (attempts : List (Attempt Child)) : List (Job × Child) :=
  attempts.filterMap fun attempt => attempt.result.toOption.map fun child => (attempt.job, child)

def answerAt (answers : List (Nat × Waited)) (position : Nat) : Waited :=
  (answers.lookup position).getD (.failed "no answer")

/-- Puts the answers beside the attempts they belong to. `position` counts the started jobs. -/
def outcomes (answers : List (Nat × Waited)) : Nat → List (Attempt Child) → List (Job × Outcome)
  | _, [] => []
  | position, attempt :: attempts =>
      match attempt.result with
      | .error error =>
          (attempt.job, .spawnFailed error.message) :: outcomes answers position attempts
      | .ok _ =>
          (attempt.job, outcomeOf (answerAt answers position)) ::
            outcomes answers (position + 1) attempts

def waitLog (jobs : List Job) (answers : List (Nat × Waited)) : List LogLine :=
  answers.filterMap fun (position, waited) => jobs[position]?.map fun job => waitLine job waited

/-- The report, and apart from the launcher's own messages those of the waits. -/
structure Collected where
  report : Report
  waitLog : List LogLine

def closingLine (report : Report) : LogLine :=
  .info ("Done with " ++ toString (report.outcomes.length - report.failures) ++ "/" ++
    toString report.outcomes.length ++ " jobs successful")

/-- One thread per job, so that no wait holds up another. A pool has one at least. -/
def threads (attempts : List (Attempt Child)) : Nat := max attempts.length 1

def waitCall (timeout : Timeout) (child : Child) : WaitCall Child :=
  match timeout with
  | some bound => .waitTimeout child bound
  | none => .wait child

def execute (machine : Machine World Log Child) (settings : Settings) (dir : String)
    (timeout : Timeout) (jobs : List Job) (world : World) :
    Done World (Except BatchError Collected) :=
  let done := Detached.spawnAll machine settings dir jobs world
  let count := threads done.value
  match machine.buildPool done.world count with
  | (false, after) => ⟨.error .threadPool, after, done.log⟩
  | (true, ready) =>
      let running := started done.value
      let (answers, after) :=
        machine.await ready count (running.map fun entry => waitCall timeout entry.2)
      let report : Report := ⟨outcomes answers 0 done.value⟩
      ⟨.ok ⟨report, waitLog (running.map (·.1)) answers⟩, after,
        done.log ++ [.debug ("Waiting on " ++ toString done.value.length ++ " jobs"),
          closingLine report]⟩

end BatchLaunch.Collecting
