import BatchLaunch.Launch.Detached

/-!
What going through a batch asks of a machine: one attempt per job and in order, each of which opens
a log and, where that is granted, starts a program. The attempts are told by the machine's answers
alone, and the steps that launch a batch are shown to make exactly these.
-/
namespace BatchLaunch

variable {World Log Child : Type}

/-- The command that a job of a batch is started by, with its log in a directory. -/
def Invocation.ofBatch (settings : Settings) (dir : String) (job : Job) : Invocation :=
  (Invocation.ofJob settings job).within dir

namespace Launch

/-- One attempt at a command, by what the machine answers. -/
inductive Tried (machine : Machine World Log Child) (command : Invocation) (world : World) :
    Except SpawnError Child → World → Prop
  | noLog {after : World} (refused : machine.openLog world command.logPath = (none, after)) :
      Tried machine command world (.error (.createLog command.logPath .output)) after
  | noCopy {output : Log} {opened after : World}
      (granted : machine.openLog world command.logPath = (some output, opened))
      (refused : machine.copyLog opened output = (none, after)) :
      Tried machine command world (.error (.createLog command.logPath .errors)) after
  | noStart {output errors : Log} {opened copied after : World}
      (granted : machine.openLog world command.logPath = (some output, opened))
      (copies : machine.copyLog opened output = (some errors, copied))
      (refused :
        machine.start copied command.program command.args output errors = (none, after)) :
      Tried machine command world (.error (.start command.program)) after
  | started {output errors : Log} {opened copied after : World} {child : Child}
      (granted : machine.openLog world command.logPath = (some output, opened))
      (copies : machine.copyLog opened output = (some errors, copied))
      (began :
        machine.start copied command.program command.args output errors = (some child, after)) :
      Tried machine command world (.ok child) after

/-- One attempt at each command, each where the one before it left the machine. -/
inductive Starts (machine : Machine World Log Child) :
    World → List Invocation → List (Except SpawnError Child) → World → Prop
  | nil {world : World} : Starts machine world [] [] world
  | cons {world next after : World} {command : Invocation} {commands : List Invocation}
      {result : Except SpawnError Child} {results : List (Except SpawnError Child)}
      (first : Tried machine command world result next)
      (rest : Starts machine next commands results after) :
      Starts machine world (command :: commands) (result :: results) after

variable {machine : Machine World Log Child} {world after after' : World}
  {command : Invocation} {commands : List Invocation}
  {result result' : Except SpawnError Child} {results results' : List (Except SpawnError Child)}

theorem Tried.unique (one : Tried machine command world result after)
    (other : Tried machine command world result' after') : result = result' ∧ after = after' := by
  cases one with
  | noLog refused => cases other <;> simp_all
  | noCopy granted refused => cases other <;> simp_all
  | noStart granted copies refused => cases other <;> simp_all
  | started granted copies began => cases other <;> simp_all

theorem Starts.unique (one : Starts machine world commands results after)
    (other : Starts machine world commands results' after') :
    results = results' ∧ after = after' := by
  induction one generalizing results' with
  | nil =>
      cases other
      exact ⟨rfl, rfl⟩
  | cons first rest ih =>
      cases other with
      | cons first' rest' =>
          obtain ⟨rfl, rfl⟩ := first.unique first'
          obtain ⟨rfl, rfl⟩ := ih rest'
          exact ⟨rfl, rfl⟩

theorem spawn_tried (machine : Machine World Log Child) (settings : Settings) (dir : String)
    (job : Job) (world : World) :
    Tried machine (.ofBatch settings dir job) world
      (Detached.spawn machine settings dir job world).value
      (Detached.spawn machine settings dir job world).world := by
  rw [Detached.spawn]
  cases opening : machine.openLog world (Path.join dir (Invocation.ofJob settings job).logPath) with
  | mk output opened =>
      cases output with
      | none => exact .noLog opening
      | some output =>
          simp only
          cases copying : machine.copyLog opened output with
          | mk errors copied =>
              cases errors with
              | none => exact .noCopy opening copying
              | some errors =>
                  simp only
                  cases starting : machine.start copied (Invocation.ofJob settings job).program
                      (Invocation.ofJob settings job).args output errors with
                  | mk child after =>
                      cases child with
                      | none => exact .noStart opening copying starting
                      | some child => exact .started opening copying starting

theorem attempt_eq (machine : Machine World Log Child) (settings : Settings) (dir : String)
    (job : Job) (world : World) :
    (Detached.attempt machine settings dir job world).value =
        ⟨job, (Detached.spawn machine settings dir job world).value⟩ ∧
      (Detached.attempt machine settings dir job world).world =
        (Detached.spawn machine settings dir job world).world := by
  rw [Detached.attempt]
  cases result : (Detached.spawn machine settings dir job world).value with
  | error error => exact ⟨rfl, rfl⟩
  | ok child => exact ⟨rfl, rfl⟩

theorem spawnAll_jobs (machine : Machine World Log Child) (settings : Settings) (dir : String)
    (jobs : List Job) (world : World) :
    (Detached.spawnAll machine settings dir jobs world).value.map Attempt.job = jobs := by
  induction jobs generalizing world with
  | nil => rfl
  | cons job jobs ih => rw [Detached.spawnAll, List.map_cons, ih, (attempt_eq ..).1]

theorem spawnAll_append (machine : Machine World Log Child) (settings : Settings) (dir : String)
    (before later : List Job) (world : World) :
    let first := Detached.spawnAll machine settings dir before world
    let rest := Detached.spawnAll machine settings dir later first.world
    Detached.spawnAll machine settings dir (before ++ later) world =
      ⟨first.value ++ rest.value, rest.world, first.log ++ rest.log⟩ := by
  induction before generalizing world with
  | nil => rfl
  | cons job before ih => simp only [List.cons_append, Detached.spawnAll, ih, List.append_assoc]

theorem spawnAll_starts (machine : Machine World Log Child) (settings : Settings) (dir : String)
    (jobs : List Job) (world : World) :
    Starts machine world (jobs.map (.ofBatch settings dir))
      ((Detached.spawnAll machine settings dir jobs world).value.map Attempt.result)
      (Detached.spawnAll machine settings dir jobs world).world := by
  induction jobs generalizing world with
  | nil => exact .nil
  | cons job jobs ih =>
      have same := attempt_eq machine settings dir job world
      have first := spawn_tried machine settings dir job world
      rw [← same.2] at first
      rw [Detached.spawnAll, List.map_cons, List.map_cons, same.1]
      exact .cons first (ih _)

/-! What is asked can be written down on the way. -/

inductive Request (Child : Type) where
  | openLog (path : String)
  | copyLog
  | start (program : String) (args : List String)
  | buildPool (threads : Nat)
  | await (threads : Nat) (calls : List (WaitCall Child))
  deriving DecidableEq, Repr

/-- What is asked only once all attempts are made. -/
def Request.isWait : Request Child → Bool
  | .buildPool _ | .await _ _ => true
  | _ => false

/-- The same machine with a list of what was asked of it beside it. -/
def recording (machine : Machine World Log Child) :
    Machine (World × List (Request Child)) Log Child where
  read state path := machine.read state.1 path
  executable? state path := machine.executable? state.1 path
  searchPath state := machine.searchPath state.1
  openLog state path :=
    let answer := machine.openLog state.1 path
    (answer.1, answer.2, state.2 ++ [.openLog path])
  copyLog state log :=
    let answer := machine.copyLog state.1 log
    (answer.1, answer.2, state.2 ++ [.copyLog])
  start state program args output errors :=
    let answer := machine.start state.1 program args output errors
    (answer.1, answer.2, state.2 ++ [.start program args])
  buildPool state threads :=
    let answer := machine.buildPool state.1 threads
    (answer.1, answer.2, state.2 ++ [.buildPool threads])
  await state threads calls :=
    let answer := machine.await state.1 threads calls
    (answer.1, answer.2, state.2 ++ [.await threads calls])

section Recording

variable (machine : Machine World Log Child) (world : World) (told : List (Request Child))

theorem recording_openLog (path : String) :
    (recording machine).openLog (world, told) path =
      ((machine.openLog world path).1, (machine.openLog world path).2, told ++ [.openLog path]) :=
  rfl

theorem recording_copyLog (log : Log) :
    (recording machine).copyLog (world, told) log =
      ((machine.copyLog world log).1, (machine.copyLog world log).2, told ++ [.copyLog]) :=
  rfl

theorem recording_start (program : String) (args : List String) (output errors : Log) :
    (recording machine).start (world, told) program args output errors =
      ((machine.start world program args output errors).1,
        (machine.start world program args output errors).2, told ++ [.start program args]) :=
  rfl

theorem recording_buildPool (threads : Nat) :
    (recording machine).buildPool (world, told) threads =
      ((machine.buildPool world threads).1, (machine.buildPool world threads).2,
        told ++ [.buildPool threads]) :=
  rfl

theorem recording_await (threads : Nat) (calls : List (WaitCall Child)) :
    (recording machine).await (world, told) threads calls =
      ((machine.await world threads calls).1, (machine.await world threads calls).2,
        told ++ [.await threads calls]) :=
  rfl

end Recording

/-- What one attempt asks: a program is started only with both handles on its log. -/
def requestsOf (command : Invocation) : Except SpawnError Child → List (Request Child)
  | .error (.createLog _ .output) => [.openLog command.logPath]
  | .error (.createLog _ .errors) => [.openLog command.logPath, .copyLog]
  | _ => [.openLog command.logPath, .copyLog, .start command.program command.args]

def allRequests (commands : List Invocation) (results : List (Except SpawnError Child)) :
    List (Request Child) :=
  (List.zipWith requestsOf commands results).flatten

theorem mem_allRequests {request : Request Child}
    (asked : request ∈ allRequests commands results) :
    ∃ command ∈ commands, ∃ result ∈ results, request ∈ requestsOf command result := by
  induction commands generalizing results with
  | nil => cases asked
  | cons command commands ih =>
      cases results with
      | nil => cases asked
      | cons result results =>
          rw [allRequests, List.zipWith_cons_cons, List.flatten_cons, List.mem_append] at asked
          rcases asked with first | later
          · exact ⟨command, List.mem_cons_self, result, List.mem_cons_self, first⟩
          · obtain ⟨command', member, result', member', asked⟩ := ih later
            exact ⟨command', List.mem_cons_of_mem command member, result',
              List.mem_cons_of_mem result member', asked⟩

theorem isWait_of_mem_allRequests {request : Request Child}
    (asked : request ∈ allRequests commands results) : request.isWait = false := by
  obtain ⟨command, -, result, -, asked⟩ := mem_allRequests asked
  revert asked
  fun_cases requestsOf command result <;> simp +contextual [Request.isWait, or_imp]

theorem Tried.recorded (tried : Tried machine command world result after)
    (told : List (Request Child)) :
    Tried (recording machine) command (world, told) result
      (after, told ++ requestsOf command result) := by
  cases tried with
  | noLog refused => exact .noLog (by rw [recording_openLog, refused]; rfl)
  | noCopy granted refused =>
      apply Tried.noCopy
      · rw [recording_openLog, granted]
      · rw [recording_copyLog, refused, List.append_assoc]
        rfl
  | noStart granted copies refused =>
      apply Tried.noStart
      · rw [recording_openLog, granted]
      · rw [recording_copyLog, copies]
      · rw [recording_start, refused, List.append_assoc, List.append_assoc]
        rfl
  | started granted copies began =>
      apply Tried.started
      · rw [recording_openLog, granted]
      · rw [recording_copyLog, copies]
      · rw [recording_start, began, List.append_assoc, List.append_assoc]
        rfl

theorem Starts.recorded (starts : Starts machine world commands results after)
    (told : List (Request Child)) :
    Starts (recording machine) (world, told) commands results
      (after, told ++ allRequests commands results) := by
  induction starts generalizing told with
  | nil => simpa [allRequests] using Starts.nil
  | cons first rest ih =>
      rename_i command _ result _
      have later := ih (told ++ requestsOf command result)
      rw [List.append_assoc] at later
      exact .cons (first.recorded told) later

end Launch
end BatchLaunch
