import BatchLaunch.Launch.Mode
import BatchLaunch.Proofs.Fallible
import BatchLaunch.Proofs.Launch.Starts

/-!
What a report says of the attempts behind it. Each mode gives one outcome per job and in the order
of the jobs, a failed attempt is told as such with its own message, and the outcome of a job that
was waited for is that of its own child, wherever among the endings that stands.
-/
namespace BatchLaunch

variable {World Log Child : Type}

namespace Mode

def attempted : Mode → List Job → List Job
  | .dryRun, _ => []
  | _, jobs => jobs

/-- What a mode does once its attempts are made: what it asks, what it learns of the children, and
the machine afterwards. -/
structure Waits (World Child : Type) where
  requests : List (Launch.Request Child)
  answers : Except BatchError (List (Nat × Waited))
  world : World

/-- Children are waited for on as many threads as there are jobs, if so many can be had. -/
def waits (mode : Mode) (machine : Machine World Log Child) (world : World) (jobs : Nat)
    (children : List Child) : Waits World Child :=
  match mode with
  | .collecting timeout =>
      let threads := max jobs 1
      match machine.buildPool world threads with
      | (false, after) => ⟨[.buildPool threads], .error .threadPool, after⟩
      | (true, ready) =>
          let calls := children.map (Collecting.waitCall timeout)
          let answer := machine.await ready threads calls
          ⟨[.buildPool threads, .await threads calls], .ok answer.1, answer.2⟩
  | _ => ⟨[], .ok [], world⟩

/-- The outcomes that a mode can report. -/
def Yields (mode : Mode) (outcome : Outcome) : Prop :=
  match mode with
  | .dryRun => outcome = .printed
  | .detached => outcome = .spawned ∨ ∃ message, outcome = .spawnFailed message
  | .collecting _ => outcome ≠ .printed ∧ outcome ≠ .spawned

end Mode

namespace Launch

/-- The children that attempts started, in order. -/
def children (results : List (Except SpawnError Child)) : List Child :=
  results.filterMap Except.toOption

@[simp] theorem children_nil : children ([] : List (Except SpawnError Child)) = [] := rfl

@[simp] theorem children_error (error : SpawnError) (results : List (Except SpawnError Child)) :
    children (.error error :: results) = children results := rfl

@[simp] theorem children_ok (child : Child) (results : List (Except SpawnError Child)) :
    children (.ok child :: results) = child :: children results := rfl

@[simp] theorem children_append (front back : List (Except SpawnError Child)) :
    children (front ++ back) = children front ++ children back := by
  simp [children]

/-- A report accounts for the attempts made at the jobs and for the answers to waiting. -/
structure Accounts (mode : Mode) (jobs : List Job) (results : List (Except SpawnError Child))
    (answers : List (Nat × Waited)) (report : Report) : Prop where
  jobs : report.outcomes.map Prod.fst = jobs
  failures : ∀ (i : Nat) (message : String),
    (report.outcomes.map Prod.snd)[i]? = some (.spawnFailed message) ↔
      ∃ error : SpawnError, results[i]? = some (.error error) ∧ error.message = message
  kinds : ∀ outcome ∈ report.outcomes.map Prod.snd, mode.Yields outcome
  endings : ∀ (i : Nat) (child : Child) (waited : Waited), results[i]? = some (.ok child) →
    (answers.map Prod.fst).Nodup → ((children (results.take i)).length, waited) ∈ answers →
      (children results)[(children (results.take i)).length]? = some child ∧
        (report.outcomes.map Prod.snd)[i]? = some (Collecting.outcomeOf waited)

theorem children_at {results : List (Except SpawnError Child)} {i : Nat} {child : Child}
    (present : results[i]? = some (.ok child)) :
    (children results)[(children (results.take i)).length]? = some child := by
  obtain ⟨bound, same⟩ := List.getElem?_eq_some_iff.mp present
  have parts : results = results.take i ++ .ok child :: results.drop (i + 1) := by
    rw [← same, List.getElem_cons_drop, List.take_append_drop]
  have split : children results =
      children (results.take i) ++ child :: children (results.drop (i + 1)) := by
    conv => lhs; rw [parts]
    rw [children_append, children_ok]
  rw [split]
  simp

theorem answerAt_of_mem {answers : List (Nat × Waited)} {position : Nat} {waited : Waited}
    (apart : (answers.map Prod.fst).Nodup) (member : (position, waited) ∈ answers) :
    Collecting.answerAt answers position = waited := by
  induction answers with
  | nil => cases member
  | cons first answers ih =>
      obtain ⟨other, ending⟩ := first
      rw [List.map_cons, List.nodup_cons] at apart
      rcases List.mem_cons.mp member with same | later
      · cases same
        simp [Collecting.answerAt]
      · have different : (position == other) = false := by
          apply beq_false_of_ne
          rintro rfl
          exact apart.1 (List.mem_map.mpr ⟨_, later, rfl⟩)
        have found := ih apart.2 later
        simpa [Collecting.answerAt, List.lookup_cons, different] using found

def outcomeAt (answers : List (Nat × Waited)) (position : Nat) : Except SpawnError Child → Outcome
  | .error error => .spawnFailed error.message
  | .ok _ => Collecting.outcomeOf (Collecting.answerAt answers position)

theorem outcomes_jobs (answers : List (Nat × Waited)) (position : Nat)
    (attempts : List (Attempt Child)) :
    (Collecting.outcomes answers position attempts).map Prod.fst = attempts.map Attempt.job := by
  induction attempts generalizing position with
  | nil => rfl
  | cons attempt attempts ih =>
      rw [Collecting.outcomes]
      cases attempt.result with
      | error error => simp [ih]
      | ok child => simp [ih]

theorem outcomes_at (answers : List (Nat × Waited)) (position i : Nat)
    (attempts : List (Attempt Child)) :
    ((Collecting.outcomes answers position attempts).map Prod.snd)[i]? =
      (attempts.map Attempt.result)[i]?.map
        (outcomeAt answers (position + (children ((attempts.map Attempt.result).take i)).length)) := by
  induction attempts generalizing position i with
  | nil => simp [Collecting.outcomes]
  | cons attempt attempts ih =>
      rw [Collecting.outcomes]
      cases result : attempt.result with
      | error error =>
          cases i with
          | zero => simp [result, outcomeAt]
          | succ i =>
              simp only [List.map_cons, List.getElem?_cons_succ, List.take_succ_cons, result,
                children_error]
              exact ih position i
      | ok child =>
          cases i with
          | zero => simp [result, outcomeAt]
          | succ i =>
              have later := ih (position + 1) i
              rw [Nat.add_assoc, Nat.add_comm 1] at later
              simp only [List.map_cons, List.getElem?_cons_succ, List.take_succ_cons, result,
                children_ok, List.length_cons]
              exact later

theorem attempts_ext {one other : List (Attempt Child)}
    (jobs : one.map Attempt.job = other.map Attempt.job)
    (results : one.map Attempt.result = other.map Attempt.result) : one = other := by
  induction one generalizing other with
  | nil =>
      cases other with
      | nil => rfl
      | cons attempt other => cases jobs
  | cons attempt one ih =>
      cases other with
      | nil => cases jobs
      | cons attempt' other =>
          simp only [List.map_cons, List.cons.injEq] at jobs results
          obtain ⟨job, result⟩ := attempt
          obtain ⟨job', result'⟩ := attempt'
          obtain ⟨rfl, jobs⟩ := jobs
          obtain ⟨rfl, results⟩ := results
          rw [ih jobs results]

theorem spawnAll_recording (machine : Machine World Log Child) (settings : Settings) (dir : String)
    (jobs : List Job) (world : World) (told : List (Request Child)) :
    let done := Detached.spawnAll machine settings dir jobs world
    let recorded := Detached.spawnAll (recording machine) settings dir jobs (world, told)
    recorded.value = done.value ∧
      recorded.world = (done.world,
        told ++ allRequests (jobs.map (.ofBatch settings dir)) (done.value.map Attempt.result)) := by
  intro done recorded
  have expected := (spawnAll_starts machine settings dir jobs world).recorded told
  have made := spawnAll_starts (recording machine) settings dir jobs (world, told)
  obtain ⟨results, worlds⟩ := made.unique expected
  constructor
  · apply attempts_ext
    · rw [spawnAll_jobs, spawnAll_jobs]
    · exact results
  · exact worlds

theorem started_children (attempts : List (Attempt Child)) :
    (Collecting.started attempts).map Prod.snd = children (attempts.map Attempt.result) := by
  induction attempts with
  | nil => rfl
  | cons attempt attempts ih =>
      rw [Collecting.started] at ih ⊢
      cases result : attempt.result with
      | error error => simpa [result, Except.toOption] using ih
      | ok child => simpa [result, Except.toOption] using ih

theorem started_calls (timeout : Timeout) (attempts : List (Attempt Child)) :
    ((Collecting.started attempts).map fun entry => Collecting.waitCall timeout entry.2) =
      (children (attempts.map Attempt.result)).map (Collecting.waitCall timeout) := by
  rw [← started_children, List.map_map]
  rfl

theorem collecting_execute (machine : Machine World Log Child) (settings : Settings) (dir : String)
    (timeout : Timeout) (jobs : List Job) (world : World) :
    let done := Detached.spawnAll machine settings dir jobs world
    let waits := (Mode.collecting timeout).waits machine done.world jobs.length
      (children (done.value.map Attempt.result))
    let collected := Collecting.execute machine settings dir timeout jobs world
    collected.value.map Collecting.Collected.report =
        waits.answers.map (fun answers => ⟨Collecting.outcomes answers 0 done.value⟩) ∧
      collected.world = waits.world := by
  intro done waits collected
  have length : done.value.length = jobs.length := by
    rw [← spawnAll_jobs machine settings dir jobs world, List.length_map]
  simp only [collected, waits, Collecting.execute, Mode.waits, Collecting.threads, started_calls]
  rw [← length]
  cases machine.buildPool done.world (max done.value.length 1) with
  | mk built ready => cases built <;> exact ⟨rfl, rfl⟩

theorem detached_accounts (attempts : List (Attempt Child)) :
    Accounts .detached (attempts.map Attempt.job) (attempts.map Attempt.result) []
      ⟨attempts.map fun attempt => (attempt.job, Detached.outcome attempt)⟩ where
  jobs := by simp
  failures := by
    intro i message
    simp only [List.map_map, List.getElem?_map]
    cases attempts[i]? with
    | none => simp
    | some attempt =>
        cases result : attempt.result with
        | error error => simp [Detached.outcome, result]
        | ok child => simp [Detached.outcome, result]
  kinds := by
    intro outcome present
    simp only [List.map_map, List.mem_map] at present
    obtain ⟨attempt, member, rfl⟩ := present
    cases result : attempt.result with
    | error error => exact .inr ⟨error.message, by simp [Detached.outcome, result]⟩
    | ok child => exact .inl (by simp [Detached.outcome, result])
  endings := by
    intro i child waited present apart member
    cases member

theorem outcomeOf_kinds (waited : Waited) :
    Collecting.outcomeOf waited ≠ .printed ∧ Collecting.outcomeOf waited ≠ .spawned ∧
      ∀ message, Collecting.outcomeOf waited ≠ .spawnFailed message := by
  cases waited with
  | ended status => cases status <;> simp [Collecting.outcomeOf]
  | running => simp [Collecting.outcomeOf]
  | failed message => simp [Collecting.outcomeOf]

theorem collecting_accounts (timeout : Timeout) (answers : List (Nat × Waited))
    (attempts : List (Attempt Child)) :
    Accounts (.collecting timeout) (attempts.map Attempt.job) (attempts.map Attempt.result) answers
      ⟨Collecting.outcomes answers 0 attempts⟩ where
  jobs := outcomes_jobs answers 0 attempts
  failures := by
    intro i message
    rw [outcomes_at]
    cases (attempts.map Attempt.result)[i]? with
    | none => simp
    | some result =>
        cases result with
        | error error => simp [outcomeAt]
        | ok child => simp [outcomeAt, (outcomeOf_kinds _).2.2]
  kinds := by
    intro outcome present
    obtain ⟨i, bound, same⟩ := List.mem_iff_getElem.mp present
    have found := List.getElem?_eq_some_iff.mpr ⟨bound, same⟩
    rw [outcomes_at] at found
    obtain ⟨result, -, rfl⟩ := Option.map_eq_some_iff.mp found
    cases result with
    | error error => simp [Mode.Yields, outcomeAt]
    | ok child =>
        have kinds := outcomeOf_kinds
        exact ⟨(kinds _).1, (kinds _).2.1⟩
  endings := by
    intro i child waited present apart member
    refine ⟨children_at present, ?_⟩
    rw [outcomes_at, present, Nat.zero_add]
    simp [outcomeAt, answerAt_of_mem apart member]

theorem dryRun_accounts (jobs : List Job) :
    Accounts .dryRun jobs ([] : List (Except SpawnError Child)) []
      ⟨jobs.map fun job => (job, .printed)⟩ where
  jobs := by simp [Function.comp_def]
  failures := by
    intro i message
    simp only [List.map_map, List.getElem?_map]
    cases jobs[i]? <;> simp
  kinds := by
    intro outcome present
    simp only [List.map_map, List.mem_map] at present
    obtain ⟨job, member, rfl⟩ := present
    rfl
  endings := by
    intro i child waited present apart member
    cases member

theorem execute_collecting (machine : Machine World Log Child) (timeout : Timeout)
    (settings : Settings) (dir : String) (jobs : List Job) (out : Sink) (world : World) :
    let launched := (Mode.collecting timeout).execute machine settings dir jobs out world
    let collected := Collecting.execute machine settings dir timeout jobs world
    launched.report = collected.value.map Collecting.Collected.report ∧
      launched.world = collected.world := by
  simp only [Mode.execute]
  cases Collecting.execute machine settings dir timeout jobs world with
  | mk value after log => cases value <;> exact ⟨rfl, rfl⟩

theorem execute_world (machine : Machine World Log Child) (mode : Mode) (settings : Settings)
    (dir : String) (jobs : List Job) (out : Sink) (world : World) :
    let done := Detached.spawnAll machine settings dir (mode.attempted jobs) world
    (mode.execute machine settings dir jobs out world).world =
      (mode.waits machine done.world jobs.length (children (done.value.map Attempt.result))).world := by
  cases mode with
  | dryRun => rfl
  | detached => rfl
  | collecting timeout =>
      intro done
      rw [(execute_collecting ..).2]
      exact (collecting_execute machine settings dir timeout jobs world).2

theorem execute_accounts {machine : Machine World Log Child} {mode : Mode} {settings : Settings}
    {dir : String} {jobs : List Job} {out : Sink} {world : World} {report : Report}
    (reported : (mode.execute machine settings dir jobs out world).report = .ok report) :
    let done := Detached.spawnAll machine settings dir (mode.attempted jobs) world
    let results := done.value.map Attempt.result
    ∃ answers, (mode.waits machine done.world jobs.length (children results)).answers =
      .ok answers ∧ Accounts mode jobs results answers report := by
  have named := spawnAll_jobs machine settings dir jobs world
  cases mode with
  | dryRun =>
      simp only [Mode.execute, DryRun.execute] at reported
      split at reported
      · cases reported
        exact ⟨[], rfl, dryRun_accounts jobs⟩
      · cases reported
  | detached =>
      cases reported
      have accounts := detached_accounts (Detached.spawnAll machine settings dir jobs world).value
      rw [named] at accounts
      exact ⟨[], rfl, accounts⟩
  | collecting timeout =>
      intro done results
      rw [(execute_collecting ..).1, (collecting_execute ..).1] at reported
      obtain ⟨answers, given, rfl⟩ := Fallible.map_ok_iff.mp reported
      have accounts := collecting_accounts timeout answers done.value
      have same : done.value.map Attempt.job = jobs := named
      rw [same] at accounts
      exact ⟨answers, given, accounts⟩

theorem isWait_of_mem_waits {machine : Machine World Log Child} {mode : Mode} {world : World}
    {jobs : Nat} {children : List Child} {request : Request Child}
    (asked : request ∈ (mode.waits machine world jobs children).requests) :
    request.isWait = true := by
  cases mode with
  | dryRun => cases asked
  | detached => cases asked
  | collecting timeout =>
      rw [Mode.waits] at asked
      revert asked
      cases machine.buildPool world (max jobs 1) with
      | mk built ready => cases built <;> simp +contextual [Request.isWait, or_imp]

theorem waits_recording (machine : Machine World Log Child) (mode : Mode) (world : World)
    (told : List (Request Child)) (jobs : Nat) (children : List Child) :
    let waits := mode.waits machine world jobs children
    mode.waits (recording machine) (world, told) jobs children =
      ⟨waits.requests, waits.answers, (waits.world, told ++ waits.requests)⟩ := by
  cases mode with
  | dryRun => simp only [Mode.waits, List.append_nil]
  | detached => simp only [Mode.waits, List.append_nil]
  | collecting timeout =>
      simp only [Mode.waits, recording_buildPool]
      cases machine.buildPool world (max jobs 1) with
      | mk built ready => cases built <;> simp [recording_await]

/-- Besides its attempts a mode asks for nothing but the waits. -/
theorem execute_told (machine : Machine World Log Child) (mode : Mode) (settings : Settings)
    (dir : String) (jobs : List Job) (out : Sink) (world : World) (told : List (Request Child)) :
    let launched := mode.execute machine settings dir jobs out world
    let recorded := mode.execute (recording machine) settings dir jobs out (world, told)
    let commands := (mode.attempted jobs).map (.ofBatch settings dir)
    let done := Detached.spawnAll machine settings dir (mode.attempted jobs) world
    let results := done.value.map Attempt.result
    let waits := mode.waits machine done.world jobs.length (children results)
    recorded.report = launched.report ∧
      recorded.world =
        (launched.world, told ++ (allRequests commands results ++ waits.requests)) := by
  obtain ⟨values, worlds⟩ :=
    spawnAll_recording machine settings dir (mode.attempted jobs) world told
  intro launched recorded commands done results waits
  have after : recorded.world = _ :=
    execute_world (recording machine) mode settings dir jobs out (world, told)
  rw [values, worlds, waits_recording] at after
  constructor
  · cases mode with
    | dryRun => rfl
    | detached =>
        simp only [Mode.attempted] at values
        simp only [recorded, launched, Mode.execute, Detached.execute, values]
    | collecting timeout =>
        simp only [Mode.attempted] at values worlds
        simp only [recorded, launched, (execute_collecting ..).1, (collecting_execute ..).1,
          values, worlds, waits_recording]
  · rw [after, ← List.append_assoc]
    exact congrArg (·, _) (execute_world machine mode settings dir jobs out world).symm

theorem execute_recording (machine : Machine World Log Child) (mode : Mode) (settings : Settings)
    (dir : String) (jobs : List Job) (out : Sink) (world : World) :
    let launched := mode.execute machine settings dir jobs out world
    let recorded := mode.execute (recording machine) settings dir jobs out (world, [])
    let commands := (mode.attempted jobs).map (.ofBatch settings dir)
    let done := Detached.spawnAll machine settings dir (mode.attempted jobs) world
    let results := done.value.map Attempt.result
    let waits := mode.waits machine done.world jobs.length (children results)
    recorded.report = launched.report ∧
      recorded.world = (launched.world, allRequests commands results ++ waits.requests) :=
  execute_told machine mode settings dir jobs out world []

theorem execute_error_iff {mode : Mode} (launches : mode ≠ .dryRun)
    (machine : Machine World Log Child) (settings : Settings) (dir : String) (jobs : List Job)
    (out : Sink) (world : World) (error : BatchError) :
    let done := Detached.spawnAll machine settings dir (mode.attempted jobs) world
    (mode.execute machine settings dir jobs out world).report = .error error ↔
      (mode.waits machine done.world jobs.length
        (children (done.value.map Attempt.result))).answers = .error error := by
  intro done
  cases mode with
  | dryRun => exact absurd rfl launches
  | detached => exact iff_of_false nofun nofun
  | collecting timeout =>
      rw [(execute_collecting ..).1, (collecting_execute ..).1]
      exact Fallible.map_error_iff

/-- Whatever the machine refuses and in whatever order the children end, the jobs are attempted
once each and in order, and the report accounts for every one of them. The machine may keep count
of its requests, so none is made besides; the second half writes them down. -/
theorem batch_accounted (machine : Machine World Log Child) (mode : Mode) (settings : Settings)
    (dir : String) (jobs : List Job) (out : Sink) (world : World) :
    let launched := mode.execute machine settings dir jobs out world
    let recorded := mode.execute (recording machine) settings dir jobs out (world, [])
    let commands := (mode.attempted jobs).map (.ofBatch settings dir)
    ∃ (results : List (Except SpawnError Child)) (after : World),
      let waits := mode.waits machine after jobs.length (children results)
      Starts machine world commands results after ∧
      launched.world = waits.world ∧
      (mode ≠ .dryRun →
        ∀ error, launched.report = .error error ↔ waits.answers = .error error) ∧
      (∀ report, launched.report = .ok report →
        ∃ answers, waits.answers = .ok answers ∧ Accounts mode jobs results answers report) ∧
      recorded.report = launched.report ∧
      recorded.world = (launched.world, allRequests commands results ++ waits.requests) := by
  intro launched recorded commands
  have starts := spawnAll_starts machine settings dir (mode.attempted jobs) world
  obtain ⟨reports, requests⟩ := execute_recording machine mode settings dir jobs out world
  refine ⟨_, _, starts, execute_world machine mode settings dir jobs out world, ?_, ?_, reports,
    requests⟩
  · intro launches error
    exact execute_error_iff launches machine settings dir jobs out world error
  · intro report reported
    exact execute_accounts reported

end Launch
end BatchLaunch
