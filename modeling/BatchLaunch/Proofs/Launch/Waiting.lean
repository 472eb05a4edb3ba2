import BatchLaunch.Proofs.Launch.Outcomes

/-!
A launch that waits, with what it asks of its machine and what it learns from it. Before the waits
nothing tells it from one that leaves its jobs running: that makes the same requests, finds the same
machine, says the same and reports the same but for what became of the jobs that run. For want of
threads it ends there.
-/
namespace BatchLaunch

/-- An outcome as far as it is known without waiting. -/
def Outcome.unwatched : Outcome → Outcome
  | .spawnFailed message => .spawnFailed message
  | _ => .spawned

namespace Launch

/-- A batch that is launched and waited for. -/
structure Waiting (World Log Child : Type) where
  machine : Machine World Log Child
  settings : Settings
  dir : String
  timeout : Timeout
  jobs : List Job
  world : World

variable {World Log Child : Type}

/-- Whatever does not tell how a wait ends is told of a job by the attempt to start it. -/
theorem outcomes_map {β : Type} {f : Job × Outcome → β}
    (same : ∀ job waited, f (job, Collecting.outcomeOf waited) = f (job, .spawned))
    (answers : List (Nat × Waited)) (position : Nat) (attempts : List (Attempt Child)) :
    (Collecting.outcomes answers position attempts).map f =
      attempts.map fun attempt => f (attempt.job, Detached.outcome attempt) := by
  induction attempts generalizing position with
  | nil => rfl
  | cons attempt attempts ih =>
      rw [Collecting.outcomes, List.map_cons, Detached.outcome]
      cases attempt.result with
      | error error => rw [List.map_cons, ih]
      | ok child => rw [List.map_cons, same, ih]

namespace Waiting

variable (launch : Waiting World Log Child)

def attempts : Done World (List (Attempt Child)) :=
  Detached.spawnAll launch.machine launch.settings launch.dir launch.jobs launch.world

def results : List (Except SpawnError Child) := launch.attempts.value.map Attempt.result

def threads : Nat := max launch.jobs.length 1

def pool : Bool × World := launch.machine.buildPool launch.attempts.world launch.threads

/-- The threads for the waits can be had. -/
def Built : Prop := launch.pool.1 = true

def calls : List (WaitCall Child) :=
  (children launch.results).map (Collecting.waitCall launch.timeout)

def answered : List (Nat × Waited) :=
  (launch.machine.await launch.pool.2 launch.threads launch.calls).1

def collected : Done World (Except BatchError Collecting.Collected) :=
  Collecting.execute launch.machine launch.settings launch.dir launch.timeout launch.jobs
    launch.world

def requests : List (Request Child) :=
  (Collecting.execute (recording launch.machine) launch.settings launch.dir launch.timeout
    launch.jobs (launch.world, [])).world.2

def report : Report := ⟨Collecting.outcomes launch.answered 0 launch.attempts.value⟩

def waitLog : List LogLine :=
  Collecting.waitLog ((Collecting.started launch.attempts.value).map Prod.fst) launch.answered

/-- Each wait is answered, once, and in any order. -/
def AnsweredOnce : Prop :=
  (launch.answered.map Prod.fst).Perm (List.range (children launch.results).length)

theorem attempts_jobs : launch.attempts.value.map Attempt.job = launch.jobs := spawnAll_jobs ..

theorem length_attempts : launch.attempts.value.length = launch.jobs.length := by
  rw [← launch.attempts_jobs, List.length_map]

theorem buildPool_of_built (built : launch.Built) :
    launch.machine.buildPool launch.attempts.world launch.threads = (true, launch.pool.2) :=
  Prod.ext built rfl

theorem buildPool_of_not_built (unbuilt : ¬ launch.Built) :
    launch.machine.buildPool launch.attempts.world launch.threads = (false, launch.pool.2) :=
  Prod.ext (Bool.eq_false_iff.mpr unbuilt) rfl

theorem collected_of_built (built : launch.Built) :
    launch.collected = ⟨.ok ⟨launch.report, launch.waitLog⟩,
      (launch.machine.await launch.pool.2 launch.threads launch.calls).2,
      launch.attempts.log ++ [.debug ("Waiting on " ++ toString launch.jobs.length ++ " jobs"),
        Collecting.closingLine launch.report]⟩ := by
  have attempts : Detached.spawnAll launch.machine launch.settings launch.dir launch.jobs
      launch.world = launch.attempts := rfl
  rw [collected, Collecting.execute]
  simp only [attempts, Collecting.threads, launch.length_attempts]
  rw [← threads, launch.buildPool_of_built built]
  simp only [started_calls]
  rfl

theorem collected_of_not_built (unbuilt : ¬ launch.Built) :
    launch.collected = ⟨.error .threadPool, launch.pool.2, launch.attempts.log⟩ := by
  have attempts : Detached.spawnAll launch.machine launch.settings launch.dir launch.jobs
      launch.world = launch.attempts := rfl
  rw [collected, Collecting.execute]
  simp only [attempts, Collecting.threads, launch.length_attempts]
  rw [← threads, launch.buildPool_of_not_built unbuilt]

theorem report_jobs : launch.report.outcomes.map Prod.fst = launch.jobs := by
  rw [report, outcomes_jobs, attempts_jobs]

theorem report_at (i : Nat) : (launch.report.outcomes.map Prod.snd)[i]? =
    launch.results[i]?.map
      (outcomeAt launch.answered (children (launch.results.take i)).length) := by
  have position := outcomes_at launch.answered 0 i launch.attempts.value
  rw [Nat.zero_add] at position
  exact position

theorem requests_eq : launch.requests =
    allRequests (launch.jobs.map (.ofBatch launch.settings launch.dir)) launch.results ++
      ((Mode.collecting launch.timeout).waits launch.machine launch.attempts.world
        launch.jobs.length (children launch.results)).requests := by
  have recorded := execute_recording launch.machine (.collecting launch.timeout) launch.settings
    launch.dir launch.jobs .unbounded launch.world
  have same := (execute_collecting (recording launch.machine) launch.timeout launch.settings
    launch.dir launch.jobs .unbounded (launch.world, [])).2
  exact congrArg Prod.snd (same.symm.trans recorded.2)

theorem waits_of_built (built : launch.Built) :
    ((Mode.collecting launch.timeout).waits launch.machine launch.attempts.world
      launch.jobs.length (children launch.results)).requests =
        [.buildPool launch.threads, .await launch.threads launch.calls] := by
  rw [Mode.waits]
  simp only
  rw [← threads, launch.buildPool_of_built built]
  rfl

theorem waits_of_not_built (unbuilt : ¬ launch.Built) :
    ((Mode.collecting launch.timeout).waits launch.machine launch.attempts.world
      launch.jobs.length (children launch.results)).requests = [.buildPool launch.threads] := by
  rw [Mode.waits]
  simp only
  rw [← threads, launch.buildPool_of_not_built unbuilt]

theorem length_children : (children launch.results).length ≤ launch.jobs.length := by
  have same : launch.results.length = launch.jobs.length := by
    rw [← congrArg List.length launch.attempts_jobs, results, List.length_map, List.length_map]
  exact same ▸ List.length_filterMap_le ..

end Waiting

/-! The same without waiting. -/

theorem unwatched_outcomeOf (waited : Waited) :
    (Collecting.outcomeOf waited).unwatched = .spawned := by
  cases waited with
  | ended status => cases status <;> rfl
  | running => rfl
  | failed message => rfl

theorem unwatched_outcome (attempt : Attempt Child) :
    (Detached.outcome attempt).unwatched = Detached.outcome attempt := by
  rw [Detached.outcome]
  cases attempt.result <;> rfl

namespace Waiting

variable (launch : Waiting World Log Child)

/-- The same launch without waiting. -/
def detached : Done World Report :=
  Detached.execute launch.machine launch.settings launch.dir launch.jobs launch.world

def detachedRequests : List (Request Child) :=
  (Detached.execute (recording launch.machine) launch.settings launch.dir launch.jobs
    (launch.world, [])).world.2

theorem detachedRequests_eq : launch.detachedRequests =
    allRequests (launch.jobs.map (.ofBatch launch.settings launch.dir)) launch.results := by
  have recorded := execute_recording launch.machine .detached launch.settings launch.dir
    launch.jobs .unbounded launch.world
  exact (congrArg Prod.snd recorded.2).trans (List.append_nil _)

theorem report_unwatched :
    (launch.report.outcomes.map fun entry => (entry.1, entry.2.unwatched)) =
      launch.detached.value.outcomes := by
  have watched (job : Job) (waited : Waited) :
      (job, (Collecting.outcomeOf waited).unwatched) = (job, Outcome.spawned.unwatched) := by
    rw [unwatched_outcomeOf]
    rfl
  rw [report, outcomes_map watched]
  simp only [unwatched_outcome]
  rfl

end Waiting

/-- Waiting changes nothing about a launch: a launch that waits makes the requests of one that does
not and only then asks for threads and waits, on the machine that the other leaves behind and for the
jobs it leaves running; it says the same up to there, and its report tells the same attempts. If it
cannot have its threads, it has nothing to report. -/
theorem waiting_extends (launch : Waiting World Log Child) :
    ∃ (requests : List (Request Child)) (messages : List LogLine),
      let threads := max launch.jobs.length 1
      let calls := (children launch.results).map (Collecting.waitCall launch.timeout)
      let pool := launch.machine.buildPool launch.detached.world threads
      (∀ request ∈ requests, request.isWait = false) ∧
      launch.detachedRequests = requests ∧
      launch.detached.log = messages ++ [.info "Done with launching"] ∧
      (pool.1 = true →
        launch.requests = requests ++ [.buildPool threads, .await threads calls] ∧
        launch.collected.world = (launch.machine.await pool.2 threads calls).2 ∧
        ∃ report : Report,
          launch.collected.value.map Collecting.Collected.report = .ok report ∧
          launch.collected.log = messages ++
            [.debug ("Waiting on " ++ toString launch.jobs.length ++ " jobs"),
              Collecting.closingLine report] ∧
          (report.outcomes.map fun entry => (entry.1, entry.2.unwatched)) =
            launch.detached.value.outcomes) ∧
      (pool.1 = false →
        launch.requests = requests ++ [.buildPool threads] ∧
        launch.collected = ⟨.error .threadPool, pool.2, messages⟩) := by
  refine ⟨_, launch.attempts.log, fun request => isWait_of_mem_allRequests,
    launch.detachedRequests_eq, rfl, ?_, ?_⟩
  · intro built
    have collected := launch.collected_of_built built
    refine ⟨?_, ?_, launch.report, ?_, ?_, launch.report_unwatched⟩
    · rw [launch.requests_eq, launch.waits_of_built built]
      rfl
    · rw [collected]
      rfl
    · rw [collected]
      rfl
    · rw [collected]
  · intro refused
    have unbuilt : ¬ launch.Built := Bool.eq_false_iff.mp refused
    refine ⟨?_, launch.collected_of_not_built unbuilt⟩
    rw [launch.requests_eq, launch.waits_of_not_built unbuilt]
    rfl

end Launch
end BatchLaunch
