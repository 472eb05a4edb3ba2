import BatchLaunch.Host.Machine
import BatchLaunch.Proofs.Launch.Waiting
import Mathlib.Data.List.Count
import Mathlib.Data.List.Forall2

/-!
Waits on the threads of a pool. A thread holds one wait at a time, and no wait is left standing
while a thread is idle. With a thread for each of them all start at once, so what becomes of a job
is told by its own ending and the bound alone.
-/
namespace BatchLaunch

/-- What becomes of a job that has its wait to itself. -/
def Ending.outcome (timeout : Timeout) : Ending → Outcome
  | some (.exited code, time) =>
      if ∀ bound ∈ timeout, time ≤ bound then .exited code else .timedOut
  | some (.signalled signal, time) =>
      if ∀ bound ∈ timeout, time ≤ bound then .signalled signal else .timedOut
  | none => .timedOut

namespace Pool

open Launch (answerAt_of_mem)

namespace Wait

def runsAt (time : Nat) (wait : Wait) : Bool := wait.start ≤ time && time < wait.finish

/-- A wait for a program, by how that ends. There is no status exactly if the bound passes first. -/
inductive For (timeout : Timeout) : Ending → Wait → Prop
  | ended {status : Status} {time start : Nat} (within : ∀ bound ∈ timeout, time ≤ start + bound) :
      For timeout (some (status, time)) ⟨start, max start time, .ended status⟩
  | outlived {ending : Ending} {bound start : Nat} (limit : timeout = some bound)
      (outlives : ∀ own ∈ ending, start + bound < own.2) :
      For timeout ending ⟨start, start + bound, .running⟩

theorem For.outcome {timeout : Timeout} {ending : Ending} {wait : Wait}
    (own : For timeout ending wait) (atOnce : wait.start = 0) :
    Collecting.outcomeOf wait.waited = ending.outcome timeout := by
  cases own with
  | @ended status time start within =>
      obtain rfl : start = 0 := atOnce
      simp only [Nat.zero_add] at within
      cases status with
      | exited code => exact (if_pos within).symm
      | signalled signal => exact (if_pos within).symm
  | @outlived _ bound start limit outlives =>
      obtain rfl : start = 0 := atOnce
      subst limit
      cases ending with
      | none => rfl
      | some own =>
          obtain ⟨status, time⟩ := own
          have late := outlives _ rfl
          have past : ¬ ∀ limit ∈ some bound, time ≤ limit := fun all => by
            have := all bound rfl
            omega
          cases status with
          | exited code => exact (if_neg past).symm
          | signalled signal => exact (if_neg past).symm

theorem For.ne_timedOut {ending : Ending} {wait : Wait} (own : For none ending wait) :
    Collecting.outcomeOf wait.waited ≠ .timedOut := by
  cases own with
  | @ended status => cases status <;> nofun
  | outlived limit => cases limit

@[simp] theorem since_start (start : Nat) (timeout : Timeout) (ending : Ending) :
    (since start timeout ending).start = start := by
  fun_cases since start timeout ending <;> rfl

theorem start_le_finish (start : Nat) (timeout : Timeout) (ending : Ending) :
    start ≤ (since start timeout ending).finish := by
  fun_cases since start timeout ending
  · exact Nat.le_refl start
  · exact Nat.le_max_left ..
  · exact Nat.le_add_right ..
  · exact Nat.le_max_left ..
  · exact Nat.le_add_right ..

theorem since_for {start : Nat} {timeout : Timeout} {ending : Ending}
    (ends : timeout = none → ending ≠ none) : (since start timeout ending).For timeout ending := by
  fun_cases since start timeout ending
  case case1 => exact absurd rfl (ends rfl)
  case case2 status time => exact .ended nofun
  case case3 bound => exact .outlived rfl nofun
  case case4 bound status time within =>
    refine .ended ?_
    rintro _ ⟨⟩
    exact within
  case case5 bound status time late =>
    refine .outlived rfl ?_
    rintro _ ⟨⟩
    exact Nat.not_le.mp late

end Wait

variable {World Log Child : Type} {machine : Machine World Log Child} {threads : Nat}
  {ending : Child → Ending} {calls : List (WaitCall Child)} {waits : List Wait}
  {answers : List (Nat × Waited)}

/-- A pool makes some waits for programs that end in some ways. Its threads are all busy while a
wait is put off. -/
structure Serves (threads : Nat) (ending : Child → Ending) (calls : List (WaitCall Child))
    (waits : List Wait) : Prop where
  own : List.Forall₂ (fun call wait => wait.For call.bound (ending call.child)) calls waits
  capacity : ∀ time, waits.countP (Wait.runsAt time) ≤ threads
  busy : ∀ wait ∈ waits, ∀ time < wait.start, threads ≤ waits.countP (Wait.runsAt time)

/-- The answers come in the order in which the waits end. -/
def Answers (waits : List Wait) (answers : List (Nat × Waited)) : Prop :=
  ∃ order : List (Wait × Nat), order.Perm waits.zipIdx ∧
    order.Pairwise (fun one later => one.1.finish ≤ later.1.finish) ∧
    answers = order.map fun (wait, position) => (position, wait.waited)

/-- However many threads it is asked for, a machine makes waits as a pool of so many does, as long as
none of them would never be over. -/
def Runs (machine : Machine World Log Child) (ending : World → Child → Ending) : Prop :=
  ∀ (world : World) (threads : Nat) (calls : List (WaitCall Child)), 0 < threads →
    (∀ call ∈ calls, call.bound = none → ending world call.child ≠ none) →
      ∃ waits, Serves threads (ending world) calls waits ∧
        Answers waits (machine.await world threads calls).1

theorem Serves.start_eq_zero (serves : Serves threads ending calls waits)
    (enough : calls.length ≤ threads) {wait : Wait} (member : wait ∈ waits) : wait.start = 0 := by
  by_contra late
  have length := serves.own.length_eq
  have busy := serves.busy wait member 0 (Nat.pos_of_ne_zero late)
  have fewer : waits.countP (Wait.runsAt 0) < waits.length :=
    List.countP_lt_length_iff.mpr ⟨wait, member, by simp [Wait.runsAt, late]⟩
  omega

theorem Answers.answerAt (given : Answers waits answers) {position : Nat} {wait : Wait}
    (stands : waits[position]? = some wait) :
    Collecting.answerAt answers position = wait.waited := by
  obtain ⟨order, perm, -, rfl⟩ := given
  have positions : (order.map fun (wait, position) => (position, wait.waited)).map Prod.fst =
      order.map Prod.snd := by
    rw [List.map_map]
    rfl
  apply answerAt_of_mem
  · rw [positions, (perm.map Prod.snd).nodup_iff, List.zipIdx_map_snd]
    exact List.nodup_range'
  · refine List.mem_map.mpr ⟨(wait, position), perm.mem_iff.mpr ?_, rfl⟩
    exact List.mem_zipIdx_iff_getElem?.mpr stands

theorem exists_delayed (threads : Nat) :
    ∃ (calls : List (WaitCall Ending)) (waits : List Wait), calls.length = threads + 2 ∧
      Serves (threads + 1) id calls waits ∧ (∀ call ∈ calls, call.bound = some 2) ∧
      waits.map (fun wait => Collecting.outcomeOf wait.waited) ≠
        calls.map fun call => call.child.outcome call.bound := by
  -- All threads are held by jobs that hang. The last wait starts when their bound has passed.
  let calls : List (WaitCall Ending) :=
    List.replicate (threads + 1) (.waitTimeout none 2) ++ [.waitTimeout (some (.exited 0, 3)) 2]
  let waits : List Wait :=
    List.replicate (threads + 1) ⟨0, 2, .running⟩ ++ [⟨2, 3, .ended (.exited 0)⟩]
  have running (time : Nat) : waits.countP (Wait.runsAt time) =
      (if time < 2 then threads + 1 else 0) + if 2 ≤ time ∧ time < 3 then 1 else 0 := by
    simp [waits, List.countP_append, List.countP_replicate, List.countP_singleton, Wait.runsAt]
  have hangs : Wait.For (some 2) none ⟨0, 0 + 2, .running⟩ := .outlived rfl nofun
  refine ⟨calls, waits, by simp [calls], ⟨?_, ?_, ?_⟩, ?_, ?_⟩
  · refine List.rel_append ?_ (.cons (.ended (by simp [WaitCall.bound])) .nil)
    refine List.forall₂_iff_get.mpr ⟨by simp, fun i _ _ => ?_⟩
    simp only [List.get_eq_getElem, List.getElem_replicate]
    exact hangs
  · intro time
    rw [running]
    split <;> split <;> omega
  · intro wait member time early
    have start : wait.start ≤ 2 := by
      rcases List.mem_append.mp member with hangs | last
      · rw [List.eq_of_mem_replicate hangs]
        exact Nat.zero_le 2
      · obtain rfl := List.mem_singleton.mp last
        exact Nat.le_refl 2
    rw [running, if_pos (by omega)]
    exact Nat.le_add_right ..
  · intro call member
    rcases List.mem_append.mp member with hangs | last
    · rw [List.eq_of_mem_replicate hangs]
      rfl
    · rw [List.mem_singleton.mp last]
      rfl
  · intro same
    have last := congrArg List.getLast? same
    simp [calls, waits, Collecting.outcomeOf, Ending.outcome, WaitCall.bound, WaitCall.child] at last

/-! Giving each wait to the thread that is free first makes a pool of any number of threads. What is
kept all along is that at any time as many of the waits run as threads are still to be free. -/

section Schedule

variable {free : List Nat}

theorem min?_of_ne_nil (ready : free ≠ []) :
    free.min?.getD 0 ∈ free ∧ ∀ time ∈ free, free.min?.getD 0 ≤ time := by
  obtain ⟨least, found⟩ := Option.isSome_iff_exists.mp (List.isSome_min?_iff.mpr ready)
  rw [found]
  exact List.min?_eq_some_iff.mp found

theorem countP_taken {start : Nat} (member : start ∈ free) (timeout : Timeout) (ending : Ending)
    (time : Nat) :
    let wait := Wait.since start timeout ending
    (wait.finish :: free.erase start).countP (fun later => time < later) =
      (if wait.runsAt time then 1 else 0) + free.countP fun later => time < later := by
  intro wait
  have starts : wait.start = start := Wait.since_start ..
  have ordered : start ≤ wait.finish := Wait.start_le_finish ..
  have taken := (List.perm_cons_erase member).countP_eq fun later => decide (time < later)
  rw [List.countP_cons] at taken
  rw [List.countP_cons, taken, Wait.runsAt, starts]
  simp only [Bool.and_eq_true, decide_eq_true_eq]
  split <;> split <;> split <;> omega

theorem schedule_capacity (ending : Child → Ending) (calls : List (WaitCall Child))
    (ready : free ≠ []) (time : Nat) :
    (schedule ending free calls).countP (Wait.runsAt time) +
      free.countP (fun later => time < later) ≤ free.length := by
  induction calls generalizing free with
  | nil =>
      rw [schedule, List.countP_nil, Nat.zero_add]
      exact List.countP_le_length
  | cons call calls ih =>
      obtain ⟨member, -⟩ := min?_of_ne_nil ready
      simp only [schedule, List.countP_cons]
      generalize free.min?.getD 0 = start at member ⊢
      have later := @ih ((Wait.since start call.bound (ending call.child)).finish ::
        free.erase start) (List.cons_ne_nil _ _)
      rw [countP_taken member, List.length_cons, List.length_erase_add_one member] at later
      omega

theorem schedule_busy (ending : Child → Ending) (calls : List (WaitCall Child))
    (ready : free ≠ []) {wait : Wait} (member : wait ∈ schedule ending free calls) {time : Nat}
    (early : time < wait.start) :
    free.length ≤ (schedule ending free calls).countP (Wait.runsAt time) +
      free.countP fun later => time < later := by
  induction calls generalizing free with
  | nil => cases member
  | cons call calls ih =>
      obtain ⟨here, least⟩ := min?_of_ne_nil ready
      simp only [schedule] at member ⊢
      generalize free.min?.getD 0 = start at member here least ⊢
      rcases List.mem_cons.mp member with rfl | behind
      · have all : free.countP (fun later => time < later) = free.length :=
          List.countP_eq_length.mpr fun later listed => by
            have := least later listed
            simp only [Wait.since_start] at early
            simp only [decide_eq_true_eq]
            omega
        rw [all]
        exact Nat.le_add_left ..
      · have later := @ih ((Wait.since start call.bound (ending call.child)).finish ::
          free.erase start) (List.cons_ne_nil _ _) behind
        rw [countP_taken here, List.length_cons, List.length_erase_add_one here] at later
        rw [List.countP_cons]
        omega

theorem schedule_own {free : List Nat}
    (ends : ∀ call ∈ calls, call.bound = none → ending call.child ≠ none) :
    List.Forall₂ (fun call wait => wait.For call.bound (ending call.child)) calls
      (schedule ending free calls) := by
  induction calls generalizing free with
  | nil => exact .nil
  | cons call calls ih =>
      obtain ⟨first, others⟩ := List.forall_mem_cons.mp ends
      exact .cons (Wait.since_for first) (ih others)

theorem serves_schedule (several : 0 < threads)
    (ends : ∀ call ∈ calls, call.bound = none → ending call.child ≠ none) :
    Serves threads ending calls (schedule ending (List.replicate threads 0) calls) := by
  have ready : List.replicate threads 0 ≠ [] := by
    simpa using Nat.ne_of_gt several
  have idle (time : Nat) : (List.replicate threads 0).countP (fun later => time < later) = 0 := by
    simp
  refine ⟨schedule_own ends, fun time => ?_, fun wait member time early => ?_⟩
  · have capacity := schedule_capacity ending calls ready time
    rwa [idle, List.length_replicate] at capacity
  · have busy := schedule_busy ending calls ready member early
    rwa [idle, List.length_replicate] at busy

end Schedule

theorem answers_answersOf (waits : List Wait) : Answers waits (answersOf waits) := by
  refine ⟨_, List.mergeSort_perm .., ?_, rfl⟩
  have sorted : (waits.zipIdx.mergeSort fun one later =>
      decide (one.1.finish ≤ later.1.finish)).Pairwise
        fun one later => decide (one.1.finish ≤ later.1.finish) :=
    List.pairwise_mergeSort (fun one other later => by simpa using Nat.le_trans)
      (fun one later => by simpa using Nat.le_total ..) waits.zipIdx
  exact sorted.imp of_decide_eq_true

theorem runs_of_schedule {ending : World → Child → Ending}
    (scheduled : ∀ world threads calls, (machine.await world threads calls).1 =
      answersOf (schedule (ending world) (List.replicate threads 0) calls)) :
    Runs machine ending := by
  intro world threads calls several ends
  refine ⟨_, serves_schedule several ends, ?_⟩
  rw [scheduled]
  exact answers_answersOf _

/-- The same machine with waits on threads, for programs that end as is said. -/
def withThreads (machine : Machine World Log Child) (ending : Child → Ending) :
    Machine World Log Child :=
  { machine with
    buildPool := fun world _ => (true, world)
    await := fun world threads calls =>
      (answersOf (schedule ending (List.replicate threads 0) calls), world) }

theorem runs_withThreads (machine : Machine World Log Child) (ending : Child → Ending) :
    Runs (withThreads machine ending) fun _ => ending :=
  runs_of_schedule fun _ _ _ => rfl

end Pool

theorem Host.runs (boot : Host.Boot) : Pool.Runs (Host.machine boot) (Host.ending boot) :=
  Pool.runs_of_schedule fun _ _ _ => rfl

namespace Collecting

variable {Child : Type} (timeout : Timeout) (child : Child)

@[simp] theorem waitCall_bound : (waitCall timeout child).bound = timeout := by
  cases timeout <;> rfl

@[simp] theorem waitCall_child : (waitCall timeout child).child = child := by
  cases timeout <;> rfl

end Collecting

namespace Launch

namespace Waiting

variable {World Log Child : Type}

/-- The waits of a launch are made on the threads of a pool, and these could be had. Where the waits
have no bound, every job ends. -/
structure Pooled (launch : Waiting World Log Child) (ending : World → Child → Ending) : Prop where
  runs : Pool.Runs launch.machine ending
  built : launch.Built
  ends : launch.timeout = none → ∀ child ∈ children launch.results,
    ending launch.pool.2 child ≠ none

variable {launch : Waiting World Log Child} {ending : World → Child → Ending}

theorem length_calls (launch : Waiting World Log Child) :
    launch.calls.length = (children launch.results).length := List.length_map ..

theorem Pooled.exists_waits (pooled : launch.Pooled ending) :
    ∃ waits, Pool.Serves launch.threads (ending launch.pool.2) launch.calls waits ∧
      Pool.Answers waits launch.answered := by
  refine pooled.runs _ _ _ (Nat.lt_of_lt_of_le Nat.zero_lt_one (Nat.le_max_right ..)) ?_
  intro call member unbounded
  obtain ⟨child, started, rfl⟩ := List.mem_map.mp member
  rw [Collecting.waitCall_bound] at unbounded
  rw [Collecting.waitCall_child]
  exact pooled.ends unbounded child started

theorem Pooled.exists_wait (pooled : launch.Pooled ending) {i : Nat} {child : Child}
    (started : launch.results[i]? = some (.ok child)) :
    ∃ wait : Pool.Wait, wait.start = 0 ∧
      wait.For launch.timeout (ending launch.pool.2 child) ∧
      (launch.report.outcomes.map Prod.snd)[i]? = some (Collecting.outcomeOf wait.waited) := by
  obtain ⟨waits, serves, answers⟩ := pooled.exists_waits
  obtain ⟨same, own⟩ := List.forall₂_iff_get.mp serves.own
  obtain ⟨bound, child_eq⟩ := List.getElem?_eq_some_iff.mp (children_at started)
  have enough : launch.calls.length ≤ launch.threads :=
    launch.length_calls ▸ Nat.le_trans launch.length_children (Nat.le_max_left ..)
  have called := launch.length_calls.symm ▸ bound
  have stands := List.getElem?_eq_getElem (same ▸ called)
  refine ⟨_, serves.start_eq_zero enough (List.mem_of_getElem? stands), ?_, ?_⟩
  · have gives := own _ called (same ▸ called)
    simpa [calls, child_eq] using gives
  · rw [launch.report_at, started]
    simp [outcomeAt, answers.answerAt stands]

theorem Pooled.answeredOnce (pooled : launch.Pooled ending) : launch.AnsweredOnce := by
  obtain ⟨waits, serves, order, perm, -, answers⟩ := pooled.exists_waits
  have positions := perm.map Prod.snd
  rw [List.zipIdx_map_snd, ← serves.own.length_eq, launch.length_calls,
    ← List.range_eq_range'] at positions
  rw [AnsweredOnce, answers, List.map_map]
  exact positions

theorem Pooled.outcome (pooled : launch.Pooled ending) {i : Nat} {child : Child}
    (started : launch.results[i]? = some (.ok child)) :
    (launch.report.outcomes.map Prod.snd)[i]? =
      some ((ending launch.pool.2 child).outcome launch.timeout) := by
  obtain ⟨wait, atOnce, own, outcome⟩ := pooled.exists_wait started
  rw [outcome, own.outcome atOnce]

theorem Pooled.ne_timedOut (pooled : launch.Pooled ending) (unbounded : launch.timeout = none)
    {entry : Job × Outcome} (reported : entry ∈ launch.report.outcomes) : entry.2 ≠ .timedOut := by
  obtain ⟨i, stands⟩ := List.mem_iff_getElem?.mp reported
  have outcome : (launch.report.outcomes.map Prod.snd)[i]? = some entry.2 := by
    rw [List.getElem?_map, stands]
    rfl
  have made := outcome
  rw [launch.report_at] at made
  obtain ⟨result, made, same⟩ := Option.map_eq_some_iff.mp made
  cases result with
  | error error =>
      rw [← same]
      nofun
  | ok child =>
      obtain ⟨wait, -, own, ended⟩ := pooled.exists_wait made
      rw [outcome, Option.some.injEq] at ended
      rw [unbounded] at own
      rw [ended]
      exact own.ne_timedOut

end Waiting

/-- With as many threads as jobs, what is reported of a started job is a function of its own ending
and of the bound on the waits, in this launch and in any other. Without a bound no job is given up,
and no wait is asked for before the last attempt. -/
theorem waits_apart {World Log Child : Type} {launch : Waiting World Log Child}
    {ending : World → Child → Ending} (pooled : launch.Pooled ending) :
    launch.collected.value.map Collecting.Collected.report = .ok launch.report ∧
    (∀ (i : Nat) (job : Job) (child : Child), launch.jobs[i]? = some job →
      launch.results[i]? = some (.ok child) →
        launch.report.outcomes[i]? =
          some (job, (ending launch.pool.2 child).outcome launch.timeout)) ∧
    (launch.timeout = none → ∀ entry ∈ launch.report.outcomes, entry.2 ≠ .timedOut) ∧
    (∃ attempts, launch.requests = attempts ++
        [.buildPool (max launch.jobs.length 1), .await (max launch.jobs.length 1)
          ((children launch.results).map (Collecting.waitCall launch.timeout))] ∧
      ∀ request ∈ attempts, request.isWait = false) ∧
    ∀ (World' Log' Child' : Type) (other : Waiting World' Log' Child')
      (ending' : World' → Child' → Ending),
      other.Pooled ending' → other.timeout = launch.timeout →
        ∀ (i j : Nat) (child : Child) (child' : Child'), launch.results[i]? = some (.ok child) →
          other.results[j]? = some (.ok child') →
            ending' other.pool.2 child' = ending launch.pool.2 child →
              (other.report.outcomes.map Prod.snd)[j]? =
                (launch.report.outcomes.map Prod.snd)[i]? := by
  refine ⟨?_, ?_, ?_, ?_, ?_⟩
  · rw [launch.collected_of_built pooled.built]
    rfl
  · intro i job child named started
    have reported : (launch.report.outcomes.map Prod.fst)[i]? = some job := by
      rw [launch.report_jobs, named]
    have outcome := pooled.outcome started
    rw [List.getElem?_map, Option.map_eq_some_iff] at reported outcome
    obtain ⟨entry, stands, rfl⟩ := reported
    obtain ⟨_, same, outcome⟩ := outcome
    cases stands.symm.trans same
    rw [stands, ← outcome]
  · exact fun unbounded entry => pooled.ne_timedOut unbounded
  · refine ⟨allRequests (launch.jobs.map (.ofBatch launch.settings launch.dir)) launch.results, ?_,
      fun request => isWait_of_mem_allRequests⟩
    rw [launch.requests_eq, launch.waits_of_built pooled.built]
    rfl
  · intro World' Log' Child' other ending' pooled' bound i j child child' started started' same
    rw [pooled.outcome started, pooled'.outcome started', bound, same]

/-- Of three jobs the first hangs, the second does not start and the third exits with a code. -/
def threeJobs : Waiting Nat Unit Nat where
  machine := Pool.withThreads
    { read := fun _ _ => none
      executable? := fun _ _ => none
      searchPath := fun _ => none
      openLog := fun world _ => (some (), world)
      copyLog := fun world _ => (some (), world)
      start := fun world _ _ _ _ => (if world = 1 then none else some world, world + 1)
      buildPool := fun world _ => (false, world)
      await := fun world _ _ => ([], world) }
    fun child => if child = 0 then none else some (.exited 3, 4)
  settings := .builtin
  dir := ""
  timeout := some 5
  jobs := List.replicate 3 ⟨4, "als", 100, "qr", .svd, "normal", 2⟩
  world := 0

theorem pooled_threeJobs :
    threeJobs.Pooled fun _ child => if child = 0 then none else some (.exited 3, 4) where
  runs := Pool.runs_withThreads _ _
  built := rfl
  ends := nofun

theorem waits_apart_threeJobs :
    ∃ ending, threeJobs.Pooled ending ∧
      (threeJobs.report.outcomes.map Prod.snd)[0]? = some .timedOut ∧
      (threeJobs.report.outcomes.map Prod.snd)[2]? = some (.exited 3) := by
  obtain ⟨-, outcome, -, -, -⟩ := waits_apart pooled_threeJobs
  have first := outcome 0 _ 0 rfl rfl
  have third := outcome 2 _ 2 rfl rfl
  refine ⟨_, pooled_threeJobs, ?_, ?_⟩
  · rw [List.getElem?_map, first]
    rfl
  · rw [List.getElem?_map, third]
    rfl

end Launch
end BatchLaunch
