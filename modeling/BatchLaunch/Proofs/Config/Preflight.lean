import BatchLaunch.Proofs.Config.Problems
import Mathlib.Data.Finset.Card
import Mathlib.Data.Finset.Dedup

/-!
A check of a batch as a whole. The conditions have an order, in which those that are not met are
listed, each once; nothing is listed for a batch that can be launched as it is; and as many jobs
share the log of an earlier one as there are jobs more than pairs of decomposition and dimension.
-/
namespace BatchLaunch

structure Config.Sound (launcher : Option String) (config : Config) : Prop where
  jobs : config.jobs ≠ []
  launcher : launcher.isSome
  settings : ∀ entry ∈ config.settings.tokens, Text.IsToken entry.2
  fields : ∀ job ∈ config.jobs, ∀ entry ∈ job.tokens, Text.IsToken entry.2
  amounts : ∀ job ∈ config.jobs, ∀ quantity : Quantity, 0 < quantity.amount job
  apart : config.jobs.Pairwise fun a b => ¬ a.SameLog b

namespace Problem

def rank : Problem → Nat
  | noJobs => 0
  | launcherMissing _ => 1
  | badSetting name _ => 2 + ["worker_flag", "runtime", "script"].idxOf name
  | zero index _ .workers => 6 + 7 * index
  | zero index _ .problemSize => 6 + 7 * index + 1
  | zero index _ .dimension => 6 + 7 * index + 2
  | badField index name _ =>
      6 + 7 * index + 3 + ["algorithm", "method", "distribution"].idxOf name
  | sharedLog index _ _ => 6 + 7 * index + 6

def isSharedLog : Problem → Bool
  | sharedLog _ _ _ => true
  | _ => false

end Problem

namespace Preflight

variable {World Log Child : Type}

/-! The order of the conditions. -/

/-- Problems in the order of what they stand for, no two of one condition. -/
def Ordered (problems : List Problem) : Prop := problems.Pairwise fun a b => a.rank < b.rank

theorem ordered_append {front back : List Problem} (bound : Nat) (first : Ordered front)
    (second : Ordered back) (below : ∀ problem ∈ front, problem.rank < bound)
    (above : ∀ problem ∈ back, bound ≤ problem.rank) : Ordered (front ++ back) := by
  refine List.pairwise_append.mpr ⟨first, second, ?_⟩
  intro a inFront b inBack
  exact Nat.lt_of_lt_of_le (below a inFront) (above b inBack)

theorem ordered_tokenProblems {make : String → String → Problem} {tokens : List (String × String)}
    (ordered : tokens.Pairwise fun a b => (make a.1 a.2).rank < (make b.1 b.2).rank) :
    Ordered (tokenProblems make tokens) :=
  List.pairwise_map.mpr (ordered.filter _)

theorem settingProblems_rank (settings : Settings) :
    ∀ problem ∈ settingProblems settings, 2 ≤ problem.rank ∧ problem.rank < 6 := by
  intro problem member
  obtain ⟨name, token, set, -, rfl⟩ := (mem_settingProblems ..).mp member
  have place := List.idxOf_le_length (a := name) (l := ["worker_flag", "runtime", "script"])
  simp only [List.length_cons, List.length_nil] at place
  simp only [Problem.rank]
  omega

theorem ordered_settingProblems (settings : Settings) : Ordered (settingProblems settings) := by
  apply ordered_tokenProblems
  simp [Problem.rank]

theorem jobProblems_rank (index : Nat) (job : Job) :
    ∀ problem ∈ jobProblems index job,
      6 + 7 * index ≤ problem.rank ∧ problem.rank < 6 + 7 * index + 6 := by
  intro problem member
  rcases (mem_jobProblems ..).mp member with ⟨quantity, -, rfl⟩ | ⟨name, token, set, -, rfl⟩
  · cases quantity <;> simp only [Problem.rank] <;> omega
  · simp only [Job.tokens, List.mem_cons, Prod.mk.injEq, List.not_mem_nil, or_false] at set
    rcases set with ⟨rfl, -⟩ | ⟨rfl, -⟩ | ⟨rfl, -⟩ <;>
      simp [Problem.rank] <;> omega

theorem ordered_jobProblems (index : Nat) (job : Job) : Ordered (jobProblems index job) := by
  have quantities : Ordered (([Quantity.workers, .problemSize, .dimension].filter fun quantity =>
      quantity.amount job = 0).map (.zero index job)) := by
    refine List.pairwise_map.mpr (List.Pairwise.filter _ ?_)
    simp [Problem.rank]
  have tokens : Ordered (tokenProblems (.badField index) job.tokens) := by
    apply ordered_tokenProblems
    simp [Job.tokens, Problem.rank]
  rw [jobProblems_eq]
  refine ordered_append (6 + 7 * index + 3) quantities tokens ?_ ?_
  · intro problem member
    obtain ⟨quantity, -, rfl⟩ := List.mem_map.mp member
    cases quantity <;> simp only [Problem.rank] <;> omega
  · intro problem member
    obtain ⟨name, token, -, -, rfl⟩ := (mem_tokenProblems ..).mp member
    simp only [Problem.rank]
    omega

theorem sharedProblems_rank (index : Nat) (job : Job) (previous : Option Nat) :
    ∀ problem ∈ sharedProblems index job previous, problem.rank = 6 + 7 * index + 6 := by
  cases previous with
  | none => simp [sharedProblems]
  | some previous => simp [sharedProblems, Problem.rank]

theorem ordered_sharedProblems (index : Nat) (job : Job) (previous : Option Nat) :
    Ordered (sharedProblems index job previous) := by
  cases previous with
  | none => exact List.Pairwise.nil
  | some previous => exact List.pairwise_singleton ..

theorem batchProblems_rank (index : Nat) (earlier : List (String × Nat)) (jobs : List Job) :
    ∀ problem ∈ batchProblems index earlier jobs, 6 + 7 * index ≤ problem.rank := by
  induction jobs generalizing index earlier with
  | nil => simp [batchProblems]
  | cons job jobs ih =>
      intro problem member
      rw [batchProblems_cons, List.mem_append, List.mem_append] at member
      rcases member with (alone | shared) | later
      · exact (jobProblems_rank index job problem alone).1
      · have place := sharedProblems_rank index job _ problem shared
        omega
      · have place := ih (index + 1) _ problem later
        omega

theorem ordered_batchProblems (index : Nat) (earlier : List (String × Nat)) (jobs : List Job) :
    Ordered (batchProblems index earlier jobs) := by
  induction jobs generalizing index earlier with
  | nil => exact List.Pairwise.nil
  | cons job jobs ih =>
      rw [batchProblems_cons]
      refine ordered_append (6 + 7 * (index + 1)) (ordered_append
        (6 + 7 * index + 6) (ordered_jobProblems index job)
        (ordered_sharedProblems index job _) ?_ ?_) (ih (index + 1) _) ?_
        (batchProblems_rank (index + 1) _ jobs)
      · intro problem alone
        exact (jobProblems_rank index job problem alone).2
      · intro problem shared
        exact (sharedProblems_rank index job _ problem shared).ge
      · intro problem member
        rcases List.mem_append.mp member with alone | shared
        · have place := (jobProblems_rank index job problem alone).2
          omega
        · have place := sharedProblems_rank index job _ problem shared
          omega

theorem generalProblems_rank (config : Config) (launcher : Option String) :
    ∀ problem ∈ generalProblems config launcher, problem.rank < 2 := by
  intro problem member
  rcases (mem_generalProblems ..).mp member with ⟨-, rfl⟩ | ⟨-, rfl⟩
  · exact Nat.zero_lt_two
  · exact Nat.one_lt_two

theorem ordered_generalProblems (config : Config) (launcher : Option String) :
    Ordered (generalProblems config launcher) := by
  rw [Ordered, generalProblems]
  split <;> split <;> simp [Problem.rank]

theorem ordered_problems (config : Config) (launcher : Option String) :
    Ordered (problems config launcher) := by
  have general := generalProblems_rank config launcher
  have settings := settingProblems_rank config.settings
  rw [problems_eq]
  refine ordered_append 6 (ordered_append 2
    (ordered_generalProblems config launcher) (ordered_settingProblems config.settings) general ?_)
    (ordered_batchProblems 0 [] config.jobs) ?_ (batchProblems_rank 0 [] config.jobs)
  · intro problem setting
    exact (settings problem setting).1
  · intro problem member
    rcases List.mem_append.mp member with first | setting
    · have place := general problem first
      omega
    · exact (settings problem setting).2

/-! How many jobs share a log with an earlier one. -/

theorem countP_jobProblems (index : Nat) (job : Job) :
    (jobProblems index job).countP Problem.isSharedLog = 0 := by
  rw [List.countP_eq_zero]
  intro problem member
  rcases (mem_jobProblems ..).mp member with ⟨quantity, -, rfl⟩ | ⟨name, token, -, -, rfl⟩
  · exact Bool.false_ne_true
  · exact Bool.false_ne_true

theorem countP_generalProblems (config : Config) (launcher : Option String) :
    (generalProblems config launcher).countP Problem.isSharedLog = 0 := by
  rw [List.countP_eq_zero]
  intro problem member
  rcases (mem_generalProblems ..).mp member with ⟨-, rfl⟩ | ⟨-, rfl⟩
  · exact Bool.false_ne_true
  · exact Bool.false_ne_true

theorem countP_settingProblems (settings : Settings) :
    (settingProblems settings).countP Problem.isSharedLog = 0 := by
  rw [List.countP_eq_zero]
  intro problem member
  obtain ⟨name, token, -, -, rfl⟩ := (mem_settingProblems ..).mp member
  exact Bool.false_ne_true

theorem lookup_isSome {earlier : List (String × Nat)} {front : List Job}
    (tracks : Tracks earlier front) (job : Job) :
    (earlier.lookup job.logName).isSome = true ↔ job.pair ∈ (front.map Job.pair).toFinset := by
  simp only [Option.isSome_iff_exists, tracks job, exists_isLatest, List.mem_toFinset,
    List.mem_map, Job.pair_eq_iff]

theorem countP_batchProblems {earlier : List (String × Nat)} {front : List Job}
    (tracks : Tracks earlier front) (jobs : List Job) :
    (batchProblems front.length earlier jobs).countP Problem.isSharedLog +
        ((front ++ jobs).map Job.pair).toFinset.card =
      (front.map Job.pair).toFinset.card + jobs.length := by
  induction jobs generalizing front earlier with
  | nil => simp [batchProblems]
  | cons job jobs ih =>
      have later := ih (tracks.concat job)
      have pairs : ((front ++ [job]).map Job.pair).toFinset =
          insert job.pair (front.map Job.pair).toFinset := by
        simp
      rw [List.length_append, List.length_singleton, List.append_assoc, List.singleton_append,
        pairs] at later
      have shared := lookup_isSome tracks job
      rw [batchProblems_cons, List.countP_append, List.countP_append, countP_jobProblems,
        List.length_cons]
      cases found : earlier.lookup job.logName with
      | none =>
          rw [found, Option.isSome_none, Bool.false_eq_true, false_iff] at shared
          rw [Finset.card_insert_of_notMem shared] at later
          rw [sharedProblems, List.countP_nil]
          omega
      | some previous =>
          rw [found, Option.isSome_some, eq_self, true_iff] at shared
          rw [Finset.insert_eq_of_mem shared] at later
          rw [sharedProblems, List.countP_singleton]
          simp only [Problem.isSharedLog, if_true]
          omega

theorem countP_problems (config : Config) (launcher : Option String) :
    (problems config launcher).countP Problem.isSharedLog +
        (config.jobs.map Job.pair).toFinset.card = config.jobs.length := by
  have batch := countP_batchProblems tracks_nil config.jobs
  rw [problems_eq, List.countP_append, List.countP_append, countP_generalProblems,
    countP_settingProblems]
  simpa using batch

theorem apart_iff (jobs : List Job) :
    jobs.Pairwise (fun a b => ¬ a.SameLog b) ↔
      ∀ index job, jobs[index]? = some job →
        ¬ ∃ earlier ∈ jobs.take index, earlier.SameLog job := by
  simp only [List.pairwise_iff_getElem, List.getElem?_eq_some_iff, List.mem_take_iff_getElem,
    not_exists, not_and]
  constructor
  · rintro apart index job ⟨bound, rfl⟩ earlier ⟨i, before, rfl⟩
    exact apart i index (by omega) bound (by omega)
  · intro apart i j hi hj before
    exact apart j _ ⟨hj, rfl⟩ _ ⟨i, by omega, rfl⟩

theorem problems_eq_nil_iff (config : Config) (launcher : Option String) :
    problems config launcher = [] ↔ config.Sound launcher := by
  rw [List.eq_nil_iff_forall_not_mem]
  simp only [mem_problems_iff]
  constructor
  · intro met
    constructor
    case jobs =>
      intro empty
      exact met _ (.noJobs empty)
    case launcher =>
      rw [Option.isSome_iff_ne_none]
      intro missing
      exact met _ (.launcherMissing missing)
    case settings =>
      intro entry set
      by_contra bad
      exact met _ (.badSetting set bad)
    case fields =>
      intro job member entry set
      obtain ⟨index, listed⟩ := List.getElem?_of_mem member
      by_contra bad
      exact met _ (.badField listed set bad)
    case amounts =>
      intro job member quantity
      obtain ⟨index, listed⟩ := List.getElem?_of_mem member
      rw [UInt32.pos_iff_ne_zero]
      intro nothing
      exact met _ (.zero listed nothing)
    case apart =>
      rw [apart_iff]
      intro index job listed shared
      obtain ⟨previous, latest⟩ := (exists_isLatest ..).mpr shared
      exact met _ (.sharedLog listed latest)
  · intro sound problem violated
    cases violated with
    | noJobs empty => exact sound.jobs empty
    | launcherMissing missing =>
        have found := sound.launcher
        simp [missing] at found
    | badSetting set bad => exact bad (sound.settings _ set)
    | @zero index job quantity listed nothing =>
        have positive := sound.amounts job (List.mem_of_getElem? listed) quantity
        rw [nothing] at positive
        exact absurd positive (by decide)
    | badField listed set bad => exact bad (sound.fields _ (List.mem_of_getElem? listed) _ set)
    | sharedLog listed latest =>
        exact (apart_iff _).mp sound.apart _ _ listed ((exists_isLatest ..).mp ⟨_, latest⟩)

theorem run_log (machine : Machine World Log Child) (world : World) (config : Config) :
    (run machine world config).log.filter (·.level = .error) =
      (run machine world config).problems.map fun problem => .error problem.message := by
  simp only [run]
  cases Executable.resolve machine world config.settings.launcher with
  | none => simp [LogLine.error]
  | some path => simp [LogLine.debug, LogLine.error]

/-- A check lists nothing exactly if the batch is sound where the launcher was looked for. In
general it lists the conditions that are not met, in their order and each once. A job is said to
share its log exactly if an earlier job has its pair, then with the latest such, so that there are
as many of these as there are jobs more than pairs. Each problem is logged once as an error. -/
theorem run_lists_violations (machine : Machine World Log Child) (world : World)
    (config : Config) :
    let launcher := Executable.resolve machine world config.settings.launcher
    let findings := run machine world config
    (findings.problems = [] ↔ config.Sound launcher) ∧
      (∀ problem, problem ∈ findings.problems ↔ config.Violates launcher problem) ∧
      Ordered findings.problems ∧
      (∀ index job, config.jobs[index]? = some job →
        ((∃ previous log, .sharedLog index previous log ∈ findings.problems) ↔
          ∃ earlier ∈ config.jobs.take index, earlier.SameLog job)) ∧
      findings.problems.countP Problem.isSharedLog + (config.jobs.map Job.pair).toFinset.card =
        config.jobs.length ∧
      findings.log.filter (·.level = .error) =
        findings.problems.map fun problem => .error problem.message := by
  intro launcher findings
  have violations (problem : Problem) :
      problem ∈ findings.problems ↔ config.Violates launcher problem :=
    mem_problems_iff config launcher problem
  refine ⟨problems_eq_nil_iff config launcher, violations, ordered_problems config launcher, ?_,
    countP_problems config launcher, run_log machine world config⟩
  intro index job listed
  rw [← exists_isLatest]
  constructor
  · rintro ⟨previous, log, member⟩
    cases (violations _).mp member with
    | sharedLog listed' latest =>
        obtain rfl := Option.some.inj (listed.symm.trans listed')
        exact ⟨previous, latest⟩
  · rintro ⟨previous, latest⟩
    exact ⟨previous, job.logName, (violations _).mpr (.sharedLog listed latest)⟩

end Preflight
end BatchLaunch
