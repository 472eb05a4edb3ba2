import BatchLaunch.Config.Preflight
import BatchLaunch.Proofs.Job.LogName
import Mathlib.Data.List.Induction

/-!
What a check of a batch lists. Each problem stands for one condition that the batch or the machine
does not meet, and what is listed are the problems of exactly those conditions.
-/
namespace BatchLaunch

namespace Text

/-- A word of its own: not empty, and without white space. -/
def IsToken (text : String) : Prop := text ≠ "" ∧ ∀ c ∈ text.toList, isBlank c = false

theorem isToken_iff (text : String) : isToken text = true ↔ IsToken text := by
  simp [isToken, IsToken]

end Text

/-- The tokens that the settings consist of, the launcher apart, under their names. -/
def Settings.tokens (settings : Settings) : List (String × String) :=
  [("worker_flag", settings.workerFlag), ("runtime", settings.runtime), ("script", settings.script)]

def Quantity.amount (job : Job) : Quantity → UInt32
  | workers => job.workerCount
  | problemSize => job.problemSize
  | dimension => job.dimension

namespace Job

def tokens (job : Job) : List (String × String) :=
  [("algorithm", job.algorithm), ("method", job.method), ("distribution", job.distribution)]

def pair (job : Job) : Decomposition × UInt32 := (job.decomposition, job.dimension)

theorem pair_eq_iff (a b : Job) : a.pair = b.pair ↔ a.SameLog b := by
  simp [pair, SameLog]

end Job

def IsLatest (jobs : List Job) (job : Job) (position : Nat) : Prop :=
  ∃ earlier, jobs[position]? = some earlier ∧ earlier.SameLog job ∧
    ∀ later other, position < later → jobs[later]? = some other → ¬ other.SameLog job

/-- The conditions that are not met, each told by its problem. `launcher` is where the launcher was
found. -/
inductive Config.Violates (launcher : Option String) (config : Config) : Problem → Prop
  | noJobs (empty : config.jobs = []) : Config.Violates launcher config .noJobs
  | launcherMissing (missing : launcher = none) :
      Config.Violates launcher config (.launcherMissing config.settings.launcher)
  | badSetting {name token : String} (set : (name, token) ∈ config.settings.tokens)
      (bad : ¬ Text.IsToken token) : Config.Violates launcher config (.badSetting name token)
  | zero {index : Nat} {job : Job} {quantity : Quantity} (listed : config.jobs[index]? = some job)
      (nothing : quantity.amount job = 0) :
      Config.Violates launcher config (.zero index job quantity)
  | badField {index : Nat} {job : Job} {name token : String}
      (listed : config.jobs[index]? = some job) (set : (name, token) ∈ job.tokens)
      (bad : ¬ Text.IsToken token) : Config.Violates launcher config (.badField index name token)
  | sharedLog {index previous : Nat} {job : Job} (listed : config.jobs[index]? = some job)
      (latest : IsLatest (config.jobs.take index) job previous) :
      Config.Violates launcher config (.sharedLog index previous job.logName)

namespace Preflight

theorem mem_tokenProblems (make : String → String → Problem) (tokens : List (String × String))
    (problem : Problem) :
    problem ∈ tokenProblems make tokens ↔
      ∃ name token, (name, token) ∈ tokens ∧ ¬ Text.IsToken token ∧ make name token = problem := by
  simp [tokenProblems, ← Text.isToken_iff, and_assoc]

theorem mem_settingProblems (settings : Settings) (problem : Problem) :
    problem ∈ settingProblems settings ↔
      ∃ name token, (name, token) ∈ settings.tokens ∧ ¬ Text.IsToken token ∧
        .badSetting name token = problem :=
  mem_tokenProblems ..

/-- What is wrong with a batch apart from its other settings and its jobs. -/
def generalProblems (config : Config) (launcher : Option String) : List Problem :=
  (if config.jobs.isEmpty then [.noJobs] else []) ++
    (if launcher.isNone then [.launcherMissing config.settings.launcher] else [])

theorem problems_eq (config : Config) (launcher : Option String) :
    problems config launcher = generalProblems config launcher ++
      settingProblems config.settings ++ batchProblems 0 [] config.jobs :=
  rfl

theorem mem_generalProblems (config : Config) (launcher : Option String) (problem : Problem) :
    problem ∈ generalProblems config launcher ↔
      config.jobs = [] ∧ problem = .noJobs ∨
        launcher = none ∧ problem = .launcherMissing config.settings.launcher := by
  simp [generalProblems]

theorem jobProblems_eq (index : Nat) (job : Job) :
    jobProblems index job =
      ([Quantity.workers, .problemSize, .dimension].filter fun quantity =>
        quantity.amount job = 0).map (.zero index job) ++
      tokenProblems (.badField index) job.tokens := by
  by_cases workers : job.workerCount = 0 <;> by_cases size : job.problemSize = 0 <;>
    by_cases dimension : job.dimension = 0 <;>
    simp [jobProblems, Quantity.amount, Job.tokens, workers, size, dimension]

theorem mem_jobProblems (index : Nat) (job : Job) (problem : Problem) :
    problem ∈ jobProblems index job ↔
      (∃ quantity, Quantity.amount job quantity = 0 ∧ .zero index job quantity = problem) ∨
        ∃ name token, (name, token) ∈ job.tokens ∧ ¬ Text.IsToken token ∧
          .badField index name token = problem := by
  have all (quantity : Quantity) : quantity ∈ [Quantity.workers, .problemSize, .dimension] := by
    cases quantity <;> simp
  rw [jobProblems_eq, List.mem_append, mem_tokenProblems]
  simp only [List.mem_map, List.mem_filter, all, true_and, decide_eq_true_eq]

/-- The logs of the jobs so far are kept as they should be: each name with its latest position. -/
def Tracks (earlier : List (String × Nat)) (front : List Job) : Prop :=
  ∀ job position, earlier.lookup job.logName = some position ↔ IsLatest front job position

theorem tracks_nil : Tracks [] [] := by
  intro job position
  simp [IsLatest]

theorem getElem?_concat_eq_some {α : Type} (front : List α) (last value : α) (index : Nat) :
    (front ++ [last])[index]? = some value ↔
      front[index]? = some value ∨ index = front.length ∧ value = last := by
  rw [List.getElem?_append]
  split
  · rename_i inside
    simp [Nat.ne_of_lt inside]
  · rename_i outside
    have absent : front[index]? = none := List.getElem?_eq_none (by omega)
    rw [absent, List.getElem?_singleton]
    split
    · rename_i atEnd
      simp [show index = front.length by omega, eq_comm]
    · rename_i beyond
      simp [show index ≠ front.length by omega]

theorem isLatest_concat (front : List Job) (last job : Job) (position : Nat) :
    IsLatest (front ++ [last]) job position ↔
      if last.SameLog job then position = front.length else IsLatest front job position := by
  simp only [IsLatest, getElem?_concat_eq_some]
  by_cases same : last.SameLog job
  · rw [if_pos same]
    constructor
    · rintro ⟨earlier, found | ⟨rfl, -⟩, -, latest⟩
      · obtain ⟨bound, -⟩ := List.getElem?_eq_some_iff.mp found
        exact absurd same (latest front.length last bound (.inr ⟨rfl, rfl⟩))
      · rfl
    · rintro rfl
      refine ⟨last, .inr ⟨rfl, rfl⟩, same, ?_⟩
      rintro later other behind (found | ⟨rfl, -⟩)
      · obtain ⟨bound, -⟩ := List.getElem?_eq_some_iff.mp found
        omega
      · omega
  · rw [if_neg same]
    constructor
    · rintro ⟨earlier, found | ⟨-, rfl⟩, shares, latest⟩
      · exact ⟨earlier, found, shares, fun later other behind other' =>
          latest later other behind (.inl other')⟩
      · exact absurd shares same
    · rintro ⟨earlier, found, shares, latest⟩
      refine ⟨earlier, .inl found, shares, ?_⟩
      rintro later other behind (found' | ⟨-, rfl⟩)
      · exact latest later other behind found'
      · exact same

theorem exists_isLatest (jobs : List Job) (job : Job) :
    (∃ position, IsLatest jobs job position) ↔ ∃ earlier ∈ jobs, earlier.SameLog job := by
  induction jobs using List.reverseRecOn with
  | nil => simp [IsLatest]
  | append_singleton front last ih =>
      simp only [isLatest_concat, List.mem_append, List.mem_singleton, or_and_right, exists_or,
        exists_eq_left, ← ih]
      by_cases same : last.SameLog job
      · simp [same]
      · simp [same]

theorem Tracks.concat {earlier : List (String × Nat)} {front : List Job}
    (tracks : Tracks earlier front) (job : Job) :
    Tracks ((job.logName, front.length) :: earlier) (front ++ [job]) := by
  intro other position
  rw [isLatest_concat, List.lookup_cons]
  by_cases same : job.SameLog other
  · have equal : (other.logName == job.logName) = true :=
      beq_iff_eq.mpr ((Job.logName_eq_iff job other).mpr same).symm
    simp [same, equal, eq_comm]
  · have differs : (other.logName == job.logName) = false :=
      beq_false_of_ne fun equal => same ((Job.logName_eq_iff job other).mp equal.symm)
    simp [same, differs, tracks other position]

theorem exists_getElem?_cons {α : Type} (first : α) (rest : List α) (p : Nat → α → Prop) :
    (∃ index value, (first :: rest)[index]? = some value ∧ p index value) ↔
      p 0 first ∨ ∃ index value, rest[index]? = some value ∧ p (index + 1) value := by
  constructor
  · rintro ⟨index, value, found, holds⟩
    cases index with
    | zero =>
        cases found
        exact .inl holds
    | succ index => exact .inr ⟨index, value, found, holds⟩
  · rintro (holds | ⟨index, value, found, holds⟩)
    · exact ⟨0, first, rfl, holds⟩
    · exact ⟨index + 1, value, found, holds⟩

/-- What is said of a job's log when it is known which job wrote it last. -/
def sharedProblems (index : Nat) (job : Job) : Option Nat → List Problem
  | none => []
  | some previous => [.sharedLog index previous job.logName]

theorem batchProblems_cons (index : Nat) (earlier : List (String × Nat)) (job : Job)
    (jobs : List Job) :
    batchProblems index earlier (job :: jobs) =
      jobProblems index job ++ sharedProblems index job (earlier.lookup job.logName) ++
        batchProblems (index + 1) ((job.logName, index) :: earlier) jobs := by
  rw [batchProblems]
  cases earlier.lookup job.logName with
  | none => rfl
  | some previous => rfl

theorem mem_sharedProblems {earlier : List (String × Nat)} {front : List Job}
    (tracks : Tracks earlier front) (index : Nat) (job : Job) (problem : Problem) :
    problem ∈ sharedProblems index job (earlier.lookup job.logName) ↔
      ∃ previous, IsLatest front job previous ∧
        .sharedLog index previous job.logName = problem := by
  simp only [← tracks job]
  cases earlier.lookup job.logName with
  | none => simp [sharedProblems]
  | some previous => simp [sharedProblems, eq_comm]

theorem mem_batchProblems {earlier : List (String × Nat)} {front : List Job}
    (tracks : Tracks earlier front) (jobs : List Job) (problem : Problem) :
    problem ∈ batchProblems front.length earlier jobs ↔
      ∃ index job, jobs[index]? = some job ∧
        (problem ∈ jobProblems (front.length + index) job ∨
          ∃ previous, IsLatest (front ++ jobs.take index) job previous ∧
            .sharedLog (front.length + index) previous job.logName = problem) := by
  induction jobs generalizing front earlier with
  | nil => simp [batchProblems]
  | cons job jobs ih =>
      have later := ih (tracks.concat job)
      rw [List.length_append, List.length_singleton] at later
      rw [batchProblems_cons, List.mem_append, List.mem_append, mem_sharedProblems tracks, later,
        exists_getElem?_cons]
      simp only [List.take_zero, List.append_nil, Nat.add_zero, List.take_succ_cons,
        List.append_assoc, List.singleton_append, Nat.add_assoc, Nat.add_comm 1]

theorem mem_problems_iff (config : Config) (launcher : Option String) (problem : Problem) :
    problem ∈ problems config launcher ↔ config.Violates launcher problem := by
  have batch := mem_batchProblems tracks_nil config.jobs problem
  simp only [List.length_nil, List.nil_append, Nat.zero_add] at batch
  rw [problems_eq, List.mem_append, List.mem_append, mem_generalProblems, mem_settingProblems,
    batch]
  constructor
  · rintro (((⟨empty, rfl⟩ | ⟨missing, rfl⟩) | ⟨name, token, set, bad, rfl⟩) |
      ⟨index, job, listed, alone | ⟨previous, latest, rfl⟩⟩)
    · exact .noJobs empty
    · exact .launcherMissing missing
    · exact .badSetting set bad
    · rcases (mem_jobProblems index job problem).mp alone with
        ⟨quantity, nothing, rfl⟩ | ⟨name, token, set, bad, rfl⟩
      · exact .zero listed nothing
      · exact .badField listed set bad
    · exact .sharedLog listed latest
  · intro violated
    cases violated with
    | noJobs empty => exact .inl (.inl (.inl ⟨empty, rfl⟩))
    | launcherMissing missing => exact .inl (.inl (.inr ⟨missing, rfl⟩))
    | badSetting set bad => exact .inl (.inr ⟨_, _, set, bad, rfl⟩)
    | zero listed nothing =>
        exact .inr ⟨_, _, listed, .inl ((mem_jobProblems ..).mpr (.inl ⟨_, nothing, rfl⟩))⟩
    | badField listed set bad =>
        exact .inr ⟨_, _, listed, .inl ((mem_jobProblems ..).mpr (.inr ⟨_, _, set, bad, rfl⟩))⟩
    | sharedLog listed latest => exact .inr ⟨_, _, listed, .inr ⟨_, latest, rfl⟩⟩

end Preflight
end BatchLaunch
