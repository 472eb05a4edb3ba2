import BatchLaunch.Proofs.Run.Status
import Mathlib.Data.List.Basic

/-!
Selections as filters, and launches in parts. A selection is told by the sets that it names, and one
that names several values divides into those that name one of them, so going by these one after the
other attempts every job of the whole once.
-/
namespace BatchLaunch

open CommandLine (Options)

/-! A list gone through by what its members have in common with a criterion. -/

section Criterion

variable {α κ : Type} {key : α → κ} {criterion other : List κ} {list : List α}

/-- A criterion lets a value through that it names, and if it names none every value. -/
def Lets (criterion : List κ) (value : κ) : Prop := criterion = [] ∨ value ∈ criterion

/-- Parts of a list, each in its order, which together hold every member once. -/
structure Divides (parts : List (List α)) (list : List α) : Prop where
  whole : parts.flatten.Perm list
  ordered : ∀ part ∈ parts, part.Sublist list

theorem eq_nil_iff_of_mem_iff (same : ∀ value, value ∈ other ↔ value ∈ criterion) :
    other = [] ↔ criterion = [] := by
  simp only [List.eq_nil_iff_forall_not_mem, same]

/-- It does not matter how often and in which order a criterion names its values. -/
theorem lets_congr (same : ∀ value, value ∈ other ↔ value ∈ criterion) (value : κ) :
    Lets other value ↔ Lets criterion value :=
  or_congr (eq_nil_iff_of_mem_iff same) (same value)

variable [DecidableEq κ]

instance (criterion : List κ) (value : κ) : Decidable (Lets criterion value) :=
  inferInstanceAs (Decidable (_ ∨ _))

def letThrough (key : α → κ) (criterion : List κ) (list : List α) : List α :=
  list.filter fun a => Lets criterion (key a)

theorem filter_cons_perm {value : κ} (fresh : value ∉ criterion) (list : List α) :
    (list.filter (fun a => key a = value) ++ list.filter (fun a => key a ∈ criterion)).Perm
      (list.filter fun a => key a ∈ value :: criterion) := by
  have parted := List.filter_append_perm (fun a => decide (key a = value))
    (list.filter fun a => key a ∈ value :: criterion)
  have first : list.filter (fun a => key a = value) =
      (list.filter fun a => key a ∈ value :: criterion).filter fun a => key a = value := by
    rw [List.filter_filter]
    refine List.filter_congr fun a _ => ?_
    by_cases same : key a = value <;> simp [same]
  have others : list.filter (fun a => key a ∈ criterion) =
      (list.filter fun a => key a ∈ value :: criterion).filter
        fun a => !decide (key a = value) := by
    rw [List.filter_filter]
    refine List.filter_congr fun a _ => ?_
    by_cases same : key a = value
    · simp [same, fresh]
    · simp [same]
  rw [first, others]
  exact parted

theorem flatMap_filter_perm (distinct : criterion.Nodup) (list : List α) :
    (criterion.flatMap fun value => list.filter fun a => key a = value).Perm
      (list.filter fun a => key a ∈ criterion) := by
  induction criterion with
  | nil => simp
  | cons value criterion ih =>
      obtain ⟨fresh, distinct⟩ := List.nodup_cons.mp distinct
      rw [List.flatMap_cons]
      exact ((ih distinct).append_left _).trans (filter_cons_perm fresh list)

theorem letThrough_single (value : κ) :
    letThrough key [value] list = list.filter fun a => key a = value := by
  simp [letThrough, Lets]

theorem letThrough_of_ne_nil (named : criterion ≠ []) :
    letThrough key criterion list = list.filter fun a => key a ∈ criterion := by
  simp [letThrough, Lets, named]

theorem letThrough_divides (named : criterion ≠ []) (distinct : criterion.Nodup) :
    Divides (criterion.map fun value => letThrough key [value] list)
      (letThrough key criterion list) where
  whole := by
    simp only [letThrough_single, letThrough_of_ne_nil named]
    exact flatMap_filter_perm distinct list
  ordered := by
    intro part member
    obtain ⟨value, present, rfl⟩ := List.mem_map.mp member
    rw [letThrough_single, letThrough_of_ne_nil named]
    refine List.monotone_filter_right list fun a same => ?_
    rw [decide_eq_true_eq] at same
    exact decide_eq_true (same ▸ present)

end Criterion

theorem Selection.admits_iff (selection : Selection) (job : Job) : selection.admits job = true ↔
    Lets selection.decompositions job.decomposition ∧ Lets selection.dimensions job.dimension := by
  simp [admits, Lets]

namespace Config

variable (config : Config) (decompositions : List Decomposition) (dimensions : List UInt32)

theorem select_eq_letThrough : config.select ⟨decompositions, dimensions⟩ =
    letThrough Job.decomposition decompositions
      (letThrough Job.dimension dimensions config.jobs) := by
  rw [select, letThrough, letThrough, List.filter_filter]
  refine List.filter_congr fun job _ => ?_
  rw [Bool.eq_iff_iff, Selection.admits_iff]
  simp

theorem select_eq_letThrough_swap : config.select ⟨decompositions, dimensions⟩ =
    letThrough Job.dimension dimensions
      (letThrough Job.decomposition decompositions config.jobs) := by
  rw [select_eq_letThrough, letThrough, letThrough, letThrough, letThrough, List.filter_filter,
    List.filter_filter]
  simp only [Bool.and_comm]

theorem count_select (job : Job) : (config.select ⟨decompositions, dimensions⟩).count job =
    if Lets decompositions job.decomposition ∧ Lets dimensions job.dimension
    then config.jobs.count job else 0 := by
  by_cases admitted : Selection.admits ⟨decompositions, dimensions⟩ job = true
  · rw [if_pos ((Selection.admits_iff ..).mp admitted)]
    exact List.count_filter admitted
  · rw [if_neg ((Selection.admits_iff ..).not.mp admitted)]
    exact List.count_eq_zero.mpr fun member => admitted (List.of_mem_filter member)

theorem select_congr {tags : List Decomposition} {sizes : List UInt32}
    (sameTags : ∀ d, d ∈ tags ↔ d ∈ decompositions) (sameSizes : ∀ n, n ∈ sizes ↔ n ∈ dimensions) :
    config.select ⟨tags, sizes⟩ = config.select ⟨decompositions, dimensions⟩ := by
  refine List.filter_congr fun job _ => ?_
  rw [Bool.eq_iff_iff, Selection.admits_iff, Selection.admits_iff]
  exact and_congr (lets_congr sameTags _) (lets_congr sameSizes _)

theorem divides_by_decomposition (named : decompositions ≠ []) (distinct : decompositions.Nodup) :
    Divides (decompositions.map fun d => config.select ⟨[d], dimensions⟩)
      (config.select ⟨decompositions, dimensions⟩) := by
  simp only [select_eq_letThrough]
  exact letThrough_divides named distinct

theorem divides_by_dimension (named : dimensions ≠ []) (distinct : dimensions.Nodup) :
    Divides (dimensions.map fun n => config.select ⟨decompositions, [n]⟩)
      (config.select ⟨decompositions, dimensions⟩) := by
  simp only [select_eq_letThrough_swap]
  exact letThrough_divides named distinct

end Config

/-! Several launches, each where the one before it left the machine. -/

namespace Launch

variable {World Log Child : Type} {machine : Machine World Log Child} {mode : Mode}
  {world after : World} {commands : List Invocation} {batches : List (List Invocation)}
  {results : List (Except SpawnError Child)} {requests : List (Request Child)}

def Request.program? : Request Child → Option (String × List String)
  | .start program args => some (program, args)
  | _ => none

/-- Batches of commands launched one after the other in a mode, with what is asked of the machine
and as it answers. What the mode waits for is waited for before the next batch. -/
inductive InTurn (machine : Machine World Log Child) (mode : Mode) :
    World → List (List Invocation) → List (Request Child) → World → Prop
  | nil {world : World} : InTurn machine mode world [] [] world
  | cons {world next after : World} {commands : List Invocation}
      {batches : List (List Invocation)} {results : List (Except SpawnError Child)}
      {waits : Mode.Waits World Child} {later : List (Request Child)}
      (starts : Starts machine world commands results next)
      (waited : mode.waits machine next commands.length (children results) = waits)
      (rest : InTurn machine mode waits.world batches later after) :
      InTurn machine mode world (commands :: batches)
        (allRequests commands results ++ waits.requests ++ later) after

/-- The machine grants every log that it is asked for. -/
def GrantsLogs (machine : Machine World Log Child) : Prop :=
  (∀ world path, (machine.openLog world path).1.isSome) ∧
    ∀ world log, (machine.copyLog world log).1.isSome

theorem Tried.programs (grants : GrantsLogs machine) {command : Invocation}
    {result : Except SpawnError Child} (tried : Tried machine command world result after) :
    (requestsOf command result).filterMap Request.program? = [(command.program, command.args)] := by
  cases tried with
  | noLog refused =>
      have granted := grants.1 world command.logPath
      rw [refused] at granted
      cases granted
  | noCopy granted refused =>
      rename_i output opened
      have copied := grants.2 opened output
      rw [refused] at copied
      cases copied
  | noStart granted copies refused => rfl
  | started granted copies began => rfl

theorem Starts.programs (grants : GrantsLogs machine)
    (starts : Starts machine world commands results after) :
    (allRequests commands results).filterMap Request.program? =
      commands.map fun command => (command.program, command.args) := by
  induction starts with
  | nil => rfl
  | cons first rest ih =>
      rw [allRequests] at ih ⊢
      rw [List.zipWith_cons_cons, List.flatten_cons, List.filterMap_append, first.programs grants,
        ih]
      rfl

theorem waits_programs (mode : Mode) (machine : Machine World Log Child) (world : World)
    (jobs : Nat) (children : List Child) :
    (mode.waits machine world jobs children).requests.filterMap Request.program? = [] := by
  refine List.filterMap_eq_nil_iff.mpr fun request asked => ?_
  have wait := isWait_of_mem_waits asked
  cases request with
  | start program args => cases wait
  | _ => rfl

theorem InTurn.programs (grants : GrantsLogs machine)
    (launched : InTurn machine mode world batches requests after) :
    requests.filterMap Request.program? =
      batches.flatten.map fun command => (command.program, command.args) := by
  induction launched with
  | nil => rfl
  | cons starts waited rest ih =>
      subst waited
      rw [List.filterMap_append, List.filterMap_append, starts.programs grants, waits_programs, ih,
        List.append_nil, List.flatten_cons, List.map_append]

end Launch

namespace Run

open Launch (GrantsLogs InTurn Request Starts allRequests children recording)

variable {World Log Child : Type}

/-- Launches one after the other, each where the one before it left the machine. -/
def launchEach (machine : Machine World Log Child) (config : Config) :
    List Options → Sink → World → World
  | [], _, world => world
  | options :: later, out, world =>
      let ran := launch machine config options out world
      launchEach machine config later ran.out ran.world

theorem launch_starts (machine : Machine World Log Child) (config : Config) {options : Options}
    (launches : mode options ≠ .dryRun) (out : Sink) (state : World × List (Request Child)) :
    ∃ (results : List (Except SpawnError Child)) (next : World),
      let waits := (mode options).waits machine next (commands config options).length
        (children results)
      Starts machine state.1 (commands config options) results next ∧
        (launch (recording machine) config options out state).world =
          (waits.world, state.2 ++ (allRequests (commands config options) results ++
            waits.requests)) := by
  have attempted : (mode options).attempted (config.select options.selection) =
      config.select options.selection := by
    cases chosen : mode options with
    | dryRun => exact absurd chosen launches
    | detached => rfl
    | collecting timeout => rfl
  have told := (Launch.execute_told machine (mode options) config.settings
    (options.logDir.getD "") (config.select options.selection) out state.1 state.2).2
  have world := Launch.execute_world machine (mode options) config.settings
    (options.logDir.getD "") (config.select options.selection) out state.1
  have starts := Launch.spawnAll_starts machine config.settings (options.logDir.getD "")
    (config.select options.selection) state.1
  rw [attempted] at told world
  refine ⟨_, _, starts, ?_⟩
  rw [commands, List.length_map, ← world]
  exact told

theorem launchEach_inTurn (machine : Machine World Log Child) (config : Config)
    {parts : List Options} {chosen : Mode} (launches : chosen ≠ .dryRun)
    (same : ∀ options ∈ parts, mode options = chosen) (out : Sink)
    (state : World × List (Request Child)) :
    ∃ (requests : List (Request Child)) (after : World),
      launchEach (recording machine) config parts out state = (after, state.2 ++ requests) ∧
        InTurn machine chosen state.1 (parts.map (commands config)) requests after := by
  induction parts generalizing out state with
  | nil => exact ⟨[], state.1, by rw [launchEach, List.append_nil], .nil⟩
  | cons options parts ih =>
      obtain ⟨first, later⟩ := List.forall_mem_cons.mp same
      obtain ⟨results, next, starts, reached⟩ :=
        launch_starts machine config (first ▸ launches) out state
      rw [first] at reached
      obtain ⟨others, after, same', turns⟩ := ih later
        (launch (recording machine) config options out state).out
        (launch (recording machine) config options out state).world
      rw [reached] at turns
      refine ⟨_, after, ?_, .cons starts rfl turns⟩
      rw [launchEach, same', reached, List.append_assoc]

/-- A selection keeps the order of the batch and every occurrence of each job it admits, and no
others; it goes by the sets that its criteria name, selects all of what it selected, and divides by
the values of a criterion. Launching a batch by one decomposition after the other attempts, as the
machine answers, exactly the commands of the launch by all of them, each as often. With the logs
granted both start the same programs, each as often as there are jobs for it. -/
theorem select_divides (config : Config) (decompositions : List Decomposition)
    (dimensions : List UInt32) :
    let chosen := config.select ⟨decompositions, dimensions⟩
    chosen.Sublist config.jobs ∧
    (∀ job, chosen.count job =
      if Lets decompositions job.decomposition ∧ Lets dimensions job.dimension
      then config.jobs.count job else 0) ∧
    (∀ (tags : List Decomposition) (sizes : List UInt32), (∀ d, d ∈ tags ↔ d ∈ decompositions) →
      (∀ n, n ∈ sizes ↔ n ∈ dimensions) → config.select ⟨tags, sizes⟩ = chosen) ∧
    Config.select { config with jobs := chosen } ⟨decompositions, dimensions⟩ = chosen ∧
    (decompositions ≠ [] → decompositions.Nodup →
      Divides (decompositions.map fun d => config.select ⟨[d], dimensions⟩) chosen) ∧
    (dimensions ≠ [] → dimensions.Nodup →
      Divides (dimensions.map fun n => config.select ⟨decompositions, [n]⟩) chosen) ∧
    ∀ (World Log Child : Type) (machine : Machine World Log Child) (world : World) (out : Sink)
      (options : Options),
      let whole : Options := { options with decompositions, dimensions, dryRun := false }
      let parts := decompositions.map fun d => { whole with decompositions := [d] }
      let command := Invocation.ofBatch config.settings (options.logDir.getD "")
      let batches := decompositions.map fun d => (config.select ⟨[d], dimensions⟩).map command
      decompositions ≠ [] → decompositions.Nodup →
      batches.flatten.Perm (chosen.map command) ∧
      ∃ (asked askedInParts : List (Request Child)) (after afterParts : World),
        (launch (recording machine) config whole out (world, [])).world = (after, asked) ∧
        InTurn machine (mode whole) world [chosen.map command] asked after ∧
        launchEach (recording machine) config parts out (world, []) =
          (afterParts, askedInParts) ∧
        InTurn machine (mode whole) world batches askedInParts afterParts ∧
        (GrantsLogs machine →
          asked.filterMap Request.program? =
            (chosen.map command).map (fun started => (started.program, started.args)) ∧
          (askedInParts.filterMap Request.program?).Perm (asked.filterMap Request.program?)) := by
  intro chosen
  refine ⟨List.filter_sublist, config.count_select decompositions dimensions,
    fun _ _ => config.select_congr decompositions dimensions, ?_,
    config.divides_by_decomposition decompositions dimensions,
    config.divides_by_dimension decompositions dimensions, ?_⟩
  · exact List.filter_eq_self.mpr fun job member => List.of_mem_filter member
  · intro World Log Child machine world out options whole parts command batches named distinct
    have launches : mode whole ≠ .dryRun := by
      rw [mode, Mode.choose]
      cases options.wait <;> simp [whole]
    have divided : batches.flatten.Perm (chosen.map command) := by
      have perm := (config.divides_by_decomposition decompositions dimensions named
        distinct).whole.map command
      rwa [List.map_flatten, List.map_map] at perm
    have alone : ∀ options ∈ [whole], mode options = mode whole :=
      List.forall_mem_singleton.mpr rfl
    have alike : ∀ options ∈ parts, mode options = mode whole := by simp [parts, mode]
    have each : parts.map (commands config) = batches := List.map_map
    obtain ⟨asked, after, same, turn⟩ :=
      launchEach_inTurn machine config launches alone out (world, [])
    obtain ⟨askedInParts, afterParts, same', turns⟩ :=
      launchEach_inTurn machine config launches alike out (world, [])
    rw [each] at turns
    refine ⟨divided, asked, askedInParts, after, afterParts, same, turn, same', turns, ?_⟩
    intro grants
    have started : asked.filterMap Request.program? = ([chosen.map command].flatten).map
        fun started => (started.program, started.args) := turn.programs grants
    rw [List.flatten_singleton] at started
    refine ⟨started, ?_⟩
    rw [started, turns.programs grants]
    exact divided.map _

end Run
end BatchLaunch
