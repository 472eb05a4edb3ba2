import BatchLaunch.Proofs.CommandLine.Meaning
import BatchLaunch.Proofs.Launch.Messages

/-!
The modes exclude each other on every command line that is accepted, so a run does what its mode
asks for and no mode wins over another. A timeout needs a mode beside it, but any of them will do.
-/
namespace BatchLaunch

namespace CommandLine

open Text.Number (Natural natural_repr)

variable {args : List String} {options : Options} {setting : Setting}
  {front back : List Occurrence} {occurrence : Occurrence} {text : String}

theorem Options.Says.single {texts : List String} (said : options.Says setting texts)
    (once : setting ∈ [.config, .logDir, .timeout]) : texts.length ≤ 1 := by
  have bound {α : Type} (o : Option α) : o.toList.length ≤ 1 := by cases o <;> simp
  cases setting with
  | config => exact said.1 ▸ bound _
  | logDir => exact said.1 ▸ bound _
  | timeout => exact said.length_eq ▸ bound _
  | decomposition => simp at once
  | dimension => simp at once

theorem Asks.modes_length (asks : Asks occurrences options) : options.modes.length ≤ 1 :=
  asks.modes ▸ asks.single

theorem mode_alone (single : options.modes.length ≤ 1) {flag : Flag}
    (set : options.has flag = true) (other : Flag) (different : other ≠ flag) :
    options.has other = false := by
  rw [Bool.eq_false_iff]
  intro set'
  rw [← mem_modes_iff] at set set'
  rcases eq_nil_or_singleton single with modes | ⟨only, modes⟩
  · rw [modes] at set
    cases set
  · rw [modes, List.mem_singleton] at set set'
    exact different (set'.trans set.symm)

/-! A timeout put among other options. -/

theorem valuesOf_insert (setting : Setting) : valuesOf setting (front ++ occurrence :: back) =
    valuesOf setting front ++ (occurrence.value? setting).toList ++ valuesOf setting back := by
  simp only [valuesOf, List.filterMap_append, List.filterMap_cons]
  cases occurrence.value? setting <;> simp

theorem flagsOf_insert (silent : occurrence.flag? = none) :
    flagsOf (front ++ occurrence :: back) = flagsOf (front ++ back) := by
  simp [flagsOf, silent]

theorem flag?_of_value? (given : occurrence.value? setting = some text) :
    occurrence.flag? = none ∧ ∀ other ≠ setting, occurrence.value? other = none := by
  cases occurrence with
  | flag raised => cases given
  | attached named value =>
      simp only [Occurrence.value?, Option.ite_none_right_eq_some] at given
      obtain ⟨rfl, -⟩ := given
      exact ⟨rfl, fun other different => if_neg different.symm⟩
  | apart named value =>
      simp only [Occurrence.value?, Option.ite_none_right_eq_some] at given
      obtain ⟨rfl, -⟩ := given
      exact ⟨rfl, fun other different => if_neg different.symm⟩

theorem hasRead_timeout {n : UInt64} (asks : Asks (front ++ back) options)
    (absent : options.timeout = none) (given : occurrence.value? .timeout = some text)
    (natural : Natural text.toList n.toNat) :
    (Progress.mk { options with timeout := some n } (flagsOf (front ++ back)) none).HasRead
      (front ++ occurrence :: back) := by
  obtain ⟨silent, others⟩ := flag?_of_value? given
  have none' : valuesOf .timeout (front ++ back) = [] := by
    have said := asks.settings .timeout
    rw [Options.Says, absent] at said
    exact List.forall₂_nil_right_iff.mp said
  have before : valuesOf .timeout front = [] ∧ valuesOf .timeout back = [] := by
    rwa [valuesOf, List.filterMap_append, List.append_eq_nil_iff] at none'
  exact {
    settings := by
      intro setting
      by_cases same : setting = .timeout
      · rw [same, valuesOf_insert, before.1, before.2, given]
        exact .cons natural .nil
      · have said := asks.settings setting
        rw [valuesOf_insert, others setting same, Option.toList_none, List.append_nil]
        rw [valuesOf, List.filterMap_append] at said
        cases setting with
        | timeout => exact absurd rfl same
        | _ => exact said
    flags := (flagsOf_insert silent).symm
    once := List.nodup_iff_count_le_one.mpr fun flag =>
      Nat.le_trans List.count_le_length asks.single
    marked := asks.marked
    closed := rfl }

/-- An accepted timeout comes with waiting unless another mode stands in for it, and every command
line that has a mode and no timeout may be given one. -/
theorem timeout_modes (accepted : parse args = .ok options) :
    (options.timeout.isSome = true →
      (options.wait = true ↔ options.dryRun = false ∧ options.check = false)) ∧
    (options.timeout = none → ∀ (front back : List Occurrence) (occurrence : Occurrence)
      (text : String) (n : UInt64), Line args (front ++ back) → occurrence.Stands →
        occurrence.value? .timeout = some text → Natural text.toList n.toNat →
          parse ((front ++ occurrence :: back).flatMap Occurrence.words) =
            if options.modes = [] then .error (.refused .waitMissing)
            else .ok { options with timeout := some n }) := by
  obtain ⟨occurrences, line, asks⟩ := parse_ok_iff.mp accepted
  constructor
  · intro bounded
    constructor
    · intro waits
      have set : options.has .wait = true := waits
      exact ⟨mode_alone asks.modes_length set .dryRun (by decide),
        mode_alone asks.modes_length set .check (by decide)⟩
    · rintro ⟨silent, unchecked⟩
      have asked : options.modes ≠ [] := asks.modes ▸ asks.bounded bounded
      obtain ⟨flag, member⟩ := List.exists_mem_of_ne_nil _ asked
      have set := mem_modes_iff.mp member
      cases flag with
      | wait => exact set
      | dryRun => cases set.symm.trans silent
      | check => cases set.symm.trans unchecked
      | _ => cases set
  · intro absent front back occurrence text n spelled stands given natural
    obtain rfl := line.unique spelled
    have line' : Line ((front ++ occurrence :: back).flatMap Occurrence.words)
        (front ++ occurrence :: back) :=
      ⟨by simpa [or_imp, forall_and, stands] using line.stand, [], List.mem_cons_self,
        (List.append_nil _).symm⟩
    have read := Progress.arguments_ok_iff.mpr
      ⟨_, line', hasRead_timeout asks absent given natural⟩
    rw [asks.modes] at read
    rw [parse, read]
    rcases eq_nil_or_singleton asks.modes_length with modes | ⟨flag, modes⟩
    · rw [modes]
      rfl
    · rw [modes]
      rfl

/-- The least list of arguments that has a mode. -/
theorem timeout_modes_check :
    parse ["--check", "--timeout", "3"] = .ok ⟨none, none, [], [], false, false, some 3, true⟩ := by
  have accepted : parse ["--check"] = .ok ⟨none, none, [], [], false, false, none, true⟩ := by
    decide +kernel
  have line : Line ["--check"] [.flag .check] :=
    ⟨by simp [Occurrence.Stands, Flag.IsMode], [], List.mem_cons_self, rfl⟩
  exact (timeout_modes accepted).2 rfl [.flag .check] [] (.apart .timeout "3") "3" 3 line
    (by simp [Occurrence.Stands, LooksLikeOption]) rfl
    (natural_repr 3)

theorem timeout_without_wait : ¬ ∀ (args : List String) (options : Options),
    parse args = .ok options → options.timeout.isSome = true → options.wait = true := by
  intro bounded
  have accepted : parse ["--timeout", "3", "--check"] =
      .ok ⟨none, none, [], [], false, false, some 3, true⟩ := by decide +kernel
  exact absurd (bounded _ _ accepted rfl) nofun

end CommandLine

/-! What a run makes of its mode. -/

namespace Run

open CommandLine (Options mode_alone)
open Launch (Request recording)

variable {World Log Child : Type} {machine : Machine World Log Child} {options : Options}
  {world : World} {config : Config}

def asked (machine : Machine World Log Child) (options : Options) (out : Sink) (world : World) :
    List (Request Child) :=
  (run (recording machine) options out (world, [])).world.2

/-- A run with a configuration does what its modes ask for. -/
structure Follows (machine : Machine World Log Child) (config : Config) (options : Options)
    (out : Sink) (world : World) : Prop where
  pool : (∃ threads, .buildPool threads ∈ asked machine options out world) ↔ options.wait = true
  waits : (∃ threads calls, .await threads calls ∈ asked machine options out world) ↔
    options.wait = true ∧ ¬ NoThreads machine config options world
  collecting : options.wait = true → (∃ opening, run machine options out world =
      (launch machine config options out world).after opening) ∧
    mode options = .collecting (bound options)
  checking : options.check = true → ∃ opening, run machine options out world =
    (check machine config out world).after opening
  showing : options.dryRun = true → (∃ opening, run machine options out world =
      (launch machine config options out world).after opening) ∧ mode options = .dryRun

theorem Loaded.recording {path : Option String} (loaded : Loaded machine world path config) :
    Loaded (Launch.recording machine) (world, []) path config := by
  cases loaded with
  | builtin => exact .builtin
  | file readable decoded accepted => exact .file readable decoded accepted

theorem mem_waits_iff {request : Request Child} {commands : List Invocation}
    {results : List (Except SpawnError Child)} {later : List (Request Child)}
    (waits : request.isWait = true) :
    request ∈ Launch.allRequests commands results ++ later ↔ request ∈ later := by
  refine List.mem_append.trans (or_iff_right fun attempt => ?_)
  rw [Launch.isWait_of_mem_allRequests attempt] at waits
  cases waits

theorem buildPool_mem_waits_iff {mode : Mode} {jobs : Nat} {children : List Child} :
    (∃ threads, .buildPool threads ∈ (mode.waits machine world jobs children).requests) ↔
      ∃ timeout, mode = .collecting timeout := by
  cases mode with
  | dryRun => simp [Mode.waits]
  | detached => simp [Mode.waits]
  | collecting timeout =>
      refine iff_of_true ⟨max jobs 1, ?_⟩ ⟨timeout, rfl⟩
      rw [Mode.waits]
      cases machine.buildPool world (max jobs 1) with
      | mk built ready => cases built <;> simp

theorem await_mem_waits_iff {mode : Mode} {jobs : Nat} {children : List Child} :
    (∃ threads calls, .await threads calls ∈ (mode.waits machine world jobs children).requests) ↔
      (∃ timeout, mode = .collecting timeout) ∧
        (machine.buildPool world (max jobs 1)).1 = true := by
  cases mode with
  | dryRun => simp [Mode.waits]
  | detached => simp [Mode.waits]
  | collecting timeout =>
      rw [Mode.waits]
      cases machine.buildPool world (max jobs 1) with
      | mk built ready => cases built <;> simp

theorem asked_eq (loaded : Loaded machine world options.config config) (out : Sink) :
    asked machine options out world = if options.check then [] else
      (((mode options).execute (Launch.recording machine) config.settings
        (options.logDir.getD "") (config.select options.selection) out (world, [])).world.2) := by
  obtain ⟨front, -, same⟩ := run_eq_after loaded.recording out
  rw [asked, same, withConfig]
  cases options.check <;> rfl

theorem buildPool_mem_asked_iff (loaded : Loaded machine world options.config config)
    (out : Sink) : (∃ threads, .buildPool threads ∈ asked machine options out world) ↔
      options.check = false ∧ ∃ timeout, mode options = .collecting timeout := by
  rw [asked_eq loaded]
  cases options.check with
  | true => simp
  | false =>
      simp only [Bool.false_eq_true, if_false, Launch.execute_recording, true_and]
      rw [← buildPool_mem_waits_iff]
      exact exists_congr fun threads => mem_waits_iff rfl

theorem await_mem_asked_iff (loaded : Loaded machine world options.config config) (out : Sink) :
    (∃ threads calls, .await threads calls ∈ asked machine options out world) ↔
      options.check = false ∧ (∃ timeout, mode options = .collecting timeout) ∧
        ¬ NoThreads machine config options world := by
  rw [asked_eq loaded]
  cases options.check with
  | true => simp
  | false =>
      simp only [Bool.false_eq_true, if_false, Launch.execute_recording, true_and]
      refine (exists₂_congr fun threads calls => mem_waits_iff rfl).trans ?_
      rw [await_mem_waits_iff]
      refine and_congr_right ?_
      rintro ⟨timeout, collecting⟩
      rw [collecting]
      exact (Bool.not_eq_false _).symm.to_iff.trans
        (not_congr (noThreads_iff machine config options world)).symm

theorem collects (single : options.modes.length ≤ 1) (waits : options.wait = true) :
    options.check = false ∧ mode options = .collecting (bound options) := by
  have set : options.has .wait = true := waits
  have silent : options.dryRun = false := mode_alone single set .dryRun (by decide)
  have unchecked : options.check = false := mode_alone single set .check (by decide)
  exact ⟨unchecked, by simp [mode, Mode.choose, bound, silent, waits]⟩

theorem mode_collecting_iff (single : options.modes.length ≤ 1) :
    (∃ timeout, mode options = .collecting timeout) ↔ options.wait = true := by
  constructor
  · rintro ⟨timeout, collecting⟩
    rw [mode, Mode.choose] at collecting
    split at collecting
    · cases collecting
    · split at collecting
      · assumption
      · cases collecting
  · exact fun waits => ⟨_, (collects single waits).2⟩

theorem follows_of_single (single : options.modes.length ≤ 1)
    (loaded : Loaded machine world options.config config) (out : Sink) :
    Follows machine config options out world := by
  obtain ⟨front, -, same⟩ := run_eq_after loaded out
  have launches (unchecked : options.check = false) : run machine options out world =
      (launch machine config options out world).after front := by
    rw [same, withConfig, unchecked]
    rfl
  exact {
    pool := by
      rw [buildPool_mem_asked_iff loaded, mode_collecting_iff single]
      exact and_iff_right_of_imp fun waits => (collects single waits).1
    waits := by
      rw [await_mem_asked_iff loaded, mode_collecting_iff single]
      exact and_iff_right_of_imp fun waits => (collects single waits.1).1
    collecting := by
      intro waits
      obtain ⟨unchecked, collecting⟩ := collects single waits
      exact ⟨⟨front, launches unchecked⟩, collecting⟩
    checking := by
      intro checks
      exact ⟨front, by rw [same, withConfig, if_pos checks]⟩
    showing := by
      intro shows
      have set : options.has .dryRun = true := shows
      exact ⟨⟨front, launches (mode_alone single set .check (by decide))⟩,
        by rw [mode, Mode.choose, if_pos shows]⟩ }

end Run

namespace CommandLine

open Launch (threeJobs)
open Text.Number (Integer)

/-- What may be given once only is given once at most wherever it stands, what may be repeated is
taken in order, and a run does what its one mode asks for. -/
theorem parse_exclusive (accepted : parse args = .ok options) :
    (∃ occurrences, Line args occurrences ∧ (∀ others, Line args others → others = occurrences) ∧
      flagsOf occurrences = options.modes ∧ options.modes.length ≤ 1 ∧
      (∀ setting ∈ [.config, .logDir, .timeout], (valuesOf setting occurrences).length ≤ 1) ∧
      valuesOf .decomposition occurrences = options.decompositions.map Decomposition.tag ∧
      List.Forall₂ (fun text n => Integer text.toList n.toNat) (valuesOf .dimension occurrences)
        options.dimensions) ∧
    ((∃ timeout, Run.mode options = .collecting timeout) ↔ options.wait = true) ∧
    ∀ {World Log Child : Type} (machine : Machine World Log Child) (config : Config) (out : Sink)
      (world : World), Run.Loaded machine world options.config config →
        Run.Follows machine config options out world := by
  obtain ⟨occurrences, line, asks⟩ := parse_ok_iff.mp accepted
  refine ⟨⟨occurrences, line, fun others other => other.unique line, asks.modes,
    asks.modes_length, ?_, asks.settings .decomposition, asks.settings .dimension⟩,
    Run.mode_collecting_iff asks.modes_length, ?_⟩
  · intro setting once
    exact (asks.settings setting).single once
  · intro World Log Child machine config out world loaded
    exact Run.follows_of_single asks.modes_length loaded out

/-- Two dimensions around the one mode, and a run of it on a machine of its own. -/
theorem parse_exclusive_waiting :
    ∃ options, parse ["--dimension", "3", "--wait", "--dimension=2"] = .ok options ∧
      options.modes.length ≤ 1 ∧
      ∃ threads calls, .await threads calls ∈
        Run.asked threeJobs.machine options .unbounded threeJobs.world := by
  have accepted : parse ["--dimension", "3", "--wait", "--dimension=2"] =
      .ok ⟨none, none, [], [3, 2], false, true, none, false⟩ := by decide +kernel
  obtain ⟨⟨occurrences, -, -, -, single, -⟩, -, follows⟩ := parse_exclusive accepted
  exact ⟨_, accepted, single,
    (follows threeJobs.machine .builtin _ threeJobs.world .builtin).waits.mpr
      ⟨rfl, fun ⟨_, _, _, refused⟩ => nomatch refused⟩⟩

end CommandLine
end BatchLaunch
