import BatchLaunch.Proofs.CommandLine.Reading

/-!
Which options a list of arguments gives. Each setting has the values that were given for it, each
flag stands if it occurs, and what may stand once only occurs once at most.
-/
namespace BatchLaunch.CommandLine

open Fallible (bind_ok_iff map_ok_iff mapError_ok_iff)
open Text.Number (Integer Natural)

namespace Options

def has (options : Options) : Flag → Bool
  | .dryRun => options.dryRun
  | .wait => options.wait
  | .check => options.check
  | .help | .version => false

/-- The modes that are asked for. -/
def modes (options : Options) : List Flag := [.dryRun, .wait, .check].filter options.has

def without (options : Options) : Flag → Options
  | .dryRun => { options with dryRun := false }
  | .wait => { options with wait := false }
  | .check => { options with check := false }
  | .help | .version => options

/-- Some texts, one after the other, give a setting what it has. -/
def Says (options : Options) (setting : Setting) (texts : List String) : Prop :=
  match setting with
  | .config => texts = options.config.toList ∧ "" ∉ texts
  | .logDir => texts = options.logDir.toList ∧ "" ∉ texts
  | .decomposition => texts = options.decompositions.map Decomposition.tag
  | .dimension =>
      List.Forall₂ (fun text n => Integer text.toList n.toNat) texts options.dimensions
  | .timeout =>
      List.Forall₂ (fun text n => Natural text.toList n.toNat) texts options.timeout.toList

end Options

theorem forall₂_concat_iff {α β : Type} {R : α → β → Prop} {as : List α} {a : α} {bs : List β} :
    List.Forall₂ R (as ++ [a]) bs ↔ ∃ bs' b, List.Forall₂ R as bs' ∧ R a b ∧ bs = bs' ++ [b] := by
  constructor
  · intro related
    induction as generalizing bs with
    | nil =>
        obtain ⟨b, rest, first, last, rfl⟩ := List.forall₂_cons_left_iff.mp related
        cases last
        exact ⟨[], b, .nil, first, rfl⟩
    | cons head as ih =>
        obtain ⟨b, rest, first, later, rfl⟩ := List.forall₂_cons_left_iff.mp related
        obtain ⟨front, last, before, ends, rfl⟩ := ih later
        exact ⟨b :: front, last, .cons first before, ends, rfl⟩
  · rintro ⟨front, last, related, ends, rfl⟩
    exact List.rel_append related (.cons ends .nil)

namespace Progress

variable {text : String}

theorem decomposition_eq_ok_iff {d : Decomposition} :
    decomposition text = .ok d ↔ text = d.tag := by
  rw [decomposition, ← Decomposition.ofTag?_eq_some_iff]
  cases Decomposition.ofTag? text with
  | none => simp
  | some found => simp

theorem dimension_eq_ok_iff {n : UInt32} :
    dimension text = .ok n ↔ Integer text.toList n.toNat := by
  have top : UInt32.size ≤ Nat.pow 2 63 := by decide
  simp only [dimension, number, bind_ok_iff, mapError_ok_iff, Text.Number.signed_eq_ok_iff]
  constructor
  · rintro ⟨z, ⟨integer, -, -⟩, read⟩
    split at read
    · rename_i range
      cases read
      have same : (UInt32.ofNat z.toNat).toNat = z.toNat := UInt32.toNat_ofNat_of_lt' (by omega)
      rw [same, Int.toNat_of_nonneg range.1]
      exact integer
    · cases read
  · intro integer
    have bound := n.toNat_lt_size
    refine ⟨n.toNat, ⟨integer, by omega, by omega⟩, ?_⟩
    rw [if_pos (by omega)]
    simp

theorem timeout_eq_ok_iff {n : UInt64} :
    timeout text = .ok n ↔ Natural text.toList n.toNat := by
  have range (k : Nat) : k ≤ UInt64.size - 1 ↔ k < UInt64.size := Nat.le_sub_one_iff_lt (by decide)
  simp only [timeout, number, map_ok_iff, mapError_ok_iff, Text.Number.unsigned_eq_ok_iff, range]
  constructor
  · rintro ⟨k, ⟨natural, small⟩, rfl⟩
    rw [UInt64.toNat_ofNat_of_lt' small]
    exact natural
  · intro natural
    exact ⟨n.toNat, ⟨natural, n.toNat_lt_size⟩, by simp⟩

theorem single_ok_iff {setting : Setting} {present : Bool} {result : Except Fault Options}
    {options : Options} :
    single setting present result = .ok options ↔ present = false ∧ result = .ok options := by
  cases present <;> simp [single]

theorem path_ok_iff {setting : Setting} {put : String → Options} {options : Options} :
    path setting text put = .ok options ↔ text ≠ "" ∧ put text = options := by
  by_cases empty : text = "" <;> simp [path, empty]

theorem concat_eq_toList_iff {α : Type} {front : List α} {a : α} {o : Option α} :
    front ++ [a] = o.toList ↔ front = [] ∧ o = some a := by
  cases o with
  | none => simp
  | some b => simp [List.append_eq_singleton_iff, eq_comm]

variable {before after : Options} {setting other : Setting} {value : String} {texts : List String}

theorem path_concat_iff (get : Options → Option String) (put : Options → Option String → Options)
    (reads : ∀ options path, get (put options path) = path)
    (same : ∀ options, put options (get options) = options)
    (again : ∀ options path path', put (put options path) path' = put options path') :
    (texts ++ [value] = (get after).toList ∧ "" ∉ texts ++ [value]) ↔
      ∃ before : Options, (texts = (get before).toList ∧ "" ∉ texts) ∧
        (get before).isSome = false ∧ value ≠ "" ∧ put before (some value) = after := by
  rw [concat_eq_toList_iff]
  constructor
  · rintro ⟨⟨rfl, given⟩, nonempty⟩
    refine ⟨put after none, ?_, ?_, by simpa [eq_comm] using nonempty, ?_⟩
    · simp [reads]
    · simp [reads]
    · rw [again, ← given, same]
  · rintro ⟨before, ⟨rfl, -⟩, absent, nonempty, rfl⟩
    rw [Option.isSome_eq_false_iff, Option.isNone_iff_eq_none] at absent
    simp [absent, reads, Ne.symm nonempty]

theorem says_concat_iff : after.Says setting (texts ++ [value]) ↔
    ∃ before : Options, before.Says setting texts ∧ store before setting value = .ok after := by
  cases setting with
  | config =>
      simp only [Options.Says, store, single_ok_iff, path_ok_iff]
      exact path_concat_iff Options.config (fun options path => { options with config := path })
        (fun _ _ => rfl) (fun _ => rfl) (fun _ _ _ => rfl)
  | logDir =>
      simp only [Options.Says, store, single_ok_iff, path_ok_iff]
      exact path_concat_iff Options.logDir (fun options path => { options with logDir := path })
        (fun _ _ => rfl) (fun _ => rfl) (fun _ _ _ => rfl)
  | decomposition =>
      simp only [Options.Says, store, map_ok_iff, decomposition_eq_ok_iff]
      constructor
      · intro given
        obtain ⟨front, last, split, rfl, ends⟩ := List.append_eq_map_iff.mp given
        obtain ⟨d, rfl, rfl⟩ := List.map_eq_singleton_iff.mp ends
        exact ⟨{ after with decompositions := front }, rfl, d, rfl, by rw [← split]⟩
      · rintro ⟨before, rfl, d, rfl, rfl⟩
        simp
  | dimension =>
      simp only [Options.Says, store, map_ok_iff, dimension_eq_ok_iff, forall₂_concat_iff]
      constructor
      · rintro ⟨front, last, given, reads, split⟩
        exact ⟨{ after with dimensions := front }, given, last, reads, by rw [← split]⟩
      · rintro ⟨before, given, n, reads, rfl⟩
        exact ⟨before.dimensions, n, given, reads, rfl⟩
  | timeout =>
      simp only [Options.Says, store, single_ok_iff, map_ok_iff, timeout_eq_ok_iff,
        forall₂_concat_iff]
      constructor
      · rintro ⟨front, last, given, reads, split⟩
        obtain ⟨rfl, given'⟩ := concat_eq_toList_iff.mp split.symm
        exact ⟨{ after with timeout := none }, given, rfl, last, reads, by rw [← given']⟩
      · rintro ⟨before, given, absent, n, reads, rfl⟩
        rw [Option.isSome_eq_false_iff, Option.isNone_iff_eq_none] at absent
        rw [absent] at given
        exact ⟨[], n, given, reads, rfl⟩

theorem store_keeps (stored : store before setting value = .ok after) :
    (∀ other ≠ setting, ∀ texts, after.Says other texts ↔ before.Says other texts) ∧
      ∀ flag, after.has flag = before.has flag := by
  cases setting <;> simp only [store, single_ok_iff, path_ok_iff, map_ok_iff] at stored
  case config | logDir | decomposition | dimension =>
    obtain ⟨_, _, rfl⟩ := stored
    exact ⟨by rintro (_ | _) <;> simp [Options.Says], by rintro (_ | _) <;> rfl⟩
  case timeout =>
    obtain ⟨-, _, -, rfl⟩ := stored
    exact ⟨by rintro (_ | _) <;> simp [Options.Says], by rintro (_ | _) <;> rfl⟩

/-! Flags. -/

variable {options : Options} {flag : Flag}

theorem says_mark : (mark options flag).Says setting texts ↔ options.Says setting texts := by
  cases flag <;> rfl

theorem has_mark (mode : flag.IsMode) (raised : Flag) :
    (mark options flag).has raised = (options.has raised || decide (raised = flag)) := by
  revert mode
  cases flag <;> cases raised <;> simp [Flag.IsMode, mark, Options.has]

theorem says_without : (options.without flag).Says setting texts ↔ options.Says setting texts := by
  cases flag <;> rfl

theorem has_without (raised : Flag) :
    (options.without flag).has raised = (options.has raised && decide (raised ≠ flag)) := by
  cases flag <;> cases raised <;> simp [Options.without, Options.has]

theorem mark_without (set : options.has flag = true) :
    mark (options.without flag) flag = options := by
  cases flag <;> simp only [Options.has, Bool.false_eq_true] at set <;>
    rw [Options.without, mark, ← set]

structure HasRead (progress : Progress) (occurrences : List Occurrence) : Prop where
  settings : ∀ setting, progress.options.Says setting (valuesOf setting occurrences)
  flags : progress.flags = flagsOf occurrences
  once : progress.flags.Nodup
  marked : ∀ flag, progress.options.has flag = decide (flag ∈ progress.flags)
  closed : progress.pending = none

variable {progress next : Progress} {occurrence : Occurrence} {occurrences : List Occurrence}

theorem raise_ok_iff (nothing : progress.pending = none) : progress.raise flag = .ok next ↔
    flag.IsMode ∧ flag ∉ progress.flags ∧
      next = { progress with
        options := mark progress.options flag, flags := progress.flags ++ [flag] } := by
  have settled : progress.settle.mapError Stop.refused = .ok progress := by
    rw [settle_of_none nothing]
    rfl
  rw [raise, settled]
  by_cases repeated : flag ∈ progress.flags
  · cases flag <;> simp [bind, Except.bind, Flag.IsMode, repeated]
  · cases flag <;> simp [bind, Except.bind, Flag.IsMode, repeated, eq_comm]

theorem flagsOf_concat : flagsOf (occurrences ++ [occurrence]) =
    flagsOf occurrences ++ occurrence.flag?.toList := by
  cases occurrence <;> simp [flagsOf, Occurrence.flag?]

theorem valuesOf_concat : valuesOf setting (occurrences ++ [occurrence]) =
    valuesOf setting occurrences ++ (occurrence.value? setting).toList := by
  rw [valuesOf, List.filterMap_append, valuesOf]
  cases given : occurrence.value? setting <;> simp [given]

theorem isMode_of_has (set : options.has flag = true) : flag.IsMode := by
  cases flag <;> first | decide | cases set

theorem hasRead_flag_iff : next.HasRead (occurrences ++ [.flag flag]) ↔
    ∃ progress : Progress, progress.HasRead occurrences ∧ progress.take (.flag flag) = .ok next := by
  have raised : flagsOf (occurrences ++ [.flag flag]) = flagsOf occurrences ++ [flag] :=
    flagsOf_concat
  have given (setting : Setting) :
      valuesOf setting (occurrences ++ [.flag flag]) = valuesOf setting occurrences := by
    rw [valuesOf_concat, Occurrence.value?, Option.toList_none, List.append_nil]
  constructor
  · intro read
    have flags := read.flags.trans raised
    have marked := read.marked
    have once := read.once
    rw [flags] at marked once
    obtain ⟨before, -, apart⟩ := List.nodup_append.mp once
    have fresh : flag ∉ flagsOf occurrences := fun member =>
      apart flag member flag List.mem_cons_self rfl
    have set : next.options.has flag = true := by simp [marked]
    refine ⟨⟨next.options.without flag, flagsOf occurrences, none⟩, ?_,
      (raise_ok_iff rfl).mpr ⟨isMode_of_has set, fresh, ?_⟩⟩
    · exact {
        settings := fun setting => says_without.mpr (given setting ▸ read.settings setting)
        flags := rfl
        once := before
        marked := by
          intro other
          rw [has_without, marked]
          by_cases same : other = flag <;> simp [same, fresh]
        closed := rfl }
    · rw [mark_without set, ← flags, ← read.closed]
  · rintro ⟨progress, read, taken⟩
    obtain ⟨mode, fresh, rfl⟩ := (raise_ok_iff read.closed).mp taken
    exact {
      settings := fun setting => says_mark.mpr (given setting ▸ read.settings setting)
      flags := by rw [raised, read.flags]
      once := by simpa using List.Nodup.concat fresh read.once
      marked := by
        intro other
        rw [has_mark mode, read.marked]
        simp
      closed := read.closed }

theorem hasRead_value_iff
    (given : ∀ other, occurrence.value? other = if setting = other then some value else none)
    (silent : occurrence.flag? = none)
    (takes : ∀ progress : Progress, progress.take occurrence =
      ((store progress.options setting value).mapError .refused).map fun options =>
        { progress with options := options }) :
    next.HasRead (occurrences ++ [occurrence]) ↔
      ∃ progress : Progress, progress.HasRead occurrences ∧ progress.take occurrence = .ok next := by
  have raised : flagsOf (occurrences ++ [occurrence]) = flagsOf occurrences := by
    rw [flagsOf_concat, silent, Option.toList_none, List.append_nil]
  have here : valuesOf setting (occurrences ++ [occurrence]) =
      valuesOf setting occurrences ++ [value] := by
    rw [valuesOf_concat, given, if_pos rfl, Option.toList_some]
  have elsewhere {other : Setting} (apart : other ≠ setting) :
      valuesOf other (occurrences ++ [occurrence]) = valuesOf other occurrences := by
    rw [valuesOf_concat, given, if_neg apart.symm, Option.toList_none, List.append_nil]
  simp only [takes, map_ok_iff, mapError_ok_iff]
  constructor
  · intro read
    obtain ⟨before, said, stored⟩ := says_concat_iff.mp (here ▸ read.settings setting)
    obtain ⟨others, flags⟩ := store_keeps stored
    refine ⟨{ next with options := before }, ?_, next.options, stored, rfl⟩
    exact {
      settings := by
        intro other
        by_cases same : other = setting
        · rw [same]
          exact said
        · rw [← others other same, ← elsewhere same]
          exact read.settings other
      flags := read.flags.trans raised
      once := read.once
      marked := fun flag => (flags flag).symm.trans (read.marked flag)
      closed := read.closed }
  · rintro ⟨progress, read, options, stored, rfl⟩
    obtain ⟨others, flags⟩ := store_keeps stored
    exact {
      settings := by
        intro other
        by_cases same : other = setting
        · rw [same, here]
          exact says_concat_iff.mpr ⟨progress.options, read.settings setting, stored⟩
        · rw [elsewhere same, others other same]
          exact read.settings other
      flags := read.flags.trans raised.symm
      once := read.once
      marked := fun flag => (flags flag).trans (read.marked flag)
      closed := read.closed }

theorem hasRead_concat_iff : next.HasRead (occurrences ++ [occurrence]) ↔
    ∃ progress : Progress, progress.HasRead occurrences ∧ progress.take occurrence = .ok next := by
  cases occurrence with
  | flag flag => exact hasRead_flag_iff
  | attached setting value => exact hasRead_value_iff (fun _ => rfl) rfl (fun _ => rfl)
  | apart setting value => exact hasRead_value_iff (fun _ => rfl) rfl (fun _ => rfl)

theorem hasRead_nil_iff : progress.HasRead [] ↔ progress = start := by
  constructor
  · intro read
    obtain ⟨⟨config, logDir, decompositions, dimensions, dryRun, wait, timeout, check⟩, flags,
      pending⟩ := progress
    have nothing := read.flags
    have unmarked := read.marked
    obtain rfl : flags = [] := nothing
    obtain rfl : dryRun = false := unmarked .dryRun
    obtain rfl : wait = false := unmarked .wait
    obtain rfl : check = false := unmarked .check
    obtain rfl : pending = none := read.closed
    have said := read.settings
    obtain rfl : config = none := Option.toList_eq_nil_iff.mp (said .config).1.symm
    obtain rfl : logDir = none := Option.toList_eq_nil_iff.mp (said .logDir).1.symm
    obtain rfl : decompositions = [] := List.map_eq_nil_iff.mp (said .decomposition).symm
    obtain rfl : dimensions = [] := List.forall₂_nil_left_iff.mp (said .dimension)
    obtain rfl : timeout = none :=
      Option.toList_eq_nil_iff.mp (List.forall₂_nil_left_iff.mp (said .timeout))
    rfl
  · rintro rfl
    exact {
      settings := by rintro (_ | _) <;> simp [Options.Says, start, Options.default, valuesOf]
      flags := rfl
      once := List.nodup_nil
      marked := by rintro (_ | _) <;> rfl
      closed := rfl }

theorem foldlM_take_iff :
    occurrences.foldlM take start = .ok progress ↔ progress.HasRead occurrences := by
  induction occurrences using List.reverseRecOn generalizing progress with
  | nil =>
      rw [hasRead_nil_iff, List.foldlM_nil]
      exact ⟨fun same => (Except.ok.inj same).symm, fun same => same ▸ rfl⟩
  | append_singleton occurrences occurrence ih =>
      simp only [List.foldlM_append, List.foldlM_cons, List.foldlM_nil, bind_pure, bind_ok_iff, ih,
        hasRead_concat_iff]

theorem arguments_ok_iff {args : List String} : start.arguments args = .ok progress ↔
    ∃ occurrences, Line args occurrences ∧ progress.HasRead occurrences := by
  have reads {occurrences : List Occurrence} (line : Line args occurrences) :
      start.arguments args = .ok progress ↔ progress.HasRead occurrences := by
    obtain ⟨ending, ends, rfl⟩ := line.spelled
    rw [arguments_words line.stand ends, settle_of_none rfl]
    exact foldlM_take_iff
  constructor
  · intro read
    obtain ⟨occurrences, line⟩ := line_of_arguments read
    exact ⟨occurrences, line, (reads line).mp read⟩
  · rintro ⟨occurrences, line, read⟩
    exact (reads line).mpr read

theorem check_ok_iff : progress.check = .ok options ↔
    progress.flags.length ≤ 1 ∧
      (progress.options.timeout.isSome = true → progress.flags ≠ []) ∧
      progress.options = options := by
  rw [check]
  split
  · rename_i several
    simp [several]
  · rename_i single
    simp [single]
  · rename_i none
    cases bounded : progress.options.timeout.isSome <;> simp [none]

end Progress

/-- Some options, one after the other, ask for what is given here. -/
structure Asks (occurrences : List Occurrence) (options : Options) : Prop where
  settings : ∀ setting, options.Says setting (valuesOf setting occurrences)
  single : (flagsOf occurrences).length ≤ 1
  marked : ∀ flag, options.has flag = decide (flag ∈ flagsOf occurrences)
  bounded : options.timeout.isSome = true → flagsOf occurrences ≠ []

theorem mem_modes_iff {options : Options} {flag : Flag} :
    flag ∈ options.modes ↔ options.has flag = true := by
  cases flag <;> simp [Options.modes, Options.has]

theorem eq_nil_or_singleton {α : Type} {as : List α} (short : as.length ≤ 1) :
    as = [] ∨ ∃ a, as = [a] := by
  rw [Nat.le_one_iff_eq_zero_or_eq_one, List.length_eq_zero_iff, List.length_eq_one_iff] at short
  exact short

theorem Asks.modes {occurrences : List Occurrence} {options : Options}
    (asks : Asks occurrences options) : flagsOf occurrences = options.modes := by
  obtain ⟨-, single, marked, -⟩ := asks
  rcases eq_nil_or_singleton single with raised | ⟨flag, raised⟩
  · simp [Options.modes, marked, raised]
  · simp only [raised, List.mem_singleton] at marked
    have mode : flag.IsMode := Progress.isMode_of_has ((marked flag).trans (decide_eq_true rfl))
    rw [raised]
    revert mode
    cases flag <;> simp [Flag.IsMode, Options.modes, marked]

theorem parse_ok_iff {args : List String} {options : Options} : parse args = .ok options ↔
    ∃ occurrences, Line args occurrences ∧ Asks occurrences options := by
  simp only [parse, bind_ok_iff, mapError_ok_iff, Progress.arguments_ok_iff, Progress.check_ok_iff]
  constructor
  · rintro ⟨progress, ⟨occurrences, line, read⟩, single, bounded, rfl⟩
    have marked := read.marked
    rw [read.flags] at single bounded marked
    exact ⟨occurrences, line, read.settings, single, marked, bounded⟩
  · rintro ⟨occurrences, line, asks⟩
    refine ⟨⟨options, flagsOf occurrences, none⟩, ⟨occurrences, line, ?_⟩, asks.single,
      asks.bounded, rfl⟩
    exact ⟨asks.settings, rfl, List.nodup_iff_count_le_one.mpr fun flag =>
      Nat.le_trans List.count_le_length asks.single, asks.marked, rfl⟩

/-!
Options written as a list of arguments. Whatever the order, and whether a value is attached to its
setting or follows it, reading the list gives the options back.
-/

open Text.Number (natural_repr)

/-- Options that can be asked for: no path is empty, there is one mode at most, and only who waits
bounds the wait. -/
structure Options.Coherent (options : Options) : Prop where
  config : options.config ≠ some ""
  logDir : options.logDir ≠ some ""
  single : options.modes.length ≤ 1
  bounded : options.timeout.isSome = true → options.wait = true

/-- All that some options say is written once, each decomposition and each dimension in its place
among its like. Numbers may have a plus and zeros in front. -/
structure Writes (occurrences : List Occurrence) (options : Options) : Prop where
  config : valuesOf .config occurrences = options.config.toList
  logDir : valuesOf .logDir occurrences = options.logDir.toList
  decompositions :
    valuesOf .decomposition occurrences = options.decompositions.map Decomposition.tag
  dimensions : List.Forall₂ (fun text n => Natural text.toList n.toNat)
    (valuesOf .dimension occurrences) options.dimensions
  timeout : List.Forall₂ (fun text n => Natural text.toList n.toNat)
    (valuesOf .timeout occurrences) options.timeout.toList
  modes : (flagsOf occurrences).Perm options.modes

variable {options : Options} {occurrences : List Occurrence}

theorem asks_of_writes (coherent : options.Coherent) (writes : Writes occurrences options) :
    Asks occurrences options where
  settings := by
    rintro (_ | _)
    · refine ⟨writes.config, fun empty => coherent.config ?_⟩
      rwa [writes.config, Option.mem_toList] at empty
    · refine ⟨writes.logDir, fun empty => coherent.logDir ?_⟩
      rwa [writes.logDir, Option.mem_toList] at empty
    · exact writes.decompositions
    · exact writes.dimensions.imp fun text n natural => .natural natural
    · exact writes.timeout
  single := writes.modes.length_eq ▸ coherent.single
  marked := by
    intro flag
    rw [Bool.eq_iff_iff, decide_eq_true_iff, writes.modes.mem_iff, mem_modes_iff]
  bounded := by
    intro bounded
    have waits : options.has .wait = true := coherent.bounded bounded
    exact List.ne_nil_of_mem (writes.modes.mem_iff.mpr (mem_modes_iff.mpr waits))

/-- Options that can be asked for come back from every list of arguments that writes them. -/
theorem parse_written (coherent : options.Coherent) (writes : Writes occurrences options)
    (stand : ∀ occurrence ∈ occurrences, occurrence.Stands) :
    parse (occurrences.flatMap Occurrence.words) = .ok options :=
  parse_ok_iff.mpr ⟨occurrences, ⟨stand, [], List.mem_cons_self, (List.append_nil _).symm⟩,
    asks_of_writes coherent writes⟩

/-- Values in both places, a path that looks like an option, and the largest numbers. -/
theorem parse_written_mixed :
    parse ["--dimension", "4294967295", "--log-dir=--check", "--decomposition=svd", "--wait",
        "--dimension=+03", "--decomposition", "tvb", "--timeout", "18446744073709551615",
        "--config", "a=b 'c'"] =
      .ok ⟨some "a=b 'c'", some "--check", [.svd, .tvb], [4294967295, 3], false, true,
        some 18446744073709551615, false⟩ := by
  let occurrences : List Occurrence := [.apart .dimension "4294967295",
    .attached .logDir "--check", .attached .decomposition "svd", .flag .wait,
    .attached .dimension "+03", .apart .decomposition "tvb",
    .apart .timeout "18446744073709551615", .apart .config "a=b 'c'"]
  let options : Options := ⟨some "a=b 'c'", some "--check", [.svd, .tvb], [4294967295, 3], false,
    true, some 18446744073709551615, false⟩
  have words : occurrences.flatMap Occurrence.words = ["--dimension", "4294967295",
      "--log-dir=--check", "--decomposition=svd", "--wait", "--dimension=+03", "--decomposition",
      "tvb", "--timeout", "18446744073709551615", "--config", "a=b 'c'"] := by decide +kernel
  have stand : ∀ occurrence ∈ occurrences, occurrence.Stands := by
    simp [occurrences, Occurrence.Stands, LooksLikeOption, Flag.IsMode]
  have three : Natural "+03".toList 3 :=
    .plus (by decide) ⟨[0, 3], .cons ⟨by decide, by decide⟩ (.cons ⟨by decide, by decide⟩ .nil),
      by decide⟩
  have coherent : options.Coherent := ⟨by decide, by decide, by decide, by decide⟩
  have writes : Writes occurrences options := {
    config := by decide +kernel
    logDir := by decide +kernel
    decompositions := by decide +kernel
    dimensions := .cons (natural_repr 4294967295) (.cons three .nil)
    timeout := .cons (natural_repr 18446744073709551615) .nil
    modes := List.Perm.refl _ }
  rw [← words]
  exact parse_written coherent writes stand

end BatchLaunch.CommandLine
