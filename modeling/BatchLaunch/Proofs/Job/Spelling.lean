import BatchLaunch.Proofs.CommandLine.Meaning
import BatchLaunch.Proofs.Config.Described
import BatchLaunch.Proofs.Run.Parts
import Mathlib

/-!
A decomposition has one spelling: its tag is what a configuration and a command line read, what the
script is told and what the log's name starts with. So a text on the command line selects the jobs
that show this text.
-/
namespace BatchLaunch

/-! Texts in any mix of cases. -/

namespace Text

/-- One letter, small or capital, or else one character. Only ASCII letters have two cases. -/
def SameLetter (c d : Char) : Prop := c = d.toLower ∨ c = d.toUpper

/-- The texts differ in nothing but the cases of their letters. -/
def SameLetters (text other : String) : Prop :=
  List.Forall₂ SameLetter text.toList other.toList

theorem toLower_eq_iff {c d : Char} : c.toLower = d.toLower ↔ SameLetter c d := by
  constructor
  · intro same
    cases capital : c.isUpper with
    | false =>
        have small : c.toLower = c := Char.toLower_eq_of_not_isUpper (by simp [capital])
        exact .inl (small.symm.trans same)
    | true =>
        -- A capital is the capital of its small letter, and the small letters are the same.
        have large : c.toUpper = c :=
          Char.toUpper_eq_of_not_isLower (by simp [Char.not_isLower_of_isUpper capital])
        refine .inr ?_
        rw [← large, ← Char.toUpper_toLower_eq_toUpper, same, Char.toUpper_toLower_eq_toUpper]
  · rintro (rfl | rfl)
    · exact Char.toLower_toLower_eq_toLower d
    · exact Char.toLower_toUpper_eq_toLower d

theorem sameLetters_iff {text other : String} : SameLetters text other ↔
    text.toList.map Char.toLower = other.toList.map Char.toLower := by
  rw [← List.forall₂_eq_eq_eq, List.forall₂_map_left_iff, List.forall₂_map_right_iff]
  simp only [toLower_eq_iff]
  rfl

end Text

namespace Decomposition

theorem tag_lower (d : Decomposition) : d.tag.toList.map Char.toLower = d.tag.toList := by
  cases d <;> decide

theorem ofTagIgnoringCase?_eq_some_iff {text : String} {d : Decomposition} :
    ofTagIgnoringCase? text = some d ↔ Text.SameLetters text d.tag := by
  rw [ofTagIgnoringCase?, ofTag?_eq_some_iff, Text.sameLetters_iff, tag_lower, ← String.toList_inj,
    String.toList_ofList]

example : ofTagIgnoringCase? "sVd" = some .svd ∧ ofTagIgnoringCase? "ſvd" = none := by decide

end Decomposition

/-! What a configuration reads. -/

namespace Config.Decode

open Fallible (map_ok_iff)
open Yaml (Document Item Style)

variable {document : Document} {draft : JobDraft} {text : String} {style : Style}
  {rest rest' : List Item} {d : Decomposition}

theorem through_decomposition_ok_iff :
    through document decomposition (.scalar none text style :: rest) = .ok (d, rest') ↔
      text = d.tag ∧ rest' = rest := by
  have takes := takes_decomposition.through document (.scalar text style) rest d rest'
  simpa [Yaml.Node.items, Yaml.Node.IsText] using takes

theorem put_decomposition_ok_iff :
    draft.put document "decomposition" (.scalar none text style :: rest) =
      .ok ({ draft with decomposition := some d }, rest) ↔ text = d.tag := by
  simp only [JobDraft.put, map_ok_iff]
  constructor
  · rintro ⟨⟨found, behind⟩, read, same⟩
    cases same
    exact (through_decomposition_ok_iff.mp read).1
  · intro spelled
    exact ⟨(d, rest), through_decomposition_ok_iff.mpr ⟨spelled, rfl⟩, rfl⟩

end Config.Decode

/-! What a command line reads. -/

namespace CommandLine

variable {options : Options} {occurrence : Occurrence} {text : String}

/-- One decomposition is asked for, and nothing else. -/
def Options.only (d : Decomposition) : Options := { Options.default with decompositions := [d] }

theorem Options.only_coherent (d : Decomposition) : (Options.only d).Coherent where
  config := nofun
  logDir := nofun
  single := Nat.zero_le 1
  bounded := nofun

theorem not_looksLikeOption_tag (d : Decomposition) : ¬ LooksLikeOption d.tag := by
  cases d <;> simp [LooksLikeOption, Decomposition.tag]

/-- The ways to name a decomposition on a command line. -/
def naming (text : String) : List Occurrence :=
  [.attached .decomposition text, .apart .decomposition text]

example : (naming "svd").map Occurrence.words =
    [["--decomposition=svd"], ["--decomposition", "svd"]] := by
  decide

theorem valuesOf_naming (names : occurrence ∈ naming text) :
    valuesOf .decomposition [occurrence] = [text] := by
  rcases List.mem_pair.mp names with rfl | rfl <;> rfl

theorem stands_of_naming {d : Decomposition} (names : occurrence ∈ naming d.tag) :
    occurrence.Stands := by
  rcases List.mem_pair.mp names with rfl | rfl
  · trivial
  · exact not_looksLikeOption_tag d

theorem writes_of_naming {d : Decomposition} (names : occurrence ∈ naming d.tag) :
    Writes [occurrence] (.only d) := by
  rcases List.mem_pair.mp names with rfl | rfl <;> exact ⟨rfl, rfl, rfl, .nil, .nil, .rfl⟩

theorem parse_naming_tag {d : Decomposition} (names : occurrence ∈ naming d.tag) :
    parse occurrence.words = .ok (.only d) := by
  have nothing : Line [] [] := ⟨nofun, [], List.mem_cons_self, rfl⟩
  have line := nothing.cons (stands_of_naming names)
  rw [List.append_nil] at line
  exact parse_ok_iff.mpr
    ⟨[occurrence], line, asks_of_writes (Options.only_coherent d) (writes_of_naming names)⟩

/-- A command line that names a decomposition and says nothing else is accepted for a tag only. -/
theorem parse_naming_iff (names : occurrence ∈ naming text) :
    parse occurrence.words = .ok options ↔
      ∃ d : Decomposition, text = d.tag ∧ options = .only d := by
  constructor
  · intro accepted
    obtain ⟨occurrences, line, asks⟩ := parse_ok_iff.mp accepted
    have said : [text] = options.decompositions.map Decomposition.tag := by
      rw [← valuesOf_naming names, ← line.single]
      exact asks.settings .decomposition
    obtain ⟨d, -, rfl⟩ := List.map_eq_singleton_iff.mp said.symm
    exact ⟨d, rfl, Except.ok.inj (accepted.symm.trans (parse_naming_tag names))⟩
  · rintro ⟨d, rfl, rfl⟩
    exact parse_naming_tag names

theorem parse_naming_only_iff {d : Decomposition} (names : occurrence ∈ naming text) :
    parse occurrence.words = .ok (.only d) ↔ text = d.tag := by
  rw [parse_naming_iff names]
  constructor
  · rintro ⟨other, rfl, same⟩
    have decompositions : [d] = [other] := congrArg Options.decompositions same
    rw [List.singleton_inj.mp decompositions]
  · intro spelled
    exact ⟨d, spelled, rfl⟩

end CommandLine

/-! What a job shows of its decomposition, and which jobs a text selects. -/

namespace Job

variable {job : Job} {text : String}

/-- The script is told a text in the fourth place, and the log's name is made of it and the
dimension. -/
def Shows (job : Job) (text : String) : Prop :=
  job.scriptArgs[3]? = some text ∧ job.logName = text ++ decimal job.dimension ++ ".out"

instance (job : Job) (text : String) : Decidable (job.Shows text) :=
  inferInstanceAs (Decidable (_ ∧ _))

theorem shows_iff : job.Shows text ↔ text = job.decomposition.tag := by
  constructor
  · rintro ⟨told, -⟩
    exact (Option.some.inj told).symm
  · rintro rfl
    exact ⟨rfl, rfl⟩

theorem logName_eq_spelled_iff {d : Decomposition} {n : UInt32} :
    job.logName = d.tag ++ decimal n ++ ".out" ↔ job.decomposition = d ∧ job.dimension = n :=
  job.logName_eq_iff { job with decomposition := d, dimension := n }

/-- The last part of a log's path tells as much as the name alone, wherever the logs are put. -/
theorem lastPart_eq_iff (dir : String) (a b : Job) :
    (Text.cutAt '/' (Path.join dir a.logName)).getLast? =
      (Text.cutAt '/' (Path.join dir b.logName)).getLast? ↔ a.SameLog b := by
  rw [Path.getLast?_join dir a.logName_isName, Path.getLast?_join dir b.logName_isName,
    Option.some.injEq, logName_eq_iff]

theorem told_iff {d : Decomposition} :
    (∀ job : Job, job.decomposition = d → job.scriptArgs[3]? = some text) ↔ text = d.tag := by
  constructor
  · intro told
    exact (Option.some.inj (told ⟨0, "", 0, "", d, "", 0⟩ rfl)).symm
  · rintro rfl job rfl
    rfl

end Job

namespace CommandLine

variable {options : Options} {occurrences : List Occurrence} {text : String}

/-- The jobs of a batch that a command line selects. One that is not accepted selects none. -/
def selected (config : Config) (args : List String) : List Job :=
  match parse args with
  | .ok options => config.select options.selection
  | .error _ => []

theorem lets_decompositions_iff (asks : Asks occurrences options) (job : Job) :
    Lets options.decompositions job.decomposition ↔
      valuesOf .decomposition occurrences = [] ∨
        ∃ text ∈ valuesOf .decomposition occurrences, job.Shows text := by
  have said : valuesOf .decomposition occurrences =
      options.decompositions.map Decomposition.tag := asks.settings .decomposition
  have tagged : Function.Injective Decomposition.tag := fun _ _ => Decomposition.tag_injective
  simp only [Lets, said, List.map_eq_nil_iff, Job.shows_iff, exists_eq_right,
    List.mem_map_of_injective tagged]

/-- A job is selected if it shows one of the decompositions named, or none is named, and its
dimension is let through. -/
theorem select_of_asks (asks : Asks occurrences options) (config : Config) :
    config.select options.selection = config.jobs.filter fun job =>
      (valuesOf .decomposition occurrences = [] ∨
        ∃ text ∈ valuesOf .decomposition occurrences, job.Shows text) ∧
      Lets options.dimensions job.dimension := by
  refine List.filter_congr fun job _ => ?_
  rw [Bool.eq_iff_iff, Selection.admits_iff, decide_eq_true_iff]
  exact and_congr_left' (lets_decompositions_iff asks job)

theorem selected_naming {occurrence : Occurrence} (names : occurrence ∈ naming text)
    (config : Config) :
    selected config occurrence.words = config.jobs.filter fun job => job.Shows text := by
  rw [selected]
  split
  · rename_i options accepted
    obtain ⟨occurrences, line, asks⟩ := parse_ok_iff.mp accepted
    obtain ⟨d, -, rfl⟩ := (parse_naming_iff names).mp accepted
    rw [select_of_asks asks, line.single, valuesOf_naming names]
    simp [Lets, Options.only, Options.default]
  · rename_i stop refused
    -- A text that some job shows is a tag and would have been accepted.
    refine (List.filter_eq_nil_iff.mpr fun job _ shows => ?_).symm
    have accepted := (parse_naming_iff names).mpr
      ⟨job.decomposition, Job.shows_iff.mp (of_decide_eq_true shows), rfl⟩
    rw [refused] at accepted
    cases accepted

end CommandLine

namespace Decomposition

open CommandLine (Line Options naming parse selected valuesOf)
open Config.Decode (JobDraft)
open Yaml (Document Item Style)

/-- A configuration and a command line read a text as a decomposition exactly if the text is its
tag, which is what the script is told; in any mix of cases exactly if the text has the letters of
the tag. The log's name tells the decomposition together with the dimension. So naming a text
selects the jobs that show it, alone and among all that a command line says. -/
theorem one_spelling :
    (∀ (text : String) (d : Decomposition),
      (∀ (document : Document) (style : Style) (rest rest' : List Item),
        Config.Decode.through document Config.Decode.decomposition
            (.scalar none text style :: rest) = .ok (d, rest') ↔ text = d.tag ∧ rest' = rest) ∧
      (∀ (document : Document) (draft : JobDraft) (style : Style) (rest : List Item),
        draft.put document "decomposition" (.scalar none text style :: rest) =
          .ok ({ draft with decomposition := some d }, rest) ↔ text = d.tag) ∧
      (CommandLine.Progress.decomposition text = .ok d ↔ text = d.tag) ∧
      (∀ occurrence ∈ naming text, parse occurrence.words = .ok (.only d) ↔ text = d.tag) ∧
      ((∀ job : Job, job.decomposition = d → job.scriptArgs[3]? = some text) ↔ text = d.tag) ∧
      (ofTagIgnoringCase? text = some d ↔ Text.SameLetters text d.tag)) ∧
    (∀ (text : String), ∀ occurrence ∈ naming text, ∀ options : Options,
      parse occurrence.words = .ok options ↔
        ∃ d : Decomposition, text = d.tag ∧ options = .only d) ∧
    (∀ (job : Job) (d : Decomposition) (n : UInt32),
      job.logName = d.tag ++ decimal n ++ ".out" ↔ job.decomposition = d ∧ job.dimension = n) ∧
    (∀ a b : Job, a.logName = b.logName ↔
      a.decomposition = b.decomposition ∧ a.dimension = b.dimension) ∧
    (∀ (dir : String) (a b : Job),
      (Text.cutAt '/' (Path.join dir a.logName)).getLast? =
          (Text.cutAt '/' (Path.join dir b.logName)).getLast? ↔
        a.decomposition = b.decomposition ∧ a.dimension = b.dimension) ∧
    (∀ (config : Config) (text : String), ∀ occurrence ∈ naming text,
      selected config occurrence.words = config.jobs.filter fun job => job.Shows text) ∧
    ∀ (config : Config) (args : List String) (options : Options), parse args = .ok options →
      ∃ occurrences, Line args occurrences ∧
        config.select options.selection = config.jobs.filter fun job =>
          (valuesOf .decomposition occurrences = [] ∨
            ∃ text ∈ valuesOf .decomposition occurrences, job.Shows text) ∧
          Lets options.dimensions job.dimension := by
  refine ⟨fun text d => ⟨?_, ?_, ?_, ?_, ?_, ?_⟩, ?_, ?_, Job.logName_eq_iff,
    Job.lastPart_eq_iff, ?_, ?_⟩
  · intro document style rest rest'
    exact Config.Decode.through_decomposition_ok_iff
  · intro document draft style rest
    exact Config.Decode.put_decomposition_ok_iff
  · exact CommandLine.Progress.decomposition_eq_ok_iff
  · intro occurrence names
    exact CommandLine.parse_naming_only_iff names
  · exact Job.told_iff
  · exact ofTagIgnoringCase?_eq_some_iff
  · intro text occurrence names options
    exact CommandLine.parse_naming_iff names
  · intro job d n
    exact Job.logName_eq_spelled_iff
  · intro config text occurrence names
    exact CommandLine.selected_naming names config
  · intro config args options accepted
    obtain ⟨occurrences, line, asks⟩ := CommandLine.parse_ok_iff.mp accepted
    exact ⟨occurrences, line, CommandLine.select_of_asks asks config⟩

/-- Two decompositions and a dimension, beside one that is named alone. -/
theorem one_spelling_builtin :
    selected .builtin ["--decomposition", "qrt"] =
        Config.builtin.jobs.filter (fun job => job.Shows "qrt") ∧
      parse ["--decomposition", "svd", "--dimension=3", "--decomposition=tvb"] =
        .ok { Options.default with decompositions := [.svd, .tvb], dimensions := [3] } ∧
      (Config.builtin.select ⟨[.svd, .tvb], [3]⟩).map Job.logName = ["tvb3.out", "svd3.out"] := by
  have accepted : parse ["--decomposition", "svd", "--dimension=3", "--decomposition=tvb"] =
      .ok { Options.default with decompositions := [.svd, .tvb], dimensions := [3] } := by
    decide +kernel
  obtain ⟨-, -, -, -, -, alone, among⟩ := one_spelling
  obtain ⟨occurrences, line, chosen⟩ := among .builtin _ _ accepted
  have written : Line ["--decomposition", "svd", "--dimension=3", "--decomposition=tvb"]
      [.apart .decomposition "svd", .attached .dimension "3", .attached .decomposition "tvb"] :=
    ⟨by simp [CommandLine.Occurrence.Stands, CommandLine.LooksLikeOption], [],
      List.mem_cons_self, by decide⟩
  obtain rfl := line.unique written
  have jobs : (Config.builtin.select ⟨[.svd, .tvb], [3]⟩).map Job.logName =
      ["tvb3.out", "svd3.out"] := (congrArg (List.map Job.logName) chosen).trans (by decide +kernel)
  exact ⟨alone .builtin "qrt" (.apart .decomposition "qrt") (by decide), accepted, jobs⟩

end Decomposition
end BatchLaunch
