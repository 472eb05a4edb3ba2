import BatchLaunch.CommandLine.Parse
import BatchLaunch.Proofs.Text.Number

/-!
Lists of arguments as they are written: one option after the other, a setting with its value either
attached to it or in the next argument. A list of arguments can be taken for such options in one way
at most.
-/
namespace BatchLaunch.CommandLine

/-- An option in a list of arguments, and where its value stands. -/
inductive Occurrence where
  | flag (flag : Flag)
  | attached (setting : Setting) (value : String)
  | apart (setting : Setting) (value : String)
  deriving DecidableEq, Repr

def Setting.dashed (setting : Setting) : String := "--" ++ setting.name

/-- The flag stands for a mode and does not only ask what the program is. -/
def Flag.IsMode (flag : Flag) : Prop := flag ∉ [.help, .version]

instance (flag : Flag) : Decidable flag.IsMode := inferInstanceAs (Decidable (_ ∉ _))

/-- A dash with something behind it is no value for an option before it. -/
def LooksLikeOption (text : String) : Prop := ∃ c rest, text.toList = '-' :: c :: rest

namespace Occurrence

/-- The arguments that an option takes up. -/
def words : Occurrence → List String
  | flag raised => [raised.spelling]
  | attached setting value => [setting.dashed ++ "=" ++ value]
  | apart setting value => [setting.dashed, value]

/-- The option can stand in a list of arguments that is accepted. -/
def Stands : Occurrence → Prop
  | flag raised => raised.IsMode
  | attached _ _ => True
  | apart _ value => ¬ LooksLikeOption value

def flag? : Occurrence → Option Flag
  | flag raised => some raised
  | _ => none

/-- The value, if it is one for a setting. -/
def value? (setting : Setting) : Occurrence → Option String
  | flag _ => none
  | attached other value | apart other value => if other = setting then some value else none

end Occurrence

def flagsOf (occurrences : List Occurrence) : List Flag := occurrences.filterMap Occurrence.flag?

/-- The values that a setting is given, in order. -/
def valuesOf (setting : Setting) (occurrences : List Occurrence) : List String :=
  occurrences.filterMap (Occurrence.value? setting)

/-- A list of arguments consists of options. Their end may be marked. -/
structure Line (args : List String) (occurrences : List Occurrence) : Prop where
  stand : ∀ occurrence ∈ occurrences, occurrence.Stands
  spelled : ∃ ending ∈ [[], ["--"]], args = occurrences.flatMap Occurrence.words ++ ending

namespace Flag

theorem ofName?_eq_some {name : String} {flag : Flag} :
    ofName? name = some flag ↔ name = flag.name := by
  constructor
  · intro found
    rw [ofName?.eq_def] at found
    split at found <;> cases found <;> rfl
  · rintro rfl
    cases flag <;> rfl

end Flag

namespace Setting

theorem ofName?_eq_some {name : String} {setting : Setting} :
    ofName? name = some setting ↔ name = setting.name := by
  constructor
  · intro found
    rw [ofName?.eq_def] at found
    split at found <;> cases found <;> rfl
  · rintro rfl
    cases setting <;> rfl

theorem flag_ofName? (setting : Setting) : Flag.ofName? setting.name = none := by
  cases setting <;> rfl

end Setting

open Progress (cutValue)

theorem cutValue_append {name : List Char} (plain : '=' ∉ name) (rest : List Char) :
    cutValue (name ++ rest) = (name ++ (cutValue rest).1, (cutValue rest).2) := by
  induction name with
  | nil => rfl
  | cons c name ih =>
      simp only [List.mem_cons, not_or] at plain
      rw [List.cons_append, cutValue, if_neg (Ne.symm plain.1), ih plain.2]
      rfl

theorem eq_of_cutValue {text name : List Char} {value : Option (List Char)}
    (cut : cutValue text = (name, value)) : text = name ++ value.elim [] ('=' :: ·) := by
  induction text generalizing name with
  | nil =>
      cases cut
      rfl
  | cons c text ih =>
      rw [cutValue] at cut
      split at cut
      · rename_i mark
        cases cut
        rw [mark]
        rfl
      · cases cut
        rw [List.cons_append]
        exact congrArg (c :: ·) (ih rfl)

theorem Flag.name_ne_nil (flag : Flag) : flag.name.toList ≠ [] := by
  cases flag <;> decide

theorem Setting.name_ne_nil (setting : Setting) : setting.name.toList ≠ [] := by
  cases setting <;> decide

theorem Flag.equals_not_mem_name (flag : Flag) : '=' ∉ flag.name.toList := by
  cases flag <;> decide

theorem Setting.equals_not_mem_name (setting : Setting) : '=' ∉ setting.name.toList := by
  cases setting <;> decide

/-- What the first argument of an option says: a name, and a value if one is attached. -/
def Occurrence.cut : Occurrence → List Char × Option (List Char)
  | flag raised => (raised.name.toList, none)
  | attached setting value => (setting.name.toList, some value.toList)
  | apart setting _ => (setting.name.toList, none)

theorem Occurrence.words_cut (occurrence : Occurrence) :
    ∃ text behind chars, occurrence.words = text :: behind ∧
      text.toList = '-' :: '-' :: chars ∧ cutValue chars = occurrence.cut := by
  have named {name : String} (plain : '=' ∉ name.toList) :
      cutValue name.toList = (name.toList, none) := by
    have cut := cutValue_append plain []
    simpa [cutValue] using cut
  cases occurrence with
  | flag raised =>
      exact ⟨_, _, raised.name.toList, rfl, by simp [Flag.spelling],
        named raised.equals_not_mem_name⟩
  | attached setting value =>
      refine ⟨_, _, setting.name.toList ++ '=' :: value.toList, rfl, by simp [Setting.dashed], ?_⟩
      rw [cutValue_append setting.equals_not_mem_name]
      simp [cutValue, cut]
  | apart setting value =>
      exact ⟨_, _, setting.name.toList, rfl, by simp [Setting.dashed],
        named setting.equals_not_mem_name⟩

theorem Flag.name_ne_name (flag : Flag) (setting : Setting) : flag.name ≠ setting.name := by
  intro same
  have none := setting.flag_ofName?
  rw [Flag.ofName?_eq_some.mpr same.symm] at none
  cases none

theorem Flag.name_injective {one other : Flag} (same : one.name = other.name) : one = other := by
  have found := Flag.ofName?_eq_some.mpr same
  rw [Flag.ofName?_eq_some.mpr rfl] at found
  exact Option.some.inj found

theorem Setting.name_injective {one other : Setting} (same : one.name = other.name) :
    one = other := by
  have found := Setting.ofName?_eq_some.mpr same
  rw [Setting.ofName?_eq_some.mpr rfl] at found
  exact Option.some.inj found

theorem Occurrence.words_append_inj {one other : Occurrence} {rest rest' : List String}
    (same : one.words ++ rest = other.words ++ rest') : one = other ∧ rest = rest' := by
  have cut : one.cut = other.cut := by
    obtain ⟨text, behind, chars, words, spelled, cut⟩ := one.words_cut
    obtain ⟨text', behind', chars', words', spelled', cut'⟩ := other.words_cut
    rw [words, words'] at same
    obtain rfl := (List.cons.inj same).1
    rw [spelled] at spelled'
    cases spelled'
    rw [← cut, ← cut']
  cases one <;> cases other <;>
    simp only [Occurrence.cut, Prod.mk.injEq, String.toList_inj, Option.some.injEq, reduceCtorEq,
      and_true, and_false] at cut
  case flag.flag =>
    cases Flag.name_injective cut
    exact ⟨rfl, List.append_cancel_left same⟩
  case flag.apart => exact absurd cut (Flag.name_ne_name _ _)
  case attached.attached =>
    obtain ⟨setting, rfl⟩ := cut
    cases Setting.name_injective setting
    exact ⟨rfl, List.append_cancel_left same⟩
  case apart.flag => exact absurd cut.symm (Flag.name_ne_name _ _)
  case apart.apart =>
    cases Setting.name_injective cut
    simp only [words, List.cons_append, List.nil_append, List.cons.injEq, true_and] at same
    exact ⟨by rw [same.1], same.2⟩

theorem Occurrence.words_ne_dashes (occurrence : Occurrence) (rest rest' : List String) :
    occurrence.words ++ rest ≠ "--" :: rest' := by
  intro same
  obtain ⟨text, behind, chars, words, spelled, cut⟩ := occurrence.words_cut
  rw [words] at same
  obtain rfl := (List.cons.inj same).1
  cases spelled
  have nameless : occurrence.cut.1 ≠ [] := by
    cases occurrence with
    | flag raised => exact raised.name_ne_nil
    | attached setting value => exact setting.name_ne_nil
    | apart setting value => exact setting.name_ne_nil
  rw [← cut] at nameless
  exact nameless rfl

theorem Occurrence.words_ne_ending (occurrence : Occurrence) (rest : List String)
    {ending : List String} (ends : ending ∈ [[], ["--"]]) :
    occurrence.words ++ rest ≠ ending := by
  rw [List.mem_cons, List.mem_singleton] at ends
  rcases ends with rfl | rfl
  · cases occurrence <;> nofun
  · exact occurrence.words_ne_dashes rest []

theorem Line.cons {args : List String} {occurrence : Occurrence} {occurrences : List Occurrence}
    (stands : occurrence.Stands) (line : Line args occurrences) :
    Line (occurrence.words ++ args) (occurrence :: occurrences) where
  stand := List.forall_mem_cons.mpr ⟨stands, line.stand⟩
  spelled := by
    obtain ⟨ending, ends, rfl⟩ := line.spelled
    exact ⟨ending, ends, by rw [List.flatMap_cons, List.append_assoc]⟩

theorem Line.unique {args : List String} {occurrences others : List Occurrence}
    (line : Line args occurrences) (other : Line args others) : occurrences = others := by
  obtain ⟨ending, ends, spelled⟩ := line.spelled
  obtain ⟨ending', ends', spelled'⟩ := other.spelled
  rw [spelled'] at spelled
  clear line other spelled'
  induction occurrences generalizing others with
  | nil =>
      cases others with
      | nil => rfl
      | cons occurrence others =>
          rw [List.flatMap_cons, List.append_assoc] at spelled
          exact absurd spelled (Occurrence.words_ne_ending _ _ ends)
  | cons occurrence occurrences ih =>
      cases others with
      | nil =>
          rw [List.flatMap_cons, List.append_assoc] at spelled
          exact absurd spelled.symm (Occurrence.words_ne_ending _ _ ends')
      | cons other others =>
          rw [List.flatMap_cons, List.append_assoc, List.flatMap_cons, List.append_assoc] at spelled
          obtain ⟨rfl, later⟩ := Occurrence.words_append_inj spelled
          rw [ih later]

theorem Line.single {occurrence : Occurrence} {occurrences : List Occurrence}
    (line : Line occurrence.words occurrences) : occurrences = [occurrence] := by
  obtain ⟨ending, ends, spelled⟩ := line.spelled
  rw [← List.append_nil occurrence.words] at spelled
  cases occurrences with
  | nil => exact absurd spelled (occurrence.words_ne_ending [] ends)
  | cons first others =>
      rw [List.flatMap_cons, List.append_assoc] at spelled
      obtain ⟨rfl, nothing⟩ := Occurrence.words_append_inj spelled
      cases others with
      | nil => rfl
      | cons other others =>
          rw [List.flatMap_cons, List.append_assoc] at nothing
          exact absurd nothing.symm (other.words_ne_ending _ List.mem_cons_self)

end BatchLaunch.CommandLine
