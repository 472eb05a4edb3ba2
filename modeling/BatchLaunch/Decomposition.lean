/-!
Matrix decomposition strategies and their tags. A tag is the one spelling of a strategy: in a
configuration, on the command line, among a job's arguments and in its log name.
-/
namespace BatchLaunch

inductive Decomposition where
  | tvb
  | qrt
  | svd
  deriving DecidableEq, Repr, Inhabited

namespace Decomposition

def all : List Decomposition := [tvb, qrt, svd]

def tag : Decomposition → String
  | tvb => "tvb"
  | qrt => "qrt"
  | svd => "svd"

def ofTag? (text : String) : Option Decomposition :=
  match text with
  | "tvb" => some tvb
  | "qrt" => some qrt
  | "svd" => some svd
  | _ => none

/-- Reads a tag in any mix of cases; only ASCII letters have a case here. -/
def ofTagIgnoringCase? (text : String) : Option Decomposition :=
  ofTag? (String.ofList (text.toList.map Char.toLower))

theorem ofTag?_tag (d : Decomposition) : ofTag? d.tag = some d := by
  cases d <;> rfl

theorem ofTag?_eq_some_iff {text : String} {d : Decomposition} :
    ofTag? text = some d ↔ text = d.tag := by
  constructor
  · intro known
    rw [ofTag?.eq_def] at known
    split at known <;> cases known <;> rfl
  · rintro rfl
    exact ofTag?_tag d

theorem tag_injective {a b : Decomposition} (h : a.tag = b.tag) : a = b := by
  have same := congrArg ofTag? h
  rw [ofTag?_tag, ofTag?_tag] at same
  exact Option.some.inj same

end Decomposition
end BatchLaunch
