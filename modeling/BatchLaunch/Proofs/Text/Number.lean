import BatchLaunch.Proofs.Fallible
import BatchLaunch.Proofs.Yaml.Number
import BatchLaunch.Text.Number

/-!
How decimal numbers of a bounded range are written: digits, with any number of zeros in front and
perhaps behind a sign. Reading takes these texts, and no others, as long as their number is in
range.
-/
namespace BatchLaunch.Text.Number

open Fallible (bind_ok_iff map_ok_iff)
open Yaml (Positional)

/-- A number without a minus sign, as it may be written. -/
inductive Natural : List Char → Nat → Prop
  | bare {digits : List Char} {n : Nat} (nonempty : digits ≠ []) (value : Positional 10 digits n) :
      Natural digits n
  | plus {digits : List Char} {n : Nat} (nonempty : digits ≠ []) (value : Positional 10 digits n) :
      Natural ('+' :: digits) n

/-- A number as it may be written. -/
inductive Integer : List Char → Int → Prop
  | natural {text : List Char} {n : Nat} (natural : Natural text n) : Integer text n
  | minus {digits : List Char} {n : Nat} (nonempty : digits ≠ [])
      (value : Positional 10 digits n) : Integer ('-' :: digits) (-n)

variable {limit front n : Nat} {excess : NumberFault} {chars : List Char} {text : String} {c : Char}

theorem digitValue?_of_isDigit (decimal : c.isDigit = true) :
    Yaml.digitValue? c = some (c.toNat - '0'.toNat) ∧ c.toNat - '0'.toNat < 10 := by
  have range := Char.isDigit_iff_toNat.mp decimal
  have ends : '0'.toNat = 48 ∧ '9'.toNat = 57 := ⟨rfl, rfl⟩
  exact ⟨by rw [Yaml.digitValue?, if_pos decimal], by omega⟩

theorem isDigit_of_digitValue? {value : Nat} (found : Yaml.digitValue? c = some value)
    (small : value < 10) : c.isDigit = true := by
  refine Decidable.byContradiction fun letter => ?_
  rw [Yaml.digitValue?, if_neg letter] at found
  split at found
  · cases found
    omega
  · split at found
    · cases found
      omega
    · cases found

theorem le_of_digitsValue? (found : Yaml.digitsValue? 10 front chars = some n) : front ≤ n := by
  obtain ⟨values, -, rfl⟩ := (Yaml.digitsValue?_eq_some_iff (by decide)).mp found
  exact Nat.le_add_right_of_le (Nat.le_mul_of_pos_right front (by positivity))

/-- As the number only grows with more digits, stopping at the limit is the same as looking at the
end whether it was passed. -/
theorem digits_eq_ok_iff (within : front ≤ limit) :
    digits limit excess front chars = .ok n ↔
      Yaml.digitsValue? 10 front chars = some n ∧ n ≤ limit := by
  induction chars generalizing front with
  | nil =>
      simp only [digits, Yaml.digitsValue?, Except.ok.injEq, Option.some.injEq]
      exact ⟨fun same => ⟨same, same ▸ within⟩, And.left⟩
  | cons c rest ih =>
      rw [digits, Yaml.digitsValue?]
      by_cases decimal : c.isDigit = true
      · obtain ⟨value, small⟩ := digitValue?_of_isDigit decimal
        simp only [decimal, value, small, if_true]
        split
        · rename_i fits
          exact ih fits
        · rename_i passes
          simp only [reduceCtorEq, false_iff, not_and]
          intro found bound
          exact passes (Nat.le_trans (le_of_digitsValue? found) bound)
      · simp only [decimal, Bool.false_eq_true, if_false, reduceCtorEq, false_iff, not_and]
        intro found
        split at found
        · cases found
        · rename_i value letter
          split at found
          · rename_i small
            exact absurd (isDigit_of_digitValue? letter small) decimal
          · cases found

theorem magnitude_eq_ok_iff : magnitude limit excess chars = .ok n ↔
    chars ≠ [] ∧ Positional 10 chars n ∧ n ≤ limit := by
  cases chars with
  | nil => simp [magnitude]
  | cons c rest =>
      have read : magnitude limit excess (c :: rest) = digits limit excess 0 (c :: rest) := rfl
      rw [read, digits_eq_ok_iff (Nat.zero_le limit), Yaml.digitsValue?_eq_some_iff (by decide)]
      simp [Positional]

theorem not_positional_sign (sign : c.isDigit = false) : ¬ Positional 10 (c :: chars) n := by
  rintro ⟨values, spelled, -⟩
  obtain ⟨value, -, digit, -⟩ := List.forall₂_cons_left_iff.mp spelled
  obtain ⟨found, small⟩ := (Yaml.isDigit_iff (by decide)).mp digit
  rw [isDigit_of_digitValue? found small] at sign
  cases sign

theorem natural_plus : Natural ('+' :: chars) n ↔ chars ≠ [] ∧ Positional 10 chars n := by
  constructor
  · intro natural
    cases natural with
    | bare nonempty value => exact absurd value (not_positional_sign (by decide))
    | plus nonempty value => exact ⟨nonempty, value⟩
  · rintro ⟨nonempty, value⟩
    exact .plus nonempty value

theorem natural_of_ne_plus (bare : ∀ rest, chars ≠ '+' :: rest) :
    Natural chars n ↔ chars ≠ [] ∧ Positional 10 chars n := by
  constructor
  · intro natural
    cases natural with
    | bare nonempty value => exact ⟨nonempty, value⟩
    | plus nonempty value => exact absurd rfl (bare _)
  · rintro ⟨nonempty, value⟩
    exact .bare nonempty value

theorem integer_minus {z : Int} : Integer ('-' :: chars) z ↔
    ∃ n : Nat, (chars ≠ [] ∧ Positional 10 chars n) ∧ -(n : Int) = z := by
  constructor
  · intro integer
    cases integer with
    | natural natural =>
        cases natural with
        | bare nonempty value => exact absurd value (not_positional_sign (by decide))
    | minus nonempty value => exact ⟨_, ⟨nonempty, value⟩, rfl⟩
  · rintro ⟨n, ⟨nonempty, value⟩, rfl⟩
    exact .minus nonempty value

theorem integer_of_ne_minus (bare : ∀ rest, chars ≠ '-' :: rest) {z : Int} :
    Integer chars z ↔ ∃ n : Nat, Natural chars n ∧ (n : Int) = z := by
  constructor
  · intro integer
    cases integer with
    | natural natural => exact ⟨_, natural, rfl⟩
    | minus nonempty value => exact absurd rfl (bare _)
  · rintro ⟨n, natural, rfl⟩
    exact .natural natural

theorem unsigned_eq_ok_iff :
    unsigned limit text = .ok n ↔ Natural text.toList n ∧ n ≤ limit := by
  rw [unsigned.eq_def]
  split
  · rename_i empty
    rw [empty, natural_of_ne_plus (by simp)]
    simp
  · rename_i rest signed
    rw [signed, natural_plus, magnitude_eq_ok_iff, and_assoc]
  · rename_i unsigned
    rw [natural_of_ne_plus unsigned, magnitude_eq_ok_iff, and_assoc]

theorem map_magnitude_eq_ok_iff {z : Int} :
    (magnitude limit excess chars).map Int.ofNat = .ok z ↔
      (∃ n : Nat, (chars ≠ [] ∧ Positional 10 chars n) ∧ (n : Int) = z) ∧
        -(limit + 1 : Nat) ≤ z ∧ z ≤ limit := by
  simp only [map_ok_iff, magnitude_eq_ok_iff, Int.ofNat_eq_natCast]
  constructor
  · rintro ⟨n, ⟨nonempty, value, bound⟩, rfl⟩
    exact ⟨⟨n, ⟨nonempty, value⟩, rfl⟩, by omega, by omega⟩
  · rintro ⟨⟨n, ⟨nonempty, value⟩, rfl⟩, -, bound⟩
    exact ⟨n, ⟨nonempty, value, by omega⟩, rfl⟩

theorem signed_eq_ok_iff {z : Int} : signed limit text = .ok z ↔
    Integer text.toList z ∧ -(limit + 1 : Nat) ≤ z ∧ z ≤ limit := by
  rw [signed.eq_def]
  split
  · rename_i empty
    rw [empty, integer_of_ne_minus (by simp)]
    simp [natural_of_ne_plus]
  · rename_i rest plus
    rw [plus, integer_of_ne_minus (by simp), map_magnitude_eq_ok_iff]
    simp only [natural_plus]
  · rename_i rest minus
    rw [minus, integer_minus]
    simp only [map_ok_iff, bind_ok_iff, magnitude_eq_ok_iff]
    constructor
    · rintro ⟨_, ⟨n, ⟨nonempty, value, bound⟩, ⟨⟩⟩, rfl⟩
      exact ⟨⟨n, ⟨nonempty, value⟩, rfl⟩, by omega, by omega⟩
    · rintro ⟨⟨n, ⟨nonempty, value⟩, rfl⟩, bound, -⟩
      exact ⟨n, ⟨n, ⟨nonempty, value, by omega⟩, rfl⟩, rfl⟩
  · rename_i nonempty plus minus
    rw [integer_of_ne_minus minus, map_magnitude_eq_ok_iff]
    simp only [natural_of_ne_plus plus]

theorem natural_repr (n : Nat) : Natural (Nat.repr n).toList n := by
  rw [Nat.toList_repr]
  exact .bare Nat.toDigits_ne_nil (Yaml.positional_toDigits n)

end BatchLaunch.Text.Number
