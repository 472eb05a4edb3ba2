import BatchLaunch.Job
import BatchLaunch.Proofs.Yaml.Scalars
import BatchLaunch.Yaml.Number
import Mathlib.Data.Nat.Digits.Lemmas

/-!
How unsigned integers are written, told by the rules of the notation: perhaps a plus, then decimal
digits without a leading zero, or digits in base 16, 8 or 2 behind a mark. Reading takes these texts
and no others, and gives the number that the digits stand for. A count that is written in decimal is
one of them.
-/
namespace BatchLaunch.Yaml

/-- A digit of a base with its value. Letters may be of either case. -/
structure IsDigit (base : Nat) (c : Char) (value : Nat) : Prop where
  small : value < base
  spelled : c.toLower = Nat.digitChar value

/-- Digits, the most significant one first, and the number that they stand for. -/
def Positional (base : Nat) (digits : List Char) (n : Nat) : Prop :=
  ∃ values, List.Forall₂ (IsDigit base) digits values ∧ Nat.ofDigits base values.reverse = n

/-- The marks that tell a base. -/
inductive Mark : Char → Nat → Prop
  | hexadecimal : Mark 'x' 16
  | octal : Mark 'o' 8
  | binary : Mark 'b' 2

inductive Magnitude : List Char → Nat → Prop
  | decimal {digits : List Char} {n : Nat} (nonempty : digits ≠ [])
      (noLeadingZero : digits.head? = some '0' → digits = ['0'])
      (value : Positional 10 digits n) : Magnitude digits n
  | marked {mark : Char} {base : Nat} {digits : List Char} {n : Nat} (marks : Mark mark base)
      (nonempty : digits ≠ []) (value : Positional base digits n) :
      Magnitude ('0' :: mark :: digits) n

/-- An unsigned integer as it may be written, and its number. -/
inductive Numeral : List Char → Nat → Prop
  | bare {text : List Char} {n : Nat} (magnitude : Magnitude text n) : Numeral text n
  | plus {text : List Char} {n : Nat} (magnitude : Magnitude text n) : Numeral ('+' :: text) n

theorem ascii_of_toLower {c : Char} (ascii : c.toLower.toNat < 128) : c.toNat < 128 := by
  by_cases upper : c.val ≥ 'A'.val ∧ c.val ≤ 'Z'.val
  · have bound : c.val.toNat ≤ 'Z'.val.toNat := UInt32.le_iff_toNat_le.mp upper.2
    have last : 'Z'.val.toNat = 90 := rfl
    have value : c.toNat = c.val.toNat := rfl
    omega
  · have same : c.toLower = c := dif_neg upper
    rwa [same] at ascii

theorem digitValue?_lt {c : Char} {value : Nat} (found : digitValue? c = some value) :
    c.toNat < 128 ∧ value < 16 := by
  have nine : '9'.toNat = 57 := rfl
  have upper : 'F'.val.toNat = 70 := rfl
  have lower : 'f'.val.toNat = 102 := rfl
  have first : '0'.toNat = 48 ∧ 'A'.toNat = 65 ∧ 'a'.toNat = 97 := ⟨rfl, rfl, rfl⟩
  have same : c.toNat = c.val.toNat := rfl
  rw [digitValue?] at found
  simp only [Char.isDigit_iff_toNat, Char.le_def, UInt32.le_iff_toNat_le] at found
  split at found
  · cases found
    omega
  · split at found
    · cases found
      omega
    · split at found
      · cases found
        omega
      · cases found

theorem digitValue?_ascii : ∀ n : Fin 128, ∀ value : Fin 16,
    digitValue? (Char.ofNat n) = some value.val ↔
      (Char.ofNat n).toLower = Nat.digitChar value := by
  decide +kernel

theorem digitValue?_eq_some_iff {c : Char} {value : Nat} (small : value < 16) :
    digitValue? c = some value ↔ c.toLower = Nat.digitChar value := by
  have within (ascii : c.toNat < 128) :
      digitValue? c = some value ↔ c.toLower = Nat.digitChar value :=
    forall_ascii (p := fun c => digitValue? c = some value ↔ c.toLower = Nat.digitChar value)
      (fun n => digitValue?_ascii n ⟨value, small⟩) ascii
  constructor
  · intro found
    exact (within (digitValue?_lt found).1).mp found
  · intro spelled
    have digit : (Nat.digitChar value).toNat < 128 :=
      (by decide : ∀ value < 16, (Nat.digitChar value).toNat < 128) value small
    rw [← spelled] at digit
    exact (within (ascii_of_toLower digit)).mpr spelled

theorem isDigit_iff {base : Nat} (known : base ≤ 16) {c : Char} {value : Nat} :
    IsDigit base c value ↔ digitValue? c = some value ∧ value < base := by
  constructor
  · intro digit
    exact ⟨(digitValue?_eq_some_iff (Nat.lt_of_lt_of_le digit.small known)).mpr digit.spelled,
      digit.small⟩
  · rintro ⟨found, small⟩
    exact ⟨small, (digitValue?_eq_some_iff (Nat.lt_of_lt_of_le small known)).mp found⟩

theorem digitsValue?_eq_some_iff {base : Nat} (known : base ≤ 16) {digits : List Char}
    {front n : Nat} :
    digitsValue? base front digits = some n ↔
      ∃ values, List.Forall₂ (IsDigit base) digits values ∧
        front * base ^ values.length + Nat.ofDigits base values.reverse = n := by
  induction digits generalizing front with
  | nil => simp [digitsValue?]
  | cons c digits ih =>
      have shifted (value : Nat) (values : List Nat) :
          front * base ^ (value :: values).length +
              Nat.ofDigits base (value :: values).reverse =
            (front * base + value) * base ^ values.length +
              Nat.ofDigits base values.reverse := by
        rw [List.reverse_cons, Nat.ofDigits_append, Nat.ofDigits_singleton, List.length_reverse,
          List.length_cons, pow_succ]
        ring
      simp only [List.forall₂_cons_left_iff, isDigit_iff known, digitsValue?]
      constructor
      · intro found
        cases digit : digitValue? c with
        | none => simp [digit] at found
        | some value =>
            simp only [digit] at found
            split at found
            · rename_i small
              obtain ⟨values, digits, sum⟩ := ih.mp found
              exact ⟨value :: values, ⟨value, values, ⟨rfl, small⟩, digits, rfl⟩,
                (shifted value values).trans sum⟩
            · cases found
      · rintro ⟨_, ⟨value, values, ⟨digit, small⟩, digits, rfl⟩, sum⟩
        simp only [digit, small, if_true]
        exact ih.mpr ⟨values, digits, (shifted value values).symm.trans sum⟩

theorem natural?_eq_some_iff {base limit : Nat} (known : base ≤ 16) {digits : List Char} {n : Nat} :
    natural? base limit digits = some n ↔ digits ≠ [] ∧ Positional base digits n ∧ n ≤ limit := by
  cases digits with
  | nil => simp [natural?]
  | cons c digits =>
      simp [natural?, Positional, digitsValue?_eq_some_iff known, Option.filter_eq_some_iff]

theorem magnitude?_decimal {limit : Nat} {digits : List Char}
    (noLeadingZero : digits.head? = some '0' → digits = ['0']) :
    magnitude? limit digits = natural? 10 limit digits := by
  rw [magnitude?.eq_def]
  split
  case h_5 => rfl
  all_goals
    have single := noLeadingZero rfl
    simp at single

theorem Mark.known {mark : Char} {base : Nat} (marks : Mark mark base) : base ≤ 16 := by
  cases marks <;> decide

theorem magnitude?_marked {limit base : Nat} {mark : Char} {digits : List Char}
    (marks : Mark mark base) :
    magnitude? limit ('0' :: mark :: digits) = natural? base limit digits := by
  cases marks <;> rfl

theorem marked_of_natural? {limit base n : Nat} {mark : Char} {digits : List Char}
    (marks : Mark mark base) (found : natural? base limit digits = some n) :
    Magnitude ('0' :: mark :: digits) n ∧ n ≤ limit := by
  obtain ⟨nonempty, value, bound⟩ := (natural?_eq_some_iff marks.known).mp found
  exact ⟨.marked marks nonempty value, bound⟩

theorem magnitude?_eq_some_iff {limit : Nat} {text : List Char} {n : Nat} :
    magnitude? limit text = some n ↔ Magnitude text n ∧ n ≤ limit := by
  constructor
  · intro found
    rw [magnitude?.eq_def] at found
    split at found
    case h_1 => exact marked_of_natural? .hexadecimal found
    case h_2 => exact marked_of_natural? .octal found
    case h_3 => exact marked_of_natural? .binary found
    case h_4 => cases found
    case h_5 longer =>
      obtain ⟨nonempty, value, bound⟩ := (natural?_eq_some_iff (by decide)).mp found
      refine ⟨.decimal nonempty ?_ value, bound⟩
      intro zero
      obtain ⟨rest, rfl⟩ := List.head?_eq_some_iff.mp zero
      cases rest with
      | nil => rfl
      | cons c rest => exact absurd rfl (longer c rest)
  · rintro ⟨magnitude, bound⟩
    cases magnitude with
    | decimal nonempty noLeadingZero value =>
        rw [magnitude?_decimal noLeadingZero]
        exact (natural?_eq_some_iff (by decide)).mpr ⟨nonempty, value, bound⟩
    | marked marks nonempty value =>
        rw [magnitude?_marked marks]
        exact (natural?_eq_some_iff marks.known).mpr ⟨nonempty, value, bound⟩

theorem not_magnitude_plus {text : List Char} {n : Nat} : ¬ Magnitude ('+' :: text) n := by
  rintro (⟨-, -, values, digits, -⟩)
  obtain ⟨value, -, digit, -⟩ := List.forall₂_cons_left_iff.mp digits
  have none : ∀ value < 10, Char.toLower '+' ≠ Nat.digitChar value := by decide
  exact none value digit.small digit.spelled

theorem unsigned?_eq_some_iff {text : String} {n : Nat} :
    unsigned? text = some n ↔ Numeral text.toList n ∧ n < UInt64.size := by
  have bound : n ≤ UInt64.size - 1 ↔ n < UInt64.size := Nat.le_sub_one_iff_lt (by decide)
  rw [unsigned?.eq_def]
  split
  · rename_i rest signed
    rw [magnitude?_eq_some_iff, bound, signed]
    refine and_congr_left fun _ => ⟨.plus, ?_⟩
    intro numeral
    cases numeral with
    | bare magnitude => exact absurd magnitude not_magnitude_plus
    | plus magnitude => exact magnitude
  · rename_i unsigned
    rw [magnitude?_eq_some_iff, bound]
    refine and_congr_left fun _ => ⟨.bare, ?_⟩
    intro numeral
    cases spelled : text.toList with
    | nil =>
        rw [spelled] at numeral
        cases numeral with
        | bare magnitude => exact magnitude
    | cons c rest =>
        rw [spelled] at numeral
        cases numeral with
        | bare magnitude => exact magnitude
        | plus magnitude => exact absurd spelled (unsigned rest)

/-! A count in decimal. -/

theorem Positional.concat {base value n : Nat} {digits : List Char} {c : Char}
    (front : Positional base digits n) (last : IsDigit base c value) :
    Positional base (digits ++ [c]) (base * n + value) := by
  obtain ⟨values, spelled, rfl⟩ := front
  refine ⟨values ++ [value], List.rel_append spelled (.cons last .nil), ?_⟩
  rw [List.reverse_concat, Nat.ofDigits_cons, Nat.add_comm]

theorem isDigit_digitChar {digit : Nat} (small : digit < 10) :
    IsDigit 10 (Nat.digitChar digit) digit where
  small := small
  spelled := (by decide : ∀ digit < 10, (Nat.digitChar digit).toLower = Nat.digitChar digit) digit
    small

theorem positional_toDigits (n : Nat) : Positional 10 (Nat.toDigits 10 n) n := by
  induction n using Nat.strongRecOn with
  | ind n ih =>
      by_cases small : n < 10
      · rw [Nat.toDigits_of_lt_base small]
        exact ⟨[n], .cons (isDigit_digitChar small) .nil, Nat.ofDigits_singleton ..⟩
      · have front := ih (n / 10) (by omega)
        have whole := front.concat (isDigit_digitChar (Nat.mod_lt n (by decide)))
        rw [Nat.div_add_mod] at whole
        rwa [Nat.toDigits_of_base_le (by decide) (by omega)]

theorem head?_toDigits {n : Nat} (positive : 0 < n) : (Nat.toDigits 10 n).head? ≠ some '0' := by
  induction n using Nat.strongRecOn with
  | ind n ih =>
      by_cases small : n < 10
      · rw [Nat.toDigits_of_lt_base small]
        exact (by decide : ∀ n < 10, 0 < n → [Nat.digitChar n].head? ≠ some '0') n small positive
      · have front := ih (n / 10) (by omega) (by omega)
        obtain ⟨c, rest, digits⟩ := List.exists_cons_of_ne_nil
          (Nat.toDigits_ne_nil : Nat.toDigits 10 (n / 10) ≠ [])
        rw [Nat.toDigits_of_base_le (by decide) (by omega), digits]
        rw [digits] at front
        exact front

theorem numeral_toDigits (n : Nat) : Numeral (Nat.toDigits 10 n) n := by
  refine .bare (.decimal Nat.toDigits_ne_nil ?_ (positional_toDigits n))
  intro zero
  rcases Nat.eq_zero_or_pos n with rfl | positive
  · rfl
  · exact absurd zero (head?_toDigits positive)

theorem unsigned?_decimal (n : UInt32) : unsigned? (decimal n) = some n.toNat := by
  have spelled : (decimal n).toList = Nat.toDigits 10 n.toNat := by rw [decimal, Nat.toList_repr]
  rw [unsigned?_eq_some_iff, spelled]
  exact ⟨numeral_toDigits n.toNat, Nat.lt_trans n.toNat_lt (by decide)⟩

end BatchLaunch.Yaml
