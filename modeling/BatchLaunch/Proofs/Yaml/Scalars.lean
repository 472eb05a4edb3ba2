import BatchLaunch.Proofs.Yaml.Written
import BatchLaunch.Yaml.Token.Stream
import Mathlib.Algebra.Group.Nat.Defs

/-!
Words and quoted texts are read back as they were written.
-/
namespace BatchLaunch.Yaml

theorem forall_ascii {p : Char → Prop} (all : ∀ n : Fin 128, p (Char.ofNat n)) {c : Char}
    (ascii : c.toNat < 128) : p c := by
  have found := all ⟨c.toNat, ascii⟩
  rwa [Char.ofNat_toNat] at found

theorem ascii_of_isAlphanum {c : Char} (alphanum : c.isAlphanum = true) : c.toNat < 128 := by
  delta Char.isAlphanum Char.isAlpha Char.isUpper Char.isLower Char.isDigit at alphanum
  simp only [Bool.or_eq_true, Bool.and_eq_true, decide_eq_true_eq, ge_iff_le,
    UInt32.le_iff_toNat_le] at alphanum
  have value : c.toNat = c.val.toNat := rfl
  have upper : 'Z'.val.toNat = 90 := rfl
  have lower : 'z'.val.toNat = 122 := rfl
  have digit : '9'.val.toNat = 57 := rfl
  omega

theorem ascii_of_isBare {c : Char} (bare : isBare c = true) : c.toNat < 128 := by
  rw [isBare, Bool.or_eq_true, decide_eq_true_eq] at bare
  rcases bare with alphanum | rfl
  · exact ascii_of_isAlphanum alphanum
  · decide

/-- Characters that mean nothing but themselves, wherever they stand. -/
structure Inert (c : Char) : Prop where
  gap : isGap c = false
  lineEnd : isBreak c = false
  flow : Scalar.isFlowIndicator c = false
  indicator : Scanner.isIndicator c = false
  size : c.utf8Size = 1
  allowed : isAllowed c = true
  carriage : c ≠ '\r'
  dot : c ≠ '.'
  escape : c ≠ '\\'

instance (c : Char) : Decidable (Inert c) :=
  decidable_of_iff (isGap c = false ∧ isBreak c = false ∧ Scalar.isFlowIndicator c = false ∧
      Scanner.isIndicator c = false ∧ c.utf8Size = 1 ∧ isAllowed c = true ∧ c ≠ '\r' ∧ c ≠ '.' ∧
      c ≠ '\\')
    ⟨fun ⟨gap, lineEnd, flow, indicator, size, allowed, carriage, dot, escape⟩ =>
      ⟨gap, lineEnd, flow, indicator, size, allowed, carriage, dot, escape⟩,
     fun ⟨gap, lineEnd, flow, indicator, size, allowed, carriage, dot, escape⟩ =>
      ⟨gap, lineEnd, flow, indicator, size, allowed, carriage, dot, escape⟩⟩

theorem inert_of_isBare {c : Char} (bare : isBare c = true) : Inert c :=
  forall_ascii (p := fun c => isBare c = true → Inert c) (by decide +kernel)
    (ascii_of_isBare bare) bare

theorem isBare_of_isAlphanum {c : Char} (alphanum : c.isAlphanum = true) : isBare c = true := by
  rw [isBare, alphanum, Bool.true_or]

theorem Inert.ne {c : Char} (inert : Inert c) (other : Char)
    (special : Scanner.isIndicator other = true) : c ≠ other := by
  rintro rfl
  rw [inert.indicator] at special
  cases special

theorem Inert.not_atMarker {c : Char} (inert : Inert c) (rest : List Char) :
    atMarker (c :: rest) = false := by
  have hyphen := inert.ne '-' (by decide)
  have dot := inert.dot
  rw [atMarker.eq_def]
  split <;> simp_all

namespace Scalar

@[simp] theorem isNone_none : Gap.none.isNone = true := by decide

@[simp] theorem isBroken_none : Gap.none.isBroken = false := rfl

@[simp] theorem text_none : Gap.none.text = [] := rfl

/-! Plain scalars within brackets. -/

def Stops (text : List Char) : Prop :=
  ∀ indent position, plain true indent position .none text = some ⟨[], false, ⟨position, text⟩⟩

theorem stops_colon (rest : List Char) : Stops (':' :: ' ' :: rest) := by
  intro indent position
  rw [plain]
  simp [isGap, isBreak, isReturn, atMarker, isFlowIndicator, atEdge]

theorem stops_of_isFlowIndicator {c : Char} (flow : isFlowIndicator c = true) (rest : List Char) :
    Stops (c :: rest) := by
  intro indent position
  simp only [isFlowIndicator, Bool.or_eq_true, decide_eq_true_eq] at flow
  rw [plain]
  rcases flow with (((rfl | rfl) | rfl) | rfl) | rfl
  all_goals simp [isGap, isBreak, isReturn, atMarker, isFlowIndicator]

theorem plain_word {word rest : List Char} (bare : ∀ c ∈ word, isBare c = true)
    (stops : Stops rest) (indent : Int) (position : Position) :
    plain true indent position .none (word ++ rest) =
      some ⟨word, false, ⟨word.foldl .behind position, rest⟩⟩ := by
  induction word generalizing position with
  | nil => exact stops indent position
  | cons c word ih =>
      have inert := inert_of_isBare (bare c List.mem_cons_self)
      have later := ih (fun c member => bare c (List.mem_cons_of_mem _ member)) (position.behind c)
      have colon := inert.ne ':' (by decide)
      rw [List.cons_append, plain, later]
      simp [inert.gap, inert.lineEnd, inert.flow, inert.not_atMarker, isReturn, inert.carriage,
        colon]

/-! Quoted scalars. -/

theorem hexDigit?_digitChar {digit : Nat} (small : digit < 16) :
    hexDigit? (Nat.digitChar digit) = some digit :=
  (by decide : ∀ digit < 16, hexDigit? (Nat.digitChar digit) = some digit) digit small

theorem foldlM_hexDigits (count n start : Nat) :
    (Written.hexDigits count n).foldlM (fun value c => (hexDigit? c).map (value * 16 + ·)) start =
      some (start * 16 ^ count + n % 16 ^ count) := by
  induction count generalizing n with
  | zero => simp [Written.hexDigits, Nat.mod_one]
  | succ count ih =>
      have digit := hexDigit?_digitChar (Nat.mod_lt n (by decide : 16 > 0))
      have split : n % 16 ^ (count + 1) = n / 16 % 16 ^ count * 16 + n % 16 := by
        rw [Nat.pow_succ, Nat.mul_comm, Nat.mod_mul]
        omega
      rw [Written.hexDigits, List.foldlM_append, ih]
      simp only [Option.pure_def, Option.bind_eq_bind, Option.bind_some, List.foldlM_cons, digit,
        Option.map_some, List.foldlM_nil]
      rw [split, Nat.pow_succ, Nat.add_mul, Nat.mul_assoc, Nat.add_assoc]

theorem codePoint?_hexDigits (c : Char) : codePoint? (Written.hexDigits 8 c.toNat) = some c := by
  have bound : c.toNat < 16 ^ 8 := c.val.toNat_lt
  have valid : c.toNat.isValidChar := c.valid
  rw [codePoint?, foldlM_hexDigits, Nat.zero_mul, Nat.zero_add, Nat.mod_eq_of_lt bound]
  have same := Char.ofNat_toNat c
  rw [Char.ofNat, dif_pos valid] at same
  rw [Option.bind_eq_bind, Option.bind_some, dif_pos valid, same]

theorem doubleQuoted_escape (c : Char) (rest : List Char) (position : Position) :
    ∃ behind, doubleQuoted position .none (Written.escape c ++ rest) =
      Reading.after [c] (doubleQuoted behind .none rest) := by
  rw [Written.escape]
  split
  · rename_i alphanum
    have inert := inert_of_isBare (isBare_of_isAlphanum alphanum)
    have quote := inert.ne '"' (by decide)
    refine ⟨position.behind c, ?_⟩
    rw [List.singleton_append, doubleQuoted.eq_def]
    simp [inert.not_atMarker, quote, inert.escape, inert.gap, inert.lineEnd, isReturn,
      inert.carriage]
  · have value := codePoint?_hexDigits c
    refine ⟨position.along 10, ?_⟩
    simp only [Written.hexDigits, List.nil_append, List.cons_append] at value ⊢
    rw [doubleQuoted]
    simp [value, atMarker]

theorem doubleQuoted_text (text rest : List Char) (position : Position) :
    ∃ cursor, doubleQuoted position .none (text.flatMap Written.escape ++ '"' :: rest) =
      some (text, cursor) ∧ cursor.rest = rest := by
  induction text generalizing position with
  | nil =>
    refine ⟨⟨position.along 1, rest⟩, ?_, rfl⟩
    rw [List.flatMap_nil, List.nil_append, doubleQuoted.eq_def]
    simp [atMarker]
  | cons c text ih =>
      rw [List.flatMap_cons, List.append_assoc]
      obtain ⟨behind, read⟩ :=
        doubleQuoted_escape c (text.flatMap Written.escape ++ '"' :: rest) position
      obtain ⟨cursor, later, ends⟩ := ih behind
      rw [read, later]
      exact ⟨cursor, rfl, ends⟩

end Scalar
end BatchLaunch.Yaml
