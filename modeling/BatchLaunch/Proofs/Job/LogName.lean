import BatchLaunch.Job
import BatchLaunch.Proofs.Path.Names

/-!
The log's name tells a job's decomposition and dimension. All tags are of one length, so what
follows the tag is the dimension, and its digits tell the number.
-/
namespace BatchLaunch

theorem decimal_injective {n m : UInt32} (same : decimal n = decimal m) : n = m := by
  have digits : Nat.toDigits 10 n.toNat = Nat.toDigits 10 m.toNat := by
    simpa only [decimal, Nat.toList_repr] using congrArg String.toList same
  have values := congrArg (Nat.ofDigitChars 10 · 0) digits
  simp only [Nat.ofDigitChars_ten_toDigits] at values
  exact UInt32.toNat_inj.mp values

theorem isDigit_of_mem_decimal {n : UInt32} {c : Char} (member : c ∈ (decimal n).toList) :
    c.isDigit = true := by
  rw [decimal, Nat.toList_repr] at member
  exact Nat.isDigit_of_mem_toDigits (by decide) (by decide) member

theorem slash_not_mem_decimal (n : UInt32) : '/' ∉ (decimal n).toList := fun member =>
  absurd (isDigit_of_mem_decimal member) (by decide)

namespace Job

/-- Jobs that a log's name does not tell apart. -/
def SameLog (a b : Job) : Prop := a.decomposition = b.decomposition ∧ a.dimension = b.dimension

instance (a b : Job) : Decidable (SameLog a b) := inferInstanceAs (Decidable (_ ∧ _))

theorem tag_length (d : Decomposition) : d.tag.toList.length = 3 := by
  cases d <;> rfl

theorem logName_eq_iff (a b : Job) : a.logName = b.logName ↔ a.SameLog b := by
  constructor
  · intro same
    have chars := congrArg String.toList same
    simp only [logName, String.toList_append, List.append_assoc] at chars
    obtain ⟨tags, rest⟩ := List.append_inj chars (by rw [tag_length, tag_length])
    have digits := List.append_cancel_right rest
    exact ⟨Decomposition.tag_injective (String.toList_inj.mp tags),
      decimal_injective (String.toList_inj.mp digits)⟩
  · rintro ⟨decomposition, dimension⟩
    rw [logName, logName, decomposition, dimension]

theorem tag_slash (d : Decomposition) : '/' ∉ d.tag.toList := by
  cases d <;> decide

theorem logName_isName (job : Job) : Path.IsName job.logName := by
  have long : 3 ≤ job.logName.toList.length := by
    simp only [logName, String.toList_append, List.length_append, tag_length]
    omega
  have differs (text : String) (short : text.toList.length < 3) : job.logName ≠ text := by
    rintro rfl
    omega
  have whole : '/' ∉ job.logName.toList := by
    simp only [logName, String.toList_append, List.mem_append, not_or]
    exact ⟨⟨tag_slash _, slash_not_mem_decimal _⟩, by decide⟩
  exact ⟨differs "" (by decide), whole, differs "." (by decide), differs ".." (by decide)⟩

end Job
end BatchLaunch
