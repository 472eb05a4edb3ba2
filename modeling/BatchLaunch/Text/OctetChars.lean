import BatchLaunch.Text.Utf8

/-!
Octets written as characters, each as the one with its number. Scripts and tools go by single octets
and are easier to read this way.
-/
namespace BatchLaunch

abbrev Chars := List Char

namespace Text

def charsOf (octets : Octets) : Chars := octets.map fun octet => Char.ofNat octet.toNat

def octetsOf (chars : Chars) : Octets := chars.map fun c => UInt8.ofNat c.toNat

theorem toNat_ofNat_octet (octet : UInt8) : (Char.ofNat octet.toNat).toNat = octet.toNat := by
  have h : octet.toNat.isValidChar := Or.inl (Nat.lt_of_lt_of_le octet.toNat_lt (by decide))
  rw [Char.ofNat, dif_pos h]
  rfl

theorem octetsOf_charsOf (octets : Octets) : octetsOf (charsOf octets) = octets := by
  induction octets with
  | nil => rfl
  | cons octet rest ih =>
      simp only [charsOf, octetsOf, List.map_cons, toNat_ofNat_octet] at ih ⊢
      rw [ih]
      simp

end Text
end BatchLaunch
