import BatchLaunch.Text.Utf8

/-!
What is written as octets is read back as the same text.
-/
namespace BatchLaunch.Text.Utf8

theorem lead_one {n : Nat} (bound : n < 0x80) : lead (UInt8.ofNat n) = some (n, []) := by
  have all : ∀ n < 0x80, lead (UInt8.ofNat n) = some (n, []) := by decide
  exact all n bound

theorem lead_two {n : Nat} (least : 2 ≤ n) (bound : n < 0x20) :
    lead (UInt8.ofNat (n + 0xc0)) = some (n, [(0x80, 0xbf)]) := by
  have all : ∀ n < 0x20, n < 2 ∨
      lead (UInt8.ofNat (n + 0xc0)) = some (n, [(0x80, 0xbf)]) := by decide
  exact (all n bound).resolve_left (by omega)

/-- The octet after the first is bounded where a shorter form or a surrogate would begin alike. -/
theorem lead_three {n : Nat} (bound : n < 0x10) :
    lead (UInt8.ofNat (n + 0xe0)) = some (n,
      [(if n = 0 then 0xa0 else 0x80, if n = 0xd then 0x9f else 0xbf), (0x80, 0xbf)]) := by
  have all : ∀ n < 0x10, lead (UInt8.ofNat (n + 0xe0)) = some (n,
      [(if n = 0 then 0xa0 else 0x80, if n = 0xd then 0x9f else 0xbf), (0x80, 0xbf)]) := by
    decide
  exact all n bound

theorem lead_four {n : Nat} (bound : n < 5) :
    lead (UInt8.ofNat (n + 0xf0)) = some (n,
      [(if n = 0 then 0x90 else 0x80, if n = 4 then 0x8f else 0xbf), (0x80, 0xbf),
        (0x80, 0xbf)]) := by
  have all : ∀ n < 5, lead (UInt8.ofNat (n + 0xf0)) = some (n,
      [(if n = 0 then 0x90 else 0x80, if n = 4 then 0x8f else 0xbf), (0x80, 0xbf),
        (0x80, 0xbf)]) := by decide
  exact all n bound

theorem follow_fits {share n : Nat} {low high : UInt8} {ranges : List (UInt8 × UInt8)}
    {octets : Octets} (bound : n < 0x40) (above : low.toNat ≤ n + 0x80)
    (below : n + 0x80 ≤ high.toNat) :
    follow share ((low, high) :: ranges) (UInt8.ofNat (n + 0x80) :: octets) =
      follow (share * 64 + n) ranges octets := by
  have value : (UInt8.ofNat (n + 0x80)).toNat = n + 0x80 := by
    rw [UInt8.toNat_ofNat']
    exact Nat.mod_eq_of_lt (by omega)
  have fits : low ≤ UInt8.ofNat (n + 0x80) ∧ UInt8.ofNat (n + 0x80) ≤ high := by
    rw [UInt8.le_iff_toNat_le, UInt8.le_iff_toNat_le, value]
    exact ⟨above, below⟩
  have share' : (n + 0x80) % 64 = n := by omega
  rw [follow, if_pos fits, value, share']

theorem follow_any {share n : Nat} {ranges : List (UInt8 × UInt8)} {octets : Octets}
    (bound : n < 0x40) :
    follow share ((0x80, 0xbf) :: ranges) (UInt8.ofNat (n + 0x80) :: octets) =
      follow (share * 64 + n) ranges octets := by
  apply follow_fits bound
  · exact Nat.le_add_left 0x80 n
  · exact Nat.add_le_add_right (Nat.le_of_lt_succ bound) 0x80

theorem units_cons {octet : UInt8} {rest later : Octets} {share n : Nat}
    {ranges : List (UInt8 × UInt8)} (first : lead octet = some (share, ranges))
    (others : follow share ranges rest = (some n, later)) :
    units (octet :: rest) = some (Char.ofNat n) :: units later := by
  rw [units, first]
  simp [others]

theorem units_character (c : Char) (rest : Octets) :
    units (String.utf8EncodeChar c ++ rest) = some c :: units rest := by
  have valid : c.val.toNat < 0xd800 ∨ 0xdfff < c.val.toNat ∧ c.val.toNat < 0x110000 := c.valid
  have same : Char.ofNat c.val.toNat = c := Char.ofNat_toNat c
  rw [String.utf8EncodeChar]
  generalize c.val.toNat = n at valid same ⊢
  split
  · have first := lead_one (show n < 0x80 by omega)
    rw [List.cons_append, List.nil_append, units_cons first rfl, same]
  split
  · have part : n / 64 % 32 = n / 64 := by omega
    have whole : n / 64 * 64 + n % 64 = n := by omega
    have first := lead_two (show 2 ≤ n / 64 by omega) (by omega)
    have others : follow (n / 64) [(0x80, 0xbf)] (UInt8.ofNat (n % 64 + 0x80) :: rest) =
        (some n, rest) := by
      rw [follow_any (by omega), whole, follow]
    simp only [part, List.cons_append, List.nil_append]
    rw [units_cons first others, same]
  split
  · have part : n / 4096 % 16 = n / 4096 := by omega
    have whole : (n / 4096 * 64 + n / 64 % 64) * 64 + n % 64 = n := by omega
    have first := lead_three (show n / 4096 < 0x10 by omega)
    have above : (if n / 4096 = 0 then 0xa0 else 0x80 : UInt8).toNat ≤ n / 64 % 64 + 0x80 := by
      split <;> simp only [UInt8.reduceToNat] <;> omega
    have below : n / 64 % 64 + 0x80 ≤ (if n / 4096 = 0xd then 0x9f else 0xbf : UInt8).toNat := by
      split <;> simp only [UInt8.reduceToNat] <;> omega
    have others : follow (n / 4096)
        [(if n / 4096 = 0 then 0xa0 else 0x80, if n / 4096 = 0xd then 0x9f else 0xbf), (0x80, 0xbf)]
        (UInt8.ofNat (n / 64 % 64 + 0x80) :: UInt8.ofNat (n % 64 + 0x80) :: rest) =
          (some n, rest) := by
      rw [follow_fits (by omega) above below, follow_any (by omega), whole, follow]
    simp only [part, List.cons_append, List.nil_append]
    rw [units_cons first others, same]
  · have part : n / 262144 % 8 = n / 262144 := by omega
    have whole : ((n / 262144 * 64 + n / 4096 % 64) * 64 + n / 64 % 64) * 64 + n % 64 = n := by
      omega
    have first := lead_four (show n / 262144 < 5 by omega)
    have above : (if n / 262144 = 0 then 0x90 else 0x80 : UInt8).toNat ≤ n / 4096 % 64 + 0x80 := by
      split <;> simp only [UInt8.reduceToNat] <;> omega
    have below : n / 4096 % 64 + 0x80 ≤ (if n / 262144 = 4 then 0x8f else 0xbf : UInt8).toNat := by
      split <;> simp only [UInt8.reduceToNat] <;> omega
    have others : follow (n / 262144)
        [(if n / 262144 = 0 then 0x90 else 0x80, if n / 262144 = 4 then 0x8f else 0xbf),
          (0x80, 0xbf), (0x80, 0xbf)]
        (UInt8.ofNat (n / 4096 % 64 + 0x80) :: UInt8.ofNat (n / 64 % 64 + 0x80) ::
          UInt8.ofNat (n % 64 + 0x80) :: rest) = (some n, rest) := by
      rw [follow_fits (by omega) above below, follow_any (by omega), follow_any (by omega), whole,
        follow]
    simp only [part, List.cons_append, List.nil_append]
    rw [units_cons first others, same]

theorem units_encode (text : String) : units (encode text) = text.toList.map some := by
  rw [encode]
  induction text.toList with
  | nil => simp [units]
  | cons c rest ih => rw [List.flatMap_cons, units_character, ih, List.map_cons]

theorem decode?_encode (text : String) : decode? (encode text) = some text := by
  have all : ∀ chars : List Char, (chars.map some).mapM id = some chars := by
    intro chars
    induction chars with
    | nil => rfl
    | cons c chars ih => simp [ih]
  rw [decode?, units_encode, all, Option.map_some, String.ofList_toList]

theorem encode_append (front back : String) :
    encode (front ++ back) = encode front ++ encode back := by
  simp [encode]

end BatchLaunch.Text.Utf8
