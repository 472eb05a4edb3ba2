/-!
Octets and text. Writing is UTF-8; reading either refuses octets that are not, or puts U+FFFD for
each longest stretch that starts as a character could and breaks off.
-/
namespace BatchLaunch

abbrev Octets := List UInt8

namespace Text.Utf8

def encode (text : String) : Octets := text.toList.flatMap String.utf8EncodeChar

/-- What a first octet says: its share of the code point, and the range each later octet has to lie
in. -/
def lead (octet : UInt8) : Option (Nat × List (UInt8 × UInt8)) :=
  let n := octet.toNat
  if n < 0x80 then some (n, [])
  else if n < 0xc2 then none
  else if n < 0xe0 then some (n - 0xc0, [(0x80, 0xbf)])
  else if n = 0xe0 then some (0, [(0xa0, 0xbf), (0x80, 0xbf)])
  else if n = 0xed then some (0xd, [(0x80, 0x9f), (0x80, 0xbf)])
  else if n < 0xf0 then some (n - 0xe0, [(0x80, 0xbf), (0x80, 0xbf)])
  else if n = 0xf0 then some (0, [(0x90, 0xbf), (0x80, 0xbf), (0x80, 0xbf)])
  else if n < 0xf4 then some (n - 0xf0, [(0x80, 0xbf), (0x80, 0xbf), (0x80, 0xbf)])
  else if n = 0xf4 then some (4, [(0x80, 0x8f), (0x80, 0xbf), (0x80, 0xbf)])
  else none

def follow (share : Nat) : List (UInt8 × UInt8) → Octets → Option Nat × Octets
  | [], octets => (some share, octets)
  | _ :: _, [] => (none, [])
  | (low, high) :: ranges, octet :: octets =>
      if low ≤ octet ∧ octet ≤ high then follow (share * 64 + octet.toNat % 64) ranges octets
      else (none, octet :: octets)

theorem follow_length (share : Nat) (ranges : List (UInt8 × UInt8)) (octets : Octets) :
    (follow share ranges octets).2.length ≤ octets.length := by
  induction ranges generalizing share octets with
  | nil => simp [follow]
  | cons range ranges ih =>
      cases octets with
      | nil => simp [follow]
      | cons octet octets =>
          simp only [follow]
          split
          · exact Nat.le_succ_of_le (ih ..)
          · exact Nat.le_refl _

def units (octets : Octets) : List (Option Char) :=
  match octets with
  | [] => []
  | octet :: rest =>
      match lead octet with
      | none => none :: units rest
      | some (share, ranges) =>
          let found := follow share ranges rest
          found.1.map Char.ofNat :: units found.2
  termination_by octets.length
  decreasing_by
    · simp
    · exact Nat.lt_succ_of_le (follow_length share ranges rest)

def decode? (octets : Octets) : Option String :=
  ((units octets).mapM id).map String.ofList

def decodeLossy (octets : Octets) : String :=
  String.ofList ((units octets).map (·.getD '\ufffd'))

end Text.Utf8
end BatchLaunch
