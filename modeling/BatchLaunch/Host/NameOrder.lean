import BatchLaunch.Text.Utf8

/-!
The order in which a directory lists its entries: that of a hash of their names. The hash takes a
name in stretches of 32 octets, each packed into eight words, through three rounds of mixing.
-/
namespace BatchLaunch.Host.NameOrder

def rotate (x turn : UInt32) : UInt32 := (x <<< turn) ||| (x >>> (32 - turn))

structure Words where
  a : UInt32
  b : UInt32
  c : UInt32
  d : UInt32
  deriving DecidableEq, Repr

def Words.start : Words := ⟨0x67452301, 0xefcdab89, 0x98badcfe, 0x10325476⟩

def Words.add (x y : Words) : Words := ⟨x.a + y.a, x.b + y.b, x.c + y.c, x.d + y.d⟩

/-- Mixes a word in, and turns the four round so that the next one comes first. -/
def Words.mix (f : UInt32 → UInt32 → UInt32 → UInt32) (words : Words)
    (step : UInt32 × UInt32) : Words :=
  let mixed := rotate (words.a + f words.b words.c words.d + step.1) step.2
  ⟨words.d, mixed, words.b, words.c⟩

def choose (x y z : UInt32) : UInt32 := z ^^^ (x &&& (y ^^^ z))

def majority (x y z : UInt32) : UInt32 := (x &&& y) + ((x ^^^ y) &&& z)

def parity (x y z : UInt32) : UInt32 := x ^^^ y ^^^ z

def round (f : UInt32 → UInt32 → UInt32 → UInt32) (constant : UInt32) (order : List Nat)
    (turns : List UInt32) (input : List UInt32) (words : Words) : Words :=
  (order.zip (turns ++ turns)).foldl
    (fun words (index, turn) => words.mix f ((input[index]?.getD 0) + constant, turn)) words

def compress (words : Words) (input : List UInt32) : Words :=
  let first := round choose 0 [0, 1, 2, 3, 4, 5, 6, 7] [3, 7, 11, 19] input words
  let second := round majority 0x5a827999 [1, 3, 5, 7, 0, 2, 4, 6] [3, 5, 9, 13] input first
  words.add (round parity 0x6ed9eba1 [3, 7, 2, 6, 1, 5, 0, 4] [3, 9, 11, 15] input second)

def signed (octet : UInt8) : UInt32 :=
  if octet < 128 then octet.toUInt32 else octet.toUInt32 - 256

/-- A stretch of a name as eight words, filled up with the number of octets that were left. -/
def pack (left : Octets) : List UInt32 :=
  let count := left.length
  let length := UInt32.ofNat count ||| (UInt32.ofNat count <<< 8)
  let filler := length ||| (length <<< 16)
  (List.range 8).map fun index =>
    ((left.drop (4 * index)).take (min 4 (32 - 4 * index))).foldl
      (fun word octet => signed octet + (word <<< 8)) filler

def hashFrom : Nat → Words → Octets → Words
  | 0, words, _ => words
  | fuel + 1, words, left =>
      if left.isEmpty then words else hashFrom fuel (compress words (pack left)) (left.drop 32)

/-- The hash of a name; its last bit does not count. -/
def hashOf (name : String) : UInt32 :=
  let octets := Text.Utf8.encode name
  (hashFrom (octets.length + 1) .start octets).b &&& 0xfffffffe

def sorted {α : Type} (entries : List (String × α)) : List (String × α) :=
  let hashed := entries.map fun entry => (hashOf entry.1, entry)
  (hashed.mergeSort fun x y => x.1 ≤ y.1).map (·.2)

end BatchLaunch.Host.NameOrder
