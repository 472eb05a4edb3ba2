import BatchLaunch.Text.Digest

/-!
BLAKE2b: a digest of up to sixty-four octets, made by mixing sixteen words twelve times for each
block.
-/
namespace BatchLaunch.Text.Digest.Blake

def orders : List (List Nat) := [
  [0, 1, 2, 3, 4, 5, 6, 7, 8, 9, 10, 11, 12, 13, 14, 15],
  [14, 10, 4, 8, 9, 15, 13, 6, 1, 12, 0, 2, 11, 7, 5, 3],
  [11, 8, 12, 0, 5, 2, 15, 13, 10, 14, 3, 6, 7, 1, 9, 4],
  [7, 9, 3, 1, 13, 12, 11, 14, 2, 6, 5, 10, 4, 0, 15, 8],
  [9, 0, 5, 7, 2, 4, 10, 15, 14, 1, 11, 12, 6, 8, 3, 13],
  [2, 12, 6, 10, 0, 11, 8, 3, 4, 13, 7, 5, 15, 14, 1, 9],
  [12, 5, 1, 15, 14, 13, 4, 10, 0, 7, 6, 3, 9, 2, 8, 11],
  [13, 11, 7, 14, 12, 1, 3, 9, 5, 0, 15, 4, 8, 6, 2, 10],
  [6, 15, 14, 9, 11, 3, 0, 8, 12, 2, 13, 7, 1, 4, 10, 5],
  [10, 2, 8, 4, 7, 6, 1, 5, 15, 11, 9, 14, 3, 12, 13, 0]]

/-- The places of the words that are mixed with each other, columns first, then diagonals. -/
def quarters : List (Nat × Nat × Nat × Nat) := [
  (0, 4, 8, 12), (1, 5, 9, 13), (2, 6, 10, 14), (3, 7, 11, 15),
  (0, 5, 10, 15), (1, 6, 11, 12), (2, 7, 8, 13), (3, 4, 9, 14)]

def startWords : List Nat := (primes.take 8).map (rootBits 2 64)

def add (m n : Nat) : Nat := (m + n) % Nat.pow 2 64

def mix (words : Array Nat) (places : Nat × Nat × Nat × Nat) (x y : Nat) : Array Nat :=
  let (i, j, k, l) := places
  let a := add (add (words.getD i 0) (words.getD j 0)) x
  let d := rotateRight 64 32 (words.getD l 0 ^^^ a)
  let c := add (words.getD k 0) d
  let b := rotateRight 64 24 (words.getD j 0 ^^^ c)
  let a := add (add a b) y
  let d := rotateRight 64 16 (d ^^^ a)
  let c := add c d
  let b := rotateRight 64 63 (b ^^^ c)
  (((words.setIfInBounds i a).setIfInBounds j b).setIfInBounds k c).setIfInBounds l d

def round (block : Array Nat) (words : Array Nat) (order : List Nat) : Array Nat :=
  let pick (place : Nat) : Nat := block.getD (order[place]?.getD 0) 0
  quarters.zipIdx.foldl (fun words (places, number) =>
    mix words places (pick (2 * number)) (pick (2 * number + 1))) words

def compress (state : List Nat) (block : Octets) (seen : Nat) (last : Bool) : List Nat :=
  let message := ((blocks 8 17 block).map fun word => ofOctets word.reverse).toArray
  let second := startWords.zipIdx.map fun (word, place) =>
    match place with
    | 4 => word ^^^ seen % Nat.pow 2 64
    | 5 => word ^^^ seen / Nat.pow 2 64
    | 6 => if last then complement 64 word else word
    | _ => word
  let words := (orders ++ orders.take 2).foldl (round message) (state ++ second).toArray
  state.zipIdx.map fun (word, place) =>
    word ^^^ words.getD place 0 ^^^ words.getD (place + 8) 0

/-- The states of all blocks, of which the last one is filled up with zeros. -/
def compressAll : Nat → Nat → List Nat → Octets → List Nat
  | 0, _, state, _ => state
  | fuel + 1, seen, state, octets =>
      if octets.length ≤ 128 then
        compress state (octets ++ List.replicate (128 - octets.length) 0) (seen + octets.length)
        true
      else
        compressAll fuel (seen + 128) (compress state (octets.take 128) (seen + 128) false)
          (octets.drop 128)

def digest (size : Nat) (octets : Octets) : Octets :=
  let start := startWords.zipIdx.map fun (word, place) =>
    if place = 0 then word ^^^ 0x01010000 ^^^ size else word
  ((compressAll (octets.length + 1) 0 start octets).flatMap fun word =>
    (toOctets 8 word).reverse).take size

end BatchLaunch.Text.Digest.Blake
