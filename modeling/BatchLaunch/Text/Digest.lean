import BatchLaunch.Text.Utf8

/-!
Digests of octets: MD5, the SHA family, and check sums.
-/
namespace BatchLaunch.Text.Digest

/-! Words of a fixed number of bits -/

def rotateLeft (bits count word : Nat) : Nat :=
  (word * Nat.pow 2 count) % Nat.pow 2 bits + word / Nat.pow 2 (bits - count)

def rotateRight (bits count word : Nat) : Nat := rotateLeft bits (bits - count) word

def complement (bits word : Nat) : Nat := Nat.pow 2 bits - 1 - word

def ofOctets (octets : Octets) : Nat := octets.foldl (fun n octet => n * 256 + octet.toNat) 0

def toOctets (count n : Nat) : Octets :=
  ((List.range count).map fun place => UInt8.ofNat (n / Nat.pow 256 place % 256)).reverse

def blocks {α : Type} (size : Nat) : Nat → List α → List (List α)
  | 0, _ => []
  | fuel + 1, octets =>
      if octets.isEmpty || size = 0 then []
      else octets.take size :: blocks size fuel (octets.drop size)

def padded (block lengthSize : Nat) (highestFirst : Bool) (octets : Octets) : Octets :=
  let used := (octets.length + 1 + lengthSize) % block
  let zeros := if used = 0 then 0 else block - used
  let length := toOctets lengthSize (octets.length * 8)
  octets ++ 0x80 :: List.replicate zeros 0 ++ (if highestFirst then length else length.reverse)

/-! MD5 -/

def md5Sines : List Nat := [
  0xd76aa478, 0xe8c7b756, 0x242070db, 0xc1bdceee, 0xf57c0faf, 0x4787c62a, 0xa8304613,
  0xfd469501, 0x698098d8, 0x8b44f7af, 0xffff5bb1, 0x895cd7be, 0x6b901122, 0xfd987193,
  0xa679438e, 0x49b40821, 0xf61e2562, 0xc040b340, 0x265e5a51, 0xe9b6c7aa, 0xd62f105d,
  0x02441453, 0xd8a1e681, 0xe7d3fbc8, 0x21e1cde6, 0xc33707d6, 0xf4d50d87, 0x455a14ed,
  0xa9e3e905, 0xfcefa3f8, 0x676f02d9, 0x8d2a4c8a, 0xfffa3942, 0x8771f681, 0x6d9d6122,
  0xfde5380c, 0xa4beea44, 0x4bdecfa9, 0xf6bb4b60, 0xbebfbc70, 0x289b7ec6, 0xeaa127fa,
  0xd4ef3085, 0x04881d05, 0xd9d4d039, 0xe6db99e5, 0x1fa27cf8, 0xc4ac5665, 0xf4292244,
  0x432aff97, 0xab9423a7, 0xfc93a039, 0x655b59c3, 0x8f0ccc92, 0xffeff47d, 0x85845dd1,
  0x6fa87e4f, 0xfe2ce6e0, 0xa3014314, 0x4e0811a1, 0xf7537e82, 0xbd3af235, 0x2ad7d2bb,
  0xeb86d391]

def md5Shifts : List Nat := [7, 12, 17, 22, 5, 9, 14, 20, 4, 11, 16, 23, 6, 10, 15, 21]

def md5Step (message : Array Nat) (state : Nat × Nat × Nat × Nat) (step sine : Nat) :
    Nat × Nat × Nat × Nat :=
  let (a, b, c, d) := state
  let no := complement 32
  let (mixed, place) := match step / 16 with
    | 0 => ((b &&& c) ||| (no b &&& d), step)
    | 1 => ((d &&& b) ||| (no d &&& c), (5 * step + 1) % 16)
    | 2 => (b ^^^ c ^^^ d, (3 * step + 5) % 16)
    | _ => (c ^^^ (b ||| no d), (7 * step) % 16)
  let sum := (a + mixed + sine + message.getD place 0) % Nat.pow 2 32
  let shift := (md5Shifts[step / 16 * 4 + step % 4]?).getD 0
  (d, (b + rotateLeft 32 shift sum) % Nat.pow 2 32, b, c)

def md5 (octets : Octets) : Octets :=
  let whole := padded 64 8 false octets
  let start := (0x67452301, 0xefcdab89, 0x98badcfe, 0x10325476)
  let (a, b, c, d) := (blocks 64 (whole.length + 1) whole).foldl (fun state block =>
    let message := ((blocks 4 65 block).map fun word => ofOctets word.reverse).toArray
    let (a, b, c, d) := md5Sines.zipIdx.foldl (fun state (sine, step) =>
      md5Step message state step sine) state
    let add (m n : Nat) : Nat := (m + n) % Nat.pow 2 32
    (add state.1 a, add state.2.1 b, add state.2.2.1 c, add state.2.2.2 d)) start
  [a, b, c, d].flatMap fun word => (toOctets 4 word).reverse

/-! SHA -/

def extended (count : Nat) (next : Array Nat → Nat → Nat) (message : List Nat) : Array Nat :=
  ((List.range (count - 16)).map (· + 16)).foldl (fun words place =>
    words.push (next words place)) message.toArray

def sha1Step (state : List Nat) (step word : Nat) : List Nat :=
  match state with
  | [a, b, c, d, e] =>
      let (mixed, constant) := match step / 20 with
        | 0 => ((b &&& c) ||| (complement 32 b &&& d), 0x5a827999)
        | 1 => (b ^^^ c ^^^ d, 0x6ed9eba1)
        | 2 => ((b &&& c) ||| (b &&& d) ||| (c &&& d), 0x8f1bbcdc)
        | _ => (b ^^^ c ^^^ d, 0xca62c1d6)
      [(rotateLeft 32 5 a + mixed + e + constant + word) % Nat.pow 2 32, a, rotateLeft 32 30 b, c, d]
  | other => other

def addStates (bits : Nat) (first second : List Nat) : List Nat :=
  (first.zip second).map fun (m, n) => (m + n) % Nat.pow 2 bits

def sha1 (octets : Octets) : Octets :=
  let whole := padded 64 8 true octets
  let start := [0x67452301, 0xefcdab89, 0x98badcfe, 0x10325476, 0xc3d2e1f0]
  let state := (blocks 64 (whole.length + 1) whole).foldl (fun state block =>
    let words := extended 80 (fun words place =>
      let word (back : Nat) : Nat := words.getD (place - back) 0
      rotateLeft 32 1 (word 3 ^^^ word 8 ^^^ word 14 ^^^ word 16)) ((blocks 4 65 block).map ofOctets)
    addStates 32 state (words.toList.zipIdx.foldl (fun state (word, step) =>
      sha1Step state step word) state)) start
  state.flatMap (toOctets 4)

def root (power : Nat) (n : Nat) : Nat → Nat → Nat
  | 0, found => found
  | bits + 1, found =>
      let next := found + Nat.pow 2 bits
      root power n bits (if Nat.pow next power ≤ n then next else found)

def isPrime (n : Nat) : Bool := 1 < n && ((List.range (n - 2)).map (· + 2)).all fun d => n % d ≠ 0

def primes : List Nat := ((List.range 410).filter isPrime).take 80

def rootBits (power bits prime : Nat) : Nat :=
  root power (prime * Nat.pow 2 (power * bits)) (bits + 6) 0 % Nat.pow 2 bits

structure Family where
  bits : Nat
  steps : Nat
  turns : List Nat
  constants : List Nat

def narrow : Family where
  bits := 32
  steps := 64
  turns := [7, 18, 3, 17, 19, 10, 6, 11, 25, 2, 13, 22]
  constants := (primes.take 64).map (rootBits 3 32)

def wide : Family where
  bits := 64
  steps := 80
  turns := [1, 8, 7, 19, 61, 6, 14, 18, 41, 28, 34, 39]
  constants := primes.map (rootBits 3 64)

namespace Family

def turn (family : Family) (place : Nat) : Nat := (family.turns[place]?).getD 0

def small (family : Family) (place word : Nat) : Nat :=
  rotateRight family.bits (family.turn place) word ^^^
    rotateRight family.bits (family.turn (place + 1)) word ^^^
    word / Nat.pow 2 (family.turn (place + 2))

def large (family : Family) (place word : Nat) : Nat :=
  rotateRight family.bits (family.turn place) word ^^^
    rotateRight family.bits (family.turn (place + 1)) word ^^^
    rotateRight family.bits (family.turn (place + 2)) word

def step (family : Family) (state : List Nat) (word constant : Nat) : List Nat :=
  match state with
  | [a, b, c, d, e, f, g, h] =>
      let limit := Nat.pow 2 family.bits
      let choice := (e &&& f) ^^^ (complement family.bits e &&& g)
      let majority := (a &&& b) ^^^ (a &&& c) ^^^ (b &&& c)
      let first := h + family.large 6 e + choice + constant + word
      let second := family.large 9 a + majority
      [(first + second) % limit, a, b, c, (d + first) % limit, e, f, g]
  | other => other

def digest (family : Family) (start : List Nat) (octets : Octets) : Octets :=
  let size := family.bits / 8
  let whole := padded (16 * size) (2 * size) true octets
  let state := (blocks (16 * size) (whole.length + 1) whole).foldl (fun state block =>
    let words := extended family.steps (fun words place =>
      let word (back : Nat) : Nat := words.getD (place - back) 0
      (word 16 + family.small 0 (word 15) + word 7 + family.small 3 (word 2)) %
        Nat.pow 2 family.bits) ((blocks size (17 * size) block).map ofOctets)
    addStates family.bits state ((words.toList.zip family.constants).foldl
      (fun state (word, constant) => family.step state word constant) state)) start
  state.flatMap (toOctets size)

end Family

def sha256 (octets : Octets) : Octets :=
  narrow.digest ((primes.take 8).map (rootBits 2 32)) octets

def sha224 (octets : Octets) : Octets :=
  (narrow.digest (((primes.drop 8).take 8).map fun prime =>
    rootBits 2 64 prime % Nat.pow 2 32) octets).take 28

def sha512 (octets : Octets) : Octets :=
  wide.digest ((primes.take 8).map (rootBits 2 64)) octets

def sha384 (octets : Octets) : Octets :=
  (wide.digest (((primes.drop 8).take 8).map (rootBits 2 64)) octets).take 48

/-! Check sums -/

def crcStep (sum : Nat) (octet : UInt8) : Nat :=
  let low := sum % Nat.pow 2 24 * 256
  let high := (sum / Nat.pow 2 24) ^^^ octet.toNat
  (List.range 8).foldl (fun sum _ =>
    let shifted := sum * 2
    if shifted < Nat.pow 2 32 then shifted
    else (shifted % Nat.pow 2 32) ^^^ 0x04c11db7) (high * Nat.pow 2 24) ^^^ low

/-- The octets of a number, the lowest ones first, without zeros at the end. -/
def lengthOctets : Nat → Nat → Octets
  | 0, _ => []
  | fuel + 1, n => if n = 0 then [] else UInt8.ofNat (n % 256) :: lengthOctets fuel (n / 256)

def crc (octets : Octets) : Nat :=
  complement 32 ((octets ++ lengthOctets 16 octets.length).foldl crcStep 0)

def turnedSum (octets : Octets) : Nat :=
  octets.foldl (fun sum octet =>
    ((sum / 2 + sum % 2 * 0x8000) + octet.toNat) % 0x10000) 0

/-- Octets added up, and what does not fit into sixteen bits added again. -/
def plainSum (octets : Octets) : Nat :=
  let sum := octets.foldl (fun sum octet => sum + octet.toNat) 0 % Nat.pow 2 32
  let folded := sum % 0x10000 + sum / 0x10000
  folded % 0x10000 + folded / 0x10000

end BatchLaunch.Text.Digest

/-!
SM3: a digest of thirty-two octets.
-/
namespace BatchLaunch.Text.Digest.Sm3

def turn (count word : Nat) : Nat := rotateLeft 32 (count % 32) word

def startWords : List Nat := [0x7380166f, 0x4914b2b9, 0x172442d7, 0xda8a0600, 0xa96f30bc,
  0x163138aa, 0xe38dee4d, 0xb0fb0e4e]

def words (block : Octets) : Array Nat :=
  extended 68 (fun words place =>
    let word (back : Nat) : Nat := words.getD (place - back) 0
    let mixed := word 16 ^^^ word 9 ^^^ turn 15 (word 3)
    mixed ^^^ turn 15 mixed ^^^ turn 23 mixed ^^^ turn 7 (word 13) ^^^ word 6)
    ((blocks 4 65 block).map ofOctets)

def step (words : Array Nat) (state : List Nat) (number : Nat) : List Nat :=
  match state with
  | [a, b, c, d, e, f, g, h] =>
      let limit := Nat.pow 2 32
      let constant := if number < 16 then 0x79cc4519 else 0x7a879d8a
      let one := turn 7 ((turn 12 a + e + turn number constant) % limit)
      let two := one ^^^ turn 12 a
      let upper := if number < 16 then a ^^^ b ^^^ c else (a &&& b) ||| (a &&& c) ||| (b &&& c)
      let lower := if number < 16 then e ^^^ f ^^^ g else (e &&& f) ||| (complement 32 e &&& g)
      let word := words.getD number 0
      let first := (upper + d + two + (word ^^^ words.getD (number + 4) 0)) % limit
      let second := (lower + h + one + word) % limit
      [first, a, turn 9 b, c, second ^^^ turn 9 second ^^^ turn 17 second, e, turn 19 f, g]
  | other => other

def digest (octets : Octets) : Octets :=
  let whole := padded 64 8 true octets
  let state := (blocks 64 (whole.length + 1) whole).foldl (fun state block =>
    let after := (List.range 64).foldl (step (words block)) state
    (state.zip after).map fun (m, n) => m ^^^ n) startWords
  state.flatMap (toOctets 4)

end BatchLaunch.Text.Digest.Sm3
