import BatchLaunch.Text.BinaryReal

/-!
Arithmetic with numbers of a limited number of binary digits. Each operation finds the exact result
and rounds it once.
-/
namespace BatchLaunch.Text.BinaryReal

def zero : BinaryReal := .number false 0 0

def one : BinaryReal := .number false 1 0

def undefinedResult : BinaryReal := .notNumber true

def isUndefined : BinaryReal → Bool
  | notNumber _ => true
  | _ => false

def negated : BinaryReal → BinaryReal
  | number negative significand exponent => .number (!negative) significand exponent
  | infinite negative => .infinite (!negative)
  | notNumber negative => .notNumber (!negative)

def signed (negative : Bool) (significand : Nat) : Int :=
  if negative then -(significand : Int) else significand

def ofScaled (precision : Precision) (negative : Bool) (significand : Nat) (exponent : Int) :
    BinaryReal :=
  let (n, d) := scale significand 1 exponent
  ofFraction precision negative n d

def aligned (first : Nat) (e : Int) (second : Nat) (f : Int) : Nat × Nat × Int :=
  let least := min e f
  (first * Nat.pow 2 (e - least).toNat, second * Nat.pow 2 (f - least).toNat, least)

def add (precision : Precision) : BinaryReal → BinaryReal → BinaryReal
  | notNumber negative, _ => .notNumber negative
  | _, notNumber negative => .notNumber negative
  | infinite s, infinite t => if s = t then .infinite s else undefinedResult
  | infinite s, _ => .infinite s
  | _, infinite t => .infinite t
  | number s m e, number t n f =>
      let (a, b, least) := aligned m e n f
      let sum := signed s a + signed t b
      if sum = 0 then .number (s && t) 0 0
      else ofScaled precision (sum < 0) sum.natAbs least

def subtract (precision : Precision) (a b : BinaryReal) : BinaryReal := add precision a b.negated

def multiply (precision : Precision) : BinaryReal → BinaryReal → BinaryReal
  | notNumber negative, _ => .notNumber negative
  | _, notNumber negative => .notNumber negative
  | number s m e, number t n f => ofScaled precision (s != t) (m * n) (e + f)
  | a, b => if a.isZero || b.isZero then undefinedResult else .infinite (a.isNegative != b.isNegative)

def divide (precision : Precision) : BinaryReal → BinaryReal → BinaryReal
  | notNumber negative, _ => .notNumber negative
  | _, notNumber negative => .notNumber negative
  | infinite _, infinite _ => undefinedResult
  | infinite s, b => .infinite (s != b.isNegative)
  | a, infinite t => .number (a.isNegative != t) 0 0
  | number s m e, number t n f =>
      if n = 0 then (if m = 0 then undefinedResult else .infinite (s != t))
      else
        let (a, b) := scale m n (e - f)
        ofFraction precision (s != t) a b

/-- What is left of a number after a whole number of times another one; it has the sign of the
first. -/
def remainder (precision : Precision) : BinaryReal → BinaryReal → BinaryReal
  | notNumber negative, _ => .notNumber negative
  | _, notNumber negative => .notNumber negative
  | infinite _, _ => undefinedResult
  | a, infinite _ => a
  | number s m e, number _ n f =>
      if n = 0 then undefinedResult
      else
        let (a, b, least) := aligned m e n f
        ofScaled precision s (a % b) least

def order? : BinaryReal → BinaryReal → Option Ordering
  | notNumber _, _ | _, notNumber _ => none
  | infinite s, infinite t => some (compare (if s then 0 else 1) (if t then 0 else 1))
  | infinite s, _ => some (if s then .lt else .gt)
  | _, infinite t => some (if t then .gt else .lt)
  | number s m e, number t n f =>
      let (a, b, _) := aligned m e n f
      some (compare (signed s a) (signed t b))

def isWhole : BinaryReal → Bool
  | number _ significand exponent =>
      0 ≤ exponent || significand % Nat.pow 2 (-exponent).toNat = 0
  | _ => false

/-- The whole number nearest to a number; one in the middle goes to the even neighbour. -/
def nearestInt (value : BinaryReal) : Int :=
  let (n, d) := value.fraction
  signed value.isNegative (nearest n d)

def truncate (precision : Precision) : BinaryReal → BinaryReal
  | number negative significand exponent =>
      let (n, d) := scale significand 1 exponent
      ofFraction precision negative (n / d) 1
  | other => other

end BatchLaunch.Text.BinaryReal
