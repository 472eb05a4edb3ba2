import BatchLaunch.Text.OctetChars

/-!
Numbers with a limited number of binary digits: how they are read, how exact values are rounded to
them, and the forms that they are written in.
-/
namespace BatchLaunch.Text

/-- A number as a whole multiple of a power of two, or something beyond numbers. -/
inductive BinaryReal where
  | number (negative : Bool) (significand : Nat) (exponent : Int)
  | infinite (negative : Bool)
  | notNumber (negative : Bool)
  deriving DecidableEq, Repr

structure Precision where
  digits : Nat
  least : Int
  bound : Int

namespace Precision

def double : Precision := ⟨53, -1074, 1024⟩

def extended : Precision := ⟨64, -16445, 16384⟩

end Precision

namespace BinaryReal

/-- The whole number nearest to a quotient; one in the middle goes to the even neighbour. -/
def nearest (numerator denominator : Nat) : Nat :=
  let quotient := numerator / denominator
  let twice := 2 * (numerator % denominator)
  if denominator < twice || (twice = denominator && quotient % 2 = 1) then quotient + 1
  else quotient

def scale (numerator denominator : Nat) (exponent : Int) : Nat × Nat :=
  if 0 ≤ exponent then (numerator * Nat.pow 2 exponent.toNat, denominator)
  else (numerator, denominator * Nat.pow 2 (-exponent).toNat)

def ofFraction (precision : Precision) (negative : Bool) (numerator denominator : Nat) : BinaryReal :=
  if numerator = 0 then .number negative 0 0
  else
    let estimate : Int := (numerator.log2 : Int) - denominator.log2 - precision.digits
    let wanted (exponent : Int) : Bool :=
      let (n, d) := scale numerator denominator (-exponent)
      n / d < Nat.pow 2 precision.digits
    let exponent := if wanted estimate then estimate
      else if wanted (estimate + 1) then estimate + 1 else estimate + 2
    let exponent := max exponent precision.least
    let (n, d) := scale numerator denominator (-exponent)
    let significand := nearest n d
    if precision.bound ≤ exponent + (significand.log2 : Int) then .infinite negative
    else .number negative significand exponent

def fraction : BinaryReal → Nat × Nat
  | number _ significand exponent => scale significand 1 exponent
  | _ => (0, 1)

def isNegative : BinaryReal → Bool
  | number negative _ _ | infinite negative | notNumber negative => negative

def isZero : BinaryReal → Bool
  | number _ significand _ => significand = 0
  | _ => false

def truncated (value : BinaryReal) : Int :=
  let (n, d) := value.fraction
  if value.isNegative then -(n / d : Nat) else (n / d : Nat)

def ofInt (precision : Precision) (n : Int) : BinaryReal :=
  ofFraction precision (n < 0) n.natAbs 1

/-! Reading -/

def exponentLimit : Nat := 20000

def digitValue (c : Char) : Nat :=
  if c.isDigit then c.toNat - '0'.toNat else c.toLower.toNat - 'a'.toNat + 10

def isHexDigit (c : Char) : Bool := c.isDigit || ('a' ≤ c.toLower && c.toLower ≤ 'f')

def exponentOf (letter : Char) (text : Chars) : Int × Chars :=
  match text with
  | c :: rest =>
      if c.toLower ≠ letter then (0, text)
      else
        let negative := rest.head? = some '-'
        let body := if negative || rest.head? = some '+' then rest.drop 1 else rest
        let digits := body.takeWhile Char.isDigit
        let size := digits.foldl (fun n c =>
          min exponentLimit (10 * n + (c.toNat - '0'.toNat))) 0
        if digits.isEmpty then (0, text)
        else (if negative then -(size : Int) else size, body.drop digits.length)
  | [] => (0, [])

def digitsAround (base : Nat) (isDigit : Char → Bool) (text : Chars) : Option (Nat × Nat × Chars) :=
  let whole := text.takeWhile isDigit
  let rest := text.drop whole.length
  let part := if rest.head? = some '.' then (rest.drop 1).takeWhile isDigit else []
  let behind := if rest.head? = some '.' then rest.drop (1 + part.length) else rest
  let value := (whole ++ part).foldl (fun n c => base * n + digitValue c) 0
  if whole.isEmpty && part.isEmpty then none else some (value, part.length, behind)

def unsigned? (precision : Precision) (negative : Bool) (text : Chars) : Option (BinaryReal × Chars) :=
  let startsWith (word : String) : Bool :=
    word.toList = (text.take word.length).map Char.toLower
  let decimal (text : Chars) : Option (BinaryReal × Chars) :=
    (digitsAround 10 Char.isDigit text).map fun (value, places, rest) =>
      let (exponent, rest) := exponentOf 'e' rest
      let shift := exponent - places
      (if 0 ≤ shift then ofFraction precision negative (value * Nat.pow 10 shift.toNat) 1
        else ofFraction precision negative value (Nat.pow 10 (-shift).toNat), rest)
  if startsWith "infinity" then some (.infinite negative, text.drop 8)
  else if startsWith "inf" then some (.infinite negative, text.drop 3)
  else if startsWith "nan" then some (.notNumber negative, text.drop 3)
  else if startsWith "0x" then
    match digitsAround 16 isHexDigit (text.drop 2) with
    | some (value, places, rest) =>
        let (exponent, rest) := exponentOf 'p' rest
        let (n, d) := scale value 1 (exponent - 4 * places)
        some (ofFraction precision negative n d, rest)
    | none => decimal text
  else decimal text

def isSpace (c : Char) : Bool := " \t\n\x0b\x0c\r".toList.contains c

def read? (precision : Precision) (text : Chars) : Option (BinaryReal × Chars) :=
  let start := text.dropWhile isSpace
  match start with
  | '-' :: rest => unsigned? precision true rest
  | '+' :: rest => unsigned? precision false rest
  | _ => unsigned? precision false start

/-! Writing -/

/-- The power of ten of the first digit of a fraction that is not zero. -/
def magnitude (numerator denominator : Nat) : Int :=
  let digits (n : Nat) : Int := (Nat.toDigits 10 n).length
  let estimate := digits numerator - digits denominator
  let reached := if 0 ≤ estimate then denominator * Nat.pow 10 estimate.toNat ≤ numerator
    else denominator ≤ numerator * Nat.pow 10 (-estimate).toNat
  if reached then estimate else estimate - 1

def rounded (numerator denominator : Nat) (power : Int) : Nat :=
  if 0 ≤ power then nearest (numerator * Nat.pow 10 power.toNat) denominator
  else nearest numerator (denominator * Nat.pow 10 (-power).toNat)

def withPoint (alternate : Bool) (digits : Chars) (places : Nat) : Chars :=
  let padded := List.replicate (places + 1 - digits.length) '0' ++ digits
  let whole := padded.take (padded.length - places)
  if places = 0 then (if alternate then whole ++ ['.'] else whole)
  else whole ++ '.' :: padded.drop (padded.length - places)

def fixedText (alternate : Bool) (places : Nat) (value : BinaryReal) : Chars :=
  let (n, d) := value.fraction
  withPoint alternate (Nat.toDigits 10 (rounded n d places)) places

def scientific (places : Nat) (value : BinaryReal) : Nat × Int :=
  let (n, d) := value.fraction
  if n = 0 then (0, 0)
  else
    let power := magnitude n d
    let digits := rounded n d (places - power)
    if digits = Nat.pow 10 (places + 1) then (digits / 10, power + 1) else (digits, power)

def exponentText (least : Nat) (exponent : Int) : Chars :=
  let digits := Nat.toDigits 10 exponent.natAbs
  (if exponent < 0 then '-' else '+') :: List.replicate (least - digits.length) '0' ++ digits

def scientificText (alternate : Bool) (places : Nat) (value : BinaryReal) : Chars :=
  let (digits, power) := scientific places value
  withPoint alternate (Nat.toDigits 10 digits) places ++ 'e' :: exponentText 2 power

def withoutEndZeros (text : Chars) : Chars :=
  if !text.contains '.' then text
  else
    let trimmed := text.reverse.dropWhile (· = '0')
    (if trimmed.head? = some '.' then trimmed.drop 1 else trimmed).reverse

def generalText (alternate : Bool) (places : Nat) (value : BinaryReal) : Chars :=
  let count := max places 1
  let (digits, power) := scientific (count - 1) value
  let trim (text : Chars) : Chars := if alternate then text else withoutEndZeros text
  if -4 ≤ power && power < count then
    trim (fixedText alternate (count - 1 - power).toNat value)
  else
    trim (withPoint alternate (Nat.toDigits 10 digits) (count - 1)) ++ 'e' :: exponentText 2 power

def hexText (leading : Nat) (alternate : Bool) (places : Option Nat) (value : BinaryReal) : Chars :=
  match value with
  | number _ significand exponent =>
      if significand = 0 then
        "0x".toList ++ withPoint alternate ['0'] (places.getD 0) ++ "p+0".toList
      else
        let behind := significand.log2 + 1 - leading
        let short := leading - (significand.log2 + 1)
        let power := exponent + behind - short
        let width := (behind + 3) / 4
        let padded := significand * Nat.pow 2 (4 * width - behind + short)
        let digits := Nat.toDigits 16 (match places with
          | some places =>
              if places < width then nearest padded (Nat.pow 16 (width - places))
              else padded * Nat.pow 16 (places - width)
          | none => padded)
        let text := withPoint alternate digits (places.getD width)
        "0x".toList ++ (if places.isNone then
          (if alternate then text else withoutEndZeros text) else text) ++
            'p' :: exponentText 1 power
  | _ => []

def shown (precision : Precision) (kind : Char) (alternate : Bool) (places : Option Nat)
    (value : BinaryReal) : Chars :=
  let text := match value with
    | infinite _ => "inf".toList
    | notNumber _ => "nan".toList
    | number _ _ _ =>
        match kind.toLower with
        | 'f' => fixedText alternate (places.getD 6) value
        | 'e' => scientificText alternate (places.getD 6) value
        | 'g' => generalText alternate (places.getD 6) value
        | _ => hexText (if precision.digits = 64 then 4 else 1) alternate places value
  if kind.isUpper then text.map Char.toUpper else text

def isFinite : BinaryReal → Bool
  | number _ _ _ => true
  | _ => false

end BinaryReal
end BatchLaunch.Text
