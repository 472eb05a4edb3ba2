import BatchLaunch.Text.BinaryReal
import BatchLaunch.Tools.Inputs

/-!
Orders of texts: by their characters, as numbers of several kinds, as months, and as versions.
-/
namespace BatchLaunch.Tools

open Text (BinaryReal)

def compareTexts : Chars → Chars → Ordering
  | [], [] => .eq
  | [], _ :: _ => .lt
  | _ :: _, [] => .gt
  | a :: as, b :: bs => (compare a.toNat b.toNat).then (compareTexts as bs)

def precedes (a b : Chars) : Bool := compareTexts a b = .lt

def sortedNames (names : List Chars) : List Chars :=
  names.mergeSort fun a b => !precedes b a

structure Decimal where
  negative : Bool
  digits : Nat
  places : Nat

def Decimal.leading (text : Chars) : Decimal × Chars :=
  let text := text.dropWhile isBlankChar
  let (negative, text) := if text.head? = some '-' then (true, text.drop 1) else (false, text)
  let whole := text.takeWhile Char.isDigit
  let behind := text.drop whole.length
  let (fraction, behind) := if behind.head? = some '.' then
      ((behind.drop 1).takeWhile Char.isDigit, (behind.drop 1).dropWhile Char.isDigit)
    else ([], behind)
  (⟨negative, (natural? (whole ++ fraction)).getD 0, fraction.length⟩, behind)

def Decimal.scaled (number : Decimal) (places : Nat) : Int :=
  let value : Int := number.digits * Nat.pow 10 (places - number.places)
  if number.negative then -value else value

def compareDecimals (a b : Decimal) : Ordering :=
  let places := max a.places b.places
  compare (a.scaled places) (b.scaled places)

def compareNumeric (a b : Chars) : Ordering :=
  compareDecimals (Decimal.leading a).1 (Decimal.leading b).1

def unitRank (text : Chars) : Int :=
  let (number, behind) := Decimal.leading text
  let unit := match behind.head? with
    | some 'k' => 'K'
    | some c => c
    | none => ' '
  let rank : Int := (powerLetters.findIdx? (· = unit)).elim 0 fun place => (place : Int) + 1
  if number.digits = 0 then 0 else if number.negative then -rank else rank

def compareHuman (a b : Chars) : Ordering :=
  (compare (unitRank a) (unitRank b)).then (compareNumeric a b)

def generalValue (text : Chars) : Nat × Int × Nat :=
  match BinaryReal.read? .extended text with
  | none => (0, 0, 1)
  | some (value, _) =>
      match value with
      | .infinite negative => (if negative then 2 else 4, 0, 1)
      | .number negative _ _ =>
          let (numerator, denominator) := value.fraction
          (3, if negative then -(numerator : Int) else numerator, denominator)
      | _ => (1, 0, 1)

def compareGeneral (a b : Chars) : Ordering :=
  let (rank, numerator, denominator) := generalValue a
  let (rank', numerator', denominator') := generalValue b
  (compare rank rank').then (compare (numerator * denominator') (numerator' * denominator))

def monthNames : List String :=
  ["JAN", "FEB", "MAR", "APR", "MAY", "JUN", "JUL", "AUG", "SEP", "OCT", "NOV", "DEC"]

def monthOf (text : Chars) : Nat :=
  let name := ((text.dropWhile isBlankChar).take 3).map Char.toUpper
  (monthNames.findIdx? fun month => month.toList = name).elim 0 (· + 1)

def versionRank (c : Option Char) : Int :=
  match c with
  | none => 0
  | some '~' => -1
  | some c => if c.isDigit then 0 else if c.isAlpha then c.toNat else c.toNat + 256

def compareVersions : Nat → Chars → Chars → Ordering
  | 0, _, _ => .eq
  | fuel + 1, a, b =>
      let isDigit (text : Chars) : Bool := text.head?.any Char.isDigit
      if a.isEmpty && b.isEmpty then .eq
      else if (!a.isEmpty && !isDigit a) || (!b.isEmpty && !isDigit b) then
        (compare (versionRank a.head?) (versionRank b.head?)).then
          (compareVersions fuel (if isDigit a then a else a.drop 1)
            (if isDigit b then b else b.drop 1))
      else
        let value (text : Chars) : Nat := (natural? (text.takeWhile Char.isDigit)).getD 0
        (compare (value a) (value b)).then
          (compareVersions fuel (a.dropWhile Char.isDigit) (b.dropWhile Char.isDigit))

def compareAsVersions (a b : Chars) : Ordering := compareVersions (a.length + b.length + 1) a b

end BatchLaunch.Tools
