/-!
Which texts are numbers, truth values or nulls, and which number a text without a sign means.
-/
namespace BatchLaunch.Yaml

def digitValue? (c : Char) : Option Nat :=
  if c.isDigit then some (c.toNat - '0'.toNat)
  else if 'a' ≤ c ∧ c ≤ 'f' then some (c.toNat - 'a'.toNat + 10)
  else if 'A' ≤ c ∧ c ≤ 'F' then some (c.toNat - 'A'.toNat + 10)
  else none

def digitsValue? (base : Nat) : Nat → List Char → Option Nat
  | value, [] => some value
  | value, c :: rest =>
      match digitValue? c with
      | none => none
      | some digit => if digit < base then digitsValue? base (value * base + digit) rest else none

def natural? (base limit : Nat) (text : List Char) : Option Nat :=
  if text.isEmpty then none
  else (digitsValue? base 0 text).filter (· ≤ limit)

/-- Digits in base 16, 8 or 2 behind a mark, else decimal digits without a leading zero. -/
def magnitude? (limit : Nat) (text : List Char) : Option Nat :=
  match text with
  | '0' :: 'x' :: digits => natural? 16 limit digits
  | '0' :: 'o' :: digits => natural? 8 limit digits
  | '0' :: 'b' :: digits => natural? 2 limit digits
  | '0' :: _ :: _ => none
  | digits => natural? 10 limit digits

/-- An integer without a minus sign, of at most 64 bits. -/
def unsigned? (text : String) : Option Nat :=
  match text.toList with
  | '+' :: rest => magnitude? (UInt64.size - 1) rest
  | rest => magnitude? (UInt64.size - 1) rest

def isInteger (text : String) : Bool :=
  match text.toList with
  | '-' :: rest => (magnitude? (Nat.pow 2 127) rest).isSome
  | '+' :: rest => (magnitude? (Nat.pow 2 128 - 1) rest).isSome
  | rest => (magnitude? (Nat.pow 2 128 - 1) rest).isSome

def isTruth (text : String) : Bool :=
  ["true", "True", "TRUE", "false", "False", "FALSE"].contains text

def isNull (text : String) : Bool := ["null", "Null", "NULL", "~"].contains text

def decimalValue? (text : List Char) : Option Nat :=
  if text.isEmpty then none else digitsValue? 10 0 text

/-- A decimal number with digits, perhaps a point among or beside them, and perhaps an exponent:
all digits, the exponent that goes with them as an integer, and nothing else. -/
def decimal? (text : List Char) : Option (List Char × Int) := do
  let whole := text.takeWhile Char.isDigit
  let rest := text.dropWhile Char.isDigit
  let (places, rest) := match rest with
    | '.' :: rest => (rest.takeWhile Char.isDigit, rest.dropWhile Char.isDigit)
    | rest => ([], rest)
  let exponent : Int ← match rest with
    | [] => some 0
    | e :: rest =>
        if e = 'e' || e = 'E' then
          match rest with
          | '-' :: digits => (decimalValue? digits).map fun n => -(n : Int)
          | '+' :: digits => (decimalValue? digits).map Int.ofNat
          | digits => (decimalValue? digits).map Int.ofNat
        else none
  if whole.isEmpty && places.isEmpty then none
  else some (whole ++ places, exponent - places.length)

def leastInfinite : Nat := Nat.pow 2 1024 - Nat.pow 2 970

/-- The number is less than the least one that rounds to infinity in double precision. -/
def isFinite (digits : List Char) (exponent : Int) : Bool :=
  let significant := digits.dropWhile (· = '0')
  let size : Int := significant.length + exponent
  let value := (digitsValue? 10 0 significant).getD 0
  significant.isEmpty || size < 300 ||
    (size < 320 && (if 0 ≤ exponent then value * Nat.pow 10 exponent.toNat < leastInfinite
      else value < leastInfinite * Nat.pow 10 (-exponent).toNat))

/-- A finite decimal number, or an infinity or a quiet not-a-number by name. -/
def isFloat (text : String) : Bool :=
  let finite (digits : List Char) : Bool := (decimal? digits).any fun (ds, e) => isFinite ds e
  if [".inf", ".Inf", ".INF", "+.inf", "+.Inf", "+.INF", "-.inf", "-.Inf", "-.INF", ".nan", ".NaN",
      ".NAN"].contains text then true
  else
    match text.toList with
    | '-' :: rest => finite rest
    | '+' :: rest => finite rest
    | rest => finite rest

end BatchLaunch.Yaml
