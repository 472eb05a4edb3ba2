import BatchLaunch.Text.BinaryReal.Functions
import BatchLaunch.Tools.Awk.Script
import BatchLaunch.Tools.Inputs
import BatchLaunch.Tools.Printf

/-!
Values of scripts, which are texts and numbers at once, and the forms that they are shown in.
-/
namespace BatchLaunch.Tools.Awk

open Text (BinaryReal Precision)

inductive Value where
  | unset
  | number (value : BinaryReal)
  | text (text : Chars)
  | input (text : Chars)
  deriving DecidableEq, Repr

def precision : Precision := .double

namespace Value

def ofInt (n : Int) : Value := .number (.ofInt precision n)

def ofBool (truth : Bool) : Value := ofInt (if truth then 1 else 0)

end Value

def numberAt (text : Chars) : BinaryReal :=
  ((BinaryReal.read? precision text).map (·.1)).getD .zero

def wholeNumber? (text : Chars) : Option BinaryReal :=
  let start := text.dropWhile BinaryReal.isSpace
  if !(start.head?.any fun c => c.isDigit || "+-.".toList.contains c) then none
  else
    match BinaryReal.read? precision start with
    | some (value, rest) => if rest.all BinaryReal.isSpace then some value else none
    | none => none

namespace Value

def toNumber : Value → BinaryReal
  | unset => .zero
  | number value => value
  | text contents | input contents => numberAt contents

def comparable? : Value → Option BinaryReal
  | unset => some .zero
  | number value => some value
  | text _ => none
  | input contents => wholeNumber? contents

def isTrue : Value → Bool
  | unset => false
  | number value => !value.isZero
  | text contents => !contents.isEmpty
  | input contents =>
      match wholeNumber? contents with
      | some value => !value.isZero
      | none => !contents.isEmpty

end Value

/-! Forms -/

def wholeBound : Int := 9223372036854775808

def wholeValue (value : BinaryReal) : Int :=
  match value with
  | .number _ _ _ => max (-wholeBound) (min (wholeBound - 1) value.truncated)
  | .infinite negative => if negative then -wholeBound else wholeBound - 1
  | .notNumber _ => -wholeBound

def unsignedValue (value : BinaryReal) : Nat :=
  match value with
  | .number _ _ _ =>
      let n := value.truncated
      if n < 0 then ((max (-wholeBound) n) + 2 * wholeBound).toNat
      else (min (2 * wholeBound - 1) n).toNat
  | .infinite negative => if negative then 0 else (2 * wholeBound - 1).toNat
  | .notNumber _ => wholeBound.toNat

def realText (directive : Directive) (value : BinaryReal) : Chars :=
  let before := signOf directive value.isNegative
  let text := value.shown precision directive.kind (directive.flags.contains '#') directive.precision
  let hex := directive.kind.toLower = 'a' && value.isFinite
  padNumber directive value.isFinite (before ++ if hex then text.take 2 else [])
    (if hex then text.drop 2 else text)

def wholeText (directive : Directive) (value : BinaryReal) : Chars :=
  let alternate := directive.flags.contains '#'
  let render (before : Chars) (isZero : Bool) (digits : Chars) : Chars :=
    padNumber directive directive.precision.isNone before (padDigits directive isZero digits)
  let n := unsignedValue value
  let mark (text : String) : Chars := if alternate && n ≠ 0 then text.toList else []
  match directive.kind with
  | 'd' | 'i' =>
      let n := wholeValue value
      render (signOf directive (n < 0)) (n = 0) (Nat.toDigits 10 n.natAbs)
  | 'o' =>
      let digits := Nat.toDigits 8 n
      render [] (n = 0 && !alternate) (if alternate && n ≠ 0 then '0' :: digits else digits)
  | 'x' => render (mark "0x") (n = 0) (Nat.toDigits 16 n)
  | 'X' => render (mark "0X") (n = 0) ((Nat.toDigits 16 n).map Char.toUpper)
  | _ => render [] (n = 0) (Nat.toDigits 10 n)

def characterOf (value : Value) : Char :=
  let ofNumber (value : BinaryReal) : Char := Char.ofNat (wholeValue value % 256).toNat
  match value with
  | .unset => '\x00'
  | .number value => ofNumber value
  | .text contents => contents.head?.getD '\x00'
  | .input contents =>
      match wholeNumber? contents with
      | some value => ofNumber value
      | none => contents.head?.getD '\x00'

inductive FormatFault where
  | tooFew
  | improper (number : Nat)
  deriving DecidableEq, Repr

def measured (format : Chars) (values : List Value) :
    Option (Option Int × Chars × List Value) :=
  match format with
  | '*' :: rest =>
      match values with
      | [] => none
      | value :: more => some (some (wholeValue value.toNumber), rest, more)
  | format =>
      let digits := format.takeWhile Char.isDigit
      some ((natural? digits).map Int.ofNat, format.drop digits.length, values)

/-- What a format makes of some values, and why it ends early if it does. Numbers that are shown as
texts are in a form of their own. -/
def formatted (toText : Value → Chars) : Nat → Nat → Chars → List Value → Chars × Option FormatFault
  | 0, _, _, _ => ([], none)
  | fuel + 1, count, format, values =>
      let after (text : Chars) (count : Nat) (format : Chars) (values : List Value) :
          Chars × Option FormatFault :=
        let (more, fault) := formatted toText fuel count format values
        (text ++ more, fault)
      match format with
      | [] => ([], none)
      | '%' :: '%' :: rest => after ['%'] count rest values
      | '%' :: rest =>
          let flags := rest.takeWhile fun c => "-+ #0".toList.contains c
          match measured (rest.drop flags.length) values with
          | none => ([], some .tooFew)
          | some (width, behind, values) =>
              let found : Option (Option Int × Chars × List Value) := match behind with
                | '.' :: behind => (measured behind values).map fun (places, rest, values) =>
                    (some (places.getD 0), rest, values)
                | behind => some (none, behind, values)
              match found with
              | none => ([], some .tooFew)
              | some (places, behind, values) =>
                  let behind := behind.dropWhile fun c => c = 'l' || c = 'h'
                  match behind with
                  | [] => ([], some (.improper (count + 1)))
                  | kind :: behind =>
                      let wide := width.getD 0
                      let directive : Directive := ⟨if wide < 0 then '-' :: flags else flags,
                        wide.natAbs, places.bind fun n => if n < 0 then none else some n.toNat, kind⟩
                      let known := kind = 's' || kind = 'c' || isWhole kind || isFloating kind
                      if !known then ([], some (.improper (count + 1)))
                      else
                        match values with
                        | [] => ([], some .tooFew)
                        | value :: more =>
                            let text :=
                              if kind = 's' then
                                let text := toText value
                                pad directive (directive.precision.elim text text.take)
                              else if kind = 'c' then pad directive [characterOf value]
                              else if isWhole kind then wholeText directive value.toNumber
                              else realText directive value.toNumber
                            after text (count + 1) behind more
      | c :: rest => after [c] count rest values

def numberText (format : Chars) (value : BinaryReal) : Chars :=
  if value.isWhole && value.truncated.natAbs < wholeBound.natAbs then intChars value.truncated
  else (formatted (fun _ => []) (format.length + 1) 0 format [.number value]).1

namespace Value

def toText (format : Chars) : Value → Chars
  | unset => []
  | number value => numberText format value
  | text contents | input contents => contents

/-- The order of two values: that of numbers if both are, and that of texts if not. -/
def relates (format : Chars) (relation : Relation) (first second : Value) : Bool :=
  let holds (order : Ordering) : Bool :=
    match relation with
    | .less => order = .lt
    | .atMost => order ≠ .gt
    | .same => order = .eq
    | .different => order ≠ .eq
    | .atLeast => order ≠ .lt
    | .greater => order = .gt
  match first.comparable?, second.comparable? with
  | some a, some b => (BinaryReal.order? a b).elim (relation = .different) holds
  | _, _ =>
      let a := first.toText format
      let b := second.toText format
      holds (if a < b then .lt else if b < a then .gt else .eq)

end Value

def operate (operation : Operation) (first second : BinaryReal) : BinaryReal :=
  match operation with
  | .add => .add precision first second
  | .subtract => .subtract precision first second
  | .multiply => .multiply precision first second
  | .divide => .divide precision first second
  | .remainder => .remainder precision first second
  | .power => .power precision first second

end BatchLaunch.Tools.Awk
