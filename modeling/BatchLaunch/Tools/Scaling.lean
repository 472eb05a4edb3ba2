import BatchLaunch.Text.BinaryReal.Arithmetic
import BatchLaunch.Tools.Columns

/-!
Numbers with letters for powers, such as `12K`, made of plain ones and back.
-/
namespace BatchLaunch.Tools

open Host (Action)
open Text (BinaryReal)

namespace Scaling

/-! Arithmetic -/

def signed (value : BinaryReal) : Int × Nat :=
  let (n, d) := value.fraction
  (if value.isNegative then -(n : Int) else n, d)

def real (numerator : Int) (denominator : Nat) : BinaryReal :=
  .ofFraction .extended (numerator < 0) numerator.natAbs denominator

def whole (n : Int) : BinaryReal := real n 1

def times (a b : BinaryReal) : BinaryReal := a.multiply .extended b

def plus (a b : BinaryReal) : BinaryReal := a.add .extended b

def dividedBy (a b : BinaryReal) : BinaryReal := a.divide .extended b

def tenTo (power : Nat) : BinaryReal := whole (Nat.pow 10 power)

def reaches (value : BinaryReal) (n : Nat) : Bool :=
  let (m, d) := value.fraction
  n * d ≤ m

def reduce (base : Nat) : Nat → Nat → BinaryReal → BinaryReal × Nat
  | 0, power, value => (value, power)
  | fuel + 1, power, value =>
      if reaches value base then reduce base fuel (power + 1) (dividedBy value (whole base))
      else (value, power)

inductive Rounding where
  | up
  | down
  | fromZero
  | towardsZero
  | nearest
  deriving DecidableEq, Repr

def Rounding.choices : List (List String × Rounding) := [
  (["up"], .up), (["down"], .down), (["from-zero"], .fromZero),
  (["towards-zero"], .towardsZero), (["nearest"], .nearest)]

def Rounding.apply (rounding : Rounding) (value : BinaryReal) : Int :=
  let (n, d) := signed value
  let up : Int := -(-n / (d : Int))
  let down : Int := n / (d : Int)
  match rounding with
  | .up => up
  | .down => down
  | .fromZero => if n < 0 then down else up
  | .towardsZero => if n < 0 then up else down
  | .nearest =>
      (plus value (real (if n < 0 then -1 else 1) 2)).truncated

def largestPiece : Int := 9223372036854775807

def Rounding.round (rounding : Rounding) (value : BinaryReal) : BinaryReal :=
  let pieces := (dividedBy value (whole largestPiece)).truncated
  let base := times (whole largestPiece) (whole pieces)
  plus base (whole (rounding.apply (plus value (times base (whole (-1))))))

/-! Reading -/

inductive Scale where
  | plain
  | guessed
  | decimal
  | binary
  | marked
  deriving DecidableEq, Repr

def Scale.targets : List (List String × Scale) :=
  [(["none"], .plain), (["si"], .decimal), (["iec"], .binary), (["iec-i"], .marked)]

def Scale.sources : List (List String × Scale) :=
  [(["none"], .plain), (["auto"], .guessed), (["si"], .decimal), (["iec"], .binary),
    (["iec-i"], .marked)]

def Scale.base : Scale → Nat
  | .binary | .marked => 1024
  | _ => 1000

def letters : Chars := "KMGTPEZY".toList

inductive NumberFault where
  | tooLarge
  | invalid
  | forbidden
  | badLetter
  | unmarked
  | more (behind : Chars)
  deriving DecidableEq, Repr

def NumberFault.text (fault : NumberFault) (word : Chars) : Chars :=
  match fault with
  | .tooLarge => "value too large to be converted: ".toList ++ quoted word
  | .invalid => "invalid number: ".toList ++ quoted word
  | .forbidden => "rejecting suffix in input: ".toList ++ quoted word ++
      " (consider using --from)".toList
  | .badLetter => "invalid suffix in input: ".toList ++ quoted word
  | .unmarked => "missing 'i' suffix in input: ".toList ++ quoted word ++
      " (e.g Ki/Mi/Gi)".toList
  | .more behind => "invalid suffix in input ".toList ++ quoted word ++ ": ".toList ++ quoted behind

def mostDigits : Nat := 27

def digitsValue (digits : Chars) : Except NumberFault BinaryReal :=
  if mostDigits < (digits.dropWhile (· = '0')).length then .error .tooLarge
  else
    .ok (digits.foldl (fun value c =>
      plus (times value (whole 10)) (whole (c.toNat - '0'.toNat))) (whole 0))

def decimalOf (text : Chars) : Except NumberFault (BinaryReal × Nat × Chars) :=
  let negative := text.head? = some '-'
  let start := if negative then text.drop 1 else text
  let digits := start.takeWhile Char.isDigit
  let rest := start.drop digits.length
  if digits.isEmpty && rest.head? ≠ some '.' then .error .invalid
  else do
    let value ← digitsValue digits
    let sign : BinaryReal := whole (if negative then -1 else 1)
    if rest.head? ≠ some '.' then return (times value sign, 0, rest)
    else
      let part := (rest.drop 1).takeWhile Char.isDigit
      if part.isEmpty && (rest.drop 1).head? ≠ some '.' then .error .invalid
      else
        let small := dividedBy (← digitsValue part) (tenTo part.length)
        return (times (plus value small) sign, part.length, rest.drop (1 + part.length))

def numberOf (scale : Scale) (text : Chars) : Except NumberFault (BinaryReal × Nat) := do
  let (value, places, rest) ← decimalOf text
  let (power, base, places, rest) ← match rest.dropWhile isBlankChar with
    | letter :: behind =>
        match letters.findIdx? (· = letter) with
        | none => .error .badLetter
        | some place =>
            if scale = .plain then .error .forbidden
            else if scale = .guessed && behind.head? = some 'i' then
              .ok (place + 1, 1024, 0, behind.drop 1)
            else .ok (place + 1, scale.base, 0, behind)
    | [] =>
        if rest.isEmpty then .ok (0, scale.base, places, rest) else .error .badLetter
  let rest ← if scale = .marked then
      (if rest.head? = some 'i' then .ok (rest.drop 1) else .error .unmarked)
    else .ok rest
  let factor := (List.range power).foldl (fun value _ => times value (whole base)) (whole 1)
  if rest.isEmpty then return (times value factor, places) else .error (.more rest)

/-! Writing -/

inductive Leniency where
  | abort
  | fail
  | warn
  | ignore
  deriving DecidableEq, Repr

def Leniency.choices : List (List String × Leniency) :=
  [(["abort"], .abort), (["fail"], .fail), (["warn"], .warn), (["ignore"], .ignore)]

structure Form where
  lead : Chars
  behind : Chars
  /-- How much room numbers take; negative to put them at its start. -/
  width : Int
  zeroWidth : Nat
  places : Option Nat
  deriving DecidableEq, Repr

structure Plan where
  source : Scale
  target : Scale
  sourceUnit : Nat
  targetUnit : Nat
  rounding : Rounding
  form : Form
  suffix : Chars
  delimiter : Option Char
  fields : List PlaceRange
  leniency : Leniency
  keepsRoom : Bool

def fixed (zeroWidth places : Nat) (value : BinaryReal) : Chars :=
  let digits := BinaryReal.fixedText false places value
  let sign : Chars := if value.isNegative then ['-'] else []
  sign ++ List.replicate (zeroWidth - digits.length - sign.length) '0' ++ digits

def shown (plan : Plan) (places : Nat) (value : BinaryReal) : Chars :=
  match plan.target with
  | .plain | .guessed =>
      let rounded := plan.rounding.round (times value (tenTo places))
      fixed plan.form.zeroWidth places (dividedBy rounded (tenTo places))
  | target =>
      let base := target.base
      let (value, power) := reduce base 100 0 value
      let adjust := match plan.form.places with
        | some places => min (power * 3) places
        | none => if reaches value 10 then 0 else 1
      let value := dividedBy (plan.rounding.round (times value (tenTo adjust))) (tenTo adjust)
      let (value, power) := if reaches value base then (dividedBy value (whole base), power + 1)
        else (value, power)
      let point := !value.isZero && !reaches value 10 && 0 < power
      let places := plan.form.places.getD (if point then 1 else 0)
      fixed plan.form.zeroWidth places value ++
        (if power = 0 then [] else
          (letters[power - 1]?).toList ++ (if target = .marked then ['i'] else []))

def sizeFault? (plan : Plan) (places : Nat) (value : BinaryReal) : Option Chars :=
  let power := (reduce 10 5000 0 value).2
  let number := (if value.isNegative then ['-'] else []) ++ BinaryReal.generalText false 6 value
  if plan.target = .plain && 18 < power + places then
    some (if places = 0 then
        "value too large to be printed: '".toList ++ number ++ "' (consider using --to)".toList
      else "value/precision too large to be printed: '".toList ++ number ++ '/' ::
        natChars places ++ "' (consider using --to)".toList)
  else if mostDigits - 1 < power then
    some ("value too large to be printed: '".toList ++ number ++
      "' (cannot handle values > 999Y)".toList)
  else none

inductive Piece where
  | text (text : Chars)
  | fault (text : Chars)
  deriving DecidableEq, Repr

def fieldPieces (plan : Plan) (place : Nat) (field : Chars) : List Piece × Bool :=
  if !plan.fields.any (inRange place) then ([.text field], true)
  else
    let kept := field.length - plan.suffix.length
    let field := if !plan.suffix.isEmpty && plan.suffix.length < field.length &&
      field.drop kept = plan.suffix then field.take kept else field
    let start := field.dropWhile isBlankChar
    let width : Int :=
      if plan.keepsRoom then
        (if start.length < field.length || 1 < place then field.length else 0)
      else plan.form.width
    let refuse (fault : Chars) : List Piece × Bool :=
      ((if plan.leniency = .ignore then [] else [.fault fault]) ++ [.text field], false)
    match numberOf plan.source start with
    | .error fault => refuse (fault.text start)
    | .ok (value, places) =>
        let value := if plan.sourceUnit = 1 && plan.targetUnit = 1 then value
          else dividedBy (times value (whole plan.sourceUnit)) (whole plan.targetUnit)
        let places := plan.form.places.getD places
        match sizeFault? plan places value with
        | some fault => refuse fault
        | none =>
            let text := shown plan places value ++ plan.suffix
            let filled := if 0 ≤ width then padLeft width.toNat text
              else padRight width.natAbs text
            ([.text (plan.form.lead ++ filled ++ plan.form.behind)], true)

def nextField (delimiter : Option Char) (line : Chars) : Chars × Chars :=
  match delimiter with
  | some c =>
      let field := line.takeWhile (· ≠ c)
      (field, line.drop field.length)
  | none =>
      let isGap (c : Char) : Bool := isBlankChar c || c = '\n'
      let blanks := line.takeWhile isGap
      let field := blanks ++ (line.drop blanks.length).takeWhile fun c => !isGap c
      (field, line.drop field.length)

def linePieces (plan : Plan) : Nat → Nat → Chars → List Piece × Bool
  | 0, _, _ => ([], true)
  | fuel + 1, place, line =>
      let (field, rest) := nextField plan.delimiter line
      let (pieces, fine) := fieldPieces plan place field
      if rest.isEmpty then (pieces, fine)
      else
        let (more, alsoFine) := linePieces plan fuel (place + 1) (rest.drop 1)
        (pieces ++ .text [plan.delimiter.getD ' '] :: more, fine && alsoFine)

def write (name : Chars) (leniency : Leniency) : Chars → List Piece → Action Unit
  | pending, [] => do
      let _ ← put pending
  | pending, .text text :: rest => write name leniency (pending ++ text) rest
  | pending, .fault text :: rest => do
      let _ ← put pending
      complain name text
      if leniency = .abort then Action.exit 2
      write name leniency [] rest

/-! Forms -/

def beforeDirective : Chars → Option (Nat × Chars)
  | [] => none
  | '%' :: '%' :: rest => (beforeDirective rest).map fun (count, found) => (count + 1, found)
  | '%' :: rest => some (0, rest)
  | _ :: rest => (beforeDirective rest).map fun (count, found) => (count + 1, found)

def hasDirective : Chars → Bool
  | [] => false
  | '%' :: '%' :: rest => hasDirective rest
  | '%' :: _ => true
  | _ :: rest => hasDirective rest

def formOf (width : Int) (text : Chars) : Except Chars Form := do
  let some (count, rest) := beforeDirective text
    | .error ("format ".toList ++ quoted text ++ " has no % directive".toList)
  let isFlag (c : Char) : Bool := c = ' ' || c = '\x27' || c = '0'
  let flags := rest.takeWhile isFlag
  let zero := flags.contains '0'
  let rest := rest.drop flags.length
  let negative := rest.head? = some '-'
  let behindSign := if negative || rest.head? = some '+' then rest.drop 1 else rest
  let digits := behindSign.takeWhile Char.isDigit
  let rest := if digits.isEmpty then rest else behindSign.drop digits.length
  let n := (natural? digits).getD 0
  if largestPiece < n then
    .error ("invalid format ".toList ++ quoted text ++ " (width overflow)".toList)
  let form : Form := ⟨text.take count, [], width, 0, none⟩
  let form := if n = 0 then form
    else if negative then { form with width := -(n : Int) }
    else if zero then { form with zeroWidth := n }
    else { form with width := n }
  if rest.isEmpty then .error ("format ".toList ++ quoted text ++ " ends in %".toList)
  let (form, rest) ← if rest.head? ≠ some '.' then .ok (form, rest)
    else
      let digits := (rest.drop 1).takeWhile Char.isDigit
      let after := (rest.drop 1).headD 'f'
      if digits.isEmpty && (isBlankChar after || after = '+' || after = '-') then
        .error ("invalid precision in format ".toList ++ quoted text)
      else
        .ok ({ form with places := some ((natural? digits).getD 0) },
          rest.drop (1 + digits.length))
  if rest.head? ≠ some 'f' then
    .error ("invalid format ".toList ++ quoted text ++
      ", directive must be %[0]['][-][N][.][N]f".toList)
  let behind := rest.drop 1
  if hasDirective behind then
    .error ("format ".toList ++ quoted text ++ " has too many % directives".toList)
  return { form with behind := behind }

def unit? (text : Chars) : Option Nat :=
  let digits := text.takeWhile Char.isDigit
  let n := if digits.isEmpty then some 1 else natural? digits
  let times := match text.drop digits.length with
    | [] => if digits.isEmpty then none else some 1
    | [letter] => (letters.findIdx? (· = letter)).map fun place => Nat.pow 1000 (place + 1)
    | [letter, 'i'] => (letters.findIdx? (· = letter)).map fun place => Nat.pow 1024 (place + 1)
    | _ => none
  match n, times with
  | some n, some times =>
      if n * times = 0 || largestCount < n * times then none else some (n * times)
  | _, _ => none

end Scaling

open Scaling in
def numfmt : Tool := withOptions
  { letters := "d:z", mixed := true
    words := [("from:", "from"), ("from-unit:", "from-unit"), ("to:", "to"),
      ("to-unit:", "to-unit"), ("round:", "round"), ("padding:", "padding"),
      ("suffix:", "suffix"), ("grouping", "grouping"), ("delimiter:", "d"), ("field:", "field"),
      ("debug", "debug"), ("-debug", "debug"), ("header::", "header"), ("format:", "format"),
      ("invalid:", "invalid"), ("zero-terminated", "z")] } 1
  fun name asked => do
    let choose {α : Type} (key : String) (choices : List (List String × α)) (other : α) :
        Action α :=
      match asked.value? key with
      | none => pure other
      | some text => choiceOf name ("--" ++ key) choices text
    let source ← choose "from" Scale.sources .plain
    let target ← choose "to" Scale.targets .plain
    let unit (key : String) : Action Nat :=
      match asked.value? key with
      | none => pure 1
      | some text =>
          match unit? text with
          | some n => pure n
          | none => giveUp name ("invalid unit size: ".toList ++ quoted text) 1
    let sourceUnit ← unit "from-unit"
    let targetUnit ← unit "to-unit"
    let rounding ← choose "round" Rounding.choices .fromZero
    let width ← match asked.value? "padding" with
      | none => pure 0
      | some text =>
          match integer? text with
          | none | some 0 => giveUp name ("invalid padding value ".toList ++ quoted text) 1
          | some width => pure width
    let fields ← match asked.values "field" with
      | [] => pure [(1, some 1)]
      | [text] =>
          if text = ['-'] then pure [(1, none)]
          else
            match rangesOf true text with
            | .ok ranges => pure ranges
            | .error fault => giveUpUse name fault 1
      | _ => giveUp name "multiple field specifications".toList 1
    if (asked.value? "d").any fun text => 1 < text.length then
      giveUp name "the delimiter must be a single character".toList 1
    let delimiter := (asked.value? "d").map fun text => text.headD '\x00'
    let header ← match asked.value? "header" with
      | none => pure 0
      | some [] => pure 1
      | some text =>
          match natural? text with
          | none | some 0 => giveUp name ("invalid header value ".toList ++ quoted text) 1
          | some n => pure n
    let leniency ← choose "invalid" Leniency.choices .abort
    if asked.has "format" && asked.has "grouping" then
      giveUp name "--grouping cannot be combined with --format".toList 1
    let form ← match asked.value? "format" with
      | none => pure ⟨[], [], width, 0, none⟩
      | some text =>
          match formOf width text with
          | .ok form => pure form
          | .error fault => giveUp name fault 1
    let groups := asked.has "grouping" ||
      (asked.value? "format").any fun text => (((beforeDirective text).map (·.2)).getD []
        |>.takeWhile fun c => c = ' ' || c = '\x27' || c = '0').contains '\x27'
    if groups && target ≠ .plain then
      giveUp name "grouping cannot be combined with --to".toList 1
    let plan : Plan := {
      source := source, target := target, sourceUnit := sourceUnit, targetUnit := targetUnit
      rounding := rounding, form := form, suffix := (asked.value? "suffix").getD []
      delimiter := delimiter, fields := fields, leniency := leniency
      keepsRoom := form.width = 0 && delimiter.isNone }
    let ending := endingOf asked
    let convert (line : Chars) : List Piece × Bool := linePieces plan (line.length + 1) 1 line
    let (pieces, fine) ← if !asked.operands.isEmpty then
        let found := asked.operands.map convert
        pure (found.flatMap (fun (pieces, _) => pieces ++ [.text [ending]]), found.all (·.2))
      else do
        let text ← match ← slurp ['-'] with
          | .ok text => pure text
          | .error _ => pure []
        let records := recordsWith ending text
        let found := (records.drop header).map fun record =>
          if record.getLast? = some ending then
            let (pieces, fine) := convert record.dropLast
            (pieces ++ [.text [ending]], fine)
          else convert record
        pure (.text (records.take header).flatten :: found.flatMap (·.1), found.all (·.2))
    write name leniency [] pieces
    pure (if !fine && leniency ≠ .warn && leniency ≠ .ignore then 2 else 0)

end BatchLaunch.Tools
