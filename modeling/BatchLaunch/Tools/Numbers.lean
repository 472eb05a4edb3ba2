import BatchLaunch.Text.Regex.Parse
import BatchLaunch.Tools.Order
import BatchLaunch.Tools.Printf

/-!
Programs about numbers: sequences, prime factors, and expressions.
-/
namespace BatchLaunch.Tools

open Host (Action)
open Text (Regex)

/-! Sequences -/

/-- A number of a sequence as it is given: a multiple of a power of ten, how many places it shows
behind the point, and how wide it is. -/
structure SeqNumber where
  value : Int
  scale : Nat
  places : Nat
  width : Nat

/-- The sign, the digits around the point, and the power of ten of a decimal number. -/
def decimalParts? (text : Chars) : Option (Bool × Chars × Option Chars × Int) :=
  let (negative, rest) := match text with
    | '-' :: rest => (true, rest)
    | '+' :: rest => (false, rest)
    | rest => (false, rest)
  let whole := rest.takeWhile Char.isDigit
  let rest := rest.drop whole.length
  let (fraction, rest) := match rest with
    | '.' :: rest => (some (rest.takeWhile Char.isDigit), rest.dropWhile Char.isDigit)
    | rest => (none, rest)
  let power := match rest with
    | [] => some 0
    | c :: digits => if c = 'e' || c = 'E' then integer? digits else none
  if whole.isEmpty && (fraction.getD []).isEmpty then none
  else power.map fun power => (negative, whole, fraction, power)

def seqNumber? (text : Chars) : Option SeqNumber :=
  let text := text.dropWhile isSpaceChar
  (decimalParts? text).map fun (negative, whole, fraction, power) =>
    let digits := fraction.getD []
    let shift : Int := power - digits.length
    let value : Int := ((natural? (whole ++ digits)).getD 0 : Nat)
    let signed := if negative then -value else value
    let places : Int := max 0 (digits.length - power)
    let written := (text.takeWhile fun c => c ≠ 'e' && c ≠ 'E').length -
      (if text.head? = some '+' then 1 else 0)
    let adjust : Int := (if fraction = some [] then -1 else 0) +
      (if fraction.any (!·.isEmpty) && whole.isEmpty then 1 else 0)
    let widened : Int := if power < 0 then
        (if fraction.any (!·.isEmpty) then 0 else 1) - power
      else if digits.isEmpty then power
      else max 0 (power - digits.length) - (if places = 0 then 1 else 0)
    ⟨if 0 ≤ shift then signed * Nat.pow 10 shift.toNat else signed, (-shift).toNat, places.toNat,
      ((written : Int) + adjust + widened).toNat⟩

def SeqNumber.scaled (number : SeqNumber) (scale : Nat) : Int :=
  number.value * Nat.pow 10 (scale - number.scale)

def decimalText (value : Int) (scale places : Nat) : Chars :=
  let digits := Nat.toDigits 10 value.natAbs
  let padded := List.replicate (scale + 1 - digits.length) '0' ++ digits
  let whole := padded.take (padded.length - scale)
  let fraction := (padded.drop (padded.length - scale)).take places
  (if value < 0 then ['-'] else []) ++ whole ++ (if places = 0 then [] else '.' :: fraction)

def seqFormatFault? (format : Chars) : Option Chars :=
  let rec directives : Nat → Chars → List Chars
    | 0, _ => []
    | _, [] => []
    | fuel + 1, '%' :: '%' :: rest => directives fuel rest
    | fuel + 1, '%' :: rest =>
        (rest.dropWhile fun c => "-+#0 '0123456789.L".toList.contains c) :: directives fuel rest
    | fuel + 1, _ :: rest => directives fuel rest
  let about (text : String) : Option Chars := some ("format ".toList ++ quoted format ++ text.toList)
  match directives (format.length + 1) format with
  | [] => about " has no % directive"
  | [] :: _ => about " ends in %"
  | (c :: _) :: more =>
      if !"efgaEFGA".toList.contains c then
        some ("format ".toList ++ quoted format ++ " has unknown %".toList ++
          c :: " directive".toList)
      else if more.isEmpty then none
      else about " has too many % directives"

def putJoined (separator : Chars) (text : Nat → Chars) : Nat → Nat → Nat → Action Unit
  | 0, _, _ => pure ()
  | fuel + 1, first, count =>
      if count = 0 then pure ()
      else do
        let some := min count 500
        let texts := (List.range some).map fun n => text (first + n)
        let fine ← put ((if first = 0 then [] else separator) ++ join separator texts)
        if fine then putJoined separator text fuel (first + some) (count - some)

def numbersApart : List Chars → List Chars
  | [] => []
  | word :: rest =>
      let isNumber := match word with
        | '-' :: c :: _ => c.isDigit || c = '.'
        | _ => false
      if isNumber then ['-', '-'] :: word :: rest
      else if word.length < 2 || word.head? ≠ some '-' || word = ['-', '-'] then word :: rest
      else if ["-s", "-f", "--separator", "--format"].contains (String.ofList word) then
        match rest with
        | value :: more => word :: value :: numbersApart more
        | [] => [word]
      else word :: numbersApart rest

def seq : Tool := fun name words =>
  withOptions
    { letters := "f:s:w", mixed := false
      words := [("equal-width", "w"), ("format:", "f"), ("separator:", "s")] } 1
    (fun name asked => do
      needOperand name asked 1
      refuseExtra name asked 3 1 quoted
      for format in (asked.value? "f").toList do
        for fault in (seqFormatFault? format).toList do
          giveUp name fault 1
      let numbers ← asked.operands.mapM fun text =>
        match seqNumber? text with
        | some number => pure number
        | none => giveUpUse name ("invalid floating point argument: ".toList ++ quoted text) 1
      if asked.has "f" && asked.has "w" then
        giveUpUse name
          "format string may not be specified when printing equal width strings".toList 1
      let one : SeqNumber := ⟨1, 0, 0, 1⟩
      let (first, step, last) := match numbers with
        | [last] => (one, one, last)
        | [first, last] => (first, one, last)
        | first :: step :: last :: _ => (first, step, last)
        | [] => (one, one, one)
      if step.value = 0 then
        giveUpUse name ("invalid Zero increment value: ".toList ++
          quoted ((asked.operands[1]?).getD [])) 1
      let scale := max first.scale (max step.scale last.scale)
      let places := max first.places step.places
      let low := first.scaled scale
      let stride := step.scaled scale
      let distance := last.scaled scale - low
      let count := if (0 < stride && distance < 0) || (stride < 0 && 0 < distance) then 0
        else distance.natAbs / stride.natAbs + 1
      let widen (number : SeqNumber) : Nat :=
        number.width + places - number.places +
          (if number.places = 0 && 0 < places then 1 else 0) -
          (if 0 < number.places && places = 0 then 1 else 0)
      let width := max (widen first) (widen last)
      let text (n : Nat) : Chars :=
        let value := low + n * stride
        match asked.value? "f" with
        | some format =>
            (formatAll toolManner 1 format [decimalText value scale scale]).text
        | none =>
            let shown := decimalText value scale places
            if asked.has "w" then
              let digits := if value < 0 then shown.drop 1 else shown
              (if value < 0 then ['-'] else []) ++
                List.replicate (width - shown.length) '0' ++ digits
            else shown
      if 0 < count then
        putJoined ((asked.value? "s").getD ['\n']) text (count + 1) 0 count
        let _ ← put ['\n']
      pure 0) name (numbersApart words)

def repeatText (text : Chars) : Nat → Action Nat
  | 0 => pure 0
  | fuel + 1 => do
      if ← put text then repeatText text fuel else pure 1

def yes : Tool := withOptions { letters := "", words := [], mixed := true } 1 fun _ asked =>
  let words := if asked.operands.isEmpty then [['y']] else asked.operands
  let line := join [' '] words ++ ['\n']
  repeatText (List.replicate (1024 / line.length + 1) line).flatten 1000000

/-! Factors -/

def factorsFrom : Nat → Nat → Nat → List Nat
  | 0, _, n => [n]
  | fuel + 1, divisor, n =>
      if n < 2 then []
      else if n < divisor * divisor then [n]
      else if n % divisor = 0 then divisor :: factorsFrom fuel divisor (n / divisor)
      else factorsFrom fuel (if divisor = 2 then 3 else divisor + 2) n

def factor : Tool := withOptions { letters := "h", words := [("exponents", "h")], mixed := true } 1
  fun name asked => do
    let words ← if asked.operands.isEmpty then do
        let found ← slurp ['-']
        let text := (found.toOption.getD []).map fun c => if isSpaceChar c then ' ' else c
        pure ((Text.partsAt ' ' text).filter (!·.isEmpty))
      else pure asked.operands
    forEach words fun word => do
      let digits := word.dropWhile isSpaceChar
      let digits := if digits.head? = some '+' then digits.drop 1 else digits
      match natural? digits with
      | none =>
          complain name (quoted word ++ " is not a valid positive integer".toList)
          pure false
      | some n =>
          put (natChars n ++ ':' :: (factorsFrom 10000000 2 n).flatMap (fun prime =>
            ' ' :: natChars prime) ++ ['\n'])

/-! Expressions -/

abbrev Expr := StateT (List Chars) (Except (Chars × Nat))

namespace Expr

def refuse {α : Type} (text : Chars) (status : Nat) : Expr α := fun _ => .error (text, status)

def isNull (text : Chars) : Bool :=
  text.isEmpty ||
    (let digits := if text.head? = some '-' then text.drop 1 else text
     !digits.isEmpty && digits.all (· = '0'))

def integer? (text : Chars) : Option Int :=
  match text with
  | '-' :: digits => (natural? digits).map fun n => -(n : Int)
  | digits => (natural? digits).map Int.ofNat

def integer (text : Chars) : Expr Int :=
  match integer? text with
  | some n => pure n
  | none => refuse "non-integer argument".toList 2

def matched (text pattern : Chars) : Expr Chars :=
  match Regex.parse ⟨false, false, false⟩ pattern with
  | .error message => refuse message.toList 2
  | .ok (regex, groups) =>
      match Regex.matchAt? ⟨false, false⟩ regex text ⟨text, none, 0, []⟩ with
      | none => pure (if 0 < groups then [] else ['0'])
      | some found =>
          pure (if 0 < groups then found.group text 1
            else natChars ((found.group text 0).filter fun c =>
              !(0x80 ≤ c.toNat && c.toNat < 0xc0)).length)

def next (all : List Chars) : Expr Chars := do
  match ← get with
  | word :: rest =>
      set rest
      return word
  | [] => refuse ("syntax error: missing argument after ".toList ++
      quoted (all.getLastD [])) 2

def levels : List (List String) :=
  [["|"], ["&"], ["<", "<=", "=", "==", "!=", ">=", ">"], ["+", "-"], ["*", "/", "%"], [":"]]

def combine (operator : String) (a b : Chars) : Expr Chars :=
  let ofBool (holds : Bool) : Chars := if holds then ['1'] else ['0']
  let order := match integer? a, integer? b with
    | some m, some n => compare m n
    | _, _ => compareTexts a b
  let whole (use : Int → Int → Int) : Expr Chars := do
    let m ← integer a
    let n ← integer b
    if n = 0 && (operator = "/" || operator = "%") then refuse "division by zero".toList 2
    else return intChars (use m n)
  match operator with
  | "|" => pure (if !isNull a then a else if !isNull b then b else ['0'])
  | "&" => pure (if isNull a || isNull b then ['0'] else a)
  | "<" => pure (ofBool (order = .lt))
  | "<=" => pure (ofBool (order ≠ .gt))
  | ">" => pure (ofBool (order = .gt))
  | ">=" => pure (ofBool (order ≠ .lt))
  | "!=" => pure (ofBool (order ≠ .eq))
  | "=" | "==" => pure (ofBool (order = .eq))
  | "+" => whole (· + ·)
  | "-" => whole (· - ·)
  | "*" => whole (· * ·)
  | "/" => whole Int.tdiv
  | "%" => whole Int.tmod
  | _ => matched a b

mutual

def operand (all : List Chars) : Nat → Expr Chars
  | 0 => refuse "expression too deep".toList 3
  | fuel + 1 => do
      let word ← next all
      match String.ofList word with
      | "(" => do
          let value ← level all fuel levels
          match ← get with
          | [')'] :: rest =>
              set rest
              return value
          | [] => refuse ("syntax error: expecting ')' after ".toList ++ quoted (all.getLastD [])) 2
          | found :: _ =>
              refuse ("syntax error: expecting ')' instead of ".toList ++ quoted found) 2
      | ")" => refuse "syntax error: unexpected ')'".toList 2
      | "+" => next all
      | "match" => do
          let text ← operand all fuel
          let pattern ← operand all fuel
          matched text pattern
      | "length" => do
          let text ← operand all fuel
          return natChars (text.filter fun c => !(0x80 ≤ c.toNat && c.toNat < 0xc0)).length
      | "index" => do
          let text ← operand all fuel
          let wanted ← operand all fuel
          return natChars ((text.findIdx? fun c => wanted.contains c).elim 0 (· + 1))
      | "substr" => do
          let text ← operand all fuel
          let start ← operand all fuel
          let count ← operand all fuel
          match integer? start, integer? count with
          | some start, some count =>
              return if start ≤ 0 || count ≤ 0 then []
                else (text.drop (start.toNat - 1)).take count.toNat
          | _, _ => return []
      | _ => return word

def level (all : List Chars) : Nat → List (List String) → Expr Chars
  | 0, _ => refuse "expression too deep".toList 3
  | fuel + 1, [] => operand all fuel
  | fuel + 1, operators :: tighter => do
      let first ← level all fuel tighter
      operations all fuel operators tighter first

def operations (all : List Chars) :
    Nat → List String → List (List String) → Chars → Expr Chars
  | 0, _, _, value => return value
  | fuel + 1, operators, tighter, value => do
      match ← get with
      | word :: rest =>
          if operators.contains (String.ofList word) then
            set rest
            let second ← level all fuel tighter
            operations all fuel operators tighter (← combine (String.ofList word) value second)
          else return value
      | [] => return value

end

end Expr

def expr : Tool := fun name words => do
  let words := if words.head? = some ['-', '-'] then words.drop 1 else words
  if words.isEmpty then giveUpUse name "missing operand".toList 2
  else
    match Expr.level words (20 * words.length + 20) Expr.levels words with
    | .error (text, status) => giveUp name text status
    | .ok (_, extra :: _) =>
        giveUp name ("syntax error: unexpected argument ".toList ++ quoted extra) 2
    | .ok (value, []) =>
        let _ ← put (value ++ ['\n'])
        pure (if Expr.isNull value then 1 else 0)

end BatchLaunch.Tools
