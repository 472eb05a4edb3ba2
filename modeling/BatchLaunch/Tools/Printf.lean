import BatchLaunch.Text.BinaryReal
import BatchLaunch.Tools.Echo
import BatchLaunch.Tools.Quote

/-!
`printf`: a format whose directives show words as texts and numbers.
-/
namespace BatchLaunch.Tools

open Text (BinaryReal Precision)

structure Directive where
  flags : Chars
  width : Nat
  precision : Option Nat
  kind : Char

structure Formatted where
  text : Chars
  complaints : List Chars
  ends : Bool
  fault : Option Chars
  rest : List Chars

def Formatted.nothing (words : List Chars) : Formatted := ⟨[], [], false, none, words⟩

def Formatted.stopped (fault : Option Chars) : Formatted := ⟨[], [], true, fault, []⟩

structure Manner where
  isTool : Bool
  precision : Precision
  notNumeric : Chars → Chars
  notConverted : Chars → Chars
  outOfRange : Chars → Chars
  invalid : Chars → Chars
  unfinished : Chars → Chars

def rangeText : Chars := ": Numerical result out of range".toList

def shellManner : Manner where
  isTool := false
  precision := .double
  notNumeric text := text ++ ": expected numeric value".toList
  notConverted text := text ++ ": not completely converted".toList
  outOfRange text := text ++ rangeText
  invalid text := text ++ ": invalid directive".toList
  unfinished _ := "missing format character".toList

def toolManner : Manner where
  isTool := true
  precision := .extended
  notNumeric text := quoted text ++ ": expected a numeric value".toList
  notConverted text := quoted text ++ ": value not completely converted".toList
  outOfRange text := quoted text ++ rangeText
  invalid text := text ++ ": invalid conversion specification".toList
  unfinished text := text ++ ": invalid conversion specification".toList

/-! Padding -/

def pad (directive : Directive) (text : Chars) : Chars :=
  let fill := List.replicate (directive.width - text.length) ' '
  if directive.flags.contains '-' then text ++ fill else fill ++ text

def padNumber (directive : Directive) (withZeros : Bool) (before digits : Chars) : Chars :=
  if withZeros && directive.flags.contains '0' && !directive.flags.contains '-' then
    before ++ List.replicate (directive.width - before.length - digits.length) '0' ++ digits
  else pad directive (before ++ digits)

def padDigits (directive : Directive) (isZero : Bool) (digits : Chars) : Chars :=
  if isZero && directive.precision = some 0 then []
  else List.replicate (directive.precision.getD 1 - digits.length) '0' ++ digits

def signOf (directive : Directive) (negative : Bool) : Chars :=
  if negative then ['-'] else if directive.flags.contains '+' then ['+']
  else if directive.flags.contains ' ' then [' '] else []

/-! Values -/

def digitOf? (base : Nat) (c : Char) : Option Nat :=
  let value := if c.isDigit then c.toNat - '0'.toNat
    else if 'a' ≤ c ∧ c ≤ 'z' then c.toNat - 'a'.toNat + 10
    else if 'A' ≤ c ∧ c ≤ 'Z' then c.toNat - 'A'.toNat + 10
    else base
  if value < base then some value else none

def digitsOf (base : Nat) (text : Chars) : Nat × Chars :=
  let digits := text.takeWhile fun c => (digitOf? base c).isSome
  (digits.foldl (fun n c => n * base + (digitOf? base c).getD 0) 0, text.drop digits.length)

/-- The number at the start of a word, in the base that its start tells, and what follows it. -/
def leadingInteger (text : Chars) : Option (Int × Chars) :=
  let text := text.dropWhile BinaryReal.isSpace
  let (negative, text) := match text with
    | '-' :: rest => (true, rest)
    | '+' :: rest => (false, rest)
    | rest => (false, rest)
  let found := match text with
    | '0' :: x :: rest =>
        if (x = 'x' || x = 'X') && rest.head?.any fun c => (digitOf? 16 c).isSome then
          some (digitsOf 16 rest)
        else some (digitsOf 8 (x :: rest))
    | c :: rest => if c.isDigit then some (digitsOf 10 (c :: rest)) else none
    | [] => none
  found.map fun (n, rest) => (if negative then -(n : Int) else n, rest)

def characterValue? (manner : Manner) (text : Chars) : Option (Nat × List Chars) :=
  match text with
  | quote :: rest =>
      if quote ≠ '\x27' && quote ≠ '"' then none
      else
        match rest with
        | [] => if manner.isTool then none else some (0, [])
        | c :: more =>
            if !manner.isTool then some (c.toNat, [])
            else
              let length := max 1 (wideLength rest)
              let code := match Text.Utf8.decode? (Text.octetsOf (rest.take length)) with
                | some decoded => (decoded.toList.head?.map Char.toNat).getD c.toNat
                | none => c.toNat
              let left := (c :: more).drop length
              (code, if left.isEmpty then [] else
                ["warning: ".toList ++ left ++ (": character(s) following character constant " ++
                  "have been ignored").toList])
  | [] => none

def least64 : Int := -9223372036854775808

def largest64 : Int := 9223372036854775807

def unsignedSize : Int := 18446744073709551616

def numericValue (manner : Manner) (signed : Bool) (word : Option Chars) : Int × List Chars :=
  match word with
  | none | some [] => (0, [])
  | some text =>
      match characterValue? manner text with
      | some (n, complaints) => (n, complaints)
      | none =>
          match leadingInteger text with
          | none => (0, [manner.notNumeric text])
          | some (n, rest) =>
              let value := if signed then max least64 (min largest64 n)
                else if n ≤ -unsignedSize || unsignedSize ≤ n then unsignedSize - 1
                else n % unsignedSize
              let exceeds := if signed then value ≠ n else n ≤ -unsignedSize || unsignedSize ≤ n
              (value, if exceeds && (manner.isTool || rest.isEmpty) then [manner.outOfRange text]
                else if rest.isEmpty then [] else [manner.notConverted text])

def realValue (manner : Manner) (word : Option Chars) : BinaryReal × List Chars :=
  let zero : BinaryReal := .number false 0 0
  match word with
  | none | some [] => (zero, [])
  | some text =>
      match characterValue? manner text with
      | some (n, complaints) => (.ofInt manner.precision n, complaints)
      | none =>
          match BinaryReal.read? manner.precision text with
          | none => (zero, [manner.notNumeric text])
          | some (value, []) =>
              let isWord := text.any fun c => c.toLower = 'n'
              (value, if !value.isFinite && !isWord then [manner.outOfRange text] else [])
          | some (value, _) => (value, [manner.notConverted text])

/-! Directives -/

def isFloating (kind : Char) : Bool := "aAeEfFgG".toList.contains kind

def isWhole (kind : Char) : Bool := "diouxX".toList.contains kind

def formatOne (manner : Manner) (directive : Directive) (word : Option Chars) : Formatted :=
  let text := word.getD []
  let shown (text : Chars) : Formatted := ⟨pad directive text, [], false, none, []⟩
  let cut (text : Chars) : Chars := directive.precision.elim text text.take
  let alternate := directive.flags.contains '#'
  let whole (signed : Bool) (render : Nat → Chars) (before : Nat → Chars) : Formatted :=
    let (n, complaints) := numericValue manner signed word
    let digits := padDigits directive (n = 0) (render n.natAbs)
    let sign := if signed then signOf directive (n < 0) else before n.natAbs
    ⟨padNumber directive directive.precision.isNone sign digits, complaints, false, none, []⟩
  let mark (text : String) (n : Nat) : Chars := if alternate && n ≠ 0 then text.toList else []
  match directive.kind with
  | 's' => shown (cut text)
  | 'q' => shown (shellSafe text)
  | 'b' =>
      let (found, ends) := resolveEscapes manner.isTool (text.length + 1) text
      { shown (cut found) with ends := ends }
  | 'c' => shown [text.head?.getD '\x00']
  | 'o' => whole false (fun n =>
      let digits := padDigits directive (n = 0) (Nat.toDigits 8 n)
      if alternate && digits.head? ≠ some '0' then '0' :: digits else digits) fun _ => []
  | 'x' => whole false (Nat.toDigits 16) (mark "0x")
  | 'X' => whole false (fun n => (Nat.toDigits 16 n).map Char.toUpper) (mark "0X")
  | 'u' => whole false (Nat.toDigits 10) fun _ => []
  | kind =>
      if isWhole kind then whole true (Nat.toDigits 10) fun _ => []
      else
        let (value, complaints) := realValue manner word
        let before := signOf directive value.isNegative
        let text := value.shown manner.precision kind alternate directive.precision
        let hex := kind.toLower = 'a' && value.isFinite
        ⟨padNumber directive value.isFinite (before ++ if hex then text.take 2 else [])
          (if hex then text.drop 2 else text), complaints, false, none, []⟩

structure Measured where
  value : Option Int
  complaints : List Chars
  format : Chars
  words : List Chars

def measure (manner : Manner) (format : Chars) (words : List Chars) : Measured :=
  match format with
  | '*' :: rest =>
      let (n, complaints) := numericValue manner true words.head?
      ⟨some n, complaints, rest, words.drop 1⟩
  | format =>
      let digits := format.takeWhile Char.isDigit
      ⟨(natural? digits).map Int.ofNat, [], format.drop digits.length, words⟩

def isSizeLetter (c : Char) : Bool := "hjLltz".toList.contains c

def isProper (flags : Chars) (kind : Char) : Bool :=
  flags.all fun flag =>
    match flag with
    | '0' => isWhole kind || isFloating kind
    | '#' => "oxX".toList.contains kind || isFloating kind
    | ' ' | '+' => kind = 'd' || kind = 'i' || isFloating kind
    | '\x27' | 'I' => "diu".toList.contains kind || "fFgG".toList.contains kind
    | _ => true

def formatOnce (manner : Manner) : Nat → Chars → List Chars → Formatted
  | 0, _, words => .nothing words
  | fuel + 1, format, words =>
      let after (text : Chars) (complaints : List Chars) (format : Chars) (words : List Chars) :
          Formatted :=
        let more := formatOnce manner fuel format words
        { more with text := text ++ more.text, complaints := complaints ++ more.complaints }
      match format with
      | [] => .nothing words
      | '\\' :: rest =>
          match formatEscape manner.isTool rest with
          | .found text rest => after text [] rest words
          | .ends => .stopped none
          | .fault text => .stopped (some text)
      | '%' :: '%' :: rest => after ['%'] [] rest words
      | '%' :: rest =>
          let flagLetters := if manner.isTool then "-+ 0#\x27I" else "-+ 0#"
          let flags := rest.takeWhile fun c => flagLetters.toList.contains c
          let width := measure manner (rest.drop flags.length) words
          let precision : Measured := match width.format with
            | '.' :: behind =>
                let found := measure manner behind width.words
                { found with value := some (found.value.getD 0) }
            | behind => ⟨none, [], behind, width.words⟩
          let behind := if manner.isTool then precision.format.dropWhile isSizeLetter
            else precision.format
          let written (length : Nat) : Chars := '%' :: rest.take (rest.length - length)
          match behind with
          | [] => .stopped (some (manner.unfinished (written 0)))
          | kind :: behind =>
              let known := "bcs".toList.contains kind || isWhole kind || isFloating kind
              let plain := kind = 'q' && rest.head? = some 'q'
              if (known && (!manner.isTool || isProper flags kind)) || (manner.isTool && plain) then
                let wide := width.value.getD 0
                let directive : Directive := ⟨if wide < 0 then '-' :: flags else flags,
                  wide.natAbs, precision.value.bind fun n => if n < 0 then none else some n.toNat,
                  kind⟩
                let one := formatOne manner directive precision.words.head?
                let complaints := width.complaints ++ precision.complaints ++ one.complaints
                if one.ends then { one with complaints := complaints }
                else after one.text complaints behind (precision.words.drop 1)
              else .stopped (some (manner.invalid (written behind.length)))
      | c :: rest => after [c] [] rest words

def formatAll (manner : Manner) : Nat → Chars → List Chars → Formatted
  | 0, _, words => .nothing words
  | fuel + 1, format, words =>
      let once := formatOnce manner (format.length + 1) format words
      if once.ends || once.rest.isEmpty || once.rest.length = words.length then once
      else
        let more := formatAll manner fuel format once.rest
        { more with
          text := once.text ++ more.text
          complaints := once.complaints ++ more.complaints }

def withoutDashes : List Chars → List Chars
  | ['-', '-'] :: rest => rest
  | words => words

def printf : Tool := fun name words => do
  match withoutDashes words with
  | [] =>
      complainOfUse name "missing operand".toList
      pure 1
  | format :: rest =>
      let formatted := formatAll toolManner (rest.length + 1) format rest
      for complaint in formatted.complaints do
        complain name complaint
      for fault in formatted.fault do
        complain name fault
      let _ ← put formatted.text
      match formatted.rest with
      | extra :: _ =>
          complain name ("warning: ignoring excess arguments, starting with ".toList ++ quoted extra)
      | [] => pure ()
      let isWarning (complaint : Chars) : Bool := "warning: ".toList.isPrefixOf complaint
      pure (if formatted.complaints.all isWarning && formatted.fault.isNone then 0 else 1)

end BatchLaunch.Tools
