import BatchLaunch.Text.BinaryReal
import BatchLaunch.Tools.Basic

/-!
Writing words out: `echo` in the two ways it is known in, and what stands behind a backslash.
-/
namespace BatchLaunch.Tools

def isOctal (c : Char) : Bool := '0' ≤ c && c ≤ '7'

def octalValue (digits : Chars) : Nat :=
  digits.foldl (fun n c => n * 8 + (c.toNat - '0'.toNat)) 0

def escapeLetter? : Char → Option Char
  | 'a' => some '\x07'
  | 'b' => some '\x08'
  | 'e' => some '\x1b'
  | 'f' => some '\x0c'
  | 'n' => some '\n'
  | 'r' => some '\r'
  | 't' => some '\t'
  | 'v' => some '\x0b'
  | '\\' => some '\\'
  | _ => none

inductive Escape where
  | found (text rest : Chars)
  | ends
  | fault (text : Chars)

def octalEscape (text : Chars) : Escape :=
  let digits := (text.take 3).takeWhile isOctal
  .found [Char.ofNat (octalValue digits % 256)] (text.drop digits.length)

def isHexDigit (c : Char) : Bool := Text.BinaryReal.isHexDigit c

def hexValue (digits : Chars) : Nat :=
  digits.foldl (fun n c => n * 16 + Text.BinaryReal.digitValue c) 0

def hexEscape? (text : Chars) : Option (Chars × Chars) :=
  let digits := (text.take 2).takeWhile isHexDigit
  if digits.isEmpty then none
  else some ([Char.ofNat (hexValue digits)], text.drop digits.length)

def noHexDigits : Chars := "missing hexadecimal number in escape".toList

def codeEscape (letter : Char) (count : Nat) (text : Chars) : Escape :=
  let digits := text.take count
  let code := hexValue digits
  let isLow := code < 0xa0 && code ≠ 0x24 && code ≠ 0x40 && code ≠ 0x60
  if digits.length < count || !digits.all isHexDigit then .fault noHexDigits
  else if isLow || (0xd800 ≤ code && code ≤ 0xdfff) then
    .fault ("invalid universal character name \\".toList ++ letter :: digits)
  else .found (Text.charsOf (Text.Utf8.encode (String.singleton (Char.ofNat code))))
    (text.drop count)

def letterEscape (text : Chars) : Escape :=
  match text with
  | c :: rest =>
      match escapeLetter? c with
      | some found => .found [found] rest
      | none => .found ['\\', c] rest
  | [] => .found ['\\'] []

def formatEscape (isTool : Bool) (text : Chars) : Escape :=
  match text with
  | c :: rest =>
      if isOctal c then octalEscape text
      else if !isTool then letterEscape text
      else
        match c with
        | 'c' => .ends
        | '"' => .found ['"'] rest
        | 'x' => (hexEscape? rest).elim (.fault noHexDigits) fun (found, rest) => .found found rest
        | 'u' => codeEscape 'u' 4 rest
        | 'U' => codeEscape 'U' 8 rest
        | _ => letterEscape text
  | [] => letterEscape []

/-- A backslash in a text that `echo` writes. Numbers may have a zero before them. `extended` tells
whether there are numbers in base sixteen too. -/
def textEscape (extended : Bool) (text : Chars) : Escape :=
  match text with
  | 'c' :: _ => .ends
  | '0' :: rest => octalEscape rest
  | 'x' :: rest =>
      match if extended then hexEscape? rest else none with
      | some (found, rest) => .found found rest
      | none => .found ['\\', 'x'] rest
  | c :: rest => if isOctal c then octalEscape (c :: rest) else letterEscape (c :: rest)
  | [] => letterEscape []

def resolveEscapes (extended : Bool) : Nat → Chars → Chars × Bool
  | 0, text => (text, false)
  | fuel + 1, text =>
      match text with
      | [] => ([], false)
      | '\\' :: rest =>
          match textEscape extended rest with
          | .found found rest =>
              let (more, ends) := resolveEscapes extended fuel rest
              (found ++ more, ends)
          | .ends | .fault _ => ([], true)
      | c :: rest =>
          let (more, ends) := resolveEscapes extended fuel rest
          (c :: more, ends)

def joinWords (words : List Chars) : Chars := List.intercalate [' '] words

def shellEcho (words : List Chars) : Chars :=
  let (silent, words) := match words with
    | ['-', 'n'] :: rest => (true, rest)
    | words => (false, words)
  let text := joinWords words
  let (found, ends) := resolveEscapes false (text.length + 1) text
  if ends || silent then found else found ++ ['\n']

def echoOptions (newline escapes : Bool) : List Chars → Bool × Bool × List Chars
  | ('-' :: c :: letters) :: rest =>
      if (c :: letters).all fun c => c = 'n' || c = 'e' || c = 'E' then
        let state := (c :: letters).foldl (fun (newline, escapes) c =>
          if c = 'n' then (false, escapes) else (newline, c = 'e')) (newline, escapes)
        echoOptions state.1 state.2 rest
      else (newline, escapes, ('-' :: c :: letters) :: rest)
  | words => (newline, escapes, words)

def echo : Tool := fun _ words => do
  let (newline, escapes, words) := echoOptions true false words
  let text := joinWords words
  let (found, ends) := if escapes then resolveEscapes true (text.length + 1) text else (text, false)
  let _ ← put (if newline && !ends then found ++ ['\n'] else found)
  pure 0

end BatchLaunch.Tools
