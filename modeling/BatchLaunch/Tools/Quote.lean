import BatchLaunch.Text.OctetChars
import BatchLaunch.Text.Utf8

/-!
Quotes around words that complaints are about, in two ways: typographic ones, and those of the
shell, so that the shell would read the same word.
-/
namespace BatchLaunch.Tools

def octetChars (text : String) : Chars := Text.charsOf (Text.Utf8.encode text)

def controlLetter? : Char → Option Char
  | '\x07' => some 'a'
  | '\x08' => some 'b'
  | '\x0c' => some 'f'
  | '\n' => some 'n'
  | '\r' => some 'r'
  | '\t' => some 't'
  | '\x0b' => some 'v'
  | _ => none

def octalDigits (c : Char) : Chars :=
  let digits := Nat.toDigits 8 c.toNat
  List.replicate (3 - digits.length) '0' ++ digits

def escaped (c : Char) : Chars :=
  '\\' :: (controlLetter? c).elim (octalDigits c) fun letter => [letter]

def wideLength (text : Chars) : Nat :=
  match text with
  | c :: rest =>
      let length := if 0xc2 ≤ c.toNat && c.toNat < 0xe0 then 2
        else if 0xe0 ≤ c.toNat && c.toNat < 0xf0 then 3
        else if 0xf0 ≤ c.toNat && c.toNat < 0xf5 then 4 else 0
      let behind := rest.take (length - 1)
      if 0 < length && behind.length = length - 1 &&
          behind.all fun c => 0x80 ≤ c.toNat && c.toNat < 0xc0 then length else 0
  | [] => 0

def isControl (c : Char) : Bool := c.toNat < 32 || c.toNat = 127

def shownParts : Nat → Chars → List (Chars × Bool)
  | 0, _ => []
  | _, [] => []
  | fuel + 1, c :: rest =>
      if c.toNat < 128 then ([c], !isControl c) :: shownParts fuel rest
      else
        match wideLength (c :: rest) with
        | 0 => ([c], false) :: shownParts fuel rest
        | length => ((c :: rest).take length, true) :: shownParts fuel ((c :: rest).drop length)

def partsOf (text : Chars) : List (Chars × Bool) := shownParts (text.length + 1) text

def quoted (text : Chars) : Chars :=
  octetChars "‘" ++ (partsOf text).flatMap (fun (part, shows) =>
    if part = ['\\'] || part = octetChars "’" then '\\' :: part
    else if shows then part else part.flatMap escaped) ++ octetChars "’"

def isShellSpecial (first alone : Bool) (c : Char) : Bool :=
  " !\"$&()*;<=>?[^`|\\'".toList.contains c || (first && (c = '#' || c = '~')) ||
    (alone && (c = '{' || c = '}'))

def needsQuotes (text : Chars) : Bool :=
  text.isEmpty || (partsOf text).any (!·.2) ||
    text.zipIdx.any fun (c, place) => isShellSpecial (place = 0) (text.length = 1) c

def fitsDoubleQuotes (part : Chars × Bool) : Bool :=
  part.2 && part.1.all fun c => !"!\"$&()*;<=>?[^`|\\\x7b\x7d".toList.contains c

def singleQuotedText (text : Chars) : Chars :=
  let (found, _) := (partsOf text).foldl (fun (done, escaping) (part, shows) =>
    if part = ['\x27'] then (done ++ "'\\''".toList, false)
    else if shows then (done ++ (if escaping then "''".toList else []) ++ part, false)
    else (done ++ (if escaping then [] else "'$'".toList) ++ part.flatMap escaped, true))
    (['\x27'], false)
  found ++ ['\x27']

def shellQuoted (text : Chars) : Chars :=
  if text.contains '\x27' && (partsOf text).all fitsDoubleQuotes then '"' :: text ++ ['"']
  else singleQuotedText text

def shellSafe (text : Chars) : Chars := if needsQuotes text then shellQuoted text else text

def plainQuoted (text : Chars) : Chars :=
  if text.contains '\x27' && (partsOf text).all fitsDoubleQuotes then '"' :: text ++ ['"']
  else '\x27' :: text.flatMap (fun c => if c = '\x27' then "'\\''".toList else [c]) ++ ['\x27']

def plainSafe (text : Chars) : Chars :=
  let special := text.isEmpty || text.zipIdx.any fun (c, place) =>
    c = '\t' || c = '\n' || isShellSpecial (place = 0) (text.length = 1) c
  if special then plainQuoted text else text

/-- The name of a file in front of a colon, so that one within it needs quotes too. -/
def nameSafe (text : Chars) : Chars :=
  if text.contains ':' then shellQuoted text else shellSafe text

end BatchLaunch.Tools
