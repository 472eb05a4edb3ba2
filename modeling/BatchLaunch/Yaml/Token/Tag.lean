import BatchLaunch.Text.Utf8
import BatchLaunch.Yaml.Token
import BatchLaunch.Yaml.Token.Scalar

/-!
Reading tags, anchors and directives.
-/
namespace BatchLaunch.Yaml.Tag

/-- Characters of a tag; within angle brackets and in directives commas and square brackets too. -/
def isUriChar (verbatim : Bool) (c : Char) : Bool :=
  isNameChar c || ";/?:@&=+$.!~*\x27()".toList.contains c ||
    (verbatim && (c = ',' || c = '[' || c = ']'))

/-- An octet written as a percent sign and two hexadecimal digits. -/
def escapedOctet? : List Char → Option (Nat × List Char)
  | '%' :: a :: b :: rest => do
      let high ← Scalar.hexDigit? a
      let low ← Scalar.hexDigit? b
      some (high * 16 + low, rest)
  | _ => none

def laterOctets : Nat → List Char → Option (Octets × List Char)
  | 0, text => some ([], text)
  | count + 1, text => do
      let (octet, rest) ← escapedOctet? text
      if octet / 64 = 2 then
        let (octets, rest) ← laterOctets count rest
        some (UInt8.ofNat octet :: octets, rest)
      else none

def octetCount? (first : Nat) : Option Nat :=
  if first < 0x80 then some 1
  else if first / 32 = 6 then some 2
  else if first / 16 = 14 then some 3
  else if first / 8 = 30 then some 4
  else none

/-- The octets of a character, as many as the first one announces. They need not make a character
that there is. -/
def escapedChar? (text : List Char) : Option (Octets × List Char) := do
  let (first, rest) ← escapedOctet? text
  let count ← octetCount? first
  let (later, rest) ← laterOctets (count - 1) rest
  some (UInt8.ofNat first :: later, rest)

def uriOctets (verbatim : Bool) : Nat → List Char → Option (Octets × List Char)
  | fuel + 1, c :: rest =>
      if c = '%' then do
        let (found, rest) ← escapedChar? (c :: rest)
        let (more, rest) ← uriOctets verbatim fuel rest
        some (found ++ more, rest)
      else if isUriChar verbatim c then do
        let (more, rest) ← uriOctets verbatim fuel rest
        some (String.utf8EncodeChar c ++ more, rest)
      else some ([], c :: rest)
  | _, text => some ([], text)

def uri (verbatim : Bool) (text : List Char) : Option (Octets × List Char) :=
  uriOctets verbatim text.length text

/-- An octet zero ends a tag, however it goes on. -/
def upToNul (octets : Octets) : Octets := octets.takeWhile (· ≠ 0)

/-- An exclamation mark, name characters, and perhaps another exclamation mark. -/
def handle? : List Char → Option (List Char × List Char)
  | '!' :: rest =>
      let name := rest.takeWhile isNameChar
      match rest.dropWhile isNameChar with
      | '!' :: rest => some ('!' :: name ++ ['!'], rest)
      | rest => some ('!' :: name, rest)
  | _ => none

def bare : Octets := ['!'.toUInt8]

/-- Handle and suffix of a tag. A tag without a handle of its own has the handle `!`, and the tag
`!` alone is a suffix without any handle. -/
def parts? : List Char → Option (List Char × Octets × List Char)
  | '!' :: '<' :: rest => do
      let (suffix, rest) ← uri true rest
      match suffix, rest with
      | [], _ => none
      | _, '>' :: rest => some ([], upToNul suffix, rest)
      | _, _ => none
  | text => do
      let (handle, rest) ← handle? text
      let (suffix, rest) ← uri false rest
      if 2 ≤ handle.length && handle.getLast? = some '!' then
        if suffix.isEmpty then none else some (handle, upToNul suffix, rest)
      else
        match upToNul (handle.tail.flatMap String.utf8EncodeChar ++ suffix) with
        | [] => some ([], bare, rest)
        | suffix => some (['!'], suffix, rest)

def read (inFlow : Bool) (cursor : Cursor) : Option (Token × Cursor) := do
  let (handle, suffix, rest) ← parts? cursor.rest
  if atEdge rest || (inFlow && rest.head? = some ',') then
    some (.tag (String.ofList handle) suffix, cursor.moveTo rest)
  else none

def name (cursor : Cursor) : Option (String × Cursor) :=
  let found := cursor.rest.takeWhile isNameChar
  let rest := cursor.rest.dropWhile isNameChar
  let ends := atEdge rest || (rest.head?.any fun c => "?:,]\x7d%@\x60".toList.contains c)
  if !found.isEmpty && ends then some (String.ofList found, cursor.moveTo rest) else none

def versionNumber? (text : List Char) : Option (Nat × List Char) :=
  let digits := text.takeWhile Char.isDigit
  if digits.isEmpty || 9 < digits.length then none
  else some (digits.foldl (fun n c => n * 10 + (c.toNat - '0'.toNat)) 0,
    text.dropWhile Char.isDigit)

def version? (text : List Char) : Option (Token × List Char) := do
  let (major, rest) ← versionNumber? (text.dropWhile isGap)
  match rest with
  | '.' :: rest =>
      let (minor, rest) ← versionNumber? rest
      some (.version major minor, rest)
  | _ => none

/-- A handle that directives may define: `!` alone, or one that ends in an exclamation mark. -/
def handleDefinition? (text : List Char) : Option (Token × List Char) := do
  let (handle, rest) ← handle? (text.dropWhile isGap)
  if handle ≠ ['!'] && handle.getLast? ≠ some '!' then none
  else if !(rest.head?.any isGap) then none
  else
    let (meaning, rest) ← uri true (rest.dropWhile isGap)
    if meaning.isEmpty || !atEdge rest then none
    else some (.tagHandle (String.ofList handle) (upToNul meaning), rest)

def directive (cursor : Cursor) : Option (Token × Cursor) := do
  let name := cursor.rest.takeWhile isNameChar
  let rest := cursor.rest.dropWhile isNameChar
  if name.isEmpty || !atEdge rest then none
  else
    let (token, rest) ←
      if name = "YAML".toList then version? rest
      else if name = "TAG".toList then handleDefinition? rest
      else none
    let after := (cursor.moveTo rest).passWhile isGap
    let lineEnd := if after.rest.head? = some '#' then after.passLine else after
    if lineEnd.rest.isEmpty || lineEnd.rest.head?.any isBreak then
      some (token, lineEnd.passBreak)
    else none

end BatchLaunch.Yaml.Tag
