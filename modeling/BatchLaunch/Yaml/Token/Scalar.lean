import BatchLaunch.Yaml.Token

/-!
Reading scalars in their four forms: plain, quoted once, quoted twice, and as a block. Each reader
starts behind the indicator, gives the text and the place behind it, and fails on a text that has
no such scalar.
-/
namespace BatchLaunch.Yaml.Scalar

/-- White space since the last character of text. Within a line it is kept; from the first line
break on only the breaks count. -/
inductive Gap where
  | spaces (found : List Char)
  | breaks (first later : List Char)
  deriving DecidableEq, Repr

namespace Gap

def none : Gap := spaces []

def escapedBreak : Gap := breaks [] []

def isBroken : Gap → Bool
  | spaces _ => false
  | breaks _ _ => true

def isNone (gap : Gap) : Bool := gap = none

def addSpace (c : Char) : Gap → Gap
  | spaces found => spaces (found ++ [c])
  | breaks first later => breaks first later

def addBreak (c : Char) : Gap → Gap
  | spaces _ => breaks [breakText c] []
  | breaks first later => breaks first (later ++ [breakText c])

/-- Folding: a single break becomes a space, of several the first is dropped. Breaks other than
line feeds are kept. -/
def text : Gap → List Char
  | spaces found => found
  | breaks ['\n'] [] => [' ']
  | breaks ['\n'] later => later
  | breaks first later => first ++ later

end Gap

abbrev Reading := Option (List Char × Cursor)

def Reading.after (text : List Char) (reading : Reading) : Reading :=
  reading.map fun (found, cursor) => (text ++ found, cursor)

/-- Behind a single quote; two quotes in a row are one. -/
def singleQuoted (position : Position) (gap : Gap) : List Char → Reading
  | [] => none
  | c :: rest =>
      if position.column = 0 && atMarker (c :: rest) then none
      else if c = '\x27' then
        match rest with
        | '\x27' :: rest =>
            Reading.after (gap.text ++ ['\x27']) (singleQuoted (position.along 2) .none rest)
        | _ => some (gap.text, ⟨position.along 1, rest⟩)
      else if isGap c then singleQuoted (position.along 1) (gap.addSpace c) rest
      else if isReturn c rest then singleQuoted position.returned gap rest
      else if isBreak c then singleQuoted (position.newLine c.utf8Size) (gap.addBreak c) rest
      else Reading.after (gap.text ++ [c]) (singleQuoted (position.behind c) .none rest)

def simpleEscape? : Char → Option Char
  | '0' => some '\x00'
  | 'a' => some '\x07'
  | 'b' => some '\x08'
  | 't' => some '\t'
  | '\t' => some '\t'
  | 'n' => some '\n'
  | 'v' => some '\x0b'
  | 'f' => some '\x0c'
  | 'r' => some '\r'
  | 'e' => some '\x1b'
  | ' ' => some ' '
  | '"' => some '"'
  | '/' => some '/'
  | '\\' => some '\\'
  | 'N' => some '\u0085'
  | '_' => some '\u00a0'
  | 'L' => some '\u2028'
  | 'P' => some '\u2029'
  | _ => none

def hexDigit? (c : Char) : Option Nat :=
  if c.isDigit then some (c.toNat - '0'.toNat)
  else if 'a' ≤ c ∧ c ≤ 'f' then some (c.toNat - 'a'.toNat + 10)
  else if 'A' ≤ c ∧ c ≤ 'F' then some (c.toNat - 'A'.toNat + 10)
  else none

/-- The character with a code point in hexadecimal. Surrogates are no characters. -/
def codePoint? (digits : List Char) : Option Char := do
  let value ← digits.foldlM (fun value c => (hexDigit? c).map (value * 16 + ·)) 0
  if h : value.isValidChar then some (Char.ofNatAux value h) else none

def doubleQuoted (position : Position) (gap : Gap) : List Char → Reading
  | [] => none
  | c :: rest =>
      if position.column = 0 && atMarker (c :: rest) then none
      else if c = '"' then some (gap.text, ⟨position.along 1, rest⟩)
      else if c = '\\' then
        match rest with
        | [] => none
        | '\r' :: '\n' :: rest =>
            Reading.after gap.text (doubleQuoted (position.newLine 3) .escapedBreak rest)
        | 'x' :: a :: b :: rest =>
            (codePoint? [a, b]).bind fun c =>
              Reading.after (gap.text ++ [c]) (doubleQuoted (position.along 4) .none rest)
        | 'u' :: a :: b :: c :: d :: rest =>
            (codePoint? [a, b, c, d]).bind fun c =>
              Reading.after (gap.text ++ [c]) (doubleQuoted (position.along 6) .none rest)
        | 'U' :: a :: b :: c :: d :: e :: f :: g :: h :: rest =>
            (codePoint? [a, b, c, d, e, f, g, h]).bind fun c =>
              Reading.after (gap.text ++ [c]) (doubleQuoted (position.along 10) .none rest)
        | escape :: rest =>
            if isBreak escape then
              Reading.after gap.text
                (doubleQuoted (position.newLine (1 + escape.utf8Size)) .escapedBreak rest)
            else
              (simpleEscape? escape).bind fun c =>
                Reading.after (gap.text ++ [c]) (doubleQuoted (position.along 2) .none rest)
      else if isGap c then doubleQuoted (position.along 1) (gap.addSpace c) rest
      else if isReturn c rest then doubleQuoted position.returned gap rest
      else if isBreak c then doubleQuoted (position.newLine c.utf8Size) (gap.addBreak c) rest
      else Reading.after (gap.text ++ [c]) (doubleQuoted (position.behind c) .none rest)

def isFlowIndicator (c : Char) : Bool := c = ',' || c = '[' || c = ']' || c = '\x7b' || c = '\x7d'

/-- A plain scalar with the place behind it and behind the white space after it, and whether that
white space has a line break. -/
structure Plain where
  text : List Char
  broken : Bool
  cursor : Cursor

/-- From the first character on. `indent` is the least column of a further line; `inFlow` tells
whether the scalar stands within brackets. -/
def plain (inFlow : Bool) (indent : Int) (position : Position) (gap : Gap) :
    List Char → Option Plain
  | [] => some ⟨[], gap.isBroken, ⟨position, []⟩⟩
  | c :: rest =>
      if isGap c then
        if gap.isBroken && position.column < indent && c = '\t' then none
        else plain inFlow indent (position.along 1) (gap.addSpace c) rest
      else if isReturn c rest then plain inFlow indent position.returned gap rest
      else if isBreak c then
        plain inFlow indent (position.newLine c.utf8Size) (gap.addBreak c) rest
      else if (!gap.isNone && ((!inFlow && position.column < indent) || c = '#')) ||
          (position.column = 0 && atMarker (c :: rest)) then
        some ⟨[], gap.isBroken, ⟨position, c :: rest⟩⟩
      else if inFlow && c = ':' && (rest.head?.any fun next => next = '?' || isFlowIndicator next)
        then none
      else if (c = ':' && atEdge rest) || (inFlow && isFlowIndicator c) then
        some ⟨[], gap.isBroken, ⟨position, c :: rest⟩⟩
      else
        (plain inFlow indent (position.behind c) .none rest).map fun found =>
          { found with text := gap.text ++ c :: found.text }

/-- What a block scalar does with the line breaks at its end. -/
inductive Chomping where
  | strip
  | clip
  | keep
  deriving DecidableEq, Repr

/-- The line breaks before a line of a block, with the widest indentation met and the place where
the line's own text starts. `indent` is zero while it is still unknown. -/
def blockLead (indent : Nat) (position : Position) (widest : Nat) :
    List Char → Option (List Char × Nat × Cursor)
  | [] => some ([], max widest position.column, ⟨position, []⟩)
  | c :: rest =>
      let inside := indent = 0 || position.column < indent
      let wider := max widest position.column
      if inside && c = ' ' then blockLead indent (position.along 1) widest rest
      else if inside && c = '\t' then none
      else if isReturn c rest then blockLead indent position.returned wider rest
      else if isBreak c then
        (blockLead indent (position.newLine c.utf8Size) wider rest).map fun (breaks, widest, cursor) =>
          (breakText c :: breaks, widest, cursor)
      else some ([], wider, ⟨position, c :: rest⟩)

/-- A block as far as it is read: its text, the break behind the last line and the empty lines after
that, and whether the last line starts with white space. -/
structure Block where
  text : List Char
  lineEnd : List Char
  emptyLines : List Char
  isSpaced : Bool

/-- Joins the next line to the lines before it. Folding turns the break between two lines that both
start with text into a space. -/
def Block.addLine (block : Block) (literal : Bool) (line lineEnd emptyLines : List Char) : Block :=
  let isSpaced := line.head?.any isGap
  let joint :=
    if !literal && block.lineEnd = ['\n'] && !block.isSpaced && !isSpaced then
      if block.emptyLines.isEmpty then [' '] else block.emptyLines
    else block.lineEnd ++ block.emptyLines
  ⟨block.text ++ joint ++ line, lineEnd, emptyLines, isSpaced⟩

def blockLines (literal : Bool) (indent : Nat) : Nat → Block → Cursor → Option (Block × Cursor)
  | 0, block, cursor => some (block, cursor)
  | fuel + 1, block, cursor =>
      if cursor.column = indent && !cursor.rest.isEmpty then do
        let line := cursor.rest.takeWhile fun c => !isBreak c
        let lineEnd := cursor.passLine
        let next := lineEnd.passBreak
        let (emptyLines, _, cursor) ← blockLead indent next.position 0 next.rest
        blockLines literal indent fuel
          (block.addLine literal line (lineEnd.rest.head?.toList.map breakText) emptyLines) cursor
      else some (block, cursor)

/-- The header of a block: chomping and an explicit width of indentation, in either order. -/
def blockHeader : List Char → Option (Chomping × Nat × List Char)
  | text =>
      let sign : Char → Option Chomping
        | '+' => some .keep
        | '-' => some .strip
        | _ => none
      let width : List Char → Option (Nat × List Char)
        | c :: rest =>
            if c.isDigit then
              if c = '0' then none else some (c.toNat - '0'.toNat, rest)
            else some (0, c :: rest)
        | [] => some (0, [])
      match text with
      | [] => some (.clip, 0, [])
      | c :: rest =>
          match sign c with
          | some chomping => (width rest).map fun (n, rest) => (chomping, n, rest)
          | none => (width (c :: rest)).map fun (n, rest) =>
              match rest with
              | c :: after =>
                  match n, sign c with
                  | _ + 1, some chomping => (chomping, n, after)
                  | _, _ => (.clip, n, rest)
              | [] => (.clip, n, [])

def block (literal : Bool) (parent : Int) (start : Cursor) : Reading := do
  let (chomping, width, rest) ← blockHeader start.rest
  let header := (start.moveTo rest).passWhile isGap
  let lineEnd := if header.rest.head? = some '#' then header.passLine else header
  if !lineEnd.rest.isEmpty && !(lineEnd.rest.head?.any isBreak) then none
  else
    let first := lineEnd.passBreak
    let stated := if width = 0 then 0 else if 0 ≤ parent then parent.toNat + width else width
    let (emptyLines, widest, cursor) ← blockLead stated first.position 0 first.rest
    let indent := if stated = 0 then max widest (max (parent + 1).toNat 1) else stated
    let (block, cursor) ←
      blockLines literal indent cursor.rest.length ⟨[], [], emptyLines, false⟩ cursor
    let tail := match chomping with
      | .strip => []
      | .clip => block.lineEnd
      | .keep => block.lineEnd ++ block.emptyLines
    some (block.text ++ tail, cursor)

end BatchLaunch.Yaml.Scalar
