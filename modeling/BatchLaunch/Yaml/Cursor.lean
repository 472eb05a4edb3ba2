/-!
A place in a text, and the text from there on. Columns count characters, and the distance from the
start of the text counts the octets that they are written with. Which characters the syntax tells
apart stands before that.
-/
namespace BatchLaunch.Yaml

def isBreak (c : Char) : Bool :=
  c = '\n' || c = '\r' || c = '\u0085' || c = '\u2028' || c = '\u2029'

def isGap (c : Char) : Bool := c = ' ' || c = '\t'

/-- White space, a line break or the end of the text comes next. -/
def atEdge : List Char → Bool
  | [] => true
  | c :: _ => isGap c || isBreak c

/-- Characters of anchors, tag handles and directive names. -/
def isNameChar (c : Char) : Bool := c.isAlphanum || c = '_' || c = '-'

def isAllowed (c : Char) : Bool :=
  let n := c.toNat
  n = 0x9 || n = 0xa || n = 0xd || (0x20 ≤ n && n ≤ 0x7e) || n = 0x85 ||
    (0xa0 ≤ n && n ≤ 0xd7ff) || (0xe000 ≤ n && n ≤ 0xfffd) || 0x10000 ≤ n

/-- A document marker comes next: three hyphens or three dots, and an edge. -/
def atMarker : List Char → Bool
  | '-' :: '-' :: '-' :: rest => atEdge rest
  | '.' :: '.' :: '.' :: rest => atEdge rest
  | _ => false

def isReturn (c : Char) (rest : List Char) : Bool := c = '\r' && rest.head? = some '\n'

def breakText (c : Char) : Char := if c = '\u2028' || c = '\u2029' then c else '\n'

structure Position where
  index : Nat
  line : Nat
  column : Nat
  deriving DecidableEq, Repr

namespace Position

def start : Position := ⟨0, 0, 0⟩

/-- So many characters further on the same line, all of a single octet. -/
def along (position : Position) (count : Nat) : Position :=
  { position with index := position.index + count, column := position.column + count }

def behind (position : Position) (c : Char) : Position :=
  { position with index := position.index + c.utf8Size, column := position.column + 1 }

def returned (position : Position) : Position := { position with index := position.index + 1 }

/-- At the start of the next line, after a break of so many octets. -/
def newLine (position : Position) (count : Nat) : Position :=
  ⟨position.index + count, position.line + 1, 0⟩

end Position

structure Cursor where
  position : Position
  rest : List Char
  deriving DecidableEq, Repr

namespace Cursor

def ofText (text : List Char) : Cursor := ⟨.start, text⟩

def column (cursor : Cursor) : Nat := cursor.position.column

def along (cursor : Cursor) (count : Nat) : Cursor :=
  ⟨cursor.position.along count, cursor.rest.drop count⟩

/-- Passes a character that does not end the line. -/
def passChar (cursor : Cursor) : Cursor :=
  match cursor.rest with
  | [] => cursor
  | c :: rest => ⟨cursor.position.behind c, rest⟩

def moveTo (cursor : Cursor) (rest : List Char) : Cursor :=
  ⟨(cursor.rest.take (cursor.rest.length - rest.length)).foldl .behind cursor.position, rest⟩

def passBreak (cursor : Cursor) : Cursor :=
  match cursor.rest with
  | '\r' :: '\n' :: rest => ⟨cursor.position.newLine 2, rest⟩
  | c :: rest => if isBreak c then ⟨cursor.position.newLine c.utf8Size, rest⟩ else cursor
  | [] => cursor

def passWhile (cursor : Cursor) (inClass : Char → Bool) : Cursor :=
  cursor.moveTo (cursor.rest.dropWhile inClass)

def passLine (cursor : Cursor) : Cursor := cursor.passWhile fun c => !isBreak c

end Cursor
end BatchLaunch.Yaml
