import BatchLaunch.Text.Utf8
import BatchLaunch.Yaml.Token.Scalar
import BatchLaunch.Yaml.Token.Tag

/-!
The tokens of a text. A key may have to be put before tokens that are already read, so a token is
handed on only once no key can come before it any more. Whatever is handed on before the text turns
out malformed stays handed on.
-/
namespace BatchLaunch.Yaml

structure KeyPlace where
  required : Bool
  /-- The number of the key's first token. -/
  number : Nat
  position : Position
  deriving DecidableEq, Repr

structure Scanner where
  cursor : Cursor
  depth : Nat
  indent : Int
  outer : List Int
  keyAllowed : Bool
  /-- The possible key of each open bracket, the innermost first, and last that outside brackets. -/
  keys : List (Option KeyPlace)
  queue : List Token
  handed : Nat

namespace Scanner

def start (text : List Char) : Scanner where
  cursor := .ofText text
  depth := 0
  indent := -1
  outer := []
  keyAllowed := true
  keys := [none]
  queue := [.streamStart]
  handed := 0

def position (scanner : Scanner) : Position := scanner.cursor.position

def column (scanner : Scanner) : Nat := scanner.position.column

def inFlow (scanner : Scanner) : Bool := 0 < scanner.depth

def emit (scanner : Scanner) (token : Token) : Scanner :=
  { scanner with queue := scanner.queue ++ [token] }

def emitAt (scanner : Scanner) (number : Nat) (token : Token) : Scanner :=
  let place := number - scanner.handed
  { scanner with queue := scanner.queue.take place ++ token :: scanner.queue.drop place }

def emitChar (scanner : Scanner) (token : Token) : Scanner :=
  { scanner.emit token with cursor := scanner.cursor.along 1 }

def allowKey (scanner : Scanner) (allowed : Bool) : Scanner :=
  { scanner with keyAllowed := allowed }

def KeyPlace.isStale (key : KeyPlace) (position : Position) : Bool :=
  key.position.line < position.line || key.position.index + 1024 < position.index

/-- Gives up places whose key did not come; fails if one was required. -/
def dropStale (scanner : Scanner) : Option Scanner := do
  let keys ← scanner.keys.mapM fun key =>
    match key with
    | none => some none
    | some place =>
        if KeyPlace.isStale place scanner.position then
          if place.required then none else some none
        else some (some place)
  some { scanner with keys := keys }

def dropKey (scanner : Scanner) : Option Scanner :=
  match scanner.keys with
  | some place :: keys =>
      if place.required then none else some { scanner with keys := none :: keys }
  | _ => some scanner

def noteKey (scanner : Scanner) : Option Scanner :=
  if scanner.keyAllowed then do
    let dropped ← scanner.dropKey
    let place : KeyPlace := {
      required := !scanner.inFlow && scanner.indent = scanner.column
      number := scanner.handed + scanner.queue.length
      position := scanner.position }
    some { dropped with keys := some place :: dropped.keys.drop 1 }
  else some scanner

/-- Opens a block if the column is deeper than the innermost one. Its start goes to the end of the
queue or before the token with a number. -/
def openBlock (scanner : Scanner) (column : Nat) (number : Option Nat) (token : Token) : Scanner :=
  if !scanner.inFlow && scanner.indent < column then
    let inside := { scanner with outer := scanner.indent :: scanner.outer, indent := column }
    match number with
    | none => inside.emit token
    | some number => inside.emitAt number token
  else scanner

def closeBlocksFrom (column : Int) : Int → List Int → Int × List Int × List Token
  | indent, [] => (indent, [], [])
  | indent, next :: outer =>
      if column < indent then
        let (innermost, rest, ends) := closeBlocksFrom column next outer
        (innermost, rest, .blockEnd :: ends)
      else (indent, next :: outer, [])

def closeBlocks (scanner : Scanner) (column : Int) : Scanner :=
  if scanner.inFlow then scanner
  else
    let (indent, outer, ends) := closeBlocksFrom column scanner.indent scanner.outer
    { scanner with indent := indent, outer := outer, queue := scanner.queue ++ ends }

/-- Passes white space, comments and line breaks. Tabs do not count as indentation, and a byte order
mark is passed at the start of any line. -/
def passGaps (scanner : Scanner) : Nat → Scanner
  | 0 => scanner
  | fuel + 1 =>
      let tabs := scanner.inFlow || !scanner.keyAllowed
      let marked := if scanner.column = 0 && scanner.cursor.rest.head? = some '\ufeff' then
        scanner.cursor.passChar else scanner.cursor
      let text := marked.passWhile fun c => c = ' ' || (tabs && c = '\t')
      let lineEnd := if text.rest.head? = some '#' then text.passLine else text
      if lineEnd.rest.head?.any isBreak then
        passGaps { scanner with
          cursor := lineEnd.passBreak, keyAllowed := scanner.keyAllowed || !scanner.inFlow } fuel
      else { scanner with cursor := lineEnd }

def endStream (scanner : Scanner) : Option Scanner := do
  let closed ← (scanner.closeBlocks (-1)).dropKey
  let cursor := if scanner.column = 0 then scanner.cursor
    else { scanner.cursor with position := scanner.position.newLine 0 }
  some { (closed.allowKey false).emit .streamEnd with cursor := cursor }

def directive (scanner : Scanner) : Option Scanner := do
  let closed ← (scanner.closeBlocks (-1)).dropKey
  let (token, cursor) ← Tag.directive (closed.cursor.along 1)
  some { (closed.allowKey false).emit token with cursor := cursor }

def marker (scanner : Scanner) (token : Token) : Option Scanner := do
  let closed ← (scanner.closeBlocks (-1)).dropKey
  some { (closed.allowKey false).emit token with cursor := closed.cursor.along 3 }

def openFlow (scanner : Scanner) (token : Token) : Option Scanner := do
  let noted ← scanner.noteKey
  let inside := { noted with depth := noted.depth + 1, keys := none :: noted.keys }
  some ((inside.allowKey true).emitChar token)

def closeFlow (scanner : Scanner) (token : Token) : Option Scanner := do
  let dropped ← scanner.dropKey
  let outside := if dropped.inFlow then
    { dropped with depth := dropped.depth - 1, keys := dropped.keys.drop 1 } else dropped
  some ((outside.allowKey false).emitChar token)

def flowEntry (scanner : Scanner) : Option Scanner := do
  let dropped ← scanner.dropKey
  some ((dropped.allowKey true).emitChar .flowEntry)

def blockEntry (scanner : Scanner) : Option Scanner := do
  if !scanner.inFlow && !scanner.keyAllowed then none
  else
    let inside := scanner.openBlock scanner.column none .blockSequenceStart
    let dropped ← inside.dropKey
    some ((dropped.allowKey true).emitChar .blockEntry)

def key (scanner : Scanner) : Option Scanner := do
  if !scanner.inFlow && !scanner.keyAllowed then none
  else
    let inside := scanner.openBlock scanner.column none .blockMappingStart
    let dropped ← inside.dropKey
    some ((dropped.allowKey (!scanner.inFlow)).emitChar .key)

def value (scanner : Scanner) : Option Scanner :=
  match scanner.keys with
  | some place :: keys =>
      let keyed := { scanner with keys := none :: keys }.emitAt place.number .key
      let inside := keyed.openBlock place.position.column (some place.number) .blockMappingStart
      some ((inside.allowKey false).emitChar .value)
  | _ =>
      if !scanner.inFlow && !scanner.keyAllowed then none
      else
        let inside := scanner.openBlock scanner.column none .blockMappingStart
        some ((inside.allowKey (!scanner.inFlow)).emitChar .value)

def property (scanner : Scanner) (read : Cursor → Option (Token × Cursor)) : Option Scanner := do
  let noted ← scanner.noteKey
  let (token, cursor) ← read noted.cursor
  some { (noted.allowKey false).emit token with cursor := cursor }

def named (make : String → Token) (cursor : Cursor) : Option (Token × Cursor) := do
  let (name, cursor) ← Tag.name (cursor.along 1)
  some (make name, cursor)

def quoted (read : Position → Scalar.Gap → List Char → Scalar.Reading) (cursor : Cursor) :
    Option (Token × Cursor) := do
  let (text, cursor) ← read (cursor.position.along 1) .none (cursor.rest.drop 1)
  some (.scalar (String.ofList text) .quoted, cursor)

def block (scanner : Scanner) (literal : Bool) : Option Scanner := do
  let dropped ← scanner.dropKey
  let (text, cursor) ← Scalar.block literal dropped.indent (dropped.cursor.along 1)
  let style : Style := if literal then .literal else .folded
  some { (dropped.allowKey true).emit (.scalar (String.ofList text) style) with cursor := cursor }

def plain (scanner : Scanner) : Option Scanner := do
  let noted ← scanner.noteKey
  let found ← Scalar.plain noted.inFlow (noted.indent + 1) noted.position .none noted.cursor.rest
  some { (noted.allowKey found.broken).emit (.scalar (String.ofList found.text) .plain) with
    cursor := found.cursor }

def isIndicator (c : Char) : Bool := "-?:,[]\x7b\x7d#&*!|>\x27\"%@\x60".toList.contains c

def startsPlain (scanner : Scanner) (c : Char) (rest : List Char) : Bool :=
  !(isGap c || isBreak c || isIndicator c) || (c = '-' && !(rest.head?.any isGap)) ||
    (!scanner.inFlow && (c = '?' || c = ':') && !atEdge rest)

def next (scanner : Scanner) : Option Scanner := do
  let fresh ← (scanner.passGaps (scanner.cursor.rest.length + 1)).dropStale
  let here := fresh.closeBlocks fresh.column
  match here.cursor.rest with
  | [] => here.endStream
  | c :: rest =>
      if here.column = 0 && c = '%' then here.directive
      else if here.column = 0 && atMarker (c :: rest) then
        here.marker (if c = '-' then .documentStart else .documentEnd)
      else if c = '[' then here.openFlow .flowSequenceStart
      else if c = '\x7b' then here.openFlow .flowMappingStart
      else if c = ']' then here.closeFlow .flowSequenceEnd
      else if c = '\x7d' then here.closeFlow .flowMappingEnd
      else if c = ',' then here.flowEntry
      else if c = '-' && atEdge rest then here.blockEntry
      else if c = '?' && (here.inFlow || atEdge rest) then here.key
      else if c = ':' && (here.inFlow || atEdge rest) then here.value
      else if c = '*' then here.property (named .alias)
      else if c = '&' then here.property (named .anchor)
      else if c = '!' then here.property (Tag.read here.inFlow)
      else if c = '|' && !here.inFlow then here.block true
      else if c = '>' && !here.inFlow then here.block false
      else if c = '\x27' then here.property (quoted Scalar.singleQuoted)
      else if c = '"' then here.property (quoted Scalar.doubleQuoted)
      else if here.startsPlain c rest then here.plain
      else none

def ready (scanner : Scanner) : Nat :=
  let blocked := scanner.keys.filterMap fun key =>
    key.map fun place => place.number - scanner.handed
  blocked.foldl min scanner.queue.length

end Scanner

structure Reading (α : Type) where
  parts : List α
  complete : Bool

namespace Token

/-- Hands on what is ready and goes on reading until the stream ends. `cut` tells that the text goes
on with something that cannot be read at all. -/
def read (cut : Bool) : Nat → Scanner → Reading Token
  | 0, _ => ⟨[], false⟩
  | fuel + 1, scanner =>
      match (if scanner.queue.isEmpty then some scanner else scanner.dropStale) with
      | none => ⟨[], false⟩
      | some fresh =>
          let count := fresh.ready
          let handed := fresh.queue.take count
          if handed.contains .streamEnd then ⟨handed, true⟩
          else
            let waiting := { fresh with
              queue := fresh.queue.drop count, handed := fresh.handed + count }
            match waiting.next with
            | none => ⟨handed, false⟩
            | some further =>
                if cut && further.cursor.rest.isEmpty then ⟨handed, false⟩
                else
                  let later := read cut fuel further
                  ⟨handed ++ later.parts, later.complete⟩

def blockSize : Nat := 16384

/-- The blocks of a text. A character that lies in two belongs to the later. -/
def blocks (room : Nat) : List Char → List (List Char)
  | [] => [[]]
  | c :: rest =>
      if c.utf8Size ≤ room then
        match blocks (room - c.utf8Size) rest with
        | [] => [[c]]
        | first :: later => (c :: first) :: later
      else
        match blocks (blockSize - (c.utf8Size - room)) rest with
        | [] => [[], [c]]
        | first :: later => [] :: (c :: first) :: later

/-- The text up to the first block with a character that no document may hold. -/
def readable (text : List Char) : List Char :=
  ((blocks blockSize text).takeWhile fun block => block.all isAllowed).flatten

def ofText (text : String) : Reading Token :=
  let chars := text.toList
  let sound := readable chars
  read (sound.length < chars.length) (sound.length + 3) (.start sound)

end Token
end BatchLaunch.Yaml
