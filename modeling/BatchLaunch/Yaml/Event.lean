import BatchLaunch.Yaml.Token
import BatchLaunch.Yaml.Token.Stream

/-!
A document as the events of a walk through it: scalars, and the starts and ends of sequences and
mappings. They are found one at a time from the tokens, so those before a fault stand.
-/
namespace BatchLaunch.Yaml

structure Properties where
  anchor : Option String
  tag : Option Octets
  deriving DecidableEq, Repr

def Properties.none : Properties := ⟨.none, .none⟩

inductive Event where
  | documentStart
  | documentEnd
  | streamEnd
  | alias (name : String)
  | scalar (properties : Properties) (text : String) (style : Style)
  | sequenceStart (properties : Properties)
  | sequenceEnd
  | mappingStart (properties : Properties)
  | mappingEnd
  deriving DecidableEq, Repr

def Event.missing (properties : Properties) : Event := .scalar properties "" .plain

/-- What is to come next. `first` marks the place right before the opening token. -/
inductive Goal where
  | document (first : Bool)
  | documentContent
  | documentEnd
  | documentNode
  | blockEntry (first : Bool)
  /-- An entry of a sequence that is not indented deeper than its mapping. -/
  | indentlessEntry
  | blockKey (first : Bool)
  | blockValue
  | flowEntry (first : Bool)
  /-- The parts of a mapping of a single pair, written as an entry of a sequence. -/
  | pairKey
  | pairValue
  | pairEnd
  | flowKey (first : Bool)
  | flowValue
  | flowNoValue
  | finished
  deriving DecidableEq, Repr

structure Walk where
  tokens : List Token
  goal : Goal
  later : List Goal
  handles : List (String × Octets)

abbrev Step := Option (Event × Walk)

namespace Walk

def start (tokens : List Token) : Walk := ⟨tokens.drop 1, .document true, [], []⟩

def pass (walk : Walk) : Walk := { walk with tokens := walk.tokens.drop 1 }

def aim (walk : Walk) (goal : Goal) : Walk := { walk with goal := goal }

def back (walk : Walk) : Walk :=
  match walk.later with
  | [] => walk.aim .finished
  | goal :: later => { walk with goal := goal, later := later }

def putOff (walk : Walk) (goal : Goal) : Walk := { walk with later := goal :: walk.later }

def skip (walk : Walk) (goal : Goal) : Step := some (.missing .none, walk.aim goal)

def defaultHandles : List (String × Octets) :=
  [("!", Tag.bare), ("!!", Text.Utf8.encode "tag:yaml.org,2002:")]

/-- The directives before a document. The version is 1.1 or 1.2 and stated once, as is each
handle. -/
def directives (versioned : Bool) (handles : List (String × Octets)) :
    List Token → Option (List (String × Octets) × List Token)
  | .version major minor :: rest =>
      if versioned || major ≠ 1 || (minor ≠ 1 && minor ≠ 2) then none
      else directives true handles rest
  | .tagHandle handle meaning :: rest =>
      if (handles.lookup handle).isSome then none
      else directives versioned (handles ++ [(handle, meaning)]) rest
  | tokens => some (handles ++ defaultHandles, tokens)

def resolveTag (handles : List (String × Octets)) (handle : String) (suffix : Octets) :
    Option Octets :=
  if handle.isEmpty then some suffix
  else (handles.lookup handle).map (· ++ suffix)

def properties (walk : Walk) : Option (Properties × Walk) :=
  match walk.tokens with
  | .anchor name :: .tag handle suffix :: rest =>
      (resolveTag walk.handles handle suffix).map fun tag =>
        (⟨some name, some tag⟩, { walk with tokens := rest })
  | .tag handle suffix :: .anchor name :: rest =>
      (resolveTag walk.handles handle suffix).map fun tag =>
        (⟨some name, some tag⟩, { walk with tokens := rest })
  | .anchor name :: rest => some (⟨some name, none⟩, { walk with tokens := rest })
  | .tag handle suffix :: rest =>
      (resolveTag walk.handles handle suffix).map fun tag =>
        (⟨none, some tag⟩, { walk with tokens := rest })
  | _ => some (.none, walk)

/-- A node. Within brackets no block starts, and only the values of a block mapping may be sequences
without indentation. -/
def node (walk : Walk) (inBlock indentless : Bool) : Step :=
  match walk.tokens with
  | .alias name :: _ => some (.alias name, walk.pass.back)
  | _ => do
      let (found, walk) ← walk.properties
      match ← walk.tokens.head? with
      | .scalar text style => some (.scalar found text style, walk.pass.back)
      | .flowSequenceStart => some (.sequenceStart found, walk.aim (.flowEntry true))
      | .flowMappingStart => some (.mappingStart found, walk.aim (.flowKey true))
      | .blockEntry =>
          if indentless then some (.sequenceStart found, walk.aim .indentlessEntry)
          else absent walk found
      | .blockSequenceStart =>
          if inBlock then some (.sequenceStart found, walk.aim (.blockEntry true))
          else absent walk found
      | .blockMappingStart =>
          if inBlock then some (.mappingStart found, walk.aim (.blockKey true))
          else absent walk found
      | _ => absent walk found
where
  absent (walk : Walk) (found : Properties) : Step :=
    if found.anchor.isSome || found.tag.isSome then some (.missing found, walk.back) else none

def startsDocument : Token → Bool
  | .version _ _ | .tagHandle _ _ | .documentStart => true
  | _ => false

def document (walk : Walk) (first : Bool) : Step :=
  let walk := if first then walk
    else { walk with tokens := walk.tokens.dropWhile (· = .documentEnd) }
  match walk.tokens with
  | [] => none
  | .streamEnd :: _ => some (.streamEnd, walk.pass.aim .finished)
  | token :: _ =>
      if first && !startsDocument token then
        some (.documentStart,
          { (walk.putOff .documentEnd).aim .documentNode with handles := defaultHandles })
      else do
        let (handles, rest) ← directives false [] walk.tokens
        match rest with
        | .documentStart :: rest =>
            some (.documentStart, { (walk.putOff .documentEnd).aim .documentContent with
              tokens := rest, handles := handles })
        | _ => none

def documentContent (walk : Walk) : Step :=
  match walk.tokens with
  | [] => none
  | token :: _ =>
      if startsDocument token || token = .documentEnd || token = .streamEnd then
        some (.missing .none, walk.back)
      else walk.node true false

def documentEnd (walk : Walk) : Step :=
  match walk.tokens with
  | [] => none
  | .documentEnd :: _ => some (.documentEnd, walk.pass.aim (.document false))
  | _ => some (.documentEnd, walk.aim (.document false))

def nodeOrMissing (walk : Walk) (ends : List Token) (again : Goal) (inBlock indentless : Bool) :
    Step :=
  match walk.tokens with
  | [] => none
  | token :: _ =>
      if ends.contains token then walk.skip again
      else (walk.putOff again).node inBlock indentless

def blockEntry (walk : Walk) : Step :=
  match walk.tokens with
  | .blockEntry :: _ =>
      walk.pass.nodeOrMissing [.blockEntry, .blockEnd] (.blockEntry false) true false
  | .blockEnd :: _ => some (.sequenceEnd, walk.pass.back)
  | _ => none

def indentlessEntry (walk : Walk) : Step :=
  match walk.tokens with
  | [] => none
  | .blockEntry :: _ =>
      walk.pass.nodeOrMissing [.blockEntry, .key, .value, .blockEnd] .indentlessEntry true false
  | _ => some (.sequenceEnd, walk.back)

def blockKey (walk : Walk) : Step :=
  match walk.tokens with
  | .key :: _ => walk.pass.nodeOrMissing [.key, .value, .blockEnd] .blockValue true true
  | .blockEnd :: _ => some (.mappingEnd, walk.pass.back)
  | _ => none

def blockValue (walk : Walk) : Step :=
  match walk.tokens with
  | [] => none
  | .value :: _ => walk.pass.nodeOrMissing [.key, .value, .blockEnd] (.blockKey false) true true
  | _ => walk.skip (.blockKey false)

/-- Passes the comma before every entry but the first. -/
def comma (walk : Walk) (first : Bool) (closing : Token) : Option Walk :=
  match walk.tokens with
  | [] => none
  | token :: _ =>
      if first || token = closing then some walk
      else if token = .flowEntry then some walk.pass
      else none

def flowEntry (walk : Walk) (first : Bool) : Step := do
  let walk ← walk.comma first .flowSequenceEnd
  match walk.tokens with
  | [] => none
  | .key :: _ => some (.mappingStart .none, walk.pass.aim .pairKey)
  | .flowSequenceEnd :: _ => some (.sequenceEnd, walk.pass.back)
  | _ => (walk.putOff (.flowEntry false)).node false false

def pairKey (walk : Walk) : Step :=
  match walk.tokens with
  | [] => none
  | .value :: _ | .flowEntry :: _ | .flowSequenceEnd :: _ => walk.pass.skip .pairValue
  | _ => (walk.putOff .pairValue).node false false

def pairValue (walk : Walk) : Step :=
  match walk.tokens with
  | [] => none
  | .value :: _ => walk.pass.nodeOrMissing [.flowEntry, .flowSequenceEnd] .pairEnd false false
  | _ => walk.skip .pairEnd

def pairEnd (walk : Walk) : Step :=
  match walk.tokens with
  | [] => none
  | _ => some (.mappingEnd, walk.aim (.flowEntry false))

def flowKey (walk : Walk) (first : Bool) : Step := do
  let walk ← walk.comma first .flowMappingEnd
  match walk.tokens with
  | [] => none
  | .key :: _ =>
      walk.pass.nodeOrMissing [.value, .flowEntry, .flowMappingEnd] .flowValue false false
  | .flowMappingEnd :: _ => some (.mappingEnd, walk.pass.back)
  | _ => (walk.putOff .flowNoValue).node false false

def flowValue (walk : Walk) : Step :=
  match walk.tokens with
  | [] => none
  | .value :: _ =>
      walk.pass.nodeOrMissing [.flowEntry, .flowMappingEnd] (.flowKey false) false false
  | _ => walk.skip (.flowKey false)

def flowNoValue (walk : Walk) : Step :=
  match walk.tokens with
  | [] => none
  | _ => walk.skip (.flowKey false)

def step (walk : Walk) : Step :=
  match walk.goal with
  | .document first => walk.document first
  | .documentContent => walk.documentContent
  | .documentEnd => walk.documentEnd
  | .documentNode => walk.node true false
  | .blockEntry first => (if first then walk.pass else walk).blockEntry
  | .indentlessEntry => walk.indentlessEntry
  | .blockKey first => (if first then walk.pass else walk).blockKey
  | .blockValue => walk.blockValue
  | .flowEntry first => (if first then walk.pass else walk).flowEntry first
  | .pairKey => walk.pairKey
  | .pairValue => walk.pairValue
  | .pairEnd => walk.pairEnd
  | .flowKey first => (if first then walk.pass else walk).flowKey first
  | .flowValue => walk.flowValue
  | .flowNoValue => walk.flowNoValue
  | .finished => none

end Walk

namespace Event

def read : Nat → Walk → Reading Event
  | 0, _ => ⟨[], false⟩
  | fuel + 1, walk =>
      match walk.step with
      | none => ⟨[], false⟩
      | some (.streamEnd, _) => ⟨[.streamEnd], true⟩
      | some (event, next) =>
          let later := read fuel next
          ⟨event :: later.parts, later.complete⟩

/-- The events of a text. Of four events in a row at least one passes a token. -/
def ofText (text : String) : Reading Event :=
  let tokens := (Token.ofText text).parts
  read (4 * tokens.length + 4) (.start tokens)

end Event
end BatchLaunch.Yaml
