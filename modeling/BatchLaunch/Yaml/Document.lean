import BatchLaunch.Yaml.Event

/-!
The first document of a text, ready for reading values from it: its events, with each alias led to
the node it stands for. A tag that is no text is as good as none.
-/
namespace BatchLaunch.Yaml

inductive Item where
  | alias (name : Nat)
  | scalar (tag : Option String) (text : String) (style : Style)
  | sequenceStart (tag : Option String)
  | sequenceEnd
  | mappingStart (tag : Option String)
  | mappingEnd
  | nothing
  deriving DecidableEq, Repr

structure Document where
  items : List Item
  targets : List (Nat × Nat)
  /-- The items end because the document does, and not in a fault. -/
  complete : Bool
  alone : Bool

namespace Document

/-- The document as far as it is read, its items last first. A name is numbered by how many names
there were before it. -/
structure Draft where
  items : List Item
  names : List (String × Nat)
  targets : List (Nat × Nat)

namespace Draft

def empty : Draft := ⟨[], [], []⟩

def nameNext (draft : Draft) : Option String → Draft
  | none => draft
  | some name =>
      let number := draft.names.length
      { draft with
        names := (name, number) :: draft.names.filter (·.1 ≠ name)
        targets := (number, draft.items.length) :: draft.targets }

def add (draft : Draft) (item : Item) : Draft := { draft with items := item :: draft.items }

end Draft

def finish (draft : Draft) (complete alone : Bool) : Document :=
  ⟨draft.items.reverse, draft.targets, complete, alone⟩

def tagText (properties : Properties) : Option String := properties.tag.bind Text.Utf8.decode?

/-- Reads up to the end of the document. An alias needs its name to be there already. -/
def build (draft : Draft) : List Event → Document
  | [] => finish draft false false
  | .documentStart :: rest => build draft rest
  | .documentEnd :: rest => finish draft true (rest = [.streamEnd])
  | .streamEnd :: _ => finish (if draft.items.isEmpty then draft.add .nothing else draft) true true
  | .alias name :: rest =>
      match draft.names.lookup name with
      | none => finish draft false false
      | some number => build (draft.add (.alias number)) rest
  | .scalar properties text style :: rest =>
      build ((draft.nameNext properties.anchor).add (.scalar (tagText properties) text style)) rest
  | .sequenceStart properties :: rest =>
      build ((draft.nameNext properties.anchor).add (.sequenceStart (tagText properties))) rest
  | .sequenceEnd :: rest => build (draft.add .sequenceEnd) rest
  | .mappingStart properties :: rest =>
      build ((draft.nameNext properties.anchor).add (.mappingStart (tagText properties))) rest
  | .mappingEnd :: rest => build (draft.add .mappingEnd) rest

def ofText (text : String) : Document := build .empty (Event.ofText text).parts

def target (document : Document) (name : Nat) : List Item :=
  match document.targets.lookup name with
  | none => []
  | some place => document.items.drop place

end Document
end BatchLaunch.Yaml
