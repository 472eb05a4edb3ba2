import BatchLaunch.Config.Fault
import BatchLaunch.Config.Table
import BatchLaunch.Yaml.Document
import BatchLaunch.Yaml.Number

/-!
Reading a configuration from a document. The document is gone through in order, and the first fault
met is the one reported: a key is judged before its value, and what is missing at the end of its
mapping. Keys that are absent at the top keep their built-in values.
-/
namespace BatchLaunch.Config.Decode

open ShapeFault (Mistake Step)
open Yaml (Document Item)

abbrev Result : Type → Type := Except ParseFault

abbrev Reader (α : Type) := List Item → Result (α × List Item)

def reject {α : Type} (fault : ShapeFault) : Result α := .error (.shape fault)

def refuse {α : Type} (mistake : Mistake) : Result α := reject ⟨[], mistake⟩

/-- Tells a fault of a value as one of what the value is in. -/
def under {α : Type} (step : Step) (result : Result α) : Result α :=
  result.mapError (ParseFault.under step)

@[simp] theorem under_ok {α : Type} (step : Step) (a : α) : under step (.ok a) = .ok a := rfl

@[simp] theorem under_reject {α : Type} (step : Step) (fault : ShapeFault) :
    under step (reject fault : Result α) = reject (fault.under step) := rfl

def through {α : Type} (document : Document) (read : Reader α) : Reader α
  | .alias name :: rest => (read (document.target name)).map fun found => (found.1, rest)
  | items => read items

/-- What is wrong with a scalar where something else is expected. One that does not fit its own tag
is already no value. -/
def scalarMistake (expected : String) (tag : Option String) (text : String) (style : Yaml.Style) :
    Mistake :=
  let found := .scalar tag text style
  let judged (fits : Bool) (kind : String) : Mistake :=
    if fits then .invalidType found expected else .invalidValue found kind
  match tag with
  | some "tag:yaml.org,2002:bool" => judged (Yaml.isTruth text) "a boolean"
  | some "tag:yaml.org,2002:int" => judged (Yaml.isInteger text) "an integer"
  | some "tag:yaml.org,2002:float" => judged (Yaml.isFloat text) "a float"
  | some "tag:yaml.org,2002:null" => judged (Yaml.isNull text) "null"
  | _ => .invalidType found expected

/-- Any scalar is a text, whatever its tag. -/
def text (expected : String) : Reader String
  | [] => .error .malformed
  | .scalar _ text _ :: rest => .ok (text, rest)
  | item :: _ => refuse (.invalidType item expected)

def word : Reader String := text "a string"

def filePath : Reader String := text "path string"

def fieldName : Reader String := text "field identifier"

/-- Numbers are written plainly, or as a literal block with their tag. -/
def isNumeric (tag : Option String) : Yaml.Style → Bool
  | .plain => true
  | .literal => tag = some "tag:yaml.org,2002:int"
  | _ => false

def count : Reader UInt32
  | [] => .error .malformed
  | .scalar tag text style :: rest =>
      match if isNumeric tag style then Yaml.unsigned? text else none with
      | none => refuse (scalarMistake "u32" tag text style)
      | some n =>
          if n < UInt32.size then .ok (UInt32.ofNat n, rest)
          else refuse (.invalidValue (.scalar tag text style) "u32")
  | item :: _ => refuse (.invalidType item "u32")

def ofTag (tag : String) : Result Decomposition :=
  match Decomposition.ofTag? tag with
  | some d => .ok d
  | none => refuse (.unknownDecomposition tag)

/-- The name in a tag of the document's own, one that starts with an exclamation mark. -/
def ownTag? (tag : Option String) : Option String :=
  tag.bind fun tag =>
    match tag.toList with
    | ['!'] => some "!"
    | '!' :: name => some (String.ofList name)
    | _ => none

def tagOf : Item → Option String
  | .scalar tag _ _ | .sequenceStart tag | .mappingStart tag => tag
  | _ => none

/-- Behind a decomposition that is written as a tag nothing may stand. -/
def noValue : Reader Unit
  | [] => .error .malformed
  | .scalar tag text style :: rest =>
      if style = .plain && (text = "" || Yaml.isNull text) then .ok ((), rest)
      else refuse (.invalidValue (.scalar tag text style) "null")
  | item :: _ => refuse (.invalidType item "unit")

/-- A decomposition is the text of a scalar, or a tag with nothing behind it. -/
def decomposition : Reader Decomposition
  | [] => .error .malformed
  | item :: rest =>
      match ownTag? (tagOf item) with
      | some tag => do
          let found ← ofTag tag
          let ((), rest) ← noValue (item :: rest)
          .ok (found, rest)
      | none => do
          let (tag, rest) ← text "a YAML tag starting with '!'" (item :: rest)
          .ok (← ofTag tag, rest)

/-- Whether a mapping or a sequence comes, or nothing that stands for an empty one. -/
inductive Opening where
  | entries (rest : List Item)
  | empty (rest : List Item)

def opening (expected : String) (opens : Item → Bool) : List Item → Result Opening
  | [] => .error .malformed
  | .nothing :: rest => .ok (.empty rest)
  | .scalar tag text style :: rest =>
      if style = .plain && text = "" then .ok (.empty rest)
      else refuse (scalarMistake expected tag text style)
  | item :: rest =>
      if opens item then .ok (.entries rest) else refuse (.invalidType item expected)

def opensMapping : Item → Bool
  | .mappingStart _ => true
  | _ => false

def opensSequence : Item → Bool
  | .sequenceStart _ => true
  | _ => false

/-- The entries of a mapping with the keys given, each at most once. `put` reads the value of a key
into what was gathered before. -/
def entries {δ : Type} (document : Document) (known : List String)
    (put : String → δ → Reader δ) : Nat → List String → δ → Reader δ
  | 0, _, _, _ => .error .malformed
  | fuel + 1, seen, gathered, items =>
      match items with
      | .mappingEnd :: rest => .ok (gathered, rest)
      | items => do
          let (name, rest) ← through document fieldName items
          if !known.contains name then refuse (.unknownField name known)
          else if seen.contains name then refuse (.duplicateField name)
          else
            let (gathered, rest) ← under (.key name) (put name gathered rest)
            entries document known put fuel (name :: seen) gathered rest

/-- A mapping. Each entry takes at least two items. -/
def mapping {δ : Type} (document : Document) (expected : String) (known : List String)
    (put : String → δ → Reader δ) (start : δ) (items : List Item) : Result (δ × List Item) := do
  match ← opening expected opensMapping items with
  | .empty rest => .ok (start, rest)
  | .entries rest => entries document known put (rest.length + 1) [] start rest

/-- The fields of a job as far as they are met. -/
structure JobDraft where
  workerCount : Option UInt32
  algorithm : Option String
  problemSize : Option UInt32
  method : Option String
  decomposition : Option Decomposition
  distribution : Option String
  dimension : Option UInt32

namespace JobDraft

def empty : JobDraft := ⟨none, none, none, none, none, none, none⟩

def fields : List String :=
  ["worker_count", "algorithm", "problem_size", "method", "decomposition", "distribution",
    "dimension"]

def put (document : Document) (name : String) (draft : JobDraft) (items : List Item) :
    Result (JobDraft × List Item) :=
  let number := through document count
  let word := through document word
  match name with
  | "worker_count" =>
      (number items).map fun (n, rest) => ({ draft with workerCount := some n }, rest)
  | "algorithm" => (word items).map fun (s, rest) => ({ draft with algorithm := some s }, rest)
  | "problem_size" =>
      (number items).map fun (n, rest) => ({ draft with problemSize := some n }, rest)
  | "method" => (word items).map fun (s, rest) => ({ draft with method := some s }, rest)
  | "decomposition" =>
      (through document Decode.decomposition items).map fun (d, rest) =>
        ({ draft with decomposition := some d }, rest)
  | "distribution" =>
      (word items).map fun (s, rest) => ({ draft with distribution := some s }, rest)
  | _ => (number items).map fun (n, rest) => ({ draft with dimension := some n }, rest)

def required {α : Type} (name : String) : Option α → Result α
  | none => refuse (.missingField name)
  | some value => .ok value

def finish (draft : JobDraft) : Result Job := do
  let workerCount ← required "worker_count" draft.workerCount
  let algorithm ← required "algorithm" draft.algorithm
  let problemSize ← required "problem_size" draft.problemSize
  let method ← required "method" draft.method
  let decomposition ← required "decomposition" draft.decomposition
  let distribution ← required "distribution" draft.distribution
  let dimension ← required "dimension" draft.dimension
  .ok ⟨workerCount, algorithm, problemSize, method, decomposition, distribution, dimension⟩

end JobDraft

def job (document : Document) (items : List Item) : Result (Job × List Item) := do
  let (draft, rest) ←
    mapping document "struct JobDescriptor" JobDraft.fields (JobDraft.put document) .empty items
  .ok (← draft.finish, rest)

def jobList (document : Document) : Nat → Nat → Reader (List Job)
  | 0, _, _ => .error .malformed
  | fuel + 1, index, items =>
      match items with
      | [] => .error .malformed
      | .sequenceEnd :: rest => .ok ([], rest)
      | items => do
          let (first, rest) ← under (.entry index) (through document (job document) items)
          let (others, rest) ← jobList document fuel (index + 1) rest
          .ok (first :: others, rest)

def jobs (document : Document) (items : List Item) : Result (List Job × List Item) := do
  match ← opening "a sequence" opensSequence items with
  | .empty rest => .ok ([], rest)
  | .entries rest => jobList document (rest.length + 1) 0 rest

def fields : List String := ["launcher", "worker_flag", "runtime", "script", "jobs"]

def put (document : Document) (name : String) (config : Config) (items : List Item) :
    Result (Config × List Item) :=
  let word := through document word items
  let settings := config.settings
  match name with
  | "launcher" => (through document filePath items).map fun (s, rest) =>
      ({ config with settings := { settings with launcher := s } }, rest)
  | "worker_flag" => word.map fun (s, rest) =>
      ({ config with settings := { settings with workerFlag := s } }, rest)
  | "runtime" => word.map fun (s, rest) =>
      ({ config with settings := { settings with runtime := s } }, rest)
  | "script" => word.map fun (s, rest) =>
      ({ config with settings := { settings with script := s } }, rest)
  | _ => (through document (jobs document) items).map fun (jobs, rest) =>
      ({ config with jobs := jobs }, rest)

def document (source : Document) : Result Config := do
  let (config, _) ← through source
    (mapping source "struct LauncherConfig" fields (put source) .builtin) source.items
  if source.complete && source.alone then .ok config else .error .malformed

end BatchLaunch.Config.Decode

namespace BatchLaunch

def Config.ofYaml (text : String) : Except ParseFault Config :=
  Config.Decode.document (.ofText text)

end BatchLaunch
