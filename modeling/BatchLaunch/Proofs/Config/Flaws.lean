import BatchLaunch.Config.Fault
import BatchLaunch.Proofs.Config.Shape

/-!
What is wrong with a tree that describes no batch, and where. A place is told by the items up to it,
since these are what a walk through the document has met there, and a fault by the way to the value
that it is one of. A key is wrong by itself, a value where it stands, and that a job lacks a field
shows only at the job's end.
-/
namespace BatchLaunch

open ShapeFault (Mistake)
open Yaml (Item Node Numeral)

def Yaml.Node.first : Node → Item
  | scalar text style => .scalar none text style
  | sequence _ => .sequenceStart none
  | mapping _ => .mappingStart none

theorem Yaml.Node.items_eq_first_cons (node : Node) : ∃ rest, node.items = node.first :: rest := by
  cases node <;> exact ⟨_, by rw [items]; rfl⟩

theorem Yaml.Node.first_prefix (node : Node) : [node.first] <+: node.items := by
  obtain ⟨rest, items⟩ := node.items_eq_first_cons
  exact ⟨rest, by rw [items, List.singleton_append]⟩

theorem Yaml.Node.IsText.unique {node : Node} {one other : String} (isText : node.IsText one)
    (same : node.IsText other) : one = other := by
  obtain ⟨style, rfl⟩ := isText
  obtain ⟨_, same⟩ := same
  exact (scalar.inj same).1

namespace Yaml.Node.Entries

variable {φ : Type} {name : φ → String} {holds : φ → Node → Prop} {pairs : List (Node × Node)}
  {fields : List φ}

theorem exists_field {pair : Node × Node} (entries : Entries name holds pairs fields)
    (member : pair ∈ pairs) : ∃ field, pair.1.IsText (name field) ∧ holds field pair.2 := by
  induction entries with
  | nil => cases member
  | cons entry _ ih =>
      rcases List.mem_cons.mp member with rfl | member
      · exact ⟨_, entry⟩
      · exact ih member

theorem exists_pair {field : φ} (entries : Entries name holds pairs fields)
    (member : field ∈ fields) :
    ∃ pair ∈ pairs, pair.1.IsText (name field) ∧ holds field pair.2 := by
  induction entries with
  | nil => cases member
  | cons entry _ ih =>
      rcases List.mem_cons.mp member with rfl | member
      · exact ⟨_, List.mem_cons_self, entry⟩
      · obtain ⟨pair, present, held⟩ := ih member
        exact ⟨pair, List.mem_cons_of_mem _ present, held⟩

end Yaml.Node.Entries

namespace Config

/-- What is wrong somewhere: the items up to a place, with the one at the place, and the fault. -/
abbrev Flaws : Type := List Item → ShapeFault → Prop

def Flaws.Absent (flaws : Flaws) : Prop := ∀ front fault, ¬ flaws front fault

def Flaws.Within (flaws : Flaws) (items : List Item) : Prop :=
  ∀ ⦃front fault⦄, flaws front fault → front ≠ [] ∧ front <+: items

/-- Nothing is wrong at an earlier place. -/
structure Flaws.IsFirst (flaws : Flaws) (front : List Item) (fault : ShapeFault) : Prop where
  occurs : flaws front fault
  least : ∀ other fault', flaws other fault' → front.length ≤ other.length

theorem Flaws.exists_isFirst {flaws : Flaws} {front : List Item} {fault : ShapeFault}
    (occurs : flaws front fault) : ∃ front fault, flaws.IsFirst front fault := by
  induction length : front.length using Nat.strongRecOn generalizing front fault with
  | ind n ih =>
      by_cases least : ∀ other fault', flaws other fault' → front.length ≤ other.length
      · exact ⟨front, fault, occurs, least⟩
      · push Not at least
        obtain ⟨other, fault', earlier, shorter⟩ := least
        exact ih _ (length ▸ shorter) earlier rfl

/-! What shows at the start of a value. -/

inductive TextFault (expected : String) (node : Node) : Mistake → Prop
  | kind (other : ∀ text, ¬ node.IsText text) :
      TextFault expected node (.invalidType node.first expected)

/-- A node that gives no count. What passes 64 bits is not even taken for a number. -/
inductive CountFault (node : Node) : Mistake → Prop
  | kind (other : ∀ text n, node = .scalar text .plain → Numeral text.toList n → UInt64.size ≤ n) :
      CountFault node (.invalidType node.first "u32")
  | range {text : String} {n : Nat} (plain : node = .scalar text .plain)
      (numeral : Numeral text.toList n) (large : UInt32.size ≤ n) (fits : n < UInt64.size) :
      CountFault node (.invalidValue node.first "u32")

inductive DecompositionFault (node : Node) : Mistake → Prop
  | kind (other : ∀ text, ¬ node.IsText text) :
      DecompositionFault node (.invalidType node.first "a YAML tag starting with '!'")
  | unknown {text : String} (written : node.IsText text)
      (strange : ∀ d, Decomposition.tag d ≠ text) :
      DecompositionFault node (.unknownDecomposition text)

/-- A fault of a whole node shows at its start. -/
inductive AtStart (faults : Node → Mistake → Prop) (node : Node) : Flaws
  | intro {mistake : Mistake} (wrong : faults node mistake) :
      AtStart faults node [node.first] ⟨[], mistake⟩

/-! What is wrong in a mapping with the names of fields as its keys. -/

section Fields

variable {φ : Type} (all : List φ) (name : φ → String) (flaws : φ → Node → Flaws)

/-- A key that names no field, or one that an earlier key has named. -/
inductive KeyFault (met : List Node) (key : Node) : Mistake → Prop
  | kind (other : ∀ text, ¬ key.IsText text) :
      KeyFault met key (.invalidType key.first "field identifier")
  | unknown {text : String} (written : key.IsText text) (strange : text ∉ all.map name) :
      KeyFault met key (.unknownField text (all.map name))
  | repeated {text : String} {earlier : Node} (written : key.IsText text)
      (known : text ∈ all.map name) (before : earlier ∈ met) (same : earlier.IsText text) :
      KeyFault met key (.duplicateField text)

inductive EntryFlaw : List Node → List (Node × Node) → Flaws
  | key {met : List Node} {key value : Node} {pairs : List (Node × Node)} {mistake : Mistake}
      (wrong : KeyFault all name met key mistake) :
      EntryFlaw met ((key, value) :: pairs) [key.first] ⟨[], mistake⟩
  | value {met : List Node} {key value : Node} {pairs : List (Node × Node)} {field : φ}
      {front : List Item} {fault : ShapeFault} (written : key.IsText (name field))
      (wrong : flaws field value front fault) :
      EntryFlaw met ((key, value) :: pairs) (key.items ++ front) (fault.under (.key (name field)))
  | later {met : List Node} {key value : Node} {pairs : List (Node × Node)} {front : List Item}
      {fault : ShapeFault} (wrong : EntryFlaw (key :: met) pairs front fault) :
      EntryFlaw met ((key, value) :: pairs) (key.items ++ (value.items ++ front)) fault

/-- Where nothing is written there is a mapping without entries. -/
inductive MappingFlaw (expected : String) (node : Node) : Flaws
  | kind (other : ∀ pairs, node ≠ .mapping pairs) (written : ¬ node.IsEmpty) :
      MappingFlaw expected node [node.first] ⟨[], .invalidType node.first expected⟩
  | entry {pairs : List (Node × Node)} {front : List Item} {fault : ShapeFault}
      (opened : node = .mapping pairs) (wrong : EntryFlaw all name flaws [] pairs front fault) :
      MappingFlaw expected node (node.first :: front) fault

end Fields

end Config

namespace Job

open Config (AtStart Flaws)

namespace Field

def Fault : Field → Node → Mistake → Prop
  | workerCount | problemSize | dimension => Config.CountFault
  | algorithm | method | distribution => Config.TextFault "a string"
  | decomposition => Config.DecompositionFault

def before (field : Field) : List Field := all.takeWhile (· ≠ field)

theorem before_total (a b : Field) : a = b ∨ a ∈ b.before ∨ b ∈ a.before :=
  (by decide : ∀ a ∈ all, ∀ b ∈ all, a = b ∨ a ∈ b.before ∨ b ∈ a.before) a a.mem_all b b.mem_all

/-- No key of a node names the field. -/
def Lacks (node : Node) (field : Field) : Prop :=
  ∀ pairs, node = .mapping pairs → ∀ pair ∈ pairs, ¬ pair.1.IsText field.name

end Field

/-- What is wrong with a job. What is missing shows at its end, and of all that the field declared
first. -/
inductive Flaw (node : Node) : Flaws
  | part {front : List Item} {fault : ShapeFault}
      (wrong : Config.MappingFlaw Field.all Field.name (fun field => AtStart field.Fault)
        "struct JobDescriptor" node front fault) : Flaw node front fault
  | missing {field : Field} (opened : node.IsEmpty ∨ ∃ pairs, node = .mapping pairs)
      (lacks : field.Lacks node) (first : ∀ earlier ∈ field.before, ¬ earlier.Lacks node) :
      Flaw node node.items ⟨[], .missingField field.name⟩

end Job

namespace Config

inductive ListFlaw (flaws : Node → Flaws) : Nat → List Node → Flaws
  | here {index : Nat} {entry : Node} {entries : List Node} {front : List Item}
      {fault : ShapeFault} (wrong : flaws entry front fault) :
      ListFlaw flaws index (entry :: entries) front (fault.under (.entry index))
  | later {index : Nat} {entry : Node} {entries : List Node} {front : List Item}
      {fault : ShapeFault} (wrong : ListFlaw flaws (index + 1) entries front fault) :
      ListFlaw flaws index (entry :: entries) (entry.items ++ front) fault

inductive JobsFlaw (node : Node) : Flaws
  | kind (other : ∀ entries, node ≠ .sequence entries) (written : ¬ node.IsEmpty) :
      JobsFlaw node [node.first] ⟨[], .invalidType node.first "a sequence"⟩
  | entry {entries : List Node} {front : List Item} {fault : ShapeFault}
      (opened : node = .sequence entries) (wrong : ListFlaw Job.Flaw 0 entries front fault) :
      JobsFlaw node (node.first :: front) fault

def Field.Flaw : Field → Node → Flaws
  | launcher => AtStart (TextFault "path string")
  | workerFlag | runtime | script => AtStart (TextFault "a string")
  | jobs => JobsFlaw

/-- What is wrong with a batch. A document without a root is one without entries. -/
def Flaw (root : Option Node) : Flaws := fun front fault =>
  ∃ node, root = some node ∧
    MappingFlaw Field.all Field.name Field.Flaw "struct LauncherConfig" node front fault

end Config
end BatchLaunch
