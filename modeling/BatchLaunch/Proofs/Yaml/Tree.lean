import BatchLaunch.Yaml.Document

/-!
Documents as trees. A tree is told by its items, so where a document is one it is only one.
-/
namespace BatchLaunch.Yaml

/-- A node that has neither a tag nor a name. -/
inductive Node where
  | scalar (text : String) (style : Style)
  | sequence (entries : List Node)
  | mapping (pairs : List (Node × Node))

namespace Node

mutual

def items : Node → List Item
  | scalar text style => [.scalar none text style]
  | sequence entries => .sequenceStart none :: (entryItems entries ++ [.sequenceEnd])
  | mapping pairs => .mappingStart none :: (pairItems pairs ++ [.mappingEnd])

def entryItems : List Node → List Item
  | [] => []
  | entry :: rest => entry.items ++ entryItems rest

def pairItems : List (Node × Node) → List Item
  | [] => []
  | (key, value) :: rest => key.items ++ (value.items ++ pairItems rest)

end

theorem entryItems_append (front back : List Node) :
    entryItems (front ++ back) = entryItems front ++ entryItems back := by
  induction front with
  | nil => rfl
  | cons entry front ih => rw [List.cons_append, entryItems, ih, entryItems, List.append_assoc]

theorem pairItems_append (front back : List (Node × Node)) :
    pairItems (front ++ back) = pairItems front ++ pairItems back := by
  induction front with
  | nil => rfl
  | cons pair front ih =>
      rw [List.cons_append, pairItems, ih, pairItems, List.append_assoc, List.append_assoc]

theorem items_eq_cons (node : Node) :
    ∃ item rest, node.items = item :: rest ∧ item ≠ .sequenceEnd ∧ item ≠ .mappingEnd ∧
      item ≠ .nothing := by
  cases node with
  | scalar text style => exact ⟨_, _, by rw [items], by simp⟩
  | sequence entries => exact ⟨_, _, by rw [items], by simp⟩
  | mapping pairs => exact ⟨_, _, by rw [items], by simp⟩

theorem items_ne_nothing (node : Node) : node.items ≠ [.nothing] := by
  obtain ⟨item, rest, starts, -, -, something⟩ := node.items_eq_cons
  intro same
  rw [starts, List.cons.injEq] at same
  exact something same.1

theorem length_le_entryItems (entries : List Node) :
    entries.length ≤ (entryItems entries).length := by
  induction entries with
  | nil => exact Nat.le_refl 0
  | cons entry entries ih =>
      obtain ⟨item, rest, starts, -⟩ := entry.items_eq_cons
      rw [entryItems, starts, List.length_append, List.length_cons, List.length_cons]
      omega

theorem length_le_pairItems (pairs : List (Node × Node)) :
    pairs.length ≤ (pairItems pairs).length := by
  induction pairs with
  | nil => exact Nat.le_refl 0
  | cons pair pairs ih =>
      obtain ⟨key, value⟩ := pair
      obtain ⟨item, rest, starts, -⟩ := key.items_eq_cons
      rw [pairItems, starts, List.length_append, List.length_append, List.length_cons,
        List.length_cons]
      omega

/-! Nodes are read off their items. -/

mutual

theorem items_append_inj : ∀ (node other : Node) {rest rest' : List Item},
    node.items ++ rest = other.items ++ rest' → node = other ∧ rest = rest'
  | scalar text style, other, rest, rest', same => by
      cases other with
      | scalar => simp_all [items]
      | sequence => simp [items] at same
      | mapping => simp [items] at same
  | sequence entries, other, rest, rest', same => by
      cases other with
      | scalar => simp [items] at same
      | mapping => simp [items] at same
      | sequence others =>
          simp only [items, List.cons_append, List.append_assoc, List.cons.injEq, true_and] at same
          obtain ⟨rfl, rest⟩ := entryItems_append_inj entries others same
          exact ⟨rfl, rest⟩
  | mapping pairs, other, rest, rest', same => by
      cases other with
      | scalar => simp [items] at same
      | sequence => simp [items] at same
      | mapping others =>
          simp only [items, List.cons_append, List.append_assoc, List.cons.injEq, true_and] at same
          obtain ⟨rfl, rest⟩ := pairItems_append_inj pairs others same
          exact ⟨rfl, rest⟩

theorem entryItems_append_inj : ∀ (entries others : List Node) {rest rest' : List Item},
    entryItems entries ++ .sequenceEnd :: rest = entryItems others ++ .sequenceEnd :: rest' →
      entries = others ∧ rest = rest'
  | [], others, rest, rest', same => by
      cases others with
      | nil => simpa [entryItems] using same
      | cons other others =>
          obtain ⟨item, later, starts, notEnd, -⟩ := other.items_eq_cons
          simp [entryItems, starts] at same
          exact absurd same.1.symm notEnd
  | entry :: entries, others, rest, rest', same => by
      cases others with
      | nil =>
          obtain ⟨item, later, starts, notEnd, -⟩ := entry.items_eq_cons
          simp [entryItems, starts] at same
          exact absurd same.1 notEnd
      | cons other others =>
          rw [entryItems, entryItems, List.append_assoc, List.append_assoc] at same
          obtain ⟨rfl, later⟩ := items_append_inj entry other same
          obtain ⟨rfl, rest⟩ := entryItems_append_inj entries others later
          exact ⟨rfl, rest⟩

theorem pairItems_append_inj : ∀ (pairs others : List (Node × Node)) {rest rest' : List Item},
    pairItems pairs ++ .mappingEnd :: rest = pairItems others ++ .mappingEnd :: rest' →
      pairs = others ∧ rest = rest'
  | [], others, rest, rest', same => by
      cases others with
      | nil => simpa [pairItems] using same
      | cons other others =>
          obtain ⟨item, later, starts, -, notEnd, -⟩ := other.1.items_eq_cons
          simp [pairItems, starts] at same
          exact absurd same.1.symm notEnd
  | (key, value) :: pairs, others, rest, rest', same => by
      cases others with
      | nil =>
          obtain ⟨item, later, starts, -, notEnd, -⟩ := key.items_eq_cons
          simp [pairItems, starts] at same
          exact absurd same.1 notEnd
      | cons other others =>
          obtain ⟨key', value'⟩ := other
          simp only [pairItems, List.append_assoc] at same
          obtain ⟨rfl, values⟩ := items_append_inj key key' same
          obtain ⟨rfl, later⟩ := items_append_inj value value' values
          obtain ⟨rfl, rest⟩ := pairItems_append_inj pairs others later
          exact ⟨rfl, rest⟩

end

end Node

def Item.IsPlain : Item → Prop
  | .alias _ => False
  | .scalar tag _ _ | .sequenceStart tag | .mappingStart tag => tag = none
  | _ => True

namespace Document

/-- A single document that is well formed, without tags, names and references. -/
structure IsPlain (document : Document) : Prop where
  complete : document.complete = true
  alone : document.alone = true
  unnamed : document.targets = []
  items : ∀ item ∈ document.items, item.IsPlain

instance (item : Item) : Decidable item.IsPlain :=
  match item with
  | .alias _ => inferInstanceAs (Decidable False)
  | .scalar tag _ _ | .sequenceStart tag | .mappingStart tag =>
      inferInstanceAs (Decidable (tag = none))
  | .sequenceEnd | .mappingEnd | .nothing => inferInstanceAs (Decidable True)

instance (document : Document) : Decidable document.IsPlain :=
  decidable_of_iff (document.complete = true ∧ document.alone = true ∧ document.targets = [] ∧
      ∀ item ∈ document.items, item.IsPlain)
    ⟨fun ⟨complete, alone, unnamed, items⟩ => ⟨complete, alone, unnamed, items⟩,
      fun plain => ⟨plain.complete, plain.alone, plain.unnamed, plain.items⟩⟩

def ofTree : Option Node → Document
  | none => ⟨[.nothing], [], true, true⟩
  | some root => ⟨root.items, [], true, true⟩

theorem ofTree_injective {root other : Option Node} (same : ofTree root = ofTree other) :
    root = other := by
  have items : (ofTree root).items = (ofTree other).items := congrArg Document.items same
  cases root with
  | none =>
      cases other with
      | none => rfl
      | some other => exact absurd items.symm other.items_ne_nothing
  | some root =>
      cases other with
      | none => exact absurd items root.items_ne_nothing
      | some other =>
          have whole : root.items ++ [] = other.items ++ [] := by
            rw [List.append_nil, List.append_nil]
            exact items
          rw [(Node.items_append_inj root other whole).1]

end Document
end BatchLaunch.Yaml
