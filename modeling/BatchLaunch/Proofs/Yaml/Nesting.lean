import BatchLaunch.Proofs.Yaml.Moves
import BatchLaunch.Proofs.Yaml.Tree

/-!
Events nest. The nodes that are open at a goal are kept as frames, and from this every document
without tags, names and references is a tree.
-/
namespace BatchLaunch.Yaml

namespace Node

inductive Frame where
  | sequence (entries : List Node)
  | key (pairs : List (Node × Node))
  | value (pairs : List (Node × Node)) (name : Node)

def Frame.items : Frame → List Item
  | sequence entries => .sequenceStart none :: entryItems entries
  | key pairs => .mappingStart none :: pairItems pairs
  | value pairs name => .mappingStart none :: (pairItems pairs ++ name.items)

/-- A part of a document: what is open, the innermost first, or the whole root. -/
inductive Part where
  | within (frames : List Frame)
  | whole (root : Node)

def framesItems : List Frame → List Item
  | [] => []
  | frame :: outer => framesItems outer ++ frame.items

def Part.items : Part → List Item
  | within frames => framesItems frames
  | whole root => root.items

/-- A node goes into the innermost open one, and without one it is the root. -/
def plug (node : Node) : List Frame → Part
  | [] => .whole node
  | .sequence entries :: outer => .within (.sequence (entries ++ [node]) :: outer)
  | .key pairs :: outer => .within (.value pairs node :: outer)
  | .value pairs name :: outer => .within (.key (pairs ++ [(name, node)]) :: outer)

theorem items_plug (node : Node) (frames : List Frame) :
    (plug node frames).items = framesItems frames ++ node.items := by
  cases frames with
  | nil => rfl
  | cons frame outer =>
      cases frame with
      | sequence entries =>
          simp [plug, Part.items, framesItems, Frame.items, entryItems_append, entryItems]
      | key pairs => simp [plug, Part.items, framesItems, Frame.items]
      | value pairs name =>
          simp [plug, Part.items, framesItems, Frame.items, pairItems_append, pairItems]

/-- The frames for which a node comes next, when the goals put off are gone on with behind it. -/
inductive Awaits : List Goal → List Frame → Prop
  | root : Awaits [.documentEnd] []
  | entry {goal : Goal} {later : List Goal} {entries : List Node} {frames : List Frame}
      (stays : goal.kind = .entry) (outer : Awaits later frames) :
      Awaits (goal :: later) (.sequence entries :: frames)
  | key {goal : Goal} {later : List Goal} {pairs : List (Node × Node)} {frames : List Frame}
      (turns : goal.kind = .value) (outer : Awaits later frames) :
      Awaits (goal :: later) (.key pairs :: frames)
  | value {goal : Goal} {later : List Goal} {pairs : List (Node × Node)} {name : Node}
      {frames : List Frame} (turns : goal.kind = .key) (outer : Awaits later frames) :
      Awaits (goal :: later) (.value pairs name :: frames)
  | pairKey {later : List Goal} {entries : List Node} {frames : List Frame}
      (outer : Awaits later frames) :
      Awaits (.pairValue :: later) (.key [] :: .sequence entries :: frames)
  | pairValue {later : List Goal} {name : Node} {entries : List Node} {frames : List Frame}
      (outer : Awaits later frames) :
      Awaits (.pairEnd :: later) (.value [] name :: .sequence entries :: frames)

def At (goal : Goal) (later : List Goal) (part : Part) : Prop :=
  match goal.kind with
  | .root => later = [.documentEnd] ∧ part = .within []
  | .entry => ∃ entries frames, part = .within (.sequence entries :: frames) ∧ Awaits later frames
  | .key => ∃ pairs frames, part = .within (.key pairs :: frames) ∧ Awaits later frames
  | .value => ∃ pairs name frames,
      part = .within (.value pairs name :: frames) ∧ Awaits later frames
  | .pairKey => ∃ entries frames,
      part = .within (.key [] :: .sequence entries :: frames) ∧ Awaits later frames
  | .pairValue => ∃ name entries frames,
      part = .within (.value [] name :: .sequence entries :: frames) ∧ Awaits later frames
  | .pairEnd => ∃ pairs entries frames,
      part = .within (.key pairs :: .sequence entries :: frames) ∧ Awaits later frames
  | .documentEnd => later = [] ∧ ∃ root, part = .whole root
  | .outside => False

variable {goal again : Goal} {later : List Goal} {frames : List Frame} {part : Part}
  {event : Event} {item : Item} {next : Walk}

theorem at_entry (inside : goal.kind = .entry) (entries : List Node) (outer : Awaits later frames) :
    At goal later (.within (.sequence entries :: frames)) := by
  rw [At, inside]
  exact ⟨entries, frames, rfl, outer⟩

theorem at_key (inside : goal.kind = .key) (pairs : List (Node × Node))
    (outer : Awaits later frames) : At goal later (.within (.key pairs :: frames)) := by
  rw [At, inside]
  exact ⟨pairs, frames, rfl, outer⟩

theorem at_value (inside : goal.kind = .value) (pairs : List (Node × Node)) (name : Node)
    (outer : Awaits later frames) : At goal later (.within (.value pairs name :: frames)) := by
  rw [At, inside]
  exact ⟨pairs, name, frames, rfl, outer⟩

theorem Awaits.plug (awaits : Awaits (goal :: later) frames) (node : Node) :
    At goal later (node.plug frames) := by
  cases awaits with
  | root => exact ⟨rfl, node, rfl⟩
  | entry stays outer => exact at_entry stays _ outer
  | key turns outer => exact at_value turns _ _ outer
  | value turns outer => exact at_key turns _ outer
  | pairKey outer => exact ⟨node, _, _, rfl, outer⟩
  | pairValue outer => exact ⟨_, _, _, rfl, outer⟩

theorem Awaits.returns (awaits : Awaits later frames) (returns : Walk.Returns later next)
    (node : Node) : At next.goal next.later (node.plug frames) := by
  cases returns with
  | goal leads kept =>
      rw [leads, kept]
      exact awaits.plug node
  | finished => cases awaits

/-- The item that an event without a tag gives. -/
inductive Gives : Event → Item → Prop
  | scalar {properties : Properties} {text : String} {style : Style} :
      Gives (.scalar properties text style) (.scalar none text style)
  | sequenceStart {properties : Properties} : Gives (.sequenceStart properties) (.sequenceStart none)
  | sequenceEnd : Gives .sequenceEnd .sequenceEnd
  | mappingStart {properties : Properties} : Gives (.mappingStart properties) (.mappingStart none)
  | mappingEnd : Gives .mappingEnd .mappingEnd

/-- Behind an event a walk has a part with one item more, unless the event is a reference. -/
inductive Grows (part : Part) (next : Walk) : Event → Prop
  | reference {name : String} : Grows part next (.alias name)
  | item {event : Event} {item : Item} {grown : Part} (gives : Gives event item)
      (stands : At next.goal next.later grown) (more : grown.items = part.items ++ [item]) :
      Grows part next event

theorem Awaits.begins (awaits : Awaits later frames) (begins : Walk.Begins later event next) :
    Grows (.within frames) next event := by
  cases begins with
  | reference returns => exact .reference
  | @scalar properties text style _ returns =>
      refine .item .scalar (awaits.returns returns (.scalar text style)) ?_
      rw [items_plug, Node.items]
      rfl
  | sequence inside kept =>
      subst kept
      exact .item .sequenceStart (at_entry inside [] awaits) rfl
  | mapping inside kept =>
      subst kept
      exact .item .mappingStart (at_key inside [] awaits) rfl

theorem At.moves (stands : At goal later part) (moves : Walk.Moves later goal event next) :
    Grows part next event := by
  cases moves with
  | sequenceEnd inside returns =>
      rw [At, inside] at stands
      obtain ⟨entries, frames, rfl, outer⟩ := stands
      refine .item .sequenceEnd (outer.returns returns (.sequence entries)) ?_
      rw [items_plug, Node.items]
      simp [Part.items, framesItems, Frame.items]
  | entry inside stays begins =>
      rw [At, inside] at stands
      obtain ⟨entries, frames, rfl, outer⟩ := stands
      exact Awaits.begins (.entry stays outer) begins
  | pair enters kept =>
      obtain ⟨entries, frames, rfl, outer⟩ := stands
      subst kept
      have paired : At next.goal next.later
          (.within (.key [] :: .sequence entries :: frames)) := by
        rw [enters]
        exact ⟨entries, frames, rfl, outer⟩
      exact .item .mappingStart paired rfl
  | mappingEnd inside returns =>
      rw [At, inside] at stands
      obtain ⟨pairs, frames, rfl, outer⟩ := stands
      refine .item .mappingEnd (outer.returns returns (.mapping pairs)) ?_
      rw [items_plug, Node.items]
      simp [Part.items, framesItems, Frame.items]
  | key inside turns begins =>
      rw [At, inside] at stands
      obtain ⟨pairs, frames, rfl, outer⟩ := stands
      exact Awaits.begins (.key turns outer) begins
  | value inside turns begins =>
      rw [At, inside] at stands
      obtain ⟨pairs, name, frames, rfl, outer⟩ := stands
      exact Awaits.begins (.value turns outer) begins
  | pairKey begins =>
      obtain ⟨entries, frames, rfl, outer⟩ := stands
      exact Awaits.begins (.pairKey outer) begins
  | pairValue begins =>
      obtain ⟨name, entries, frames, rfl, outer⟩ := stands
      exact Awaits.begins (.pairValue outer) begins
  | pairEnd leaves kept =>
      obtain ⟨pairs, entries, frames, rfl, outer⟩ := stands
      subst kept
      have closed : At next.goal next.later
          (.within (.sequence (entries ++ [.mapping pairs]) :: frames)) := by
        rw [leaves]
        exact at_entry rfl _ outer
      refine .item .mappingEnd closed ?_
      simp [Part.items, framesItems, Frame.items, entryItems_append, entryItems, Node.items]
  | root inside begins =>
      rw [At, inside] at stands
      obtain ⟨rfl, rfl⟩ := stands
      exact Awaits.begins .root begins

end Node

namespace Document

open Node (Gives Grows At Part)

variable {draft : Draft} {event : Event} {rest : List Event} {item : Item}

@[simp] theorem items_add (draft : Draft) (item : Item) :
    (draft.add item).items = item :: draft.items := rfl

@[simp] theorem items_nameNext (draft : Draft) (name : Option String) :
    (draft.nameNext name).items = draft.items := by
  cases name <;> rfl

theorem mem_build (draft : Draft) (events : List Event) (member : item ∈ draft.items) :
    item ∈ (build draft events).items := by
  fun_induction build draft events with
  | case1 => simpa [finish] using member
  | case2 draft rest ih => exact ih member
  | case3 => simpa [finish] using member
  | case4 draft rest =>
      rw [finish]
      split
      · exact List.mem_reverse.mpr (List.mem_cons_of_mem _ member)
      · exact List.mem_reverse.mpr member
  | case5 => simpa [finish] using member
  | case6 draft name rest number found ih => exact ih (List.mem_cons_of_mem _ member)
  | case7 draft properties text style rest ih => exact ih (by simp [member])
  | case8 draft properties rest ih => exact ih (by simp [member])
  | case9 draft rest ih => exact ih (List.mem_cons_of_mem _ member)
  | case10 draft properties rest ih => exact ih (by simp [member])
  | case11 draft rest ih => exact ih (List.mem_cons_of_mem _ member)

theorem isPlain_of_add (plain : (build (draft.add item) rest).IsPlain) : item.IsPlain :=
  plain.items _ (mem_build _ rest List.mem_cons_self)

theorem build_gives (gives : Gives event item) (plain : (build draft (event :: rest)).IsPlain) :
    ∃ grown : Draft, grown.items = item :: draft.items ∧
      build draft (event :: rest) = build grown rest := by
  cases gives with
  | @scalar properties text style =>
      have untagged : tagText properties = none := isPlain_of_add plain
      exact ⟨_, by rw [items_add, items_nameNext, untagged], rfl⟩
  | @sequenceStart properties =>
      have untagged : tagText properties = none := isPlain_of_add plain
      exact ⟨_, by rw [items_add, items_nameNext, untagged], rfl⟩
  | @mappingStart properties =>
      have untagged : tagText properties = none := isPlain_of_add plain
      exact ⟨_, by rw [items_add, items_nameNext, untagged], rfl⟩
  | sequenceEnd => exact ⟨_, rfl, rfl⟩
  | mappingEnd => exact ⟨_, rfl, rfl⟩

theorem not_isPlain_alias {name : String} : ¬ (build draft (.alias name :: rest)).IsPlain := by
  intro plain
  rw [build] at plain
  split at plain
  · cases plain.complete
  · exact isPlain_of_add plain

theorem not_isPlain_nil : ¬ (build draft []).IsPlain := fun plain => nomatch plain.complete

theorem read_gives {walk next : Walk} (gives : Gives event item)
    (made : walk.step = some (event, next)) (fuel : Nat) :
    (Event.read (fuel + 1) walk).parts = event :: (Event.read fuel next).parts := by
  rw [Event.read, made]
  cases gives <;> rfl

theorem tree_of_part (fuel : Nat) {walk : Walk} {part : Part} {draft : Draft}
    (stands : At walk.goal walk.later part) (read : draft.items.reverse = part.items)
    (plain : (build draft (Event.read fuel walk).parts).IsPlain) :
    ∃ root : Node, (build draft (Event.read fuel walk).parts).items = root.items := by
  induction fuel generalizing walk part draft with
  | zero => exact absurd plain not_isPlain_nil
  | succ fuel ih =>
      cases made : walk.step with
      | none =>
          rw [Event.read, made] at plain
          exact absurd plain not_isPlain_nil
      | some move =>
          obtain ⟨event, next⟩ := move
          by_cases ends : walk.goal.kind = .documentEnd
          · rw [At, ends] at stands
            obtain ⟨-, root, rfl⟩ := stands
            refine ⟨root, ?_⟩
            rw [Event.read, made]
            obtain rfl := Walk.documentEnd_step ends made
            simpa [build, finish, Part.items] using read
          · have within : walk.goal.kind ≠ .outside := by
              intro outside
              rw [At, outside] at stands
              exact stands
            have moves := Walk.step_moves walk within ends made
            cases stands.moves moves with
            | reference =>
                rw [Event.read, made] at plain
                exact absurd plain not_isPlain_alias
            | item gives stands more =>
                rw [read_gives gives made] at plain ⊢
                obtain ⟨grown, items, same⟩ := build_gives gives plain
                rw [same] at plain ⊢
                refine ih stands ?_ plain
                rw [items, List.reverse_cons, read, more]

theorem eq_ofTree {document : Document} {root : Node} (plain : document.IsPlain)
    (items : document.items = root.items) : document = ofTree (some root) := by
  obtain ⟨_, _, _, _⟩ := document
  obtain ⟨rfl, rfl, rfl, -⟩ := plain
  obtain rfl := items
  rfl

theorem start_step {tokens : List Token} {next : Walk}
    (made : (Walk.start tokens).step = some (event, next)) :
    event = .streamEnd ∨
      (event = .documentStart ∧ next.goal.kind = .root ∧ next.later = [.documentEnd]) := by
  rw [Walk.step] at made
  simp only [Walk.start, Walk.document, if_true] at made
  split at made
  · cases made
  · cases made
    exact .inl rfl
  · split at made
    · cases made
      exact .inr ⟨rfl, rfl, rfl⟩
    · obtain ⟨⟨handles, rest⟩, -, made⟩ := Option.bind_eq_some_iff.mp made
      split at made
      · cases made
        exact .inr ⟨rfl, rfl, rfl⟩
      · cases made

theorem exists_tree {text : String} (plain : (ofText text).IsPlain) :
    ∃ root, ofText text = ofTree root := by
  rw [ofText, Event.ofText] at plain ⊢
  generalize (Token.ofText text).parts = tokens at plain ⊢
  cases made : (Walk.start tokens).step with
  | none =>
      rw [Event.read, made] at plain
      exact absurd plain not_isPlain_nil
  | some move =>
      obtain ⟨event, next⟩ := move
      rcases start_step made with rfl | ⟨rfl, root, later⟩
      · exact ⟨none, by rw [Event.read, made]; rfl⟩
      · have stands : At next.goal next.later (.within []) := by
          rw [At, root]
          exact ⟨later, rfl⟩
        have first : (Event.read (4 * tokens.length + 4) (Walk.start tokens)).parts =
            .documentStart :: (Event.read (4 * tokens.length + 3) next).parts := by
          rw [Event.read, made]
        rw [first, build] at plain ⊢
        obtain ⟨root, items⟩ := tree_of_part _ stands rfl plain
        exact ⟨some root, eq_ofTree plain items⟩

end Document
end BatchLaunch.Yaml
