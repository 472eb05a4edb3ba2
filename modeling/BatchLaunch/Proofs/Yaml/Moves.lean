import BatchLaunch.Yaml.Event

/-!
What a step of a walk through a document can give is told by its goal alone: an entry or the end of
a sequence, a key or the end of a mapping, a value, or one of the parts of a single pair. Behind a
whole node what was put off is gone on with.
-/
namespace BatchLaunch.Yaml

inductive Goal.Kind where
  | root
  | entry
  | key
  | value
  | pairKey
  | pairValue
  | pairEnd
  | documentEnd
  | outside
  deriving DecidableEq, Repr

def Goal.kind : Goal → Kind
  | documentContent | documentNode => .root
  | blockEntry _ | indentlessEntry | flowEntry _ => .entry
  | blockKey _ | flowKey _ => .key
  | blockValue | flowValue | flowNoValue => .value
  | pairKey => .pairKey
  | pairValue => .pairValue
  | pairEnd => .pairEnd
  | documentEnd => .documentEnd
  | document _ | finished => .outside

namespace Walk

variable {walk next after : Walk} {event : Event} {later : List Goal} {goal again : Goal}
  {inBlock indentless first : Bool} {found : Properties} {ends : List Token} {closing : Token}

inductive Returns : List Goal → Walk → Prop
  | goal {goal : Goal} {later : List Goal} {next : Walk} (leads : next.goal = goal)
      (kept : next.later = later) : Returns (goal :: later) next
  | finished {next : Walk} : Returns [] next

/-- The event of a node that is whole with it, or of its start. -/
inductive Begins (later : List Goal) : Event → Walk → Prop
  | reference {name : String} {next : Walk} (returns : Returns later next) :
      Begins later (.alias name) next
  | scalar {properties : Properties} {text : String} {style : Style} {next : Walk}
      (returns : Returns later next) : Begins later (.scalar properties text style) next
  | sequence {properties : Properties} {next : Walk} (inside : next.goal.kind = .entry)
      (kept : next.later = later) : Begins later (.sequenceStart properties) next
  | mapping {properties : Properties} {next : Walk} (inside : next.goal.kind = .key)
      (kept : next.later = later) : Begins later (.mappingStart properties) next

/-- What can come at a goal within a document, and where it leads. -/
inductive Moves (later : List Goal) : Goal → Event → Walk → Prop
  | sequenceEnd {goal : Goal} {next : Walk} (inside : goal.kind = .entry)
      (returns : Returns later next) : Moves later goal .sequenceEnd next
  | entry {goal again : Goal} {event : Event} {next : Walk} (inside : goal.kind = .entry)
      (stays : again.kind = .entry) (begins : Begins (again :: later) event next) :
      Moves later goal event next
  | pair {first : Bool} {next : Walk} (enters : next.goal = .pairKey) (kept : next.later = later) :
      Moves later (.flowEntry first) (.mappingStart .none) next
  | mappingEnd {goal : Goal} {next : Walk} (inside : goal.kind = .key)
      (returns : Returns later next) : Moves later goal .mappingEnd next
  | key {goal again : Goal} {event : Event} {next : Walk} (inside : goal.kind = .key)
      (turns : again.kind = .value) (begins : Begins (again :: later) event next) :
      Moves later goal event next
  | value {goal again : Goal} {event : Event} {next : Walk} (inside : goal.kind = .value)
      (turns : again.kind = .key) (begins : Begins (again :: later) event next) :
      Moves later goal event next
  | pairKey {event : Event} {next : Walk} (begins : Begins (.pairValue :: later) event next) :
      Moves later .pairKey event next
  | pairValue {event : Event} {next : Walk} (begins : Begins (.pairEnd :: later) event next) :
      Moves later .pairValue event next
  | pairEnd {next : Walk} (leaves : next.goal = .flowEntry false) (kept : next.later = later) :
      Moves later .pairEnd .mappingEnd next
  | root {goal : Goal} {event : Event} {next : Walk} (inside : goal.kind = .root)
      (begins : Begins later event next) : Moves later goal event next

theorem back_returns (walk : Walk) : Returns walk.later walk.back := by
  rw [back]
  split
  · rename_i none
    rw [none]
    exact .finished
  · rename_i goal later some
    rw [some]
    exact .goal rfl rfl

theorem skip_begins (walk : Walk) (made : walk.skip goal = some (event, next)) :
    Begins (goal :: walk.later) event next := by
  cases made
  exact .scalar (.goal rfl rfl)

theorem properties_later (made : walk.properties = some (found, after)) :
    after.later = walk.later := by
  rw [properties] at made
  split at made
  · obtain ⟨tag, -, same⟩ := Option.map_eq_some_iff.mp made
    cases same
    rfl
  · obtain ⟨tag, -, same⟩ := Option.map_eq_some_iff.mp made
    cases same
    rfl
  · cases made
    rfl
  · obtain ⟨tag, -, same⟩ := Option.map_eq_some_iff.mp made
    cases same
    rfl
  · cases made
    rfl

theorem absent_begins (made : node.absent walk found = some (event, next)) :
    Begins walk.later event next := by
  rw [node.absent] at made
  split at made
  · cases made
    exact .scalar (back_returns walk)
  · cases made

theorem node_begins (walk : Walk) (made : walk.node inBlock indentless = some (event, next)) :
    Begins walk.later event next := by
  rw [node] at made
  split at made
  · cases made
    exact .reference (back_returns walk.pass)
  · obtain ⟨⟨found, after⟩, properties, made⟩ := Option.bind_eq_some_iff.mp made
    obtain ⟨token, -, made⟩ := Option.bind_eq_some_iff.mp made
    rw [← properties_later properties]
    split at made
    · cases made
      exact .scalar (back_returns after.pass)
    · cases made
      exact .sequence rfl rfl
    · cases made
      exact .mapping rfl rfl
    · split at made
      · cases made
        exact .sequence rfl rfl
      · exact absent_begins made
    · split at made
      · cases made
        exact .sequence rfl rfl
      · exact absent_begins made
    · split at made
      · cases made
        exact .mapping rfl rfl
      · exact absent_begins made
    · exact absent_begins made

theorem nodeOrMissing_begins (walk : Walk)
    (made : walk.nodeOrMissing ends again inBlock indentless = some (event, next)) :
    Begins (again :: walk.later) event next := by
  rw [nodeOrMissing] at made
  split at made
  · cases made
  · split at made
    · exact skip_begins walk made
    · exact node_begins (walk.putOff again) made

/-! The steps within a document. -/

theorem blockEntry_moves (walk : Walk) (inside : goal.kind = .entry)
    (made : walk.blockEntry = some (event, next)) : Moves walk.later goal event next := by
  rw [blockEntry] at made
  split at made
  · exact .entry inside rfl (nodeOrMissing_begins walk.pass made)
  · cases made
    exact .sequenceEnd inside (back_returns walk.pass)
  · cases made

theorem indentlessEntry_moves (walk : Walk) (inside : goal.kind = .entry)
    (made : walk.indentlessEntry = some (event, next)) : Moves walk.later goal event next := by
  rw [indentlessEntry] at made
  split at made
  · cases made
  · exact .entry inside rfl (nodeOrMissing_begins walk.pass made)
  · cases made
    exact .sequenceEnd inside (back_returns walk)

theorem blockKey_moves (walk : Walk) (inside : goal.kind = .key)
    (made : walk.blockKey = some (event, next)) : Moves walk.later goal event next := by
  rw [blockKey] at made
  split at made
  · exact .key inside rfl (nodeOrMissing_begins walk.pass made)
  · cases made
    exact .mappingEnd inside (back_returns walk.pass)
  · cases made

theorem blockValue_moves (walk : Walk) (inside : goal.kind = .value)
    (made : walk.blockValue = some (event, next)) : Moves walk.later goal event next := by
  rw [blockValue] at made
  split at made
  · cases made
  · exact .value inside rfl (nodeOrMissing_begins walk.pass made)
  · exact .value inside rfl (skip_begins walk made)

theorem comma_later (made : walk.comma first closing = some after) : after.later = walk.later := by
  rw [comma] at made
  split at made
  · cases made
  · split at made
    · cases made
      rfl
    · split at made
      · cases made
        rfl
      · cases made

theorem flowEntry_moves (walk : Walk) (made : walk.flowEntry first = some (event, next)) :
    Moves walk.later (.flowEntry first) event next := by
  obtain ⟨after, comma, made⟩ := Option.bind_eq_some_iff.mp made
  rw [← comma_later comma]
  split at made
  · cases made
  · cases made
    exact .pair rfl rfl
  · cases made
    exact .sequenceEnd rfl (back_returns after.pass)
  · exact .entry rfl rfl (node_begins (after.putOff (.flowEntry false)) made)

theorem flowKey_moves (walk : Walk) (inside : goal.kind = .key)
    (made : walk.flowKey first = some (event, next)) : Moves walk.later goal event next := by
  obtain ⟨after, comma, made⟩ := Option.bind_eq_some_iff.mp made
  rw [← comma_later comma]
  split at made
  · cases made
  · exact .key inside rfl (nodeOrMissing_begins after.pass made)
  · cases made
    exact .mappingEnd inside (back_returns after.pass)
  · exact .key inside rfl (node_begins (after.putOff .flowNoValue) made)

theorem flowValue_moves (walk : Walk) (inside : goal.kind = .value)
    (made : walk.flowValue = some (event, next)) : Moves walk.later goal event next := by
  rw [flowValue] at made
  split at made
  · cases made
  · exact .value inside rfl (nodeOrMissing_begins walk.pass made)
  · exact .value inside rfl (skip_begins walk made)

theorem flowNoValue_moves (walk : Walk) (inside : goal.kind = .value)
    (made : walk.flowNoValue = some (event, next)) : Moves walk.later goal event next := by
  rw [flowNoValue] at made
  split at made
  · cases made
  · exact .value inside rfl (skip_begins walk made)

theorem pairKey_moves (walk : Walk) (made : walk.pairKey = some (event, next)) :
    Moves walk.later .pairKey event next := by
  rw [pairKey] at made
  split at made
  · cases made
  · exact .pairKey (skip_begins walk.pass made)
  · exact .pairKey (skip_begins walk.pass made)
  · exact .pairKey (skip_begins walk.pass made)
  · exact .pairKey (node_begins (walk.putOff .pairValue) made)

theorem pairValue_moves (walk : Walk) (made : walk.pairValue = some (event, next)) :
    Moves walk.later .pairValue event next := by
  rw [pairValue] at made
  split at made
  · cases made
  · exact .pairValue (nodeOrMissing_begins walk.pass made)
  · exact .pairValue (skip_begins walk made)

theorem pairEnd_moves (walk : Walk) (made : walk.pairEnd = some (event, next)) :
    Moves walk.later .pairEnd event next := by
  rw [pairEnd] at made
  split at made
  · cases made
  · cases made
    exact .pairEnd rfl rfl

theorem documentContent_moves (walk : Walk) (inside : goal.kind = .root)
    (made : walk.documentContent = some (event, next)) : Moves walk.later goal event next := by
  rw [documentContent] at made
  split at made
  · cases made
  · split at made
    · cases made
      exact .root inside (.scalar (back_returns walk))
    · exact .root inside (node_begins walk made)

theorem entered_later (walk : Walk) (first : Bool) :
    (if first then walk.pass else walk).later = walk.later := by
  cases first <;> rfl

theorem step_moves (walk : Walk) (within : walk.goal.kind ≠ .outside)
    (before : walk.goal.kind ≠ .documentEnd) (made : walk.step = some (event, next)) :
    Moves walk.later walk.goal event next := by
  rw [step] at made
  generalize walk.goal = goal at within before made ⊢
  cases goal with
  | document first => exact absurd rfl within
  | documentEnd => exact absurd rfl before
  | finished => exact absurd rfl within
  | documentContent => exact documentContent_moves walk rfl made
  | documentNode => exact .root rfl (node_begins walk made)
  | blockEntry first =>
      rw [← entered_later walk first]
      exact blockEntry_moves _ rfl made
  | indentlessEntry => exact indentlessEntry_moves walk rfl made
  | blockKey first =>
      rw [← entered_later walk first]
      exact blockKey_moves _ rfl made
  | blockValue => exact blockValue_moves walk rfl made
  | flowEntry first =>
      rw [← entered_later walk first]
      exact flowEntry_moves _ made
  | pairKey => exact pairKey_moves walk made
  | pairValue => exact pairValue_moves walk made
  | pairEnd => exact pairEnd_moves walk made
  | flowKey first =>
      rw [← entered_later walk first]
      exact flowKey_moves _ rfl made
  | flowValue => exact flowValue_moves walk rfl made
  | flowNoValue => exact flowNoValue_moves walk rfl made

theorem documentEnd_step (ends : walk.goal.kind = .documentEnd)
    (made : walk.step = some (event, next)) : event = .documentEnd := by
  rw [step] at made
  cases goal : walk.goal with
  | documentEnd =>
      rw [goal] at made
      simp only [documentEnd] at made
      split at made
      · cases made
      · cases made
        rfl
      · cases made
        rfl
  | _ => simp [goal, Goal.kind] at ends

end Walk
end BatchLaunch.Yaml
