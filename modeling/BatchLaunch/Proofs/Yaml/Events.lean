import BatchLaunch.Proofs.Yaml.Tokens

/-!
The events of what is written on one line, and the document that they make up.
-/
namespace BatchLaunch.Yaml

open Written

namespace Walk

inductive Goes : Walk → List Event → Walk → Prop
  | done {walk : Walk} : Goes walk [] walk
  | step {walk next last : Walk} {event : Event} {events : List Event}
      (first : walk.step = some (event, next)) (inside : event ≠ .streamEnd)
      (rest : Goes next events last) : Goes walk (event :: events) last

variable {walk next last : Walk} {event : Event} {events later : List Event}
  {rest tokens : List Token} {token : Token} {first : Bool}

theorem Goes.trans (front : Goes walk events next) (back : Goes next later last) :
    Goes walk (events ++ later) last := by
  induction front with
  | done => exact back
  | step first inside _ ih => exact .step first inside (ih back)

theorem Goes.read (goes : Goes walk events last) {fuel : Nat} (enough : events.length ≤ fuel) :
    Event.read fuel walk =
      ⟨events ++ (Event.read (fuel - events.length) last).parts,
        (Event.read (fuel - events.length) last).complete⟩ := by
  induction goes generalizing fuel with
  | done => rfl
  | @step walk next last event events first inside rest ih =>
      obtain ⟨fuel, rfl⟩ : ∃ less, fuel = less + 1 :=
        ⟨fuel - 1, by rw [List.length_cons] at enough; omega⟩
      rw [List.length_cons, Nat.add_le_add_iff_right] at enough
      rw [Event.read, first, List.length_cons, Nat.add_sub_add_right]
      cases event with
      | streamEnd => exact absurd rfl inside
      | _ => simp only [ih enough, List.cons_append]

def behind (walk : Walk) (rest : List Token) : Walk := ({ walk with tokens := rest }).back

/-- A node within brackets starts with one of these. -/
inductive Leads : Token → Prop
  | scalar {text : String} {style : Style} : Leads (.scalar text style)
  | sequence : Leads .flowSequenceStart
  | mapping : Leads .flowMappingStart

theorem leads_of_flow (flow : Flow) :
    ∃ token later, flow.lexemes.flatMap Lexeme.tokens = token :: later ∧ Leads token := by
  cases flow with
  | word text => exact ⟨_, _, rfl, .scalar⟩
  | quoted text => exact ⟨_, _, rfl, .scalar⟩
  | sequence entries => exact ⟨_, _, by rw [Flow.lexemes]; rfl, .sequence⟩
  | mapping pairs => exact ⟨_, _, by rw [Flow.lexemes]; rfl, .mapping⟩

/-! The steps within brackets. -/

/-- Right behind the opening bracket that the first step within it passes. -/
def entered (walk : Walk) (first : Bool) : Walk := if first then walk.pass else walk

theorem behind_entered (walk : Walk) (first : Bool) (rest : List Token) :
    (walk.entered first).behind rest = walk.behind rest := by
  cases first <;> rfl

theorem step_flowEntry (goal : walk.goal = .flowEntry first) :
    walk.step = (walk.entered first).flowEntry first := by
  rw [step, goal]
  rfl

theorem step_flowKey (goal : walk.goal = .flowKey first) :
    walk.step = (walk.entered first).flowKey first := by
  rw [step, goal]
  rfl

theorem flowEntry_of_leads (leads : Leads token)
    (found : walk.tokens = (Flow.comma first).flatMap Lexeme.tokens ++ token :: tokens) :
    walk.flowEntry first =
      (({ walk with tokens := token :: tokens } : Walk).putOff (.flowEntry false)).node false
        false := by
  obtain ⟨_, goal, later, handles⟩ := walk
  subst found
  cases first <;> cases leads <;>
    simp [flowEntry, comma, Flow.comma, Lexeme.tokens, pass]

theorem flowEntry_of_end (found : walk.tokens = .flowSequenceEnd :: rest) :
    walk.flowEntry first = some (.sequenceEnd, walk.behind rest) := by
  simp [flowEntry, comma, found, pass, behind]

theorem flowKey_of_key {name : String}
    (found : walk.tokens = (Flow.comma first).flatMap Lexeme.tokens ++
      .key :: .scalar name .plain :: tokens) :
    walk.flowKey first = some (.scalar .none name .plain,
      { walk with tokens := tokens, goal := .flowValue }) := by
  cases first <;>
    simp [flowKey, comma, found, Flow.comma, Lexeme.tokens, pass, nodeOrMissing, node, properties,
      putOff, back]

theorem flowKey_of_end (found : walk.tokens = .flowMappingEnd :: rest) :
    walk.flowKey first = some (.mappingEnd, walk.behind rest) := by
  simp [flowKey, comma, found, pass, behind]

theorem step_flowValue (walk : Walk) (leads : Leads token) :
    ({ walk with tokens := .value :: token :: tokens, goal := .flowValue } : Walk).step =
      (({ walk with tokens := token :: tokens, goal := .flowValue } : Walk).putOff
        (.flowKey false)).node false false := by
  cases leads <;> simp [step, flowValue, pass, nodeOrMissing]

theorem node_of_scalar {text : String} {style : Style} {inBlock indentless : Bool}
    (found : walk.tokens = .scalar text style :: rest) :
    walk.node inBlock indentless = some (.scalar .none text style, walk.behind rest) := by
  simp [node, found, properties, pass, behind]

theorem node_of_sequence {inBlock indentless : Bool}
    (found : walk.tokens = .flowSequenceStart :: rest) :
    walk.node inBlock indentless = some (.sequenceStart .none, walk.aim (.flowEntry true)) := by
  simp [node, found, properties]

theorem node_of_mapping {inBlock indentless : Bool}
    (found : walk.tokens = .flowMappingStart :: rest) :
    walk.node inBlock indentless = some (.mappingStart .none, walk.aim (.flowKey true)) := by
  simp [node, found, properties]

mutual

theorem node_flow : ∀ (flow : Flow) (walk : Walk) (rest : List Token) (inBlock indentless : Bool),
    walk.tokens = flow.lexemes.flatMap Lexeme.tokens ++ rest →
    ∃ event events next, walk.node inBlock indentless = some (event, next) ∧
      flow.lexemes.flatMap Lexeme.events = event :: events ∧ event ≠ .streamEnd ∧
        Goes next events (walk.behind rest)
  | .word text, walk, rest, inBlock, indentless, found =>
      ⟨_, [], _, node_of_scalar found, rfl, nofun, .done⟩
  | .quoted text, walk, rest, inBlock, indentless, found =>
      ⟨_, [], _, node_of_scalar found, rfl, nofun, .done⟩
  | .sequence entries, walk, rest, inBlock, indentless, found => by
      rw [Flow.lexemes, List.flatMap_append, List.flatMap_cons, List.append_assoc,
        List.append_assoc] at found
      have inside := entries_flow entries true (walk.aim (.flowEntry true)) rest rfl
        (congrArg (List.drop 1) found)
      refine ⟨_, _, _, node_of_sequence found, ?_, nofun, inside⟩
      rw [Flow.lexemes, List.flatMap_append]
      rfl
  | .mapping pairs, walk, rest, inBlock, indentless, found => by
      rw [Flow.lexemes, List.flatMap_append, List.flatMap_cons, List.append_assoc,
        List.append_assoc] at found
      have inside := pairs_flow pairs true (walk.aim (.flowKey true)) rest rfl
        (congrArg (List.drop 1) found)
      refine ⟨_, _, _, node_of_mapping found, ?_, nofun, inside⟩
      rw [Flow.lexemes, List.flatMap_append]
      rfl

theorem entries_flow : ∀ (entries : List Flow) (first : Bool) (walk : Walk) (rest : List Token),
    walk.goal = .flowEntry first →
    (walk.entered first).tokens =
      (Flow.entryLexemes first entries).flatMap Lexeme.tokens ++ .flowSequenceEnd :: rest →
    Goes walk ((Flow.entryLexemes first entries).flatMap Lexeme.events ++ [.sequenceEnd])
      (walk.behind rest)
  | [], first, walk, rest, goal, found => by
      have step := (step_flowEntry goal).trans (flowEntry_of_end found)
      rw [behind_entered] at step
      exact .step step nofun .done
  | entry :: entries, first, walk, rest, goal, found => by
      obtain ⟨token, tokens, spelled, leads⟩ := leads_of_flow entry
      rw [Flow.entryLexemes, List.flatMap_append, List.flatMap_append, List.append_assoc,
        List.append_assoc, spelled, List.cons_append] at found
      obtain ⟨event, events, next, node, listed, inside, goes⟩ := node_flow entry
        (({ walk.entered first with tokens := _ } : Walk).putOff (.flowEntry false)) _ false false
        (congrArg (· ++ _) spelled).symm
      have step := (step_flowEntry goal).trans ((flowEntry_of_leads leads found).trans node)
      have later := entries_flow entries false { walk.entered first with
        tokens :=
          (Flow.entryLexemes false entries).flatMap Lexeme.tokens ++ .flowSequenceEnd :: rest
        goal := .flowEntry false } rest rfl rfl
      have comma : (Flow.comma first).flatMap Lexeme.events = [] := by cases first <;> rfl
      rw [Flow.entryLexemes, List.flatMap_append, List.flatMap_append, comma, listed,
        List.nil_append, List.append_assoc, List.cons_append, ← behind_entered walk first]
      exact .step step inside (goes.trans later)

theorem pairs_flow : ∀ (pairs : List (Word × Flow)) (first : Bool) (walk : Walk)
    (rest : List Token), walk.goal = .flowKey first →
    (walk.entered first).tokens =
      (Flow.pairLexemes first pairs).flatMap Lexeme.tokens ++ .flowMappingEnd :: rest →
    Goes walk ((Flow.pairLexemes first pairs).flatMap Lexeme.events ++ [.mappingEnd])
      (walk.behind rest)
  | [], first, walk, rest, goal, found => by
      have step := (step_flowKey goal).trans (flowKey_of_end found)
      rw [behind_entered] at step
      exact .step step nofun .done
  | (name, value) :: pairs, first, walk, rest, goal, found => by
      obtain ⟨token, tokens, spelled, leads⟩ := leads_of_flow value
      obtain ⟨others, same⟩ : ∃ others, (Flow.pairLexemes false pairs).flatMap Lexeme.tokens ++
        .flowMappingEnd :: rest = others := ⟨_, rfl⟩
      rw [Flow.pairLexemes, List.flatMap_append, List.flatMap_append, List.flatMap_cons,
        List.append_assoc, List.append_assoc, List.append_assoc, spelled, same] at found
      have named := (step_flowKey goal).trans (flowKey_of_key found)
      obtain ⟨event, events, next, node, listed, inside, goes⟩ := node_flow value
        (({ walk.entered first with tokens := token :: (tokens ++ others), goal := .flowValue } :
          Walk).putOff (.flowKey false)) others false false (congrArg (· ++ others) spelled).symm
      have step := (step_flowValue (walk.entered first) leads).trans node
      have later := pairs_flow pairs false { walk.entered first with
        tokens := others, goal := .flowKey false } rest rfl same.symm
      have comma : (Flow.comma first).flatMap Lexeme.events = [] := by cases first <;> rfl
      rw [Flow.pairLexemes, List.flatMap_append, List.flatMap_append, List.flatMap_cons, comma,
        listed, List.nil_append, List.append_assoc, List.append_assoc, ← behind_entered walk first]
      exact .step named nofun (.step step inside (goes.trans later))

end

theorem document_flow (pairs : List (Word × Flow)) :
    Goes (.start (.streamStart :: ((Flow.mapping pairs).lexemes.flatMap Lexeme.tokens ++
        [.streamEnd])))
      (.documentStart :: (Flow.mapping pairs).lexemes.flatMap Lexeme.events ++ [.documentEnd])
      ⟨[.streamEnd], .document false, [], defaultHandles⟩ := by
  obtain ⟨token, tokens, spelled, leads⟩ := leads_of_flow (.mapping pairs)
  obtain ⟨event, events, next, node, listed, inside, goes⟩ := node_flow (.mapping pairs)
    ⟨(Flow.mapping pairs).lexemes.flatMap Lexeme.tokens ++ [.streamEnd], .documentNode,
      [.documentEnd], defaultHandles⟩ [.streamEnd] true false rfl
  have opens : (start (.streamStart :: ((Flow.mapping pairs).lexemes.flatMap Lexeme.tokens ++
      [.streamEnd]))).step = some (.documentStart,
        ⟨(Flow.mapping pairs).lexemes.flatMap Lexeme.tokens ++ [.streamEnd], .documentNode,
          [.documentEnd], defaultHandles⟩) := by
    rw [spelled]
    cases leads <;> rfl
  rw [listed]
  exact .step opens nofun (.step node inside (goes.trans (.step rfl nofun .done)))

end Walk

theorem length_events_le (lexemes : List Lexeme) :
    (lexemes.flatMap Lexeme.events).length ≤ (lexemes.flatMap Lexeme.tokens).length := by
  induction lexemes with
  | nil => exact Nat.le_refl 0
  | cons lexeme lexemes ih =>
      have single : lexeme.events.length ≤ lexeme.tokens.length := by
        cases lexeme <;> simp [Lexeme.events, Lexeme.tokens]
      rw [List.flatMap_cons, List.flatMap_cons, List.length_append, List.length_append]
      omega

theorem Event.ofText_mapping (pairs : List (Word × Flow)) :
    Event.ofText (Flow.mapping pairs).text =
      ⟨.documentStart :: (Flow.mapping pairs).lexemes.flatMap Lexeme.events ++
        [.documentEnd, .streamEnd], true⟩ := by
  have bound := length_events_le (Flow.mapping pairs).lexemes
  have goes := Walk.document_flow pairs
  rw [Event.ofText, Flow.text, Token.ofText_lexemes (Flow.sound_mapping pairs)]
  simp only
  have enough : (.documentStart :: (Flow.mapping pairs).lexemes.flatMap Lexeme.events ++
      [Event.documentEnd]).length + 1 ≤
      4 * (Token.streamStart :: ((Flow.mapping pairs).lexemes.flatMap Lexeme.tokens ++
        [.streamEnd])).length + 4 := by
    simp only [List.length_append, List.length_cons, List.length_nil]
    omega
  obtain ⟨fuel, more⟩ := Nat.exists_eq_add_of_le enough
  rw [more, goes.read (by omega), show ∀ n, n + 1 + fuel - n = fuel + 1 by omega]
  have ends : Event.read (fuel + 1) ⟨[.streamEnd], .document false, [], Walk.defaultHandles⟩ =
      ⟨[.streamEnd], true⟩ := rfl
  rw [ends, List.append_assoc]
  rfl

namespace Document

theorem build_lexemes (lexemes : List Lexeme) (draft : Draft) (rest : List Event) :
    build draft (lexemes.flatMap Lexeme.events ++ rest) =
      build { draft with items := (lexemes.flatMap Lexeme.items).reverse ++ draft.items } rest := by
  induction lexemes generalizing draft with
  | nil => rfl
  | cons lexeme lexemes ih =>
      have one : build draft (lexeme.events ++ (lexemes.flatMap Lexeme.events ++ rest)) =
          build { draft with items := lexeme.items.reverse ++ draft.items }
            (lexemes.flatMap Lexeme.events ++ rest) := by
        rcases lexeme with (_ | _) | (_ | _) | _ | _ | _ | _ <;> rfl
      rw [List.flatMap_cons, List.append_assoc, one, ih, List.flatMap_cons, List.reverse_append,
        List.append_assoc]

theorem ofText_mapping (pairs : List (Word × Flow)) :
    ofText (Flow.mapping pairs).text = ⟨(Flow.mapping pairs).items, [], true, true⟩ := by
  rw [ofText, Event.ofText_mapping]
  simp only [List.cons_append, build]
  rw [build_lexemes]
  simp [build, finish, Draft.empty, Flow.items]

end Document
end BatchLaunch.Yaml
