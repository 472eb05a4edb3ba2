import BatchLaunch.Proofs.Config.Described
import BatchLaunch.Proofs.Config.Flaws

/-!
A text that describes no batch is rejected for the first thing that is wrong in it. Each reader
either takes what a node holds, or comes to the first place where the node is wrong and gives up
there, whatever stands behind. So of a document that is rejected nothing behind that place matters.
-/
namespace BatchLaunch

open ShapeFault (Mistake)
open Yaml (Document Item Node)

namespace Config.Decode

open Fallible (bind_ok_iff)

/-- A reader takes what a node holds. A node that holds nothing has a flaw, and the reader stops
where the first one shows. -/
structure Judges {α : Type} (read : Reader α) (holds : α → Node → Prop) (flaws : Node → Flaws) :
    Prop where
  takes : Takes read holds
  within : ∀ node, (flaws node).Within node.items
  whole : ∀ {node}, (flaws node).Absent → ∃ a, holds a node
  stops : ∀ {node front fault}, (flaws node).IsFirst front fault →
    ∀ later, read (front ++ later) = reject fault

theorem reject_bind {α β : Type} (fault : ShapeFault) (go : α → Result β) :
    (reject fault >>= go) = reject fault := rfl

theorem refuse_bind {α β : Type} (mistake : Mistake) (go : α → Result β) :
    (refuse mistake >>= go) = refuse mistake := rfl

theorem ok_bind {α β : Type} (a : α) (go : α → Result β) : (.ok a >>= go) = go a := rfl

theorem reject_map {α β : Type} (fault : ShapeFault) (f : α → β) :
    (reject fault : Result α).map f = reject fault := rfl

namespace Judges

variable {α : Type} {read : Reader α} {holds : α → Node → Prop} {flaws : Node → Flaws} {node : Node}
  {front : List Item} {fault : ShapeFault}

theorem starts (judges : Judges read holds flaws) (wrong : flaws node front fault) :
    ∃ behind, front = node.first :: behind := by
  obtain ⟨nonempty, rest, same⟩ := judges.within node wrong
  obtain ⟨behind, items⟩ := node.items_eq_first_cons
  obtain ⟨item, front, rfl⟩ := List.exists_cons_of_ne_nil nonempty
  rw [items, List.cons_append, List.cons.injEq] at same
  exact ⟨front, by rw [same.1]⟩

theorem reads (judges : Judges read holds flaws) (flawless : (flaws node).Absent) :
    ∃ a, holds a node ∧ ∀ rest, read (node.items ++ rest) = .ok (a, rest) := by
  obtain ⟨a, held⟩ := judges.whole flawless
  exact ⟨a, held, fun rest => (judges.takes node rest a rest).mpr ⟨held, rfl⟩⟩

theorem through_first (document : Document) (read : Reader α) (node : Node) (rest : List Item) :
    Decode.through document read (node.first :: rest) = read (node.first :: rest) := by
  cases node <;> rfl

theorem through (judges : Judges read holds flaws) (document : Document) :
    Judges (Decode.through document read) holds flaws where
  takes := judges.takes.through document
  within := judges.within
  whole := judges.whole
  stops := by
    intro node front fault first later
    have stops := judges.stops first later
    obtain ⟨behind, rfl⟩ := judges.starts first.occurs
    rw [List.cons_append] at stops ⊢
    rw [through_first, stops]

theorem update {φ δ : Type} [DecidableEq φ] {Content : φ → Type} (judges : Judges read holds flaws)
    (parts : δ ≃ ((field : φ) → Content field)) (draft : δ) (field : φ)
    (kept : α → Content field) :
    Judges (fun items => (read items).map fun (a, rest) =>
        (parts.symm (Function.update (parts draft) field (kept a)), rest))
      (fun after node => ∃ a, holds a node ∧
        parts after = Function.update (parts draft) field (kept a)) flaws where
  takes := judges.takes.update parts draft field kept
  within := judges.within
  whole := by
    intro node flawless
    obtain ⟨a, held⟩ := judges.whole flawless
    exact ⟨_, a, held, parts.apply_symm_apply _⟩
  stops := by
    intro node front fault first later
    simp only [judges.stops first later, reject_map]

theorem congr {same : α → Node → Prop} (judges : Judges read holds flaws)
    (agree : ∀ a node, holds a node ↔ same a node) : Judges read same flaws where
  takes := judges.takes.congr agree
  within := judges.within
  whole := fun flawless => (judges.whole flawless).imp fun a => (agree a _).mp
  stops := judges.stops

end Judges

/-! Scalars. -/

theorem judges_atStart {α : Type} {read : Reader α} {holds : α → Node → Prop}
    {faults : Node → Mistake → Prop} (takes : Takes read holds)
    (whole : ∀ node, (∀ mistake, ¬ faults node mistake) → ∃ a, holds a node)
    (stops : ∀ node mistake, faults node mistake →
      ∀ later, read (node.first :: later) = refuse mistake) :
    Judges read holds (AtStart faults) where
  takes := takes
  within := by
    rintro node _ _ ⟨-⟩
    exact ⟨List.cons_ne_nil _ _, node.first_prefix⟩
  whole := fun flawless => whole _ fun mistake wrong => flawless _ _ ⟨wrong⟩
  stops := by
    rintro node _ _ ⟨⟨wrong⟩, -⟩ later
    exact stops node _ wrong later

theorem isText_or_refuse (expected : String) (node : Node) : (∃ written, node.IsText written) ∨
    (∀ later, text expected (node.first :: later) =
      refuse (.invalidType node.first expected)) := by
  cases node with
  | scalar written style => exact .inl ⟨written, style, rfl⟩
  | sequence entries => exact .inr fun later => rfl
  | mapping pairs => exact .inr fun later => rfl

theorem judges_text (expected : String) :
    Judges (text expected) (fun written node => node.IsText written)
      (AtStart (TextFault expected)) := by
  refine judges_atStart (takes_text expected) (fun node flawless => ?_) ?_
  · by_contra absent
    exact flawless _ (.kind fun written isText => absent ⟨written, isText⟩)
  · rintro node _ ⟨other⟩ later
    exact (isText_or_refuse expected node).resolve_left
      (fun ⟨written, isText⟩ => other written isText) later

theorem text_of_isText {node : Node} {written : String} (isText : node.IsText written)
    (expected : String) (later : List Item) :
    text expected (node.first :: later) = .ok (written, later) := by
  obtain ⟨style, rfl⟩ := isText
  rfl

theorem judges_count : Judges count (fun n node => node.IsCount n) (AtStart CountFault) := by
  refine judges_atStart takes_count (fun node flawless => ?_) ?_
  · by_contra absent
    refine flawless _ (.kind fun text n plain numeral => ?_)
    by_contra fits
    rw [not_le] at fits
    by_cases large : UInt32.size ≤ n
    · exact flawless _ (.range plain numeral large fits)
    · exact absent (Job.Field.count_admits_iff.mp ⟨text, n, plain, numeral, not_le.mp large⟩)
  · rintro node _ (other | ⟨plain, numeral, large, fits⟩) later
    · cases node with
      | sequence entries => rfl
      | mapping pairs => rfl
      | scalar text style =>
          have unread : (if isNumeric none style then Yaml.unsigned? text else none) = none := by
            cases style with
            | plain =>
                simp only [isNumeric, if_true]
                cases read : Yaml.unsigned? text with
                | none => rfl
                | some n =>
                    obtain ⟨numeral, fits⟩ := Yaml.unsigned?_eq_some_iff.mp read
                    exact absurd (other text n rfl numeral) (not_le.mpr fits)
            | _ => rfl
          rw [Node.first, count, unread]
          rfl
    · subst plain
      rw [Node.first, count, isNumeric, if_pos rfl, Yaml.unsigned?_eq_some_iff.mpr ⟨numeral, fits⟩]
      exact if_neg (not_lt.mpr large)

theorem ofTag_refuse {tag : String} (strange : ∀ d, Decomposition.tag d ≠ tag) :
    ofTag tag = refuse (.unknownDecomposition tag) := by
  rw [ofTag]
  cases found : Decomposition.ofTag? tag with
  | none => rfl
  | some d => exact absurd (Decomposition.ofTag?_eq_some_iff.mp found).symm (strange d)

theorem judges_decomposition :
    Judges decomposition (fun d node => node.IsText (Decomposition.tag d))
      (AtStart DecompositionFault) := by
  have untagged (node : Node) (later : List Item) : decomposition (node.first :: later) =
      text "a YAML tag starting with '!'" (node.first :: later) >>= fun read =>
        ofTag read.1 >>= fun found => .ok (found, read.2) := by
    cases node <;> rfl
  refine judges_atStart takes_decomposition (fun node flawless => ?_) ?_
  · by_contra absent
    refine flawless _ (.kind fun written isText => ?_)
    refine flawless _ (.unknown isText fun d same => ?_)
    exact absent ⟨d, same ▸ isText⟩
  · rintro node _ (other | ⟨isText, strange⟩) later
    · have refused := (isText_or_refuse "a YAML tag starting with '!'" node).resolve_left
        (fun ⟨written, isText⟩ => other written isText) later
      rw [untagged, refused, refuse_bind]
    · rw [untagged, text_of_isText isText, ok_bind, ofTag_refuse strange, refuse_bind]

theorem opening_refuse (expected : String) (opens : Item → Bool) {node : Node}
    (written : ¬ node.IsEmpty) (closed : opens node.first = false) (later : List Item) :
    opening expected opens (node.first :: later) =
      refuse (.invalidType node.first expected) := by
  cases node with
  | scalar content style =>
      have filled : ¬ (decide (style = .plain) && decide (content = "")) = true := by
        rw [Bool.and_eq_true, decide_eq_true_eq, decide_eq_true_eq]
        rintro ⟨rfl, rfl⟩
        exact written rfl
      exact if_neg filled
  | sequence entries => exact if_neg (Bool.eq_false_iff.mp closed)
  | mapping pairs => exact if_neg (Bool.eq_false_iff.mp closed)

/-! A mapping whose keys are the names of fields. -/

def Reads (met : List Node) (seen : List String) : Prop :=
  ∀ written, written ∈ seen ↔ ∃ earlier ∈ met, earlier.IsText written

theorem reads_nil : Reads [] [] := fun written => by simp

theorem Reads.cons {met : List Node} {seen : List String} {key : Node} {written : String}
    (reads : Reads met seen) (isText : key.IsText written) :
    Reads (key :: met) (written :: seen) := by
  obtain ⟨style, rfl⟩ := isText
  intro other
  rw [List.mem_cons, List.exists_mem_cons_iff, reads other]
  refine or_congr_left ⟨?_, ?_⟩
  · rintro rfl
    exact ⟨style, rfl⟩
  · rintro ⟨_, same⟩
    exact (Node.scalar.inj same).1.symm

section Fields

variable {φ δ : Type} {all : List φ} {name : φ → String} {flaws : φ → Node → Flaws}
  {met : List Node} {seen : List String} {key value : Node} {pairs : List (Node × Node)} {field : φ}
  {front : List Item} {fault : ShapeFault} {expected : String}

theorem exists_field (right : ∀ mistake, ¬ KeyFault all name met key mistake) :
    ∃ field, key.IsText (name field) := by
  by_cases isText : ∃ written, key.IsText written
  · obtain ⟨written, isText⟩ := isText
    by_cases known : written ∈ all.map name
    · obtain ⟨field, -, rfl⟩ := List.mem_map.mp known
      exact ⟨field, isText⟩
    · exact absurd (.unknown isText known) (right _)
  · exact absurd (.kind fun written is => isText ⟨written, is⟩) (right _)

theorem name_not_mem (listed : ∀ field, field ∈ all) (reads : Reads met seen)
    (right : ∀ mistake, ¬ KeyFault all name met key mistake) (isText : key.IsText (name field)) :
    name field ∉ seen := by
  intro again
  obtain ⟨earlier, before, same⟩ := (reads _).mp again
  exact right _ (.repeated isText (List.mem_map_of_mem (listed field)) before same)

section Places

variable (inside : ∀ field node, (flaws field node).Within node.items)

include inside

theorem entryFlaw_within : (EntryFlaw all name flaws met pairs).Within (Node.pairItems pairs) := by
  intro front fault wrong
  induction wrong with
  | @key met key value pairs mistake wrong =>
      obtain ⟨rest, items⟩ := key.items_eq_first_cons
      rw [Node.pairItems, items]
      exact ⟨List.cons_ne_nil _ _, _, rfl⟩
  | value written wrong =>
      obtain ⟨nonempty, before⟩ := inside _ _ wrong
      rw [Node.pairItems, List.prefix_append_right_inj]
      exact ⟨by simp [nonempty], before.trans (List.prefix_append _ _)⟩
  | later wrong ih =>
      rw [Node.pairItems, List.prefix_append_right_inj, List.prefix_append_right_inj]
      exact ⟨by simp [ih.1], ih.2⟩

/-- The first flaw among entries is that of the first key, or that of its value, or else nothing is
wrong with either and it is the first among the others. -/
theorem entryFlaw_cons_isFirst
    (first : (EntryFlaw all name flaws met ((key, value) :: pairs)).IsFirst front fault) :
    (∃ mistake, KeyFault all name met key mistake ∧ front = [key.first] ∧
      fault = ⟨[], mistake⟩) ∨
    (∀ mistake, ¬ KeyFault all name met key mistake) ∧
      ((∃ field behind within, key.IsText (name field) ∧
          (flaws field value).IsFirst behind within ∧ front = key.items ++ behind ∧
          fault = within.under (.key (name field))) ∨
        (∀ field, key.IsText (name field) → (flaws field value).Absent) ∧
          ∃ behind, (EntryFlaw all name flaws (key :: met) pairs).IsFirst behind fault ∧
            front = key.items ++ (value.items ++ behind)) := by
  obtain ⟨keyRest, keyItems⟩ := key.items_eq_first_cons
  obtain ⟨occurs, least⟩ := first
  cases occurs with
  | key wrong => exact .inl ⟨_, wrong, rfl, rfl⟩
  | value written wrong =>
      have nonempty := List.length_pos_iff.mpr (inside _ _ wrong).1
      refine .inr ⟨fun mistake wrongKey => ?_, .inl ⟨_, _, _, written, ⟨wrong, ?_⟩, rfl, rfl⟩⟩
      · have earlier := least _ _ (.key wrongKey)
        simp only [keyItems, List.length_append, List.length_cons, List.length_nil] at earlier
        omega
      · intro other fault' wrong'
        have earlier := least _ _ (.value written wrong')
        simpa only [List.length_append, Nat.add_le_add_iff_left] using earlier
  | later wrong =>
      have nonempty := List.length_pos_iff.mpr (entryFlaw_within inside wrong).1
      refine .inr ⟨fun mistake wrongKey => ?_, .inr ⟨fun field written other fault' wrong' => ?_, _,
        ⟨wrong, ?_⟩, rfl⟩⟩
      · have earlier := least _ _ (.key wrongKey)
        simp only [keyItems, List.length_append, List.length_cons, List.length_nil] at earlier
        omega
      · have earlier := least _ _ (.value written wrong')
        have short := (inside _ _ wrong').2.length_le
        simp only [List.length_append] at earlier
        omega
      · intro other fault' wrong'
        have earlier := least _ _ (.later wrong')
        simpa only [List.length_append, Nat.add_le_add_iff_left] using earlier

theorem mappingFlaw_shorter {node : Node} (opened : node.IsEmpty ∨ ∃ pairs, node = .mapping pairs)
    (wrong : MappingFlaw all name flaws expected node front fault) :
    front.length < node.items.length := by
  cases wrong with
  | kind other written =>
      obtain empty | ⟨pairs, mapping⟩ := opened
      · exact absurd empty written
      · exact absurd mapping (other pairs)
  | entry mapping wrong =>
      have short := (entryFlaw_within inside wrong).2.length_le
      rw [mapping, Node.items, List.length_cons, List.length_cons, List.length_append,
        List.length_singleton]
      omega

end Places

variable (document : Document) {put : String → δ → Reader δ}

theorem entries_first {known : List String} (fuel : Nat) (draft : δ) (key : Node)
    (rest : List Item) :
    entries document known put (fuel + 1) seen draft (key.first :: rest) = (do
      let (name, rest) ← fieldName (key.first :: rest)
      if !known.contains name then refuse (.unknownField name known)
      else if seen.contains name then refuse (.duplicateField name)
      else
        let (draft, rest) ← under (.key name) (put name draft rest)
        entries document known put fuel (name :: seen) draft rest) := by
  cases key <;> rfl

theorem entries_keyFault {mistake : Mistake} (reads : Reads met seen)
    (wrong : KeyFault all name met key mistake) (fuel : Nat) (draft : δ) (later : List Item) :
    entries document (all.map name) put (fuel + 1) seen draft (key.first :: later) =
      refuse mistake := by
  rw [entries_first, fieldName]
  cases wrong with
  | kind other =>
      have refused := (isText_or_refuse "field identifier" key).resolve_left
        (fun ⟨written, isText⟩ => other written isText) later
      rw [refused, refuse_bind]
  | @unknown written isText strange =>
      rw [text_of_isText isText, ok_bind]
      have absent : (all.map name).contains written = false := by simpa using strange
      simp only [absent, Bool.not_false, if_true]
  | @repeated written earlier isText known before same =>
      have again : seen.contains written = true :=
        List.contains_iff_mem.mpr ((reads written).mpr ⟨earlier, before, same⟩)
      have present : (all.map name).contains written = true := List.contains_iff_mem.mpr known
      rw [text_of_isText isText, ok_bind]
      simp only [present, again, Bool.not_true, Bool.false_eq_true, if_false, if_true]

theorem entries_key (listed : ∀ field, field ∈ all) (isText : key.IsText (name field))
    (fresh : name field ∉ seen) (fuel : Nat) (draft : δ) (rest : List Item) :
    entries document (all.map name) put (fuel + 1) seen draft (key.items ++ rest) =
      under (.key (name field)) (put (name field) draft rest) >>= fun read =>
        entries document (all.map name) put fuel (name field :: seen) read.1 read.2 := by
  have items : key.items = [key.first] := by
    obtain ⟨style, rfl⟩ := isText
    rw [Node.items]
    rfl
  have present : (all.map name).contains (name field) = true :=
    List.contains_iff_mem.mpr (List.mem_map_of_mem (listed field))
  have unseen : seen.contains (name field) = false := by simpa using fresh
  rw [items, List.singleton_append, entries_first, fieldName, text_of_isText isText, ok_bind]
  simp only [present, unseen, Bool.not_true, Bool.false_eq_true, if_false]

section Judged

variable [DecidableEq φ] {Content : φ → Type} {parts : δ ≃ ((field : φ) → Content field)}
  {holds : (field : φ) → Content field → Node → Prop} (listed : ∀ field, field ∈ all)
  (puts : ∀ field draft, Judges (put (name field) draft)
    (fun after node => ∃ content, holds field content node ∧
      parts after = Function.update (parts draft) field content) (flaws field))

include listed puts

theorem entries_reads (flawless : (EntryFlaw all name flaws met pairs).Absent)
    (reads : Reads met seen) (fuel : Nat) (enough : pairs.length < fuel) (draft : δ)
    (rest : List Item) :
    ∃ after, entries document (all.map name) put fuel seen draft
      (Node.pairItems pairs ++ .mappingEnd :: rest) = .ok (after, rest) := by
  obtain ⟨fuel, rfl⟩ := Nat.exists_eq_add_one_of_ne_zero (Nat.ne_zero_of_lt enough)
  induction pairs generalizing met seen fuel draft with
  | nil => exact ⟨draft, rfl⟩
  | cons pair pairs ih =>
      obtain ⟨key, value⟩ := pair
      have right (mistake : Mistake) : ¬ KeyFault all name met key mistake :=
        fun wrong => flawless _ _ (.key wrong)
      obtain ⟨field, isText⟩ := exists_field right
      have fresh := name_not_mem listed reads right isText
      obtain ⟨next, -, read⟩ := (puts field draft).reads fun front fault wrong =>
        flawless _ _ (.value isText wrong)
      obtain ⟨fuel, rfl⟩ := Nat.exists_eq_add_one_of_ne_zero
        (Nat.ne_zero_of_lt (Nat.lt_of_succ_lt_succ enough))
      obtain ⟨after, others⟩ := ih (fun front fault wrong => flawless _ fault (.later wrong))
        (reads.cons isText) next fuel (Nat.lt_of_succ_lt_succ enough)
      refine ⟨after, ?_⟩
      rw [Node.pairItems, List.append_assoc, List.append_assoc,
        entries_key document listed isText fresh, read, under_ok, ok_bind, others]

theorem entries_stops (first : (EntryFlaw all name flaws met pairs).IsFirst front fault)
    (reads : Reads met seen) (fuel : Nat) (enough : front.length < fuel) (draft : δ)
    (later : List Item) :
    entries document (all.map name) put fuel seen draft (front ++ later) = reject fault := by
  have inside (field : φ) := (puts field draft).within
  induction pairs generalizing met seen front fuel draft with
  | nil => exact nomatch first.occurs
  | cons pair pairs ih =>
      obtain ⟨key, value⟩ := pair
      obtain ⟨fuel, rfl⟩ := Nat.exists_eq_add_one_of_ne_zero (Nat.ne_zero_of_lt enough)
      rcases entryFlaw_cons_isFirst inside first with
        ⟨mistake, wrong, rfl, rfl⟩ |
        ⟨right, ⟨field, behind, fault, isText, value, rfl, rfl⟩ |
          ⟨flawless, behind, others, rfl⟩⟩
      · exact entries_keyFault document reads wrong fuel draft later
      · have fresh := name_not_mem listed reads right isText
        rw [List.append_assoc, entries_key document listed isText fresh,
          (puts field draft).stops value, under_reject, reject_bind]
      · obtain ⟨field, isText⟩ := exists_field right
        have fresh := name_not_mem listed reads right isText
        obtain ⟨next, -, read⟩ := (puts field draft).reads (flawless field isText)
        have shorter : behind.length < fuel := by
          obtain ⟨rest, items⟩ := key.items_eq_first_cons
          simp only [items, List.length_append, List.length_cons] at enough
          omega
        rw [List.append_assoc, List.append_assoc, entries_key document listed isText fresh, read,
          under_ok, ok_bind]
        exact ih others (reads.cons isText) fuel shorter next

theorem judges_mapping (apart : Function.Injective name) (expected : String) (start : δ) :
    Judges (mapping document expected (all.map name) put start) (Told name parts holds start)
      (MappingFlaw all name flaws expected) := by
  have inside (field : φ) := (puts field start).within
  have known (written : String) : written ∈ all.map name ↔ ∃ field, name field = written := by
    simp only [List.mem_map, listed, true_and]
  have takes := takes_mapping document known apart
    (fun field draft => (puts field draft).takes) expected start
  refine ⟨takes, ?_, ?_, ?_⟩
  · rintro node _ fault (⟨other, written⟩ | ⟨rfl, wrong⟩)
    · exact ⟨List.cons_ne_nil _ _, node.first_prefix⟩
    · rw [Node.items]
      refine ⟨List.cons_ne_nil _ _, List.prefix_cons_inj _ |>.mpr ?_⟩
      exact (entryFlaw_within inside wrong).2.trans (List.prefix_append _ _)
  · intro node flawless
    by_cases opened : ∃ pairs, node = .mapping pairs
    · obtain ⟨pairs, rfl⟩ := opened
      have enough : pairs.length < (Node.pairItems pairs ++ [Item.mappingEnd]).length + 1 := by
        have length := Node.length_le_pairItems pairs
        rw [List.length_append]
        omega
      obtain ⟨after, read⟩ := entries_reads document listed puts
        (fun front fault wrong => flawless _ fault (.entry rfl wrong)) reads_nil _ enough start []
      have whole : mapping document expected (all.map name) put start
          ((Node.mapping pairs).items ++ []) = .ok (after, []) := by
        rw [List.append_nil, Node.items]
        exact read
      exact ⟨after, ((takes _ _ _ _).mp whole).1⟩
    · refine ⟨start, .inl ⟨?_, rfl⟩⟩
      by_contra written
      exact flawless _ _ (.kind (fun pairs same => opened ⟨pairs, same⟩) written)
  · rintro node _ fault ⟨⟨other, written⟩ | ⟨rfl, wrong⟩, least⟩ later
    · have closed : opensMapping node.first = false := by
        cases node with
        | mapping pairs => exact absurd rfl (other pairs)
        | _ => rfl
      rw [List.singleton_append, mapping, opening_refuse expected opensMapping written closed,
        refuse_bind]
      rfl
    · have first : (EntryFlaw all name flaws [] _).IsFirst _ fault :=
        ⟨wrong, fun front fault' wrong' => by simpa using least _ _ (.entry rfl wrong')⟩
      exact entries_stops document listed puts first reads_nil _ (by simp) start later

end Judged

end Fields

/-! The fields of a job. -/

namespace JobDraft

theorem judges_content (field : Job.Field) :
    Judges (content field) field.IsIn (AtStart field.Fault) := by
  cases field with
  | workerCount | problemSize | dimension => exact judges_count
  | algorithm | method | distribution => exact judges_text _
  | decomposition => exact judges_decomposition

theorem judges_put (document : Document) (field : Job.Field) (draft : JobDraft) :
    Judges (put document field.name draft) (fun after node =>
      ∃ found, (∃ content ∈ found, field.IsIn content node) ∧
        parts after = Function.update (parts draft) field found) (AtStart field.Fault) := by
  rw [put_name]
  refine (((judges_content field).through document).update parts draft field some).congr
    fun after node => ?_
  simp

theorem finish_cases (draft : JobDraft) : (∃ job, draft.finish = .ok job) ∨
    ∃ field : Job.Field, draft.finish = refuse (.missingField field.name) ∧
      parts draft field = none ∧ ∀ earlier ∈ field.before, parts draft earlier ≠ none := by
  obtain ⟨_ | workerCount, algorithm, problemSize, method, decomposition, distribution,
    dimension⟩ := draft
  · exact .inr ⟨.workerCount, rfl, rfl, by simp [Job.Field.before, Job.Field.all]⟩
  obtain _ | algorithm := algorithm
  · exact .inr ⟨.algorithm, rfl, rfl, by simp [Job.Field.before, Job.Field.all, parts]⟩
  obtain _ | problemSize := problemSize
  · exact .inr ⟨.problemSize, rfl, rfl, by simp [Job.Field.before, Job.Field.all, parts]⟩
  obtain _ | method := method
  · exact .inr ⟨.method, rfl, rfl, by simp [Job.Field.before, Job.Field.all, parts]⟩
  obtain _ | decomposition := decomposition
  · exact .inr ⟨.decomposition, rfl, rfl, by simp [Job.Field.before, Job.Field.all, parts]⟩
  obtain _ | distribution := distribution
  · exact .inr ⟨.distribution, rfl, rfl, by simp [Job.Field.before, Job.Field.all, parts]⟩
  obtain _ | dimension := dimension
  · exact .inr ⟨.dimension, rfl, rfl, by simp [Job.Field.before, Job.Field.all, parts]⟩
  exact .inl ⟨_, rfl⟩

/-- A node holds what a draft has met, and nothing else. -/
def IsIn (draft : JobDraft) (node : Node) : Prop :=
  Told Job.Field.name parts (fun field found node => ∃ content ∈ found, field.IsIn content node)
    .empty draft node

variable {draft : JobDraft} {node : Node} {field : Job.Field}

theorem IsIn.opened (held : draft.IsIn node) : node.IsEmpty ∨ ∃ pairs, node = .mapping pairs :=
  held.imp And.left fun ⟨pairs, _, mapping, _⟩ => ⟨pairs, mapping⟩

theorem eq_none_iff_lacks (held : draft.IsIn node) :
    parts draft field = none ↔ field.Lacks node := by
  obtain ⟨empty, rfl⟩ | ⟨pairs, fields, rfl, -, entries, kept⟩ := held
  · refine iff_of_true (by cases field <;> rfl) ?_
    rintro pairs rfl
    exact nomatch empty
  · have apart {a b : Job.Field} (same : a.name = b.name) : a = b := Job.Field.eq_of_word same
    constructor
    · rintro missing _ ⟨⟩ pair member isText
      obtain ⟨other, written, held⟩ := entries.exists_field member
      obtain rfl := apart (isText.unique written)
      obtain ⟨content, found, -⟩ := held
      rw [missing] at found
      exact nomatch found
    · intro lacks
      by_cases member : field ∈ fields
      · obtain ⟨pair, member, isText, -⟩ := entries.exists_pair member
        exact absurd isText (lacks pairs rfl pair member)
      · rw [kept field member]
        cases field <;> rfl

theorem finish_lacks (held : draft.IsIn node) (lacks : field.Lacks node)
    (first : ∀ earlier ∈ field.before, ¬ earlier.Lacks node) :
    draft.finish = refuse (.missingField field.name) := by
  have missing := (eq_none_iff_lacks held).mpr lacks
  rcases draft.finish_cases with ⟨job, done⟩ | ⟨other, rejected, missing', first'⟩
  · rw [finish_ok_iff.mp done field] at missing
    exact nomatch missing
  · obtain rfl | before | before := field.before_total other
    · exact rejected
    · exact absurd missing (first' field before)
    · exact absurd ((eq_none_iff_lacks held).mp missing') (first other before)

end JobDraft

theorem judges_draft (document : Document) :
    Judges (mapping document "struct JobDescriptor" JobDraft.fields (JobDraft.put document) .empty)
      JobDraft.IsIn (MappingFlaw Job.Field.all Job.Field.name (fun field => AtStart field.Fault)
        "struct JobDescriptor") :=
  judges_mapping document Job.Field.mem_all (JobDraft.judges_put document)
    (fun _ _ => Job.Field.eq_of_word) _ .empty

/-- What a field lacks shows at the end of a node, behind all else that is wrong in it. -/
theorem judges_job (document : Document) : Judges (Decode.job document) Job.IsIn Job.Flaw := by
  have drafts := judges_draft document
  have takes := takes_job document
  refine ⟨takes, ?_, ?_, ?_⟩
  · rintro node front fault (wrong | ⟨-, -, -⟩)
    · exact drafts.within node wrong
    · obtain ⟨rest, items⟩ := node.items_eq_first_cons
      exact ⟨by simp [items], List.prefix_rfl⟩
  · intro node flawless
    obtain ⟨draft, held⟩ := drafts.whole fun front fault wrong => flawless front fault (.part wrong)
    rcases draft.finish_cases with ⟨job, done⟩ | ⟨field, -, missing, first⟩
    · have read := (drafts.takes node [] draft []).mpr ⟨held, rfl⟩
      have whole : Decode.job document (node.items ++ []) = .ok (job, []) :=
        bind_ok_iff.mpr ⟨_, read, bind_ok_iff.mpr ⟨job, done, rfl⟩⟩
      exact ⟨job, ((takes _ _ _ _).mp whole).1⟩
    · have lacks := (JobDraft.eq_none_iff_lacks held).mp missing
      exact absurd (.missing held.opened lacks fun earlier before lacks' =>
        first earlier before ((JobDraft.eq_none_iff_lacks held).mpr lacks')) (flawless _ _)
  · rintro node front fault ⟨wrong | ⟨opened, lacks, first⟩, least⟩ later
    · have stops := drafts.stops ⟨wrong, fun other fault' wrong' => least _ _ (.part wrong')⟩ later
      rw [Decode.job, stops, reject_bind]
    · obtain ⟨draft, held, read⟩ := drafts.reads fun other fault' wrong' =>
        absurd (least _ _ (.part wrong')) (not_le.mpr (mappingFlaw_shorter
          (fun field => (JobDraft.judges_content field).within) opened wrong'))
      simp only [Decode.job, read, ok_bind, JobDraft.finish_lacks held lacks first, refuse_bind]
      rfl

/-! The jobs, in their order. -/

section Lists

variable {flaws : Node → Flaws} {index : Nat} {entry : Node} {entries : List Node}
  {front : List Item} {fault : ShapeFault}
  (inside : ∀ node, (flaws node).Within node.items)

include inside

theorem listFlaw_within : (ListFlaw flaws index entries).Within (Node.entryItems entries) := by
  intro front fault wrong
  induction wrong with
  | here wrong =>
      obtain ⟨nonempty, before⟩ := inside _ wrong
      rw [Node.entryItems]
      exact ⟨nonempty, before.trans (List.prefix_append _ _)⟩
  | later wrong ih =>
      rw [Node.entryItems, List.prefix_append_right_inj]
      exact ⟨by simp [ih.1], ih.2⟩

theorem listFlaw_cons_isFirst
    (first : (ListFlaw flaws index (entry :: entries)).IsFirst front fault) :
    (∃ within, (flaws entry).IsFirst front within ∧ fault = within.under (.entry index)) ∨
      (flaws entry).Absent ∧
        ∃ behind, (ListFlaw flaws (index + 1) entries).IsFirst behind fault ∧
          front = entry.items ++ behind := by
  obtain ⟨occurs, least⟩ := first
  cases occurs with
  | here wrong =>
      exact .inl ⟨_, ⟨wrong, fun other fault' wrong' => least _ _ (.here wrong')⟩, rfl⟩
  | later wrong =>
      have nonempty := List.length_pos_iff.mpr (listFlaw_within inside wrong).1
      refine .inr ⟨fun other fault' wrong' => ?_, _, ⟨wrong, fun other fault' wrong' => ?_⟩, rfl⟩
      · have earlier := least _ _ (.here wrong')
        have short := (inside _ wrong').2.length_le
        simp only [List.length_append] at earlier
        omega
      · have earlier := least _ _ (.later wrong')
        simpa only [List.length_append, Nat.add_le_add_iff_left] using earlier

end Lists

section Jobs

variable (document : Document) {entries : List Node} {front : List Item} {fault : ShapeFault}

theorem jobList_first (fuel index : Nat) (node : Node) (rest : List Item) :
    jobList document (fuel + 1) index (node.first :: rest) = (do
      let (first, rest) ←
        under (.entry index) (through document (Decode.job document) (node.first :: rest))
      let (others, rest) ← jobList document fuel (index + 1) rest
      .ok (first :: others, rest)) := by
  cases node <;> rfl

theorem exists_jobs {index : Nat} (flawless : (ListFlaw Job.Flaw index entries).Absent) :
    ∃ list : List Job, List.Forall₂ (fun entry job => job.IsIn entry) entries list := by
  induction entries generalizing index with
  | nil => exact ⟨[], .nil⟩
  | cons entry entries ih =>
      -- What a node holds is told without the document, so any will do.
      obtain ⟨job, held⟩ := (judges_job (.ofTree none)).whole fun front fault wrong =>
        flawless _ _ (.here wrong)
      obtain ⟨list, others⟩ := ih fun front fault wrong => flawless _ fault (.later wrong)
      exact ⟨job :: list, .cons held others⟩

theorem jobList_stops {index : Nat} (first : (ListFlaw Job.Flaw index entries).IsFirst front fault)
    (fuel : Nat) (enough : front.length < fuel) (later : List Item) :
    jobList document fuel index (front ++ later) = reject fault := by
  have judges := (judges_job document).through document
  induction entries generalizing front fuel index with
  | nil => exact nomatch first.occurs
  | cons entry entries ih =>
      obtain ⟨fuel, rfl⟩ := Nat.exists_eq_add_one_of_ne_zero (Nat.ne_zero_of_lt enough)
      rcases listFlaw_cons_isFirst judges.within first with
        ⟨fault, here, rfl⟩ | ⟨flawless, behind, others, rfl⟩
      · have stops := judges.stops here later
        obtain ⟨behind, rfl⟩ := judges.starts here.occurs
        rw [List.cons_append] at stops ⊢
        rw [jobList_first, stops, under_reject, reject_bind]
      · obtain ⟨job, -, read⟩ := judges.reads flawless
        have shorter : behind.length < fuel := by
          obtain ⟨rest, items⟩ := entry.items_eq_first_cons
          simp only [items, List.length_append, List.length_cons] at enough
          omega
        simp only [List.append_assoc, jobList_node, read, under_ok, ok_bind,
          ih others fuel shorter, reject_bind]

theorem judges_jobs : Judges (Decode.jobs document) (Config.Field.IsIn .jobs) JobsFlaw := by
  have inside := (judges_job document).within
  refine ⟨takes_jobs document, ?_, ?_, ?_⟩
  · rintro node _ fault (⟨other, written⟩ | ⟨rfl, wrong⟩)
    · exact ⟨List.cons_ne_nil _ _, node.first_prefix⟩
    · rw [Node.items]
      refine ⟨List.cons_ne_nil _ _, List.prefix_cons_inj _ |>.mpr ?_⟩
      exact (listFlaw_within inside wrong).2.trans (List.prefix_append _ _)
  · intro node flawless
    by_cases opened : ∃ entries, node = .sequence entries
    · obtain ⟨entries, rfl⟩ := opened
      obtain ⟨list, described⟩ := exists_jobs fun front fault wrong =>
        flawless _ fault (.entry rfl wrong)
      exact ⟨list, .inr ⟨entries, rfl, described⟩⟩
    · refine ⟨[], .inl ⟨?_, rfl⟩⟩
      by_contra written
      exact flawless _ _ (.kind (fun entries same => opened ⟨entries, same⟩) written)
  · rintro node _ fault ⟨⟨other, written⟩ | ⟨rfl, wrong⟩, least⟩ later
    · have closed : opensSequence node.first = false := by
        cases node with
        | sequence entries => exact absurd rfl (other entries)
        | _ => rfl
      rw [List.singleton_append, Decode.jobs, opening_refuse _ opensSequence written closed,
        refuse_bind]
      rfl
    · have first : (ListFlaw Job.Flaw 0 _).IsFirst _ fault :=
        ⟨wrong, fun front fault' wrong' => by simpa using least _ _ (.entry rfl wrong')⟩
      exact jobList_stops document first _ (by simp) later

end Jobs

/-! The batch. -/

section Batch

variable (document : Document)

theorem judges_content (field : Config.Field) :
    Judges (content document field) field.IsIn field.Flaw := by
  cases field with
  | launcher | workerFlag | runtime | script => exact judges_text _
  | jobs => exact judges_jobs document

theorem judges_put (field : Config.Field) (config : Config) :
    Judges (put document field.name config) (fun after node =>
      ∃ found, field.IsIn found node ∧ parts after = Function.update (parts config) field found)
      field.Flaw := by
  rw [put_name]
  exact ((judges_content document field).through document).update parts config field id

theorem judges_config :
    Judges (through document
        (mapping document "struct LauncherConfig" fields (put document) .builtin))
      (Told Config.Field.name parts Config.Field.IsIn .builtin)
      (MappingFlaw Config.Field.all Config.Field.name Config.Field.Flaw "struct LauncherConfig") :=
  (judges_mapping document Config.Field.mem_all (judges_put document)
    (fun _ _ => Config.Field.eq_of_word) _ .builtin).through document

end Batch

section Roots

variable {root : Option Node} {front : List Item} {fault : ShapeFault}

theorem flaw_within (wrong : Flaw root front fault) : front <+: (Document.ofTree root).items := by
  obtain ⟨node, rfl, wrong⟩ := wrong
  exact ((judges_config (.ofTree (some node))).within node wrong).2

theorem document_stops (first : (Flaw root).IsFirst front fault) {source : Document}
    (starts : front <+: source.items) : Decode.document source = reject fault := by
  obtain ⟨⟨node, rfl, wrong⟩, least⟩ := first
  obtain ⟨later, items⟩ := starts
  have stops := (judges_config source).stops
    ⟨wrong, fun other fault' wrong' => least other fault' ⟨node, rfl, wrong'⟩⟩ later
  rw [Decode.document, ← items, stops, reject_bind]

theorem exists_config (flawless : (Flaw root).Absent) :
    ∃ config, Decode.document (.ofTree root) = .ok config := by
  cases root with
  | none => exact ⟨.builtin, rfl⟩
  | some node =>
      obtain ⟨config, told⟩ := (judges_config (.ofTree (some node))).whole
        fun front fault wrong => flawless front fault ⟨node, rfl, wrong⟩
      exact ⟨config, (document_ofTree _ _).mpr ((told_iff_describes _ _).mp told)⟩

theorem document_error_iff {reason : ParseFault} :
    Decode.document (.ofTree root) = .error reason ↔
      ∃ front fault, (Flaw root).IsFirst front fault ∧ reason = .shape fault := by
  constructor
  · intro rejected
    have wrong : ∃ front fault, Flaw root front fault := by
      by_contra flawless
      push Not at flawless
      obtain ⟨config, read⟩ := exists_config flawless
      rw [read] at rejected
      exact nomatch rejected
    obtain ⟨_, _, wrong⟩ := wrong
    obtain ⟨front, fault, first⟩ := Flaws.exists_isFirst wrong
    have stops := document_stops first (flaw_within first.occurs)
    exact ⟨front, fault, first, Except.error.inj (rejected.symm.trans stops)⟩
  · rintro ⟨front, fault, first, rfl⟩
    exact document_stops first (flaw_within first.occurs)

end Roots

end Config.Decode

namespace Config

/-- A text that is a tree is rejected for the first flaw in the tree and for nothing else, and what
is reported is the way to the value that the flaw is in and what is wrong with it. Any text with the
same walk up to there is rejected for the same, be the rest of it what it may. -/
theorem ofYaml_firstFlaw (text : String) (plain : (Document.ofText text).IsPlain) :
    ∃ root, Document.ofText text = .ofTree root ∧
      (∀ other, Document.ofText text = .ofTree other → other = root) ∧
      (∀ reason, ofYaml text = .error reason ↔
        ∃ front fault, (Flaw root).IsFirst front fault ∧ reason = .shape fault) ∧
      ∀ front fault, (Flaw root).IsFirst front fault →
        front <+: (Document.ofText text).items ∧
          ∀ other, front <+: (Document.ofText other).items → ofYaml other = ofYaml text := by
  obtain ⟨root, tree⟩ := Document.exists_tree plain
  refine ⟨root, tree, fun other same => ?_, fun reason => ?_, fun front fault first => ?_⟩
  · rw [tree] at same
    exact (Document.ofTree_injective same).symm
  · rw [ofYaml, tree]
    exact Decode.document_error_iff
  · have starts : front <+: (Document.ofText text).items := by
      rw [tree]
      exact Decode.flaw_within first.occurs
    refine ⟨starts, fun other starts' => ?_⟩
    rw [ofYaml, ofYaml, Decode.document_stops first starts, Decode.document_stops first starts']

/-- The end of the job comes before the setting that is wrong. -/
theorem ofYaml_noWorkers :
    (Document.ofText "jobs:\n- dimension: 2\nlauncher: []\n").IsPlain ∧
      ∃ root front, Document.ofText "jobs:\n- dimension: 2\nlauncher: []\n" = .ofTree root ∧
        (Flaw root).IsFirst front ⟨[.key "jobs", .entry 0], .missingField "worker_count"⟩ := by
  have plain : (Document.ofText "jobs:\n- dimension: 2\nlauncher: []\n").IsPlain := by
    decide +kernel
  have rejected : ofYaml "jobs:\n- dimension: 2\nlauncher: []\n" =
      .error (.shape ⟨[.key "jobs", .entry 0], .missingField "worker_count"⟩) := by decide +kernel
  obtain ⟨root, tree, -, faults, -⟩ := ofYaml_firstFlaw _ plain
  obtain ⟨front, fault, first, ⟨⟩⟩ := (faults _).mp rejected
  exact ⟨plain, root, front, tree, first⟩

/-- It is the walk that has to be the same and not the text, since what follows may change what the
text before it means: a scalar that is rejected where a mapping is expected is a key of one if a
colon follows. -/
theorem ofYaml_restMatters :
    let scalar := .scalar none "launcher" .quoted
    (Document.ofText "\"launcher\"\n").IsPlain ∧
      (Document.ofText "\"launcher\"\n").items = [scalar] ∧
      ofYaml "\"launcher\"\n" =
        .error (.shape ⟨[], .invalidType scalar "struct LauncherConfig"⟩) ∧
      (Document.ofText "\"launcher\": x\n").IsPlain ∧
      ofYaml "\"launcher\": x\n" = .ok ⟨{ Settings.builtin with launcher := "x" }, Table.jobs⟩ := by
  decide +kernel

end Config
end BatchLaunch
