import BatchLaunch.Config.Decode
import BatchLaunch.Proofs.Config.Shape
import BatchLaunch.Proofs.Fallible
import BatchLaunch.Proofs.Yaml.Nesting

/-!
Reading a batch from a tree. Each reader takes from a node exactly what the node holds, so a text is
read as a batch where its tree describes that batch, and nowhere else.
-/
namespace BatchLaunch

open Yaml (Document Item Node)

namespace Config.Decode

open Fallible (bind_ok_iff map_ok_iff)

def Takes {α : Type} (read : Reader α) (holds : α → Node → Prop) : Prop :=
  ∀ node rest a rest', read (node.items ++ rest) = .ok (a, rest') ↔ holds a node ∧ rest' = rest

theorem through_items {α : Type} (document : Document) (read : Reader α) (node : Node)
    (rest : List Item) :
    through document read (node.items ++ rest) = read (node.items ++ rest) := by
  cases node <;> rw [Node.items] <;> rfl

theorem Takes.through {α : Type} {read : Reader α} {holds : α → Node → Prop}
    (takes : Takes read holds) (document : Document) :
    Takes (Decode.through document read) holds := by
  intro node rest a rest'
  rw [through_items]
  exact takes node rest a rest'

theorem Takes.congr {α : Type} {read : Reader α} {holds same : α → Node → Prop}
    (takes : Takes read holds) (agree : ∀ a node, holds a node ↔ same a node) :
    Takes read same := by
  intro node rest a rest'
  rw [← agree]
  exact takes node rest a rest'

theorem Takes.map {α β : Type} {read : Reader α} {holds : α → Node → Prop}
    (takes : Takes read holds) (f : α → β) :
    Takes (fun items => (read items).map fun (a, rest) => (f a, rest))
      fun b node => ∃ a, holds a node ∧ f a = b := by
  intro node rest b rest'
  rw [map_ok_iff]
  constructor
  · rintro ⟨⟨a, behind⟩, reads, same⟩
    cases same
    obtain ⟨held, rfl⟩ := (takes _ _ _ _).mp reads
    exact ⟨⟨a, held, rfl⟩, rfl⟩
  · rintro ⟨⟨a, held, rfl⟩, rfl⟩
    exact ⟨(a, rest'), (takes _ _ _ _).mpr ⟨held, rfl⟩, rfl⟩

theorem Takes.update {α φ δ : Type} [DecidableEq φ] {Content : φ → Type} {read : Reader α}
    {holds : α → Node → Prop} (takes : Takes read holds)
    (parts : δ ≃ ((field : φ) → Content field)) (draft : δ) (field : φ)
    (kept : α → Content field) :
    Takes (fun items => (read items).map fun (a, rest) =>
        (parts.symm (Function.update (parts draft) field (kept a)), rest))
      fun after node => ∃ a, holds a node ∧
        parts after = Function.update (parts draft) field (kept a) := by
  refine (takes.map fun a => parts.symm (Function.update (parts draft) field (kept a))).congr
    fun after node => exists_congr fun a => and_congr_right fun _ => ?_
  rw [parts.symm_apply_eq, eq_comm]

theorem under_ok_iff {α : Type} {step : ShapeFault.Step} {result : Result α} {a : α} :
    under step result = .ok a ↔ result = .ok a := by
  cases result <;> simp [under, Except.mapError]

theorem takes_text (expected : String) :
    Takes (text expected) fun written node => node.IsText written := by
  intro node rest written rest'
  cases node with
  | scalar content style =>
      simp only [Node.items, List.singleton_append, text, Except.ok.injEq, Prod.mk.injEq,
        Node.IsText, Node.scalar.injEq, exists_and_left, exists_eq', and_true, eq_comm]
  | sequence entries => simp [Node.items, text, refuse, reject, Node.IsText]
  | mapping pairs => simp [Node.items, text, refuse, reject, Node.IsText]

theorem takes_count : Takes count fun n node => node.IsCount n := by
  intro node rest n rest'
  cases node with
  | scalar content style =>
      have isCount : (Node.scalar content style).IsCount n ↔
          style = .plain ∧ Yaml.unsigned? content = some n.toNat := by
        have small : n.toNat < UInt64.size := Nat.lt_trans n.toNat_lt (by decide)
        simp only [Node.IsCount, Node.scalar.injEq, Yaml.unsigned?_eq_some_iff, small, and_true]
        constructor
        · rintro ⟨_, ⟨rfl, plain⟩, numeral⟩
          exact ⟨plain, numeral⟩
        · rintro ⟨plain, numeral⟩
          exact ⟨content, ⟨rfl, plain⟩, numeral⟩
      have numeric : isNumeric none style = true ↔ style = .plain := by
        cases style <;> simp [isNumeric]
      simp only [isCount, Node.items, List.singleton_append, count, ← numeric]
      cases isNumeric none style with
      | false => simp [refuse, reject]
      | true =>
          cases Yaml.unsigned? content with
          | none => simp [refuse, reject]
          | some m =>
              by_cases small : m < UInt32.size
              · simp [small, ← UInt32.toNat_inj, UInt32.toNat_ofNat_of_lt' small, eq_comm]
              · have large : m ≠ n.toNat := fun same => small (same ▸ n.toNat_lt)
                simp [small, large, refuse, reject]
  | sequence entries => simp [Node.items, count, refuse, reject, Node.IsCount]
  | mapping pairs => simp [Node.items, count, refuse, reject, Node.IsCount]

theorem ofTag_ok_iff {tag : String} {d : Decomposition} : ofTag tag = .ok d ↔ d.tag = tag := by
  rw [ofTag, eq_comm (a := d.tag), ← Decomposition.ofTag?_eq_some_iff]
  cases Decomposition.ofTag? tag with
  | none => simp [refuse, reject]
  | some found => simp

theorem takes_decomposition : Takes decomposition fun d node => node.IsText d.tag := by
  intro node rest d rest'
  have untagged : decomposition (node.items ++ rest) =
      text "a YAML tag starting with '!'" (node.items ++ rest) >>= fun read =>
        ofTag read.1 >>= fun found => .ok (found, read.2) := by
    cases node <;> rw [Node.items] <;> rfl
  rw [untagged, bind_ok_iff]
  constructor
  · rintro ⟨⟨tag, behind⟩, read, go⟩
    obtain ⟨isText, rfl⟩ := (takes_text _ node rest tag behind).mp read
    obtain ⟨found, reads, same⟩ := bind_ok_iff.mp go
    cases same
    obtain rfl := ofTag_ok_iff.mp reads
    exact ⟨isText, rfl⟩
  · rintro ⟨isText, rfl⟩
    refine ⟨(d.tag, rest'), (takes_text _ node rest' d.tag rest').mpr ⟨isText, rfl⟩, ?_⟩
    exact bind_ok_iff.mpr ⟨d, ofTag_ok_iff.mpr rfl, rfl⟩

theorem opening_scalar_ok_iff (expected : String) (opens : Item → Bool) (content : String)
    (style : Yaml.Style) (rest : List Item) (found : Opening) :
    opening expected opens ((Node.scalar content style).items ++ rest) = .ok found ↔
      (Node.scalar content style).IsEmpty ∧ .empty rest = found := by
  have empty : (Node.scalar content style).IsEmpty ↔
      (decide (style = .plain) && decide (content = "")) = true := by
    simp [Node.IsEmpty, and_comm]
  rw [empty, Node.items, List.singleton_append, opening]
  cases decide (style = .plain) && decide (content = "") with
  | false => simp [refuse, reject]
  | true => simp

/-! A mapping whose keys are the names of fields, each field at most once. -/

theorem entry_ok_iff {α : Type} {known seen : List String} {name : String} {go : Result α}
    {found : α} :
    (if !known.contains name then refuse (.unknownField name known)
      else if seen.contains name then refuse (.duplicateField name)
      else go) = .ok found ↔ name ∈ known ∧ name ∉ seen ∧ go = .ok found := by
  by_cases isKnown : name ∈ known
  · by_cases isSeen : name ∈ seen
    · simp [isKnown, isSeen, refuse, reject]
    · simp [isKnown, isSeen]
  · simp [isKnown, refuse, reject]

section Fields

variable {φ δ : Type} [DecidableEq φ] {Content : φ → Type} (document : Document)
  {known : List String} {put : String → δ → Reader δ} {name : φ → String}
  {parts : δ ≃ ((field : φ) → Content field)} {holds : (field : φ) → Content field → Node → Prop}
  (listed : ∀ text, text ∈ known ↔ ∃ field, name field = text)
  (apart : Function.Injective name)
  (puts : ∀ field draft, Takes (put (name field) draft) fun after node =>
    ∃ content, holds field content node ∧
      parts after = Function.update (parts draft) field content)

def Told (name : φ → String) (parts : δ ≃ ((field : φ) → Content field))
    (holds : (field : φ) → Content field → Node → Prop) (start after : δ) (node : Node) : Prop :=
  (node.IsEmpty ∧ after = start) ∨
    ∃ (pairs : List (Node × Node)) (fields : List φ), node = .mapping pairs ∧ fields.Nodup ∧
      Node.Entries name (fun field => holds field (parts after field)) pairs fields ∧
      ∀ field ∉ fields, parts after field = parts start field

theorem entries_node (fuel : Nat) (seen : List String) (draft : δ) (key : Node)
    (rest : List Item) :
    entries document known put (fuel + 1) seen draft (key.items ++ rest) = (do
      let (name, rest) ← through document fieldName (key.items ++ rest)
      if !known.contains name then refuse (.unknownField name known)
      else if seen.contains name then refuse (.duplicateField name)
      else
        let (draft, rest) ← under (.key name) (put name draft rest)
        entries document known put fuel (name :: seen) draft rest) := by
  cases key <;> rw [Node.items] <;> rfl

include listed apart puts

theorem entries_succ_ok_iff (rest rest' : List Item) (key value : Node) (met : List φ)
    (draft after : δ) (fuel : Nat) :
    entries document known put (fuel + 1) (met.map name) draft
        (key.items ++ (value.items ++ rest)) = .ok (after, rest') ↔
      ∃ field content, field ∉ met ∧ key.IsText (name field) ∧ holds field content value ∧
        entries document known put fuel ((field :: met).map name)
          (parts.symm (Function.update (parts draft) field content)) rest = .ok (after, rest') := by
  rw [entries_node, bind_ok_iff]
  constructor
  · rintro ⟨⟨written, behind⟩, read, go⟩
    obtain ⟨isText, rfl⟩ := ((takes_text _).through document _ _ _ _).mp read
    obtain ⟨isKnown, unseen, go⟩ := entry_ok_iff.mp go
    obtain ⟨field, rfl⟩ := (listed written).mp isKnown
    obtain ⟨⟨next, behind⟩, put, go⟩ := bind_ok_iff.mp go
    obtain ⟨⟨content, held, updated⟩, rfl⟩ :=
      (puts field draft _ _ _ _).mp (under_ok_iff.mp put)
    obtain rfl := parts.eq_symm_apply.mpr updated
    exact ⟨field, content, fun isMet => unseen (List.mem_map_of_mem isMet), isText, held, go⟩
  · rintro ⟨field, content, unmet, isText, held, go⟩
    have unseen : name field ∉ met.map name := by
      rintro isSeen
      obtain ⟨other, isMet, same⟩ := List.mem_map.mp isSeen
      exact unmet (apart same ▸ isMet)
    have put := (puts field draft value rest _ rest).mpr
      ⟨⟨content, held, parts.apply_symm_apply _⟩, rfl⟩
    exact ⟨_, ((takes_text _).through document _ _ _ _).mpr ⟨isText, rfl⟩,
      entry_ok_iff.mpr ⟨(listed _).mpr ⟨field, rfl⟩, unseen,
        bind_ok_iff.mpr ⟨_, under_ok_iff.mpr put, go⟩⟩⟩

theorem entries_ok_iff (rest rest' : List Item) (pairs : List (Node × Node)) (met : List φ)
    (draft after : δ) (fuel : Nat) (enough : pairs.length < fuel) :
    entries document known put fuel (met.map name) draft
        (Node.pairItems pairs ++ .mappingEnd :: rest) = .ok (after, rest') ↔
      (∃ fields : List φ, fields.Nodup ∧ (∀ field ∈ fields, field ∉ met) ∧
        Node.Entries name (fun field => holds field (parts after field)) pairs fields ∧
        ∀ field ∉ fields, parts after field = parts draft field) ∧ rest' = rest := by
  induction pairs generalizing met draft fuel with
  | nil =>
      obtain ⟨fuel, rfl⟩ := Nat.exists_eq_add_one_of_ne_zero (Nat.ne_zero_of_lt enough)
      rw [Node.pairItems, List.nil_append, entries]
      constructor
      · rintro ⟨⟩
        exact ⟨⟨[], .nil, nofun, .nil, fun _ _ => rfl⟩, rfl⟩
      · rintro ⟨⟨fields, -, -, none, same⟩, rfl⟩
        obtain rfl := List.forall₂_nil_left_iff.mp none
        obtain rfl : after = draft :=
          parts.injective (funext fun field => same field List.not_mem_nil)
        rfl
  | cons pair pairs ih =>
      obtain ⟨fuel, rfl⟩ := Nat.exists_eq_add_one_of_ne_zero (Nat.ne_zero_of_lt enough)
      obtain ⟨key, value⟩ := pair
      have enough : pairs.length < fuel := Nat.lt_of_succ_lt_succ enough
      rw [Node.pairItems, List.append_assoc, List.append_assoc,
        entries_succ_ok_iff document listed apart puts]
      constructor
      · rintro ⟨field, content, unmet, isText, held, go⟩
        obtain ⟨⟨fields, distinct, others, entries, kept⟩, rfl⟩ :=
          (ih (field :: met) _ fuel enough).mp go
        rw [parts.apply_symm_apply] at kept
        have fresh : field ∉ fields := fun member => others field member List.mem_cons_self
        have here : parts after field = content := by
          rw [kept field fresh, Function.update_self]
        refine ⟨⟨field :: fields, List.nodup_cons.mpr ⟨fresh, distinct⟩, ?_,
          .cons ⟨isText, ?_⟩ entries, ?_⟩, rfl⟩
        · refine List.forall_mem_cons.mpr ⟨unmet, fun other member isMet => ?_⟩
          exact others other member (List.mem_cons_of_mem _ isMet)
        · beta_reduce
          rwa [here]
        · intro other absent
          rw [List.mem_cons, not_or] at absent
          rw [kept other absent.2, Function.update_of_ne absent.1]
      · rintro ⟨⟨_, distinct, unmet, entries, kept⟩, rfl⟩
        cases entries with
        | @cons _ field _ fields entry entries =>
            obtain ⟨isText, held⟩ := entry
            obtain ⟨fresh, distinct⟩ := List.nodup_cons.mp distinct
            obtain ⟨unmet, others⟩ := List.forall_mem_cons.mp unmet
            refine ⟨field, _, unmet, isText, held, (ih (field :: met) _ fuel enough).mpr
              ⟨⟨fields, distinct, ?_, entries, ?_⟩, rfl⟩⟩
            · intro other member isMet
              obtain rfl | isMet := List.mem_cons.mp isMet
              · exact fresh member
              · exact others other member isMet
            · intro other absent
              rw [parts.apply_symm_apply]
              by_cases same : other = field
              · rw [same, Function.update_self]
              · rw [Function.update_of_ne same, kept other (by simp [same, absent])]

theorem takes_mapping (expected : String) (start : δ) :
    Takes (mapping document expected known put start) (Told name parts holds start) := by
  intro node rest after rest'
  cases node with
  | scalar content style =>
      simp only [mapping, bind_ok_iff, opening_scalar_ok_iff, Told]
      simp [eq_comm, and_assoc]
  | sequence entries =>
      simp [Told, Node.IsEmpty, Node.items, mapping, opening, opensMapping, refuse, reject,
        bind, Except.bind]
  | mapping pairs =>
      have enough : pairs.length < (Node.pairItems pairs ++ .mappingEnd :: rest).length + 1 := by
        have length := Node.length_le_pairItems pairs
        rw [List.length_append]
        omega
      have read := entries_ok_iff document listed apart puts rest rest' pairs [] start after _ enough
      rw [Node.items, List.cons_append, List.append_assoc, List.singleton_append]
      simpa [Told, Node.IsEmpty, mapping, opening, opensMapping, bind, Except.bind] using read

end Fields

/-! The fields of a job. -/

namespace JobDraft

/-- A draft is what its fields contain as far as they are met. -/
def parts : JobDraft ≃ ((field : Job.Field) → Option field.Content) where
  toFun draft
    | .workerCount => draft.workerCount
    | .algorithm => draft.algorithm
    | .problemSize => draft.problemSize
    | .method => draft.method
    | .decomposition => draft.decomposition
    | .distribution => draft.distribution
    | .dimension => draft.dimension
  invFun contents := ⟨contents .workerCount, contents .algorithm, contents .problemSize,
    contents .method, contents .decomposition, contents .distribution, contents .dimension⟩
  left_inv _ := rfl
  right_inv contents := by
    funext field
    cases field <;> rfl

def content : (field : Job.Field) → Reader field.Content
  | .workerCount | .problemSize | .dimension => count
  | .algorithm | .method | .distribution => word
  | .decomposition => Decode.decomposition

theorem takes_content (field : Job.Field) : Takes (content field) field.IsIn := by
  cases field with
  | workerCount | problemSize | dimension => exact takes_count
  | algorithm | method | distribution => exact takes_text _
  | decomposition => exact takes_decomposition

theorem put_name (document : Document) (field : Job.Field) (draft : JobDraft) :
    put document field.name draft = fun items =>
      (through document (content field) items).map fun (found, rest) =>
        (parts.symm (Function.update (parts draft) field (some found)), rest) := by
  cases field <;> rfl

theorem takes_put (document : Document) (field : Job.Field) (draft : JobDraft) :
    Takes (put document field.name draft) fun after node =>
      ∃ found, (∃ content ∈ found, field.IsIn content node) ∧
        parts after = Function.update (parts draft) field found := by
  rw [put_name]
  refine (((takes_content field).through document).update parts draft field some).congr
    fun after node => ?_
  simp

theorem mem_fields_iff (name : String) : name ∈ fields ↔ ∃ field : Job.Field, field.name = name := by
  have listed : fields = Job.Field.all.map Job.Field.name := rfl
  simp only [listed, List.mem_map, Job.Field.mem_all, true_and]

theorem required_ok_iff {α : Type} {name : String} {found : Option α} {a : α} :
    required name found = .ok a ↔ found = some a := by
  cases found <;> simp [required, refuse, reject]

theorem finish_ok_iff {draft : JobDraft} {job : Job} :
    draft.finish = .ok job ↔ ∀ field, parts draft field = some (Job.parts job field) := by
  simp only [finish, bind_ok_iff, required_ok_iff]
  constructor
  · rintro ⟨_, workerCount, _, algorithm, _, problemSize, _, method, _, decomposition, _,
      distribution, _, dimension, ⟨⟩⟩ field
    cases field <;> assumption
  · intro full
    exact ⟨_, full .workerCount, _, full .algorithm, _, full .problemSize, _, full .method, _,
      full .decomposition, _, full .distribution, _, full .dimension, rfl⟩

end JobDraft

theorem takes_job (document : Document) : Takes (Decode.job document) Job.IsIn := by
  intro node rest job rest'
  have takes := takes_mapping document JobDraft.mem_fields_iff (fun _ _ => Job.Field.eq_of_word)
    (JobDraft.takes_put document) "struct JobDescriptor" .empty node rest
  rw [Decode.job, bind_ok_iff]
  constructor
  · rintro ⟨⟨draft, behind⟩, read, go⟩
    obtain ⟨finished, done, ⟨⟩⟩ := bind_ok_iff.mp go
    have full := JobDraft.finish_ok_iff.mp done
    obtain ⟨⟨-, rfl⟩ | ⟨pairs, fields, rfl, distinct, entries, kept⟩, rfl⟩ := (takes _ _).mp read
    · exact nomatch full .workerCount
    · have every (field : Job.Field) : field ∈ fields := by
        by_contra absent
        have missing := kept field absent
        rw [full] at missing
        cases field <;> cases missing
      have perm : fields.Perm Job.Field.all :=
        (List.perm_ext_iff_of_nodup distinct (by decide)).mpr fun field =>
          ⟨fun _ => field.mem_all, fun _ => every field⟩
      refine ⟨⟨pairs, ⟨fields, perm⟩, rfl, entries.mono fun field _ node held => ?_⟩, rfl⟩
      obtain ⟨content, found, held⟩ := held
      rw [full, Option.mem_some] at found
      rwa [found]
  · rintro ⟨⟨pairs, order, rfl, entries⟩, rfl⟩
    have full := JobDraft.parts.apply_symm_apply fun field => some (Job.parts job field)
    refine ⟨(JobDraft.parts.symm fun field => some (Job.parts job field), _),
      (takes _ _).mpr ⟨.inr ⟨pairs, order.fields, rfl, order.nodup_fields, ?_, ?_⟩, rfl⟩,
      bind_ok_iff.mpr ⟨job, JobDraft.finish_ok_iff.mpr fun field => by rw [full], rfl⟩⟩
    · refine entries.mono fun field _ node held => ⟨_, ?_, held⟩
      rw [full, Option.mem_some]
    · exact fun field absent => absurd (order.mem_fields field) absent

/-! The jobs, in their order. -/

theorem jobList_node (document : Document) (fuel index : Nat) (node : Node) (rest : List Item) :
    jobList document (fuel + 1) index (node.items ++ rest) = (do
      let (first, rest) ←
        under (.entry index) (through document (Decode.job document) (node.items ++ rest))
      let (others, rest) ← jobList document fuel (index + 1) rest
      .ok (first :: others, rest)) := by
  cases node <;> rw [Node.items] <;> rfl

theorem jobList_ok_iff (document : Document) (rest rest' : List Item) (entries : List Node)
    (list : List Job) (fuel index : Nat) (enough : entries.length < fuel) :
    jobList document fuel index (Node.entryItems entries ++ .sequenceEnd :: rest) = .ok (list, rest') ↔
      List.Forall₂ (fun entry job => Job.IsIn job entry) entries list ∧ rest' = rest := by
  induction entries generalizing list fuel index with
  | nil =>
      obtain ⟨fuel, rfl⟩ := Nat.exists_eq_add_one_of_ne_zero (Nat.ne_zero_of_lt enough)
      simp [Node.entryItems, jobList, eq_comm]
  | cons entry entries ih =>
      obtain ⟨fuel, rfl⟩ := Nat.exists_eq_add_one_of_ne_zero (Nat.ne_zero_of_lt enough)
      have enough : entries.length < fuel := Nat.lt_of_succ_lt_succ enough
      have takes := (takes_job document).through document
      rw [Node.entryItems, List.append_assoc, jobList_node, bind_ok_iff]
      constructor
      · rintro ⟨⟨first, behind⟩, read, go⟩
        obtain ⟨described, rfl⟩ := (takes _ _ _ _).mp (under_ok_iff.mp read)
        obtain ⟨⟨others, behind⟩, read, ⟨⟩⟩ := bind_ok_iff.mp go
        obtain ⟨later, rfl⟩ := (ih others fuel (index + 1) enough).mp read
        exact ⟨.cons described later, rfl⟩
      · rintro ⟨described, rfl⟩
        cases described with
        | cons first later =>
            exact ⟨_, under_ok_iff.mpr ((takes _ _ _ _).mpr ⟨first, rfl⟩),
              bind_ok_iff.mpr ⟨_, (ih _ fuel (index + 1) enough).mpr ⟨later, rfl⟩, rfl⟩⟩

theorem takes_jobs (document : Document) :
    Takes (Decode.jobs document) (Config.Field.IsIn .jobs) := by
  intro node rest list rest'
  cases node with
  | scalar content style =>
      simp only [Decode.jobs, bind_ok_iff, opening_scalar_ok_iff, Config.Field.IsIn]
      constructor
      · rintro ⟨_, ⟨empty, rfl⟩, ⟨⟩⟩
        exact ⟨.inl ⟨empty, rfl⟩, rfl⟩
      · rintro ⟨⟨empty, rfl⟩ | ⟨_, ⟨⟩, _⟩, rfl⟩
        exact ⟨_, ⟨empty, rfl⟩, rfl⟩
  | mapping pairs =>
      simp [Config.Field.IsIn, Node.IsEmpty, Node.items, Decode.jobs, opening, opensSequence,
        refuse, reject, bind, Except.bind]
  | sequence entries =>
      have enough : entries.length <
          (Node.entryItems entries ++ .sequenceEnd :: rest).length + 1 := by
        have length := Node.length_le_entryItems entries
        rw [List.length_append]
        omega
      have read := jobList_ok_iff document rest rest' entries list _ 0 enough
      rw [Node.items, List.cons_append, List.append_assoc, List.singleton_append]
      simpa [Config.Field.IsIn, Node.IsEmpty, Decode.jobs, opening, opensSequence, bind,
        Except.bind] using read

/-! The batch. -/

theorem mem_fields_iff (name : String) :
    name ∈ fields ↔ ∃ field : Config.Field, field.name = name := by
  have listed : fields = Config.Field.all.map Config.Field.name := rfl
  simp only [listed, List.mem_map, Config.Field.mem_all, true_and]

def content (document : Document) : (field : Config.Field) → Reader field.Content
  | .launcher => filePath
  | .workerFlag | .runtime | .script => word
  | .jobs => Decode.jobs document

theorem takes_content (document : Document) (field : Config.Field) :
    Takes (content document field) field.IsIn := by
  cases field with
  | launcher | workerFlag | runtime | script => exact takes_text _
  | jobs => exact takes_jobs document

theorem put_name (document : Document) (field : Config.Field) (config : Config) :
    put document field.name config = fun items =>
      (through document (content document field) items).map fun (found, rest) =>
        (parts.symm (Function.update (parts config) field found), rest) := by
  cases field <;> rfl

theorem takes_put (document : Document) (field : Config.Field) (config : Config) :
    Takes (put document field.name config) fun after node =>
      ∃ found, field.IsIn found node ∧ parts after = Function.update (parts config) field found := by
  rw [put_name]
  exact ((takes_content document field).through document).update parts config field id

theorem takes_config (document : Document) :
    Takes (through document
        (mapping document "struct LauncherConfig" fields (put document) .builtin))
      (Told Config.Field.name parts Config.Field.IsIn .builtin) :=
  (takes_mapping document mem_fields_iff (fun _ _ => Config.Field.eq_of_word)
    (takes_put document) _ .builtin).through document

theorem told_iff_describes (root : Node) (config : Config) :
    Told Config.Field.name parts Config.Field.IsIn .builtin config root ↔
      Describes (some root) config := by
  constructor
  · rintro (⟨empty, same⟩ | ⟨pairs, fields, rfl, distinct, entries, kept⟩)
    · refine .inl ⟨?_, same⟩
      rintro _ ⟨⟩
      exact empty
    · exact .inr ⟨pairs, ⟨fields, distinct⟩, rfl, entries, kept⟩
  · rintro (⟨blank, same⟩ | ⟨pairs, selected, ⟨⟩, entries, kept⟩)
    · exact .inl ⟨blank root rfl, same⟩
    · exact .inr ⟨pairs, selected.fields, rfl, selected.nodup, entries, kept⟩

theorem document_ofTree (root : Option Node) (config : Config) :
    Decode.document (.ofTree root) = .ok config ↔ Describes root config := by
  cases root with
  | none =>
      have described : Describes none config ↔ .builtin = config := by
        simp [Describes, IsBlank, eq_comm]
      rw [described]
      exact ⟨Except.ok.inj, congrArg Except.ok⟩
  | some root =>
      have takes := takes_config (.ofTree root) root [] config
      rw [List.append_nil] at takes
      rw [Decode.document, bind_ok_iff, ← told_iff_describes]
      constructor
      · rintro ⟨⟨found, rest⟩, read, ⟨⟩⟩
        exact ((takes rest).mp read).1
      · intro told
        exact ⟨(config, []), (takes []).mpr ⟨told, rfl⟩, rfl⟩

end Config.Decode

namespace Config

/-- Of the documents that are trees exactly those of the right shape are read, and what is read is
what they describe. -/
theorem ofYaml_plain (text : String) (plain : (Document.ofText text).IsPlain) :
    ∃ root, Document.ofText text = .ofTree root ∧
      (∀ other, Document.ofText text = .ofTree other → other = root) ∧
      ((∃ config, ofYaml text = .ok config) ↔ Fits root) ∧
      ∀ config, ofYaml text = .ok config ↔ Describes root config := by
  obtain ⟨root, tree⟩ := Document.exists_tree plain
  have reads (config : Config) : ofYaml text = .ok config ↔ Describes root config := by
    rw [ofYaml, tree]
    exact Decode.document_ofTree root config
  refine ⟨root, tree, fun other same => ?_, ?_, reads⟩
  · rw [tree] at same
    exact (Document.ofTree_injective same).symm
  · simp only [reads, fits_iff]

/-- A job whose numbers are written in several ways, the last of them as large as can be. -/
theorem ofYaml_oneJob :
    let text := "launcher: srun\njobs:\n- dimension: 4294967295\n  worker_count: +6\n" ++
      "  algorithm: ~\n  problem_size: 0xc8\n  method: 'a b'\n  decomposition: qrt\n" ++
      "  distribution: 3.10\n"
    (Document.ofText text).IsPlain ∧ ∃ root, Document.ofText text = .ofTree root ∧
      Describes root ⟨⟨"srun", "-n", "python", "bulk_test.py"⟩,
        [⟨6, "~", 200, "a b", .qrt, "3.10", 4294967295⟩]⟩ := by
  intro text
  have plain : (Document.ofText text).IsPlain := by decide +kernel
  have read : ofYaml text = .ok ⟨⟨"srun", "-n", "python", "bulk_test.py"⟩,
      [⟨6, "~", 200, "a b", .qrt, "3.10", 4294967295⟩]⟩ := by decide +kernel
  obtain ⟨root, tree, -, -, reads⟩ := ofYaml_plain _ plain
  exact ⟨plain, root, tree, (reads _).mp read⟩

end Config
end BatchLaunch
