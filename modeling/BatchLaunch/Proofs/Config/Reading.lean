import BatchLaunch.Config.Decode
import BatchLaunch.Proofs.Config.Written
import BatchLaunch.Proofs.Yaml.Events
import BatchLaunch.Proofs.Yaml.Number

/-!
A batch that is written on one line is read back from it, whichever of its fields are written and in
which order. What is not written keeps its built-in value.
-/
namespace BatchLaunch

open Yaml (Document Flow Item Word)

namespace Config.Decode

theorem length_le_length_flatMap {α β : Type} {f : α → List β} (inhabited : ∀ a, f a ≠ [])
    (elements : List α) : elements.length ≤ (elements.flatMap f).length := by
  induction elements with
  | nil => exact Nat.le_refl 0
  | cons a elements ih =>
      have one : 0 < (f a).length := List.length_pos_iff.mpr (inhabited a)
      rw [List.flatMap_cons, List.length_append, List.length_cons]
      omega

/-! A mapping whose keys are some fields, each at most once. `gather` says what is gathered from the
fields met, the last one first. -/

section Fields

variable {φ δ : Type} {document : Document} {known : List String} {put : String → δ → Reader δ}
  {word : φ → Word} {value : φ → Flow} {gather : List φ → δ}
  (listed : ∀ field, (word field).text ∈ known)
  (apart : ∀ a b, (word a).text = (word b).text → a = b)
  (puts : ∀ field met rest, put (word field).text (gather met) ((value field).items ++ rest) =
    .ok (gather (field :: met), rest))

include listed apart puts

theorem entries_fields (rest : List Item) (fields met : List φ) (fuel : Nat)
    (distinct : (fields.reverse ++ met).Nodup) (enough : fields.length < fuel) :
    entries document known put fuel (met.map fun field => (word field).text) (gather met)
        ((fields.map fun field => (word field, value field)).flatMap Flow.pairItems ++
          .mappingEnd :: rest) =
      .ok (gather (fields.reverse ++ met), rest) := by
  induction fields generalizing met fuel with
  | nil =>
      obtain ⟨fuel, rfl⟩ := Nat.exists_eq_add_one_of_ne_zero (Nat.ne_zero_of_lt enough)
      rfl
  | cons field fields ih =>
      obtain ⟨fuel, rfl⟩ := Nat.exists_eq_add_one_of_ne_zero (Nat.ne_zero_of_lt enough)
      rw [List.reverse_cons, List.append_assoc, List.singleton_append] at distinct ⊢
      have unmet : field ∉ met := (List.nodup_cons.mp (List.nodup_append.mp distinct).2.1).1
      have key : known.contains (word field).text = true := List.contains_iff_mem.mpr (listed field)
      -- A field is met once only, so its key is not among those seen.
      have fresh : (met.map fun field => (word field).text).contains (word field).text = false := by
        rw [← Bool.not_eq_true, List.contains_iff_mem, List.mem_map]
        rintro ⟨other, member, same⟩
        exact unmet (apart other field same ▸ member)
      have later := ih (field :: met) fuel distinct (Nat.lt_of_succ_lt_succ enough)
      rw [List.map_cons, List.flatMap_cons, List.append_assoc, Flow.pairItems, List.cons_append,
        entries]
      · simp only [through, fieldName, text, bind, Except.bind, key, fresh, puts, under_ok]
        exact later
      · nofun

theorem mapping_fields (expected : String) {fields : List φ} (distinct : fields.Nodup)
    (rest : List Item) :
    mapping document expected known put (gather [])
        ((Flow.mapping (fields.map fun field => (word field, value field))).items ++ rest) =
      .ok (gather fields.reverse, rest) := by
  have enough : fields.length ≤
      ((fields.map fun field => (word field, value field)).flatMap Flow.pairItems).length := by
    have length := length_le_length_flatMap Flow.pairItems_ne_nil
      (fields.map fun field => (word field, value field))
    rwa [List.length_map] at length
  have unmet : (fields.reverse ++ []).Nodup := by
    rw [List.append_nil]
    exact (List.reverse_perm fields).nodup_iff.mpr distinct
  rw [Flow.items_mapping, List.cons_append, List.append_assoc]
  simp only [mapping, opening, opensMapping, bind, Except.bind, if_true, List.singleton_append]
  rw [← List.append_nil fields.reverse]
  exact entries_fields listed apart puts rest fields [] _ unmet
    (by rw [List.length_append]; omega)

end Fields

/-! The fields of a job. -/

section Job

variable (document : Document)

theorem through_text (expected written : String) (rest : List Item) :
    through document (text expected) ((Flow.quoted written).items ++ rest) =
      .ok (written, rest) := rfl

theorem through_count (n : UInt32) (rest : List Item) :
    through document count ((Flow.word (.ofCount n)).items ++ rest) = .ok (n, rest) := by
  have number : Yaml.unsigned? (Word.ofCount n).text = some n.toNat := Yaml.unsigned?_decimal n
  have items : (Flow.word (.ofCount n)).items = [.scalar none (Word.ofCount n).text .plain] := rfl
  rw [items, List.singleton_append]
  simp only [through, count, isNumeric, if_true, number, n.toNat_lt, UInt32.ofNat_toNat]

theorem through_decomposition (d : Decomposition) (rest : List Item) :
    through document decomposition ((Flow.word (.ofTag d)).items ++ rest) = .ok (d, rest) := by
  cases d <;> rfl

namespace JobDraft

def ofFields (job : Job) (fields : List Job.Field) : JobDraft where
  workerCount := if .workerCount ∈ fields then some job.workerCount else none
  algorithm := if .algorithm ∈ fields then some job.algorithm else none
  problemSize := if .problemSize ∈ fields then some job.problemSize else none
  method := if .method ∈ fields then some job.method else none
  decomposition := if .decomposition ∈ fields then some job.decomposition else none
  distribution := if .distribution ∈ fields then some job.distribution else none
  dimension := if .dimension ∈ fields then some job.dimension else none

theorem put_field (job : Job) (field : Job.Field) (met : List Job.Field) (rest : List Item) :
    put document field.word.text (ofFields job met) ((field.value job).items ++ rest) =
      .ok (ofFields job (field :: met), rest) := by
  cases field <;>
    simp [put, Job.Field.word, Job.Field.name, Job.Field.value, word, through_text, through_count,
      through_decomposition, Except.map, ofFields]

theorem finish_ofFields (job : Job) {fields : List Job.Field} (full : ∀ field, field ∈ fields) :
    (ofFields job fields).finish = .ok job := by
  simp only [ofFields, full, if_true]
  rfl

end JobDraft

theorem job_flow (job : Job) (order : Job.Order) (rest : List Item) :
    Decode.job document ((job.flow order).items ++ rest) = .ok (job, rest) := by
  have read : mapping document "struct JobDescriptor" JobDraft.fields (JobDraft.put document)
      .empty ((job.flow order).items ++ rest) =
        .ok (JobDraft.ofFields job order.fields.reverse, rest) :=
    mapping_fields (fun field => by cases field <;> decide) (fun _ _ => Job.Field.eq_of_word)
      (JobDraft.put_field document job) _ order.nodup_fields rest
  have full := JobDraft.finish_ofFields job fun field =>
    List.mem_reverse.mpr (order.mem_fields field)
  simp only [Decode.job, read, bind, Except.bind, full]

theorem jobList_flow (job : Job) (order : Job.Order) (fuel index : Nat) (rest : List Item) :
    jobList document (fuel + 1) index ((job.flow order).items ++ rest) =
      (jobList document fuel (index + 1) rest).map fun (others, rest) => (job :: others, rest) := by
  have first := job_flow document job order rest
  rw [Job.flow, Flow.items_mapping, List.cons_append] at first ⊢
  rw [jobList]
  · simp only [through, first, bind, Except.bind, under_ok]
    cases jobList document fuel (index + 1) rest <;> rfl
  · nofun
  · nofun

theorem jobList_flows (rest : List Item) (jobs : List Job) (orders : Nat → Job.Order)
    (fuel index : Nat) (enough : jobs.length < fuel) :
    jobList document fuel index ((jobs.mapIdx fun position job => job.flow (orders position)).flatMap
        Flow.items ++ .sequenceEnd :: rest) = .ok (jobs, rest) := by
  induction jobs generalizing orders fuel index with
  | nil =>
      obtain ⟨fuel, rfl⟩ := Nat.exists_eq_add_one_of_ne_zero (Nat.ne_zero_of_lt enough)
      rfl
  | cons job jobs ih =>
      -- Behind the first job every position is one less.
      obtain ⟨fuel, rfl⟩ := Nat.exists_eq_add_one_of_ne_zero (Nat.ne_zero_of_lt enough)
      have later := ih (fun position => orders (position + 1)) fuel (index + 1)
        (Nat.lt_of_succ_lt_succ enough)
      rw [List.mapIdx_cons, List.flatMap_cons, List.append_assoc, jobList_flow, later]
      rfl

theorem through_jobs (jobs : List Job) (orders : Nat → Job.Order) (rest : List Item) :
    through document (Decode.jobs document) ((Flow.sequence (jobs.mapIdx fun position job =>
        job.flow (orders position))).items ++ rest) = .ok (jobs, rest) := by
  have entries : jobs.length ≤ ((jobs.mapIdx fun position job =>
      job.flow (orders position)).flatMap Flow.items).length := by
    have length := length_le_length_flatMap Flow.items_ne_nil
      (jobs.mapIdx fun position job => job.flow (orders position))
    rwa [List.length_mapIdx] at length
  have read := jobList_flows document rest jobs orders
    (((jobs.mapIdx fun position job => job.flow (orders position)).flatMap Flow.items ++
      .sequenceEnd :: rest).length + 1) 0 (by rw [List.length_append]; omega)
  rw [Flow.items_sequence, List.cons_append, List.append_assoc]
  simp only [through, Decode.jobs, opening, opensSequence, bind, Except.bind, if_true,
    List.singleton_append, read]

end Job

/-! The batch. -/

section Batch

variable (source : Document)

theorem put_field (config : Config) (orders : Nat → Job.Order) (field : Config.Field)
    (met : List Config.Field) (rest : List Item) :
    put source field.word.text (config.overlay met) ((field.value config orders).items ++ rest) =
      .ok (config.overlay (field :: met), rest) := by
  cases field <;>
    simp [put, Config.Field.word, Config.Field.name, Config.Field.value, filePath, word,
      through_text, through_jobs, Except.map, overlay]

theorem through_flow (config : Config) (selected : Selected) (orders : Nat → Job.Order)
    (rest : List Item) :
    through source (mapping source "struct LauncherConfig" fields (put source) .builtin)
        ((config.flow selected orders).items ++ rest) =
      .ok (config.overlay selected.fields, rest) := by
  have read : mapping source "struct LauncherConfig" fields (put source) .builtin
      ((config.flow selected orders).items ++ rest) =
        .ok (config.overlay selected.fields.reverse, rest) :=
    mapping_fields (fun field => by cases field <;> decide) (fun _ _ => Config.Field.eq_of_word)
      (put_field source config orders) _ selected.nodup rest
  rw [overlay_reverse] at read
  rw [Config.flow, Flow.items_mapping, List.cons_append] at read ⊢
  exact read

end Batch

theorem document_written (config : Config) (selected : Selected) (orders : Nat → Job.Order) :
    Decode.document (.ofText (config.written selected orders)) =
      .ok (config.overlay selected.fields) := by
  have text : Document.ofText (config.written selected orders) =
      ⟨(config.flow selected orders).items, [], true, true⟩ := Document.ofText_mapping _
  have read := through_flow ⟨(config.flow selected orders).items, [], true, true⟩ config selected
    orders []
  rw [List.append_nil] at read
  simp only [text, Decode.document, read, bind, Except.bind, Bool.and_self, if_true]

end Config.Decode

namespace Config

/-- What is written of a batch is read back, and everything else keeps its built-in value. -/
theorem ofYaml_written :
    (∀ (config : Config) (selected : Selected) (orders : Nat → Job.Order),
      ofYaml (config.written selected orders) = .ok (config.overlay selected.fields)) ∧
    ofYaml "" = .ok .builtin ∧ ofYaml "\x7b\x7d" = .ok .builtin :=
  ⟨Decode.document_written, rfl, rfl⟩

theorem exists_ofYaml (config : Config) : ∃ text, ofYaml text = .ok config :=
  ⟨config.written .all fun _ => .declared, by
    rw [ofYaml, Decode.document_written, Selected.all, overlay_all]⟩

example : Config.written ⟨⟨"srun", "-n", "m4 ", "é"⟩, []⟩ ⟨[.script, .jobs, .runtime], by decide⟩
    (fun _ => .declared) =
    "\x7bscript: \"\\U000000e9\", jobs: [], runtime: \"m4\\U00000020\"\x7d" := by
  decide

end Config
end BatchLaunch
