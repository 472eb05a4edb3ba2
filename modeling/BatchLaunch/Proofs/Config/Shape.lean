import BatchLaunch.Proofs.Config.Written
import BatchLaunch.Proofs.Yaml.Number
import BatchLaunch.Proofs.Yaml.Tree

/-!
Which trees describe a batch, and which batch. A job has all its fields, each once. Of a batch some
may be absent, and these keep their built-in values.
-/
namespace BatchLaunch

open Yaml (Node Numeral)

namespace Yaml.Node

def IsText (node : Node) (text : String) : Prop := ∃ style, node = .scalar text style

def IsCount (node : Node) (n : UInt32) : Prop :=
  ∃ text, node = .scalar text .plain ∧ Numeral text.toList n.toNat

def IsEmpty (node : Node) : Prop := node = .scalar "" .plain

def Entries {φ : Type} (name : φ → String) (holds : φ → Node → Prop) (pairs : List (Node × Node))
    (fields : List φ) : Prop :=
  List.Forall₂ (fun pair field => pair.1.IsText (name field) ∧ holds field pair.2) pairs fields

namespace Entries

variable {φ : Type} {name : φ → String} {holds weaker : φ → Node → Prop}
  {pairs : List (Node × Node)} {fields : List φ}

theorem mono (entries : Entries name holds pairs fields)
    (follows : ∀ field ∈ fields, ∀ node, holds field node → weaker field node) :
    Entries name weaker pairs fields := by
  induction entries with
  | nil => exact .nil
  | cons entry _ ih =>
      exact .cons ⟨entry.1, follows _ List.mem_cons_self _ entry.2⟩
        (ih fun field member => follows field (List.mem_cons_of_mem _ member))

theorem exists_parts {Content : φ → Type} {IsIn : (field : φ) → Content field → Node → Prop}
    (start : (field : φ) → Content field) (distinct : fields.Nodup)
    (entries : Entries name (fun field node => ∃ content, IsIn field content node) pairs fields) :
    ∃ parts : (field : φ) → Content field,
      Entries name (fun field => IsIn field (parts field)) pairs fields ∧
        ∀ field ∉ fields, parts field = start field := by
  classical
  induction entries with
  | nil => exact ⟨start, .nil, fun _ _ => rfl⟩
  | @cons pair field pairs fields entry _ ih =>
      obtain ⟨unmet, distinct⟩ := List.nodup_cons.mp distinct
      obtain ⟨parts, described, kept⟩ := ih distinct
      obtain ⟨key, content, value⟩ := entry
      refine ⟨Function.update parts field content, .cons ⟨key, ?_⟩ (described.mono ?_), ?_⟩
      · simpa only [Function.update_self] using value
      · intro other member node value
        rwa [Function.update_of_ne (ne_of_mem_of_not_mem member unmet)]
      · intro other absent
        rw [List.mem_cons, not_or] at absent
        rw [Function.update_of_ne absent.1, kept other absent.2]

end Entries

end Yaml.Node

namespace Job

namespace Field

def Content : Field → Type
  | workerCount | problemSize | dimension => UInt32
  | algorithm | method | distribution => String
  | decomposition => Decomposition

def IsIn : (field : Field) → field.Content → Node → Prop
  | workerCount, n, node | problemSize, n, node | dimension, n, node => node.IsCount n
  | algorithm, text, node | method, text, node | distribution, text, node => node.IsText text
  | decomposition, d, node => node.IsText (Decomposition.tag d)

def Admits : Field → Node → Prop
  | workerCount, node | problemSize, node | dimension, node =>
      ∃ text n, node = .scalar text .plain ∧ Numeral text.toList n ∧ n < UInt32.size
  | algorithm, node | method, node | distribution, node => ∃ text style, node = .scalar text style
  | decomposition, node => ∃ d style, node = .scalar (Decomposition.tag d) style

theorem count_admits_iff {node : Node} :
    (∃ text n, node = .scalar text .plain ∧ Numeral text.toList n ∧ n < UInt32.size) ↔
      ∃ n, node.IsCount n := by
  constructor
  · rintro ⟨text, n, scalar, numeral, small⟩
    exact ⟨.ofNat n, text, scalar, by rwa [UInt32.toNat_ofNat_of_lt' small]⟩
  · rintro ⟨n, text, scalar, numeral⟩
    exact ⟨text, n.toNat, scalar, numeral, n.toNat_lt⟩

theorem admits_iff (field : Field) {node : Node} :
    field.Admits node ↔ ∃ content, field.IsIn content node := by
  cases field with
  | workerCount | problemSize | dimension => exact count_admits_iff
  | algorithm | method | distribution => rfl
  | decomposition => rfl

end Field

def parts : Job ≃ ((field : Field) → field.Content) where
  toFun job
    | .workerCount => job.workerCount
    | .algorithm => job.algorithm
    | .problemSize => job.problemSize
    | .method => job.method
    | .decomposition => job.decomposition
    | .distribution => job.distribution
    | .dimension => job.dimension
  invFun contents := ⟨contents .workerCount, contents .algorithm, contents .problemSize,
    contents .method, contents .decomposition, contents .distribution, contents .dimension⟩
  left_inv _ := rfl
  right_inv contents := by
    funext field
    cases field <;> rfl

def IsIn (job : Job) (node : Node) : Prop :=
  ∃ (pairs : List (Node × Node)) (order : Order), node = .mapping pairs ∧
    Node.Entries Field.name (fun field => field.IsIn (parts job field)) pairs order.fields

/-- A node has the shape of a job. -/
def Fits (node : Node) : Prop :=
  ∃ (pairs : List (Node × Node)) (order : Order), node = .mapping pairs ∧
    Node.Entries Field.name Field.Admits pairs order.fields

theorem fits_iff {node : Node} : Fits node ↔ ∃ job : Job, job.IsIn node := by
  constructor
  · rintro ⟨pairs, order, rfl, entries⟩
    obtain ⟨contents, described, -⟩ := Node.Entries.exists_parts
      (parts ⟨0, "", 0, "", .tvb, "", 0⟩) order.nodup_fields
      (entries.mono fun field _ _ => field.admits_iff.mp)
    exact ⟨parts.symm contents, pairs, order, rfl, by rwa [parts.apply_symm_apply]⟩
  · rintro ⟨job, pairs, order, rfl, entries⟩
    exact ⟨pairs, order, rfl, entries.mono fun field _ _ value => field.admits_iff.mpr ⟨_, value⟩⟩

end Job

namespace Config

namespace Field

def Content : Field → Type
  | launcher | workerFlag | runtime | script => String
  | jobs => List Job

def IsIn : (field : Field) → field.Content → Node → Prop
  | launcher, text, node | workerFlag, text, node | runtime, text, node | script, text, node =>
      node.IsText text
  | jobs, list, node => (node.IsEmpty ∧ list = []) ∨
      ∃ entries, node = .sequence entries ∧ List.Forall₂ (fun entry job => job.IsIn entry) entries list

def Admits : Field → Node → Prop
  | launcher, node | workerFlag, node | runtime, node | script, node =>
      ∃ text style, node = .scalar text style
  | jobs, node =>
      node.IsEmpty ∨ ∃ entries, node = .sequence entries ∧ ∀ entry ∈ entries, Job.Fits entry

theorem jobs_fit_iff {entries : List Node} :
    (∀ entry ∈ entries, Job.Fits entry) ↔
      ∃ list : List Job, List.Forall₂ (fun entry job => job.IsIn entry) entries list := by
  induction entries with
  | nil => exact ⟨fun _ => ⟨[], .nil⟩, fun _ _ member => nomatch member⟩
  | cons entry entries ih =>
      rw [List.forall_mem_cons, Job.fits_iff, ih]
      constructor
      · rintro ⟨⟨job, first⟩, list, others⟩
        exact ⟨job :: list, .cons first others⟩
      · rintro ⟨_, _ | ⟨first, others⟩⟩
        exact ⟨⟨_, first⟩, _, others⟩

theorem admits_iff (field : Field) {node : Node} :
    field.Admits node ↔ ∃ content, field.IsIn content node := by
  cases field with
  | launcher | workerFlag | runtime | script => rfl
  | jobs =>
      constructor
      · rintro (empty | ⟨entries, sequence, fit⟩)
        · exact ⟨[], .inl ⟨empty, rfl⟩⟩
        · obtain ⟨list, described⟩ := jobs_fit_iff.mp fit
          exact ⟨list, .inr ⟨entries, sequence, described⟩⟩
      · rintro ⟨list, ⟨empty, -⟩ | ⟨entries, sequence, described⟩⟩
        · exact .inl empty
        · exact .inr ⟨entries, sequence, jobs_fit_iff.mpr ⟨list, described⟩⟩

end Field

def parts : Config ≃ ((field : Field) → field.Content) where
  toFun config
    | .launcher => config.settings.launcher
    | .workerFlag => config.settings.workerFlag
    | .runtime => config.settings.runtime
    | .script => config.settings.script
    | .jobs => config.jobs
  invFun contents := ⟨⟨contents .launcher, contents .workerFlag, contents .runtime,
    contents .script⟩, contents .jobs⟩
  left_inv _ := rfl
  right_inv contents := by
    funext field
    cases field <;> rfl

def IsBlank (root : Option Node) : Prop := ∀ node ∈ root, node.IsEmpty

/-- A tree describes a batch. -/
def Describes (root : Option Node) (config : Config) : Prop :=
  (IsBlank root ∧ config = builtin) ∨
    ∃ (pairs : List (Node × Node)) (selected : Selected), root = some (.mapping pairs) ∧
      Node.Entries Field.name (fun field => field.IsIn (parts config field)) pairs
        selected.fields ∧
      ∀ field ∉ selected.fields, parts config field = parts builtin field

/-- A tree has the shape of a batch. -/
def Fits (root : Option Node) : Prop :=
  IsBlank root ∨
    ∃ (pairs : List (Node × Node)) (selected : Selected), root = some (.mapping pairs) ∧
      Node.Entries Field.name Field.Admits pairs selected.fields

theorem fits_iff {root : Option Node} : Fits root ↔ ∃ config, Describes root config := by
  constructor
  · rintro (blank | ⟨pairs, selected, rfl, entries⟩)
    · exact ⟨builtin, .inl ⟨blank, rfl⟩⟩
    · obtain ⟨contents, described, kept⟩ := Node.Entries.exists_parts (parts builtin)
        selected.nodup (entries.mono fun field _ _ => field.admits_iff.mp)
      rw [← parts.apply_symm_apply contents] at described kept
      exact ⟨parts.symm contents, .inr ⟨pairs, selected, rfl, described, kept⟩⟩
  · rintro ⟨config, ⟨blank, -⟩ | ⟨pairs, selected, rfl, entries, -⟩⟩
    · exact .inl blank
    · exact .inr ⟨pairs, selected, rfl,
        entries.mono fun field _ _ value => field.admits_iff.mpr ⟨_, value⟩⟩

end Config
end BatchLaunch
