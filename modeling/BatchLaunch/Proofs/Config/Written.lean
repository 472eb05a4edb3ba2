import BatchLaunch.Config.Table
import BatchLaunch.Proofs.Job.LogName
import BatchLaunch.Proofs.Yaml.Written

/-!
How a batch is written on one line: some of its fields in any order, and in each job all fields in
any order. Texts are quoted, counts and tags are bare.
-/
namespace BatchLaunch

open Yaml (Flow Word)

def Yaml.Word.ofCount (n : UInt32) : Word where
  text := decimal n
  nonempty := by
    rw [decimal, Nat.toList_repr]
    exact Nat.toDigits_ne_nil
  bare := fun c member => by
    rw [Yaml.isBare, Char.isAlphanum, isDigit_of_mem_decimal member, Bool.or_true, Bool.true_or]
  short := by
    have digits : (decimal n).toList.length ≤ 10 := by
      rw [decimal, Nat.toList_repr, Nat.length_toDigits_le_iff (by decide) (by decide)]
      exact Nat.lt_trans n.toNat_lt (by decide)
    exact Nat.le_trans digits (by decide)

def Yaml.Word.ofTag (d : Decomposition) : Word where
  text := d.tag
  nonempty := by cases d <;> decide
  bare := List.all_eq_true.mp (by cases d <;> rfl)
  short := by cases d <;> decide

namespace Job

inductive Field where
  | workerCount
  | algorithm
  | problemSize
  | method
  | decomposition
  | distribution
  | dimension
  deriving DecidableEq, Repr

namespace Field

def all : List Field :=
  [workerCount, algorithm, problemSize, method, decomposition, distribution, dimension]

def name : Field → String
  | workerCount => "worker_count"
  | algorithm => "algorithm"
  | problemSize => "problem_size"
  | method => "method"
  | decomposition => "decomposition"
  | distribution => "distribution"
  | dimension => "dimension"

def word (field : Field) : Word where
  text := field.name
  nonempty := by cases field <;> decide
  bare := List.all_eq_true.mp (by cases field <;> rfl)
  short := by cases field <;> decide

def value (job : Job) : Field → Flow
  | workerCount => .word (.ofCount job.workerCount)
  | algorithm => .quoted job.algorithm
  | problemSize => .word (.ofCount job.problemSize)
  | method => .quoted job.method
  | decomposition => .word (.ofTag job.decomposition)
  | distribution => .quoted job.distribution
  | dimension => .word (.ofCount job.dimension)

theorem mem_all (field : Field) : field ∈ all := by cases field <;> decide

theorem eq_of_word {a b : Field} (same : a.word.text = b.word.text) : a = b :=
  (by decide : ∀ a ∈ all, ∀ b ∈ all, a.name = b.name → a = b) a (mem_all a) b (mem_all b) same

end Field

structure Order where
  fields : List Field
  perm : fields.Perm Field.all

namespace Order

def declared : Order := ⟨Field.all, .rfl⟩

theorem mem_fields (order : Order) (field : Field) : field ∈ order.fields :=
  order.perm.mem_iff.mpr field.mem_all

theorem nodup_fields (order : Order) : order.fields.Nodup := order.perm.nodup_iff.mpr (by decide)

end Order

def flow (order : Order) (job : Job) : Flow :=
  .mapping (order.fields.map fun field => (field.word, field.value job))

end Job

namespace Config

inductive Field where
  | launcher
  | workerFlag
  | runtime
  | script
  | jobs
  deriving DecidableEq, Repr

namespace Field

def all : List Field := [launcher, workerFlag, runtime, script, jobs]

def name : Field → String
  | launcher => "launcher"
  | workerFlag => "worker_flag"
  | runtime => "runtime"
  | script => "script"
  | jobs => "jobs"

def word (field : Field) : Word where
  text := field.name
  nonempty := by cases field <;> decide
  bare := List.all_eq_true.mp (by cases field <;> rfl)
  short := by cases field <;> decide

/-- `orders` gives each job by its position the order of its fields. -/
def value (config : Config) (orders : Nat → Job.Order) : Field → Flow
  | launcher => .quoted config.settings.launcher
  | workerFlag => .quoted config.settings.workerFlag
  | runtime => .quoted config.settings.runtime
  | script => .quoted config.settings.script
  | jobs => .sequence (config.jobs.mapIdx fun position job => job.flow (orders position))

theorem mem_all (field : Field) : field ∈ all := by cases field <;> decide

theorem eq_of_word {a b : Field} (same : a.word.text = b.word.text) : a = b :=
  (by decide : ∀ a ∈ all, ∀ b ∈ all, a.name = b.name → a = b) a (mem_all a) b (mem_all b) same

end Field

/-- The fields that are written, in their order. -/
structure Selected where
  fields : List Field
  nodup : fields.Nodup

def Selected.all : Selected := ⟨Field.all, by decide⟩

def flow (config : Config) (selected : Selected) (orders : Nat → Job.Order) : Flow :=
  .mapping (selected.fields.map fun field => (field.word, field.value config orders))

/-- Some fields of a batch as one line of YAML. -/
def written (config : Config) (selected : Selected) (orders : Nat → Job.Order) : String :=
  (config.flow selected orders).text

/-- The built-in batch with some fields of another one. -/
def overlay (config : Config) (fields : List Field) : Config where
  settings := {
    launcher := if .launcher ∈ fields then config.settings.launcher else builtin.settings.launcher
    workerFlag :=
      if .workerFlag ∈ fields then config.settings.workerFlag else builtin.settings.workerFlag
    runtime := if .runtime ∈ fields then config.settings.runtime else builtin.settings.runtime
    script := if .script ∈ fields then config.settings.script else builtin.settings.script }
  jobs := if .jobs ∈ fields then config.jobs else builtin.jobs

theorem overlay_reverse (config : Config) (fields : List Field) :
    config.overlay fields.reverse = config.overlay fields := by
  simp only [overlay, List.mem_reverse]

theorem overlay_all (config : Config) : config.overlay Field.all = config := by
  simp only [overlay, Field.mem_all, if_true]

end Config
end BatchLaunch
