import BatchLaunch.Proofs.Config.Shape
import BatchLaunch.Proofs.Launch.Starts

/-!
A command tells what it is made of. Each argument spells one part of the settings or of the job and
nothing else, so no two jobs, and no two settings, come to one command.
-/
namespace BatchLaunch

def Job.Field.spelled : (field : Job.Field) → field.Content → String
  | workerCount, n | problemSize, n | dimension, n => decimal n
  | algorithm, text | method, text | distribution, text => text
  | decomposition, d => Decomposition.tag d

theorem Job.Field.spelled_injective (field : Job.Field) : Function.Injective field.spelled := by
  cases field with
  | workerCount | problemSize | dimension => exact fun _ _ => decimal_injective
  | algorithm | method | distribution => exact fun _ _ => id
  | decomposition => exact fun _ _ => Decomposition.tag_injective

namespace Invocation

inductive Slot where
  | workerFlag
  | runtime
  | script
  | field (field : Job.Field)
  deriving DecidableEq, Repr

namespace Slot

def order : List Slot :=
  [workerFlag, field .workerCount, runtime, script, field .algorithm, field .problemSize,
    field .method, field .decomposition, field .distribution, field .dimension]

def Content : Slot → Type
  | workerFlag | runtime | script => String
  | field f => f.Content

def content (settings : Settings) (job : Job) : (slot : Slot) → slot.Content
  | workerFlag => settings.workerFlag
  | runtime => settings.runtime
  | script => settings.script
  | field f => Job.parts job f

def spelled : (slot : Slot) → slot.Content → String
  | workerFlag, text | runtime, text | script, text => text
  | field f, content => f.spelled content

theorem spelled_injective (slot : Slot) : Function.Injective slot.spelled := by
  cases slot with
  | workerFlag | runtime | script => exact fun _ _ => id
  | field f => exact f.spelled_injective

theorem mem_order (slot : Slot) : slot ∈ order := by
  cases slot with
  | workerFlag | runtime | script => decide
  | field f => cases f <;> decide

end Slot

variable {settings other : Settings} {job job' : Job}

theorem args_ofJob (settings : Settings) (job : Job) : (ofJob settings job).args =
    Slot.order.map fun slot => slot.spelled (slot.content settings job) := rfl

theorem args_eq_iff : (ofJob settings job).args = (ofJob other job').args ↔
    ∀ slot : Slot, slot.content settings job = slot.content other job' := by
  rw [args_ofJob, args_ofJob, List.map_inj_left]
  constructor
  · exact fun same slot => slot.spelled_injective (same slot slot.mem_order)
  · exact fun same slot _ => congrArg slot.spelled (same slot)

theorem eq_of_content (launcher : settings.launcher = other.launcher)
    (same : ∀ slot : Slot, slot.content settings job = slot.content other job') :
    settings = other ∧ job = job' := by
  constructor
  · obtain ⟨_, _, _, _⟩ := settings
    obtain ⟨_, _, _, _⟩ := other
    obtain rfl := launcher
    obtain rfl := same .workerFlag
    obtain rfl := same .runtime
    obtain rfl := same .script
    rfl
  · exact Job.parts.injective (funext fun field => same (.field field))

theorem start_of_mem_requestsOf {Child : Type} {command : Invocation}
    {result : Except SpawnError Child} {program : String} {args : List String}
    (asked : .start program args ∈ Launch.requestsOf command result) :
    program = command.program ∧ args = command.args := by
  revert asked
  fun_cases Launch.requestsOf command result <;> simp

/-- The arguments are ten, one for each part and in one order, and each tells its part. So settings
and job are told by their command, and by the program and the arguments alone, which is all that an
attempt hands to a process. -/
theorem ofJob_tells :
    (∀ (settings : Settings) (job : Job),
      (ofJob settings job).args.length = 10 ∧
      (ofJob settings job).args =
        Slot.order.map fun slot => slot.spelled (slot.content settings job)) ∧
    Slot.order.Nodup ∧ (∀ slot : Slot, slot ∈ Slot.order ∧ Function.Injective slot.spelled) ∧
    (∀ (settings other : Settings) (job job' : Job),
      (ofJob settings job = ofJob other job' ↔ settings = other ∧ job = job') ∧
      ((ofJob settings job).program = (ofJob other job').program ∧
        (ofJob settings job).args = (ofJob other job').args ↔ settings = other ∧ job = job')) ∧
    ∀ (World Log Child : Type) (machine : Machine World Log Child) (settings : Settings)
      (dir : String) (job : Job) (world : World) (program : String) (args : List String),
      .start program args ∈
          (Detached.spawn (Launch.recording machine) settings dir job (world, [])).world.2 →
        program = (ofJob settings job).program ∧ args = (ofJob settings job).args := by
  have tells (settings other : Settings) (job job' : Job)
      (program : (ofJob settings job).program = (ofJob other job').program)
      (args : (ofJob settings job).args = (ofJob other job').args) :
      settings = other ∧ job = job' := eq_of_content program (args_eq_iff.mp args)
  refine ⟨fun settings job => ⟨rfl, args_ofJob settings job⟩, by decide,
    fun slot => ⟨slot.mem_order, slot.spelled_injective⟩, ?_, ?_⟩
  · intro settings other job job'
    constructor
    · constructor
      · intro same
        exact tells _ _ _ _ (congrArg program same) (congrArg Invocation.args same)
      · rintro ⟨rfl, rfl⟩
        rfl
    · constructor
      · rintro ⟨program, args⟩
        exact tells _ _ _ _ program args
      · rintro ⟨rfl, rfl⟩
        exact ⟨rfl, rfl⟩
  · intro World Log Child machine settings dir job world program args asked
    have recorded := (Launch.spawn_tried machine settings dir job world).recorded []
    have made := Launch.spawn_tried (Launch.recording machine) settings dir job (world, [])
    rw [(made.unique recorded).2, List.nil_append] at asked
    have started : program = (ofBatch settings dir job).program ∧
        args = (ofBatch settings dir job).args := start_of_mem_requestsOf asked
    exact started

end Invocation
end BatchLaunch
