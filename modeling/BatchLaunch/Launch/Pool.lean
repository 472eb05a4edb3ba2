import BatchLaunch.Launch.Machine

/-!
The threads of a pool. A thread makes one wait at a time, and each wait is made by the thread that
is free first.
-/
namespace BatchLaunch

/-- How a program ends, and when, counted from the start of the waits. Some never do. -/
abbrev Ending := Option (Status × Nat)

namespace Pool

structure Wait where
  start : Nat
  finish : Nat
  waited : Waited
  deriving DecidableEq, Repr

/-- A wait that starts at some time. Without a bound it is given up if its program never ends. -/
def Wait.since (start : Nat) : Timeout → Ending → Wait
  | none, none => ⟨start, start, .failed "interrupted"⟩
  | none, some (status, time) => ⟨start, max start time, .ended status⟩
  | some bound, none => ⟨start, start + bound, .running⟩
  | some bound, some (status, time) =>
      if time ≤ start + bound then ⟨start, max start time, .ended status⟩
      else ⟨start, start + bound, .running⟩

variable {Child : Type}

def schedule (ending : Child → Ending) : List Nat → List (WaitCall Child) → List Wait
  | _, [] => []
  | free, call :: calls =>
      let start := free.min?.getD 0
      let wait := Wait.since start call.bound (ending call.child)
      wait :: schedule ending (wait.finish :: free.erase start) calls

def answersOf (waits : List Wait) : List (Nat × Waited) :=
  (waits.zipIdx.mergeSort fun one later => one.1.finish ≤ later.1.finish).map
    fun (wait, position) => (position, wait.waited)

end Pool
end BatchLaunch
