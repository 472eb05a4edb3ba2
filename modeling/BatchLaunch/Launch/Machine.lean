import BatchLaunch.LogLine
import BatchLaunch.Text.Utf8

/-!
What a run asks of the machine it runs on. A run is written against these requests alone, so what
is said of it holds for every machine that answers them.
-/
namespace BatchLaunch

/-- How a program that ended, ended. -/
inductive Status where
  | exited (code : Int)
  | signalled (signal : Int)
  deriving DecidableEq, Repr

inductive Waited where
  | ended (status : Status)
  /-- The bound on waiting passed first. -/
  | running
  | failed (message : String)
  deriving DecidableEq, Repr

/-- A bound on waiting, in microseconds. -/
abbrev Timeout := Option Nat

inductive WaitCall (Child : Type) where
  | wait (child : Child)
  | waitTimeout (child : Child) (bound : Nat)
  deriving DecidableEq, Repr

namespace WaitCall

variable {Child : Type}

def child : WaitCall Child → Child
  | wait child => child
  | waitTimeout child _ => child

def bound : WaitCall Child → Timeout
  | wait _ => none
  | waitTimeout _ bound => some bound

end WaitCall

structure Machine (World Log Child : Type) where
  read : World → String → Option Octets
  /-- For a regular file, whether somebody may execute it. -/
  executable? : World → String → Option Bool
  searchPath : World → Option String
  openLog : World → String → Option Log × World
  /-- A second handle on an open log, which writes where the first one does. -/
  copyLog : World → Log → Option Log × World
  /-- Starts a program with its output going to one open log and its errors to another. -/
  start : World → String → List String → Log → Log → Option Child × World
  /-- Sets up so many threads, and tells whether they could be had. -/
  buildPool : World → Nat → Bool × World
  /-- Makes some waits on so many threads. The answers come in the order in which the waits end,
  each with the position of its own. -/
  await : World → Nat → List (WaitCall Child) → List (Nat × Waited) × World

/-- What a step of a launch gives: its value, the machine after it, and what it logged. -/
structure Done (World α : Type) where
  value : α
  world : World
  log : List LogLine

end BatchLaunch
