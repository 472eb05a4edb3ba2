import BatchLaunch.Host.Files
import BatchLaunch.Launch.Machine

/-!
Programs as the system sees them: trees of requests, each with what is done for every reply. What a
program computes between two requests is not visible.
-/
namespace BatchLaunch.Host

abbrev Descriptor := Nat

def firstPrivate : Descriptor := 10

abbrev Pid := Nat

abbrev Signal := Nat

inductive Disposition where
  | normal
  | ignored
  | caught
  deriving DecidableEq, Repr

inductive OpenMode where
  | read
  | write
  | append
  | readWrite
  | keep
  deriving DecidableEq, Repr

inductive Kind where
  | file
  | directory
  | link
  | device
  | pipe
  deriving DecidableEq, Repr

structure Info where
  kind : Kind
  node : NodeId
  mode : Nat
  size : Nat
  links : Nat
  own : Bool
  /-- The last change, in nanoseconds since the beginning of 1970. -/
  modified : Int
  deriving DecidableEq, Repr

def Info.grants (info : Info) (bits : Nat) : Bool :=
  (⟨info.mode, info.own, info.modified⟩ : Attributes).grants bits

inductive Call where
  | read (source : Descriptor) (count : Nat)
  | write (target : Descriptor) (octets : Octets)
  | open (path : Octets) (mode : OpenMode)
  | close (descriptor : Descriptor)
  /-- Makes the second descriptor mean what the first does. -/
  | duplicate (source target : Descriptor)
  /-- A copy of a descriptor at the least free place from a number on. -/
  | save (source least : Descriptor)
  | pipe
  | wait (child : Option Pid)
  | check (child : Pid)
  | kill (target : Int) (signal : Signal)
  | sleep (microseconds : Nat)
  | pid
  | parent
  /-- Becomes the first of a new group, or of a new session if it leads no group yet. -/
  | lead (session : Bool)
  | setDisposition (signal : Signal) (disposition : Disposition)
  /-- The caught signals that arrived since the last time, in order. -/
  | takeSignals
  | changeDir (path : Octets)
  | workingDir
  | info (path : Octets) (follow : Bool)
  | list (path : Octets)
  | makeDir (path : Octets) (mode : Nat)
  | makePipe (path : Octets) (mode : Nat)
  | remove (path : Octets)
  | removeDir (path : Octets)
  | rename (old new : Octets)
  | makeLink (target path : Octets)
  | readLink (path : Octets)
  /-- Gives what has the first path the second one too. -/
  | addName (old new : Octets)
  | setMode (path : Octets) (mode : Nat)
  /-- Sets the time of the last change, to now if none is given. -/
  | setTime (path : Octets) (time : Option Int)
  | setLength (target : Descriptor) (length : Nat)
  /-- Goes back by so many octets, to the place that is answered. -/
  | rewind (source : Descriptor) (count : Nat)
  /-- The permissions that new files do not get; sets them if some are given. -/
  | mask (bits : Option Nat)
  /-- Nanoseconds since the beginning of 1970. -/
  | time
  | pause
  deriving DecidableEq, Repr

inductive Reply where
  | done (value : Nat)
  | octets (octets : Octets)
  | descriptors (readEnd writeEnd : Descriptor)
  | ended (child : Pid) (status : Status)
  | signals (signals : List Signal)
  | info (info : Info)
  | names (names : List Octets)
  | refused (errno : Errno)
  deriving DecidableEq, Repr

abbrev Environment := List (Octets × Octets)

inductive Program where
  | exit (code : Nat)
  | call (call : Call) (next : Reply → Program)
  /-- Goes on twice: as a new task, and with the number of that task. -/
  | fork (child : Program) (next : Pid → Program)
  /-- Becomes the program at a path, unless there is none that can be started. -/
  | become (path : Octets) (args : List Octets) (environment : Environment)
      (failed : Errno → Program)

def Action (α : Type) : Type := (α → Program) → Program

namespace Action

instance : Monad Action where
  pure value := fun next => next value
  bind action use := fun next => action fun value => use value next

def exit {α : Type} (code : Nat) : Action α := fun _ => .exit code

def call (request : Call) : Action Reply := fun next => .call request next

def program (action : Action Nat) : Program := action .exit

def fork (child : Action Nat) : Action Pid := fun next => .fork child.program next

/-- Becomes another program; what comes after is done only if that is refused. -/
def become (path : Octets) (args : List Octets) (environment : Environment) : Action Errno :=
  fun next => .become path args environment next

/-- Writes everything, in as many requests as it takes. The answer tells whether that worked. -/
def writeAll (target : Descriptor) : Nat → Octets → Action Bool
  | 0, octets => pure octets.isEmpty
  | fuel + 1, octets =>
      if octets.isEmpty then pure true
      else do
        match ← call (.write target octets) with
        | .done count => writeAll target fuel (octets.drop count)
        | _ => pure false

def write (target : Descriptor) (octets : Octets) : Action Bool :=
  writeAll target (octets.length + 1) octets

def readAll (source : Descriptor) : Nat → Action (Except Errno Octets)
  | 0 => pure (.ok [])
  | fuel + 1 => do
      match ← call (.read source 65536) with
      | .octets [] => pure (.ok [])
      | .octets octets => do
          match ← readAll source fuel with
          | .ok more => pure (.ok (octets ++ more))
          | .error errno => pure (.error errno)
      | .refused errno => pure (.error errno)
      | _ => pure (.ok [])

end Action
end BatchLaunch.Host
