import BatchLaunch.Host.Program
import BatchLaunch.Shell.Script
import BatchLaunch.Text.OctetChars
import BatchLaunch.Tools.Signals

/-!
What a shell keeps while it runs a script, among it what `set` turns on and off, and how its parts
are put together.
-/
namespace BatchLaunch.Shell

inductive Setting where
  | exitOnFailure
  | noGlobbing
  | ignoreEnd
  | interactive
  | monitor
  | noExecution
  | fromInput
  | trace
  | verbose
  | vi
  | emacs
  | noClobbering
  | exportAll
  | notify
  | failOnUnset
  | privileged
  | noLog
  | debug
  deriving DecidableEq, Repr

namespace Setting

def table : List (Setting × String × Option Char) := [
  (exitOnFailure, "errexit", some 'e'), (noGlobbing, "noglob", some 'f'),
  (ignoreEnd, "ignoreeof", some 'I'), (interactive, "interactive", some 'i'),
  (monitor, "monitor", some 'm'), (noExecution, "noexec", some 'n'),
  (fromInput, "stdin", some 's'), (trace, "xtrace", some 'x'), (verbose, "verbose", some 'v'),
  (vi, "vi", some 'V'), (emacs, "emacs", some 'E'), (noClobbering, "noclobber", some 'C'),
  (exportAll, "allexport", some 'a'), (notify, "notify", some 'b'),
  (failOnUnset, "nounset", some 'u'), (privileged, "privileged", some 'p'),
  (noLog, "nolog", none), (debug, "debug", none)]

def ofName? (name : Chars) : Option Setting :=
  (table.find? fun entry => entry.2.1.toList = name).map (·.1)

def ofLetter? (letter : Char) : Option Setting :=
  (table.find? fun entry => entry.2.2 = some letter).map (·.1)

def change (on : Bool) (setting : Setting) (settings : List Setting) : List Setting :=
  if on then setting :: settings.filter (· ≠ setting) else settings.filter (· ≠ setting)

def letters (settings : List Setting) : Chars :=
  table.reverse.filterMap fun (setting, _, letter) =>
    if settings.contains setting then letter else none

def report (settings : List Setting) : Chars :=
  "Current option settings\n".toList ++ table.flatMap fun (setting, name, _) =>
    name.toList ++ List.replicate (16 - name.length) ' ' ++
      (if settings.contains setting then "on\n" else "off\n").toList

def commands (settings : List Setting) : Chars :=
  table.flatMap fun (setting, name, _) =>
    (if settings.contains setting then "set -o " else "set +o ").toList ++ name.toList ++ ['\n']

def noTerminal : Chars := "can't access tty; job control turned off".toList

end Setting

open Host (Program Action Call Reply Pid Signal Descriptor Errno)

structure Variable where
  value : Option Chars
  exported : Bool
  readOnly : Bool

def Variable.plain : Variable := ⟨none, false, false⟩

structure Job where
  number : Nat
  tasks : List (Pid × Option Status)
  waited : Bool

def Job.isRunning (job : Job) : Bool := job.tasks.any fun task => task.2.isNone

structure Found where
  name : Chars
  path : Chars
  stale : Bool

structure OptionPlace where
  next : Nat
  done : Option Nat

def OptionPlace.start : OptionPlace := ⟨1, none⟩

structure Frame where
  hidden : List (Chars × Option Variable)
  settings : Option (List Setting)

structure State where
  bindings : List (Chars × Variable)
  arguments : List Chars
  options : OptionPlace
  name : Chars
  doing : Option Chars
  line : Nat
  lineRead : Nat
  status : Nat
  statusBefore : Option Nat
  innerStatus : Nat
  pid : Pid
  jobs : List Job
  lastBackground : Option Pid
  functions : List (Chars × Command)
  aliases : List (Chars × Chars)
  /-- Programs that were looked for, in the order of their first use. -/
  found : List Found
  traps : List (Signal × Chars)
  arrived : List Signal
  settings : List Setting
  limits : List (Char × Chars)
  loopDepth : Nat
  calls : Nat
  /-- What the functions that are being called hide, the innermost first. -/
  frames : List Frame
  dir : Chars
  tracing : Bool

inductive Stop where
  | exit (code : Nat)
  | give (code : Nat)
  | leave (levels : Nat)
  | again (levels : Nat)
  | fault
  deriving DecidableEq, Repr

def Act (α : Type) : Type := State → (Except Stop α → State → Program) → Program

namespace Act

instance : Monad Act where
  pure value := fun state next => next (.ok value) state
  bind act use := fun state next => act state fun result state =>
    match result with
    | .ok value => use value state next
    | .error stop => next (.error stop) state

def get : Act State := fun state next => next (.ok state) state

def modify (change : State → State) : Act Unit := fun state next => next (.ok ()) (change state)

def stop {α : Type} (reason : Stop) : Act α := fun state next => next (.error reason) state

def attempt {α : Type} (act : Act α) : Act (Except Stop α) := fun state next =>
  act state fun result state => next (.ok result) state

def resume {α : Type} : Except Stop α → Act α
  | .ok value => pure value
  | .error reason => stop reason

def andThen {α : Type} (act : Act α) (after : Act Unit) : Act α := do
  let result ← attempt act
  after
  resume result

def ofAction {α : Type} (action : Action α) : Act α := fun state next =>
  action fun value => next (.ok value) state

def call (request : Call) : Act Reply := ofAction (Action.call request)

def codeOf : Except Stop Nat → Nat
  | .ok code | .error (.exit code) | .error (.give code) => code
  | .error .fault => 2
  | .error _ => 0

def fork (child : Act Nat) : Act Pid := fun state next =>
  .fork (child state fun result _ => .exit (codeOf result)) fun pid => next (.ok pid) state

def setStatus (status : Nat) : Act Unit := modify fun state => { state with status := status }

def has (setting : Setting) : Act Bool := do return (← get).settings.contains setting

def write (target : Descriptor) (text : Chars) : Act Bool :=
  ofAction (Action.write target (Text.octetsOf text))

def complaintStart (state : State) : Chars :=
  state.name ++ ": ".toList ++ (toString state.line).toList ++ ": ".toList ++
    state.doing.elim [] fun name => name ++ ": ".toList

def complain (text : Chars) : Act Unit := do
  let _ ← write 2 (complaintStart (← get) ++ text ++ ['\n'])

def doing {α : Type} (name : Chars) (act : Act α) : Act α := do
  let before := (← get).doing
  modify fun state => { state with doing := some name }
  andThen act (modify fun state => { state with doing := before })

def fault {α : Type} (text : Chars) : Act α := do
  complain text
  setStatus 2
  stop .fault

end Act

namespace State

def lookup? (state : State) (name : Chars) : Option Variable := state.bindings.lookup name

def value? (state : State) (name : Chars) : Option Chars :=
  (state.lookup? name).bind Variable.value

def noticing (state : State) (name : Chars) : State :=
  if name = "PATH".toList then { state with found := [] }
  else if name = "OPTIND".toList then
    let next := ((state.value? name).bind Tools.natural?).getD 1
    { state with options := ⟨max next 1, none⟩ }
  else state

def bind (state : State) (name : Chars) (held : Variable) : State :=
  let bindings := if (state.lookup? name).isSome then
      state.bindings.map fun entry => if entry.1 = name then (name, held) else entry
    else state.bindings ++ [(name, held)]
  { state with bindings := bindings }

def put (state : State) (name : Chars) (held : Variable) : State :=
  (state.bind name held).noticing name

def unset (state : State) (name : Chars) : State :=
  { state with bindings := state.bindings.filter (·.1 ≠ name) }.noticing name

def assign (state : State) (name value : Chars) : State :=
  let old := (state.lookup? name).getD .plain
  state.put name { old with
    value := some value, exported := old.exported || state.settings.contains .exportAll }

def exported (state : State) (name : Chars) : State :=
  state.put name { (state.lookup? name).getD .plain with exported := true }

def share (state : State) (name value : Chars) : State := (state.assign name value).exported name

def isReadOnly (state : State) (name : Chars) : Bool :=
  (state.lookup? name).any Variable.readOnly

def hide (state : State) (change : Frame → Frame) : State :=
  match state.frames with
  | [] => state
  | frame :: frames => { state with frames := change frame :: frames }

def groupOf (count : Nat) (name : Chars) : Nat :=
  (16 * (name.headD '\x00').toNat + name.foldl (fun sum c => sum + c.toNat) 0) % count

def inGroups {α : Type} (count : Nat) (nameOf : α → Chars) (entries : List α) : List α :=
  (List.range count).flatMap fun group =>
    entries.filter fun entry => groupOf count (nameOf entry) = group

def variableGroups : Nat := 39

def foundGroups : Nat := 31

def environment (state : State) : Host.Environment :=
  (inGroups variableGroups (·.1) state.bindings).filterMap fun (name, held) =>
    if held.exported then
      held.value.map fun value => (Text.octetsOf name, Text.octetsOf value)
    else none

end State

def largest : Nat := 2147483647

/-- Gives a variable a value, unless it may not change or the value is not fit for it. -/
def assign (name value : Chars) : Act Unit := do
  let state ← Act.get
  if state.isReadOnly name then Act.fault (name ++ ": is read only".toList)
  else if name = "OPTIND".toList && !(Tools.natural? value).any (· ≤ largest) then
    Act.fault ("Illegal number: ".toList ++ value)
  else Act.modify fun state => state.assign name value

def putBack (old : List (Chars × Option Variable)) : Act Unit :=
  Act.modify fun state => old.foldl (fun state (name, held) =>
    match held with
    | some held => state.put name held
    | none => state.unset name) state

end BatchLaunch.Shell
