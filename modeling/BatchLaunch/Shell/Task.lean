import BatchLaunch.Shell.Builtin
import BatchLaunch.Shell.Redirect

/-!
Scripts within scripts, what is done for signals, and shells that run as tasks of their own.
-/
namespace BatchLaunch.Shell

open Host (Call Reply Signal Pid Errno Descriptor)

structure Mode where
  tested : Bool
  last : Bool

namespace Mode

def plain : Mode := ⟨false, false⟩

def inner (mode : Mode) : Mode := { mode with last := false }

def condition : Mode := ⟨true, false⟩

def whole (mode : Mode) : Mode := { mode with last := true }

end Mode

abbrev Runner := Mode → Command → Act Unit

/-! Scripts -/

/-- The script in a file. NUL octets do not count, nor does what cannot be read. -/
def scriptOf (found : Except Errno Octets) : Chars :=
  (found.toOption.elim [] Text.charsOf).filter (· ≠ '\x00')

def firstLines : Nat → Chars → Chars
  | 0, _ | _, [] => []
  | count + 1, c :: rest => c :: firstLines (if c = '\n' then count else count + 1) rest

structure Progress where
  place : Place
  unread : Option Chars
  ran : Bool

namespace Progress

def start (shown : Bool) (source : Chars) : Progress :=
  ⟨.start source 1 [], if shown then some source else none, false⟩

def showLines (progress : Progress) (count : Option Nat) : Act (Option Chars) := do
  match progress.unread with
  | none => return none
  | some unread =>
      let lines := count.elim unread (firstLines · unread)
      if ← Act.has .verbose then
        let _ ← Act.write 2 lines
      return some (unread.drop lines.length)

def run (runner : Runner) (mode : Mode) : Nat → Progress → Act Bool
  | 0, progress => pure progress.ran
  | fuel + 1, progress => do
      let before := progress.place.line
      match Read.next { progress.place with aliases := (← Act.get).aliases } with
      | .error fault =>
          let _ ← progress.showLines (some (fault.line + 1 - before))
          Act.modify fun state => { state with line := fault.line, lineRead := fault.line }
          Act.fault fault.message.toList
      | .ok (none, _) =>
          let _ ← progress.showLines none
          return progress.ran
      | .ok (some found, place) =>
          let unread ← progress.showLines
            (if place.rest.isEmpty then none else some (place.line - before))
          Act.modify fun state => { state with lineRead := place.line }
          runner { mode with last := mode.last && found.isLast } found.command
          run runner mode fuel ⟨place, unread, true⟩

end Progress

def runText (runner : Runner) (mode : Mode) (shown : Bool) (source : Chars) : Act Bool := do
  let lineRead := (← Act.get).lineRead
  let ran ← Progress.run runner mode (source.length + 1) (.start shown source)
  Act.modify fun state => { state with lineRead := lineRead }
  return ran

/-! Signals -/

def answer (runner : Runner) (signal : Signal) : Act Unit := do
  let state ← Act.get
  let action := (state.traps.lookup signal).getD []
  if !action.isEmpty then
    let status := state.statusBefore.getD state.status
    Act.modify fun state => { state with statusBefore := some status }
    let result ← Act.attempt (runText runner .plain false action)
    Act.modify fun after => { after with statusBefore := state.statusBefore }
    let _ ← Act.resume result
    Act.setStatus status

/-- Asks for signals if any has a trap, and answers them, the smaller ones first. -/
def checkSignals (runner : Runner) : Act Unit := do
  if (← Act.get).traps.any fun entry => entry.1 ≠ 0 && !entry.2.isEmpty then
    let _ ← Jobs.takeSignals
    let arrived := (← Act.get).arrived
    for signal in Tools.signals do
      if arrived.contains signal then
        Act.modify fun state => { state with arrived := state.arrived.filter (· ≠ signal) }
        answer runner signal

def checkFailure (mode : Mode) : Act Unit := do
  let state ← Act.get
  if state.settings.contains .exitOnFailure && !mode.tested && state.status ≠ 0 then
    Act.stop (.exit state.status)

/-! Shells as tasks -/

def hasTraps : Act Bool := do return (← Act.get).traps.any fun entry => !entry.2.isEmpty

/-- A shell within another one starts without its tasks, and without traps except for what is
ignored. -/
def enterSubshell : Act Unit := do
  let state ← Act.get
  for (signal, action) in state.traps do
    if signal ≠ 0 && !action.isEmpty then
      let _ ← Act.call (.setDisposition signal .normal)
  Act.modify fun state => { state with
    traps := state.traps.filter fun entry => entry.2.isEmpty
    arrived := [], jobs := [], loopDepth := 0 }

/-- What is done when a shell ends. The status that it ends with is that from before, unless
something in the trap says otherwise. -/
def leaveShell (runner : Runner) (code : Nat) : Act Nat := do
  let action := ((← Act.get).traps.lookup 0).getD []
  if action.isEmpty then return code
  else
    Act.modify fun state => { state with
      traps := state.traps.filter (·.1 ≠ 0), status := code, statusBefore := some code }
    match ← Act.attempt (runText runner .plain false action) with
    | .error (.exit code) => return code
    | .error .fault => return (← Act.get).status
    | _ => return code

def wholeShell {α : Type} (runner : Runner) (act : Act α) : Act Nat := do
  let code ← match ← Act.attempt act with
    | .error (.exit code) | .error (.give code) => pure code
    | _ => pure (← Act.get).status
  leaveShell runner code

def forkShell (runner : Runner) (act : Act Unit) : Act Pid :=
  Act.fork do
    enterSubshell
    wholeShell runner act

def outputOf (runner : Runner) (command : Command) : Act Chars := do
  match command with
  | .sequence [] => return []
  | _ =>
      match ← Act.call .pipe with
      | .descriptors readEnd writeEnd =>
          let _ ← Jobs.claim
          let pid ← forkShell runner do
            let _ ← Act.call (.close readEnd)
            Redirection.move writeEnd 1
            runner (Mode.plain.whole) command
          let _ ← Act.call (.close writeEnd)
          let found ← Act.ofAction (Host.Action.readAll readEnd Jobs.patience)
          let _ ← Act.call (.close readEnd)
          let status ← Jobs.waitForeground [pid]
          Act.modify fun state => { state with innerStatus := status }
          return ((scriptOf found).reverse.dropWhile (· = '\n')).reverse
      | _ => Act.fault "Pipe call failed".toList

/-! Programs in place of the shell -/

def become (path : Chars) (words : List Chars) : Act Errno := fun state next =>
  .become (Text.octetsOf path) (words.map Text.octetsOf) state.environment fun errno =>
    next (.ok errno) state

/-- Tries one path after the other. A file that names no interpreter is run as a script. -/
def becomeFirst (name : Chars) (args : List Chars) (worst : Errno) : List Chars → Act Errno
  | [] => pure worst
  | path :: rest => do
      let errno ← match ← become path (name :: args) with
        | .notExecutable => become "/bin/sh".toList ("/bin/sh".toList :: path :: args)
        | errno => pure errno
      let missing := errno = .noEntry || errno = .notDirectory
      becomeFirst name args (if missing then worst else errno) rest

def replaceShell (name : Chars) (args : List Chars) (paths : List Chars) : Act Unit := do
  let errno ← becomeFirst name args .noEntry paths
  Act.complain (name ++ ": ".toList ++ reason errno "not found")
  Act.stop (.exit (if errno = .noEntry || errno = .loop || errno = .nameTooLong then 127 else 126))

end BatchLaunch.Shell
