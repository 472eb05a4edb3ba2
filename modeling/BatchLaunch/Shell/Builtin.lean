import BatchLaunch.Shell.Builtin.Directories
import BatchLaunch.Shell.Builtin.Jobs
import BatchLaunch.Shell.Builtin.Names
import BatchLaunch.Shell.Builtin.Read
import BatchLaunch.Tools.Condition

/-!
Commands that a shell does itself and that run no others.
-/
namespace BatchLaunch.Shell.Builtin

open Host (Signal)

def echo : Routine := fun words => emit (Tools.shellEcho words)

def printf : Routine := withOptions "" "" fun _ words => do
  match words with
  | [] => Act.fault "usage: printf format [arg ...]".toList
  | format :: rest =>
      let found := Tools.formatAll Tools.shellManner (rest.length + 1) format rest
      for complaint in found.complaints do
        Act.complain complaint
      if let some fault := found.fault then
        Act.complain fault
      let status ← emit found.text
      return if found.fault.isSome then 2 else if found.complaints.isEmpty then status else 1

def judge : Routine := fun words => do
  match ← Act.ofAction (Tools.judge words).run with
  | .ok holds => return if holds then 0 else 1
  | .error fault => Act.fault fault.text

/-- Only the first character of the closing bracket's word counts. -/
def bracket : Routine := fun words =>
  match words.reverse with
  | (']' :: _) :: inside => judge inside.reverse
  | _ => Act.fault "missing ]".toList

/-! Traps -/

def dispositionOf (action : Option Chars) : Host.Disposition :=
  match action with
  | none => .normal
  | some [] => .ignored
  | some _ => .caught

def setTraps (action : Option Chars) : List Chars → Act Nat
  | [] => pure 0
  | word :: rest => do
      match Tools.signal? word with
      | none =>
          tell ("trap: ".toList ++ word ++ ": bad trap".toList)
          return 1
      | some signal =>
          if signal ≠ 0 then
            let _ ← Act.call (.setDisposition signal (dispositionOf action))
          Act.modify fun state => { state with
            traps := action.toList.map (signal, ·) ++ state.traps.filter (·.1 ≠ signal) }
          setTraps action rest

def listTraps : Act Nat := do
  let traps := (← Act.get).traps
  let lines := (0 :: Tools.signals).filterMap fun signal =>
    (traps.lookup signal).map fun action =>
      "trap -- ".toList ++ singleQuoted action ++ ' ' :: Tools.signalName signal
  emit (Tools.unlines lines)

def isSignalNumber (word : Chars) : Bool :=
  ((Tools.natural? word).bind fun _ => Tools.signal? word).isSome

def trap : Routine := withOptions "" "" fun _ words =>
  match words with
  | [] => listTraps
  | [single] => setTraps none [single]
  | action :: signals =>
      if action = ['-'] then setTraps none signals
      else if isSignalNumber action then setTraps none (action :: signals)
      else setTraps (some action) signals

/-! Limits -/

def limitTable : List (Char × String × String) := [
  ('t', "time(seconds)", "unlimited"), ('f', "file(blocks)", "unlimited"),
  ('d', "data(kbytes)", "unlimited"), ('s', "stack(kbytes)", "8192"),
  ('c', "coredump(blocks)", "0"), ('m', "memory(kbytes)", "unlimited"),
  ('l', "locked memory(kbytes)", "8192"), ('p', "process", "unlimited"),
  ('n', "nofiles", "20000"), ('v', "vmemory(kbytes)", "unlimited"), ('w', "locks", "unlimited"),
  ('r', "rtprio", "0")]

def limitOf (state : State) (letter : Char) : Chars :=
  (state.limits.lookup letter).getD ((limitTable.lookup letter).elim [] fun entry => entry.2.toList)

def limitLetters : String := String.ofList (limitTable.map (·.1))

def ulimit : Routine := withOptions ("HSa" ++ limitLetters) "" fun found words => do
  let state ← Act.get
  let letters := (found.map (·.1)).filter fun letter => letter ≠ 'H' && letter ≠ 'S'
  let letter := letters.getLast?.getD 'f'
  match words with
  | [] =>
      if letter = 'a' then
        emit (limitTable.flatMap fun (letter, name, _) =>
          name.toList ++ List.replicate (20 - name.length) ' ' ++ ' ' :: limitOf state letter ++
            ['\n'])
      else emit (limitOf state letter ++ ['\n'])
  | [word] =>
      if letter = 'a' then Act.fault "too many arguments".toList
      else if word ≠ "unlimited".toList && (Tools.natural? word).isNone then
        Act.fault "bad number".toList
      else
        Act.modify fun state => { state with
          limits := (letter, word) :: state.limits.filter (·.1 ≠ letter) }
        return 0
  | _ => Act.fault "too many arguments".toList

def times : Routine := fun _ =>
  emit "0m0.000000s 0m0.000000s\n0m0.000000s 0m0.000000s\n".toList

/-! Leaving -/

def leaveLoop (make : Nat → Stop) : Routine := fun words => do
  let levels ← numberOr 1 words
  if levels = 0 then Act.fault ("Illegal number: ".toList ++ words.headD [])
  else if (← Act.get).loopDepth = 0 then return 0
  else Act.stop (make levels)

def exit : Routine := fun words => do
  let state ← Act.get
  Act.stop (.exit (← numberOr (state.statusBefore.getD state.status) words))

def give : Routine := fun words => do
  Act.stop (.give (← numberOr (← Act.get).status words))

def find? : String → Option Routine
  | ":" | "true" => some fun _ => pure 0
  | "false" => some fun _ => pure 1
  | "echo" => some echo
  | "printf" => some printf
  | "test" => some judge
  | "[" => some bracket
  | "kill" => some kill
  | "cd" | "chdir" => some changeDir
  | "pwd" => some workingDir
  | "hash" => some hash
  | "jobs" => some jobs
  | "fg" | "bg" => some moveJob
  | "export" => some exportAll
  | "readonly" => some readOnlyAll
  | "unset" => some unset
  | "set" => some set
  | "shift" => some shift
  | "getopts" => some getopts
  | "trap" => some trap
  | "read" => some read
  | "wait" => some wait
  | "local" => some makeLocal
  | "alias" => some aliasCommand
  | "unalias" => some unalias
  | "type" => some type
  | "command" => some command
  | "break" => some (leaveLoop .leave)
  | "continue" => some (leaveLoop .again)
  | "exit" => some exit
  | "return" => some give
  | "umask" => some umask
  | "ulimit" => some ulimit
  | "times" => some times
  | _ => none

def declares (name : Chars) : Bool :=
  ["alias", "command", "export", "local", "readonly"].contains (String.ofList name)

end BatchLaunch.Shell.Builtin
