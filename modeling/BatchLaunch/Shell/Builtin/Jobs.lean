import BatchLaunch.Shell.Builtin.Basic

/-!
Tasks that a shell started: waiting for them, listing them, and sending them signals.
-/
namespace BatchLaunch.Shell

open Host (Call Reply Signal Pid)

namespace Jobs

def statusOf : Status → Nat
  | .exited code => code.toNat
  | .signalled signal => 128 + signal.toNat

def note (pid : Pid) (status : Status) : Act Unit := Act.modify fun state =>
  { state with jobs := state.jobs.map fun job =>
      { job with tasks := job.tasks.map fun task =>
          if task.1 = pid then (pid, some status) else task } }

def isQuiet (signal : Int) : Bool := signal = 2 || signal = 13

def endingText : Status → Option Chars
  | .exited _ => none
  | .signalled signal =>
      if isQuiet signal then none else some (Tools.signalText signal.toNat).toList

def tellEnding (status : Status) : Act Unit := do
  if let some text := endingText status then
    let _ ← Act.write 2 (text ++ ['\n'])

def patience : Nat := 100000

def takeSignals : Act Bool := do
  match ← Act.call .takeSignals with
  | .signals signals =>
      Act.modify fun state => { state with arrived := state.arrived ++ signals }
      return !signals.isEmpty
  | _ => return false

/-- Waits until all of some tasks have ended, and says how. The status is that of the last one.
Other tasks that end meanwhile are kept in mind. -/
def waitForAll (pids : List Pid) : Nat → List (Pid × Status) → Act Nat
  | 0, _ => pure 127
  | fuel + 1, ended => do
      if pids.all fun pid => (ended.lookup pid).isSome then
        return ((pids.getLast?).bind fun pid => ended.lookup pid).elim 127 statusOf
      else
        match ← Act.call (.wait none) with
        | .ended pid status =>
            if pids.contains pid then
              tellEnding status
              waitForAll pids fuel ((pid, status) :: ended)
            else
              note pid status
              waitForAll pids fuel ended
        | .refused .interrupted =>
            let _ ← takeSignals
            waitForAll pids fuel ended
        | _ => return 127

def waitForeground (pids : List Pid) : Act Nat := waitForAll pids patience []

def look : Act Unit := do
  for job in (← Act.get).jobs do
    for (pid, status) in job.tasks do
      if status.isNone then
        match ← Act.call (.check pid) with
        | .ended pid status => note pid status
        | _ => pure ()

/-- The first number that no job needs. A job that somebody waited for does not need its own. -/
def freeNumber (jobs : List Job) : Nat :=
  let isFree (number : Nat) : Bool :=
    jobs.all fun job => job.number ≠ number || (!job.isRunning && job.waited)
  ((List.range (jobs.length + 1)).map (· + 1)).find? isFree |>.getD 1

def claim : Act Nat := do
  let number := freeNumber (← Act.get).jobs
  Act.modify fun state => { state with jobs := state.jobs.filter (·.number ≠ number) }
  return number

def stateText (job : Job) : Chars :=
  if job.isRunning then "Running".toList
  else
    match (job.tasks.getLast?).bind (·.2) with
    | some (.exited 0) | none => "Done".toList
    | some (.exited code) => "Done(".toList ++ Expand.natText code.toNat ++ [')']
    | some (.signalled signal) => (Tools.signalText signal.toNat).toList

def padTo (column : Nat) (text : Chars) : Chars :=
  text ++ List.replicate (max 1 (column - text.length)) ' '

def commandColumn : Nat := 33

def line (mark : Char) (withPids : Bool) (job : Job) : Chars :=
  let head := '[' :: Expand.natText job.number ++ [']', ' ', mark, ' ']
  let pidText (task : Pid × Option Status) : Chars := Expand.natText task.1 ++ [' ']
  match job.tasks with
  | [] => []
  | first :: rest =>
      if withPids then
        padTo commandColumn (head ++ pidText first ++ stateText job) ++ rest.flatMap (fun task =>
          " |\n".toList ++ padTo commandColumn (List.replicate head.length ' ' ++ pidText task)) ++
          ['\n']
      else
        padTo commandColumn (head ++ stateText job) ++ rest.flatMap (fun _ => " | ".toList) ++ ['\n']

/-- How jobs are shown: with the numbers of their tasks, or with nothing but the first number. -/
inductive Listing where
  | states
  | withTasks
  | firstTasks
  deriving DecidableEq, Repr

/-- Some of the jobs as they are shown. One that has ended is forgotten as soon as it is shown, so
that another one may be the current one from then on. -/
def listText (listing : Listing) : List Job → List Job → Chars × List Job
  | jobs, [] => ([], jobs)
  | jobs, job :: rest =>
      if listing = .firstTasks then
        let (text, jobs) := listText listing jobs rest
        ((job.tasks.head?).elim [] (fun task => Expand.natText task.1 ++ ['\n']) ++ text, jobs)
      else
        let mark := if (jobs.head?.map Job.number) = some job.number then '+'
          else if (jobs[1]?.map Job.number) = some job.number then '-' else ' '
        let (text, jobs) := listText listing
          (if job.isRunning then jobs else jobs.filter (·.number ≠ job.number)) rest
        (line mark (listing = .withTasks) job ++ text, jobs)

def list (listing : Listing) (chosen : List Job) : Act Nat := do
  let (text, jobs) := listText listing (← Act.get).jobs chosen
  Act.modify fun state => { state with jobs := jobs }
  Builtin.emit text

def find (word : Chars) : Act Job := do
  let jobs := (← Act.get).jobs
  let or (job : Option Job) (fault : Chars) : Act Job := job.elim (Act.fault fault) pure
  match word with
  | ['%'] | ['%', '+'] | ['%', '%'] => or jobs.head? "No current job".toList
  | ['%', '-'] => or jobs[1]? "No previous job".toList
  | '%' :: name =>
      let found := match Tools.natural? name with
        | some number => jobs.find? (·.number = number)
        | none => none
      match found with
      | some job => return job
      | none =>
          if name = ['?'] then
            match jobs with
            | [job] => return job
            | [] => Act.fault ("No such job: ".toList ++ word)
            | _ => Act.fault (word ++ ": ambiguous".toList)
          else Act.fault ("No such job: ".toList ++ word)
  | _ => Act.fault ("No such job: ".toList ++ word)

/-- Waits for a task that is in the background, or for any, and keeps how it ended. A signal that
arrived ends the wait, and is the answer. -/
def waitOne : Act (Option Signal) := do
  match ← Act.call (.wait none) with
  | .ended pid status =>
      note pid status
      return none
  | .refused .interrupted =>
      if ← takeSignals then return (← Act.get).arrived.head? else return none
  | _ =>
      Act.modify fun state => { state with jobs := state.jobs.map fun job =>
        { job with tasks := job.tasks.map fun (pid, status) =>
            (pid, some (status.getD (.exited 127))) } }
      return none

end Jobs

namespace Builtin

/-- Waits while a condition on the jobs holds; the answer is the signal that ended the wait. -/
def waitWhile (going : List Job → Bool) : Nat → Act (Option Signal)
  | 0 => pure none
  | fuel + 1 => do
      if !going (← Act.get).jobs then return none
      else
        match ← Jobs.waitOne with
        | some signal => return some signal
        | none => waitWhile going fuel

def changeJob (number : Nat) (change : Job → Job) : Act Unit := Act.modify fun state =>
  { state with jobs := state.jobs.map fun job => if job.number = number then change job else job }

def waitJob (job : Job) : Act Nat := do
  let isRunning (jobs : List Job) : Bool :=
    jobs.any fun other => other.number = job.number && other.isRunning
  match ← waitWhile isRunning Jobs.patience with
  | some signal => return 128 + signal
  | none =>
      let after := ((← Act.get).jobs.find? (·.number = job.number)).getD job
      for ((_, before), (_, status)) in job.tasks.zip after.tasks do
        if before.isNone then
          if let some status := status then Jobs.tellEnding status
      changeJob job.number fun job => { job with waited := true }
      return ((after.tasks.getLast?).bind (·.2)).elim 127 Jobs.statusOf

def wait : Routine := withOptions "" "" fun _ words => do
  if words.isEmpty then
    let signal ← waitWhile (·.any Job.isRunning) Jobs.patience
    if signal.isNone then
      Act.modify fun state => { state with
        jobs := state.jobs.map fun job => { job with waited := true } }
    return signal.elim 0 (128 + ·)
  else
    words.foldlM (fun _ word => do
      if word.head? = some '%' then waitJob (← Jobs.find word)
      else
        let pid ← number word
        match (← Act.get).jobs.find? fun job => (job.tasks.getLast?.map (·.1)) = some pid with
        | some job => waitJob job
        | none => return 127) 0

def jobs : Routine := withOptions "lp" "" fun found words => do
  let listing : Jobs.Listing := match found.getLast? with
    | some ('l', _) => .withTasks
    | some _ => .firstTasks
    | none => .states
  if words.isEmpty then
    Jobs.look
    Jobs.list listing (← Act.get).jobs
  else forAll words fun word => do
    let job ← Jobs.find word
    Jobs.list listing [job]

def moveJob : Routine := withOptions "" "" fun _ words => do
  let word := words.headD ['%']
  let _ ← Jobs.find word
  let named := (words.head?).getD "(null)".toList
  Act.fault ("job ".toList ++ named ++ " not created under job control".toList)

/-! Signals -/

def killUsage : Chars :=
  ("Usage: kill [-s sigspec | -signum | -sigspec] [pid | job]... or\n" ++
    "kill -l [exitstatus]").toList

def sendable? (word : Chars) : Option Signal :=
  (Tools.signal? word).filter fun signal => signal ≠ 0 || (Tools.natural? word).isSome

def send (signal : Signal) (targets : List Chars) : Act Nat := forAll targets fun target => do
  let pid : Int ← match target with
    | '%' :: _ => do
        let job ← Jobs.find target
        pure (-((job.tasks.head?.map (·.1)).getD 0 : Nat))
    | '-' :: digits => do pure (-(← number digits : Nat))
    | digits => do pure (← number digits : Nat)
  match ← Act.call (.kill pid signal) with
  | .refused errno =>
      Act.complain (errno.text.toList ++ ['\n'])
      return 1
  | _ => return 0

def listSignals (words : List Chars) : Act Nat := do
  match words with
  | [] => emit (Tools.unlines (['0'] :: Tools.signals.map Tools.signalName))
  | word :: _ =>
      let n ← number word
      let signal := if 128 < n then n - 128 else n
      if Tools.signals.contains signal then emit (Tools.signalName signal ++ ['\n'])
      else Act.fault ("invalid signal number or exit status: ".toList ++ word)

def kill : Routine := fun words => do
  let sending (signal : Signal) (targets : List Chars) : Act Nat :=
    if targets.isEmpty then Act.fault killUsage else send signal targets
  match words with
  | [] => Act.fault killUsage
  | ('-' :: name) :: rest =>
      match sendable? name with
      | some signal => sending signal rest
      | none =>
          withOptions "l" "s" (fun found rest => do
            let signals ← (found.filter (·.1 = 's')).mapM fun (_, name) =>
              match sendable? name with
              | some signal => pure signal
              | none => Act.fault ("invalid signal number or name: ".toList ++ name)
            if found.any (·.1 = 'l') then
              if signals.isEmpty then listSignals rest else Act.fault killUsage
            else sending (signals.getLast?.getD Tools.terminate) rest) words
  | targets => sending Tools.terminate targets

end Builtin
end BatchLaunch.Shell
