import BatchLaunch.Host.System
import BatchLaunch.Launch.Pool

/-!
A host: a running system with the launcher's working directory and search path. It is a machine that
batches can be launched on. While somebody waits, its tasks take turns in the order of their numbers,
each until it has to wait; when all of them wait, time passes up to the first that sleeps no longer.
-/
namespace BatchLaunch.Host.System

def turnLength : Nat := 4096

def turn (boot : Boot) (self : Pid) : Nat → System → System × Bool
  | 0, system => (system, true)
  | fuel + 1, system =>
      match (system.task? self).bind fun task => system.step boot self task with
      | none => (system, false)
      | some after => ((turn boot self fuel after).1, true)

def round (boot : Boot) (system : System) : System × Bool :=
  (List.range system.tasks.length).foldl (fun (system, moved) index =>
    let (after, more) := turn boot (firstPid + index) turnLength system
    (after, moved || more)) (system, false)

def wakes (system : System) : List Nat :=
  system.tasks.filterMap fun task =>
    match task.state with
    | .asleep wake _ => some wake
    | _ => none

def advance (system : System) (now : Nat) : System :=
  { system with
    clock := now
    files := { system.files with now := system.files.now + 1000 * (now - system.clock) } }

def wakeAll (system : System) (now : Nat) : System :=
  { system.advance now with
    tasks := system.tasks.map fun task =>
      match task.state with
      | .asleep wake next =>
          if wake ≤ now then { task with state := .ready (next (.done 0)) } else task
      | _ => task }

/-- Goes on until nothing can happen any more, or nothing can before the deadline. -/
def run (boot : Boot) (deadline : Option Nat) : Nat → System → System
  | 0, system => system
  | fuel + 1, system =>
      let (after, moved) := round boot system
      if moved then run boot deadline fuel after
      else
        match after.wakes.min? with
        | none => after
        | some wake =>
            if deadline.any (· < wake) then after.advance (deadline.getD after.clock)
            else run boot deadline fuel (after.wakeAll wake)

def patience : Nat := 1000000

def settle (boot : Boot) (system : System) : System := run boot none patience system

/-- Opens a log that was made ready in some files. Those who wait to read from a pipe go on. -/
def withLog (system : System) (files : Files) (id : NodeId) : System :=
  let changed := { system with files := files }
  match files.node? id with
  | some (.fifo pipe _) =>
      ((changed.freshPipe pipe).addOpen (endOf pipe .write)).1.letIn pipe true
  | _ => (changed.addOpen ⟨.node id, 0, false, false, true⟩).1

end BatchLaunch.Host.System

namespace BatchLaunch

structure Host where
  system : Host.System
  cwd : Host.NodeId
  searchPath : Option String
  /-- How many descriptors the launcher may still open. -/
  room : Nat

namespace Host

def withSystem (host : Host) (system : System) : Host := { host with system := system }

def environment (host : Host) : Environment :=
  host.searchPath.toList.map fun path => (Text.Utf8.encode "PATH", Text.Utf8.encode path)

/-- Opens a log as jobs write to it: emptied, and from its start on. A refusal leaves the host as
it was. For a named pipe the time until somebody reads from it is left out. -/
def openLog (host : Host) (path : String) : Option Nat × Host :=
  if host.room < 1 then (none, host)
  else
    match host.system.files.openForWriting host.cwd path true false Files.plainMode with
    | .error _ => (none, host)
    | .ok (id, files) =>
        (some host.system.openFiles.length, host.withSystem (host.system.withLog files id))

def copyLog (host : Host) (log : Nat) : Option Nat × Host :=
  (if host.room < 2 then none else some log, host)

/-- Besides the log's two, a start takes a descriptor for the input and a pipe to hear from it. -/
def startRoom : Nat := 5

def emptyInput : String := "/dev/null"

def input? (host : Host) : Option NodeId :=
  (host.system.files.lookup host.cwd emptyInput true).toOption.filter (host.system.files.grants · 4)

def baseName (path : String) : String := ((Text.cutAt '/' path).getLast?).getD path

/-- Starts a program in a session of its own, with no input, and its output and errors going to
what is open. -/
def start (boot : Boot) (host : Host) (program : String) (args : List String)
    (output errors : Nat) : Option Pid × Host :=
  if (program :: args).any fun word => word.toList.contains '\x00' then (none, host)
  else if host.room < startRoom then (none, host)
  else
    let files := host.system.files
    let words := (program :: args).map Text.Utf8.encode
    let busy := host.system.isWritten [output, errors]
    match host.input?, Image.locate files busy host.cwd host.searchPath program words with
    | some input, some (path, image) =>
        let (system, number) := host.system.addOpen ⟨.node input, 0, false, true, false⟩
        let pid := system.nextPid
        let interpreted := (files.get? host.cwd path).bind fun node =>
          match node with
          | .file (35 :: 33 :: _) _ => some (baseName path)
          | _ => none
        let task : Task := {
          name := interpreted.getD image.tool
          parent := System.launcherPid
          group := pid
          session := pid
          state := .ready (boot image host.environment)
          descriptors := [(0, number), (1, output), (2, errors)]
          cwd := host.cwd
          mask := 0o022
          dispositions := []
          arrived := []
          collected := false }
        (some pid, host.withSystem (system.addTask task))
    | _, _ => (none, host)

/-- How a task ends from now on, if nothing else is done. -/
def ending (boot : Boot) (host : Host) (pid : Pid) : Ending :=
  (((host.system.settle boot).task? pid).bind Task.status?).map fun (status, time) =>
    (status, time - host.system.clock)

/-- Waits for children on some threads, until the last of the waits is over. -/
def await (boot : Boot) (host : Host) (threads : Nat) (calls : List (WaitCall Pid)) :
    List (Nat × Waited) × Host :=
  let waits := Pool.schedule (host.ending boot) (List.replicate threads 0) calls
  let spent := (waits.map Pool.Wait.finish).max?.getD 0
  (Pool.answersOf waits,
    host.withSystem (host.system.run boot (some (host.system.clock + spent)) System.patience))

def machine (boot : Boot) : Machine Host Nat Pid where
  read host path := host.system.files.read? host.cwd path
  executable? host path := host.system.files.executable? host.cwd path
  searchPath host := host.searchPath
  openLog := openLog
  copyLog := copyLog
  start := start boot
  buildPool host _ := (true, host)
  await := await boot

def settle (boot : Boot) (host : Host) : Host := host.withSystem (host.system.settle boot)

end Host
end BatchLaunch
