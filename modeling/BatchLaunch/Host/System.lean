import BatchLaunch.Host.Edit
import BatchLaunch.Host.Image
import BatchLaunch.Host.NameOrder
import BatchLaunch.Host.Program

/-!
A running system: its files, what of them is open, the tasks, and the time. Here is what each
request of a task does.
-/
namespace BatchLaunch.Host

inductive Source where
  | node (id : NodeId)
  | readEnd (pipe : Nat)
  | writeEnd (pipe : Nat)
  | bothEnds (pipe : Nat)
  | text (contents : Octets)
  deriving DecidableEq, Repr

/-- Something opened. Copies of a descriptor share it, and with it the place in the file. -/
structure OpenFile where
  source : Source
  place : Nat
  appends : Bool
  canRead : Bool
  canWrite : Bool
  deriving DecidableEq, Repr

inductive TaskState where
  | ready (program : Program)
  | asleep (wake : Nat) (next : Reply → Program)
  | ended (status : Status) (time : Nat)

structure Task where
  name : String
  parent : Pid
  group : Pid
  session : Pid
  state : TaskState
  /-- Which entry of the table of open files each descriptor means. -/
  descriptors : List (Descriptor × Nat)
  cwd : NodeId
  /-- Permissions that files made by the task do not get. -/
  mask : Nat
  dispositions : List (Signal × Disposition)
  arrived : List Signal
  collected : Bool

structure System where
  files : Files
  openFiles : List OpenFile
  pipes : List Octets
  tasks : List Task
  /-- Microseconds. -/
  clock : Nat

abbrev Boot := Image → Environment → Program

namespace Task

def status? (task : Task) : Option (Status × Nat) :=
  match task.state with
  | .ended status time => some (status, time)
  | _ => none

def isAlive (task : Task) : Bool := task.status?.isNone

def disposition (task : Task) (signal : Signal) : Disposition :=
  (task.dispositions.lookup signal).getD .normal

def openFile? (task : Task) (descriptor : Descriptor) : Option Nat :=
  task.descriptors.lookup descriptor

def closing (task : Task) (descriptor : Descriptor) : Task :=
  { task with descriptors := task.descriptors.filter (·.1 ≠ descriptor) }

def opening (task : Task) (descriptor : Descriptor) (file : Nat) : Task :=
  { task with descriptors := (descriptor, file) :: (task.closing descriptor).descriptors }

def freeDescriptor (task : Task) (least : Descriptor) : Descriptor :=
  ((List.range (task.descriptors.length + 1)).map (least + ·)).find?
    (fun descriptor => (task.openFile? descriptor).isNone) |>.getD least

end Task

namespace System

def firstPid : Pid := 1000

def launcherPid : Pid := 999

def task? (system : System) (pid : Pid) : Option Task :=
  if pid < firstPid then none else system.tasks[pid - firstPid]?

def setTask (system : System) (pid : Pid) (task : Task) : System :=
  { system with tasks := system.tasks.set (pid - firstPid) task }

def nextPid (system : System) : Pid := firstPid + system.tasks.length

def addTask (system : System) (task : Task) : System :=
  { system with tasks := system.tasks ++ [task] }

def addOpen (system : System) (file : OpenFile) : System × Nat :=
  ({ system with openFiles := system.openFiles ++ [file] }, system.openFiles.length)

def setOpen (system : System) (number : Nat) (file : OpenFile) : System :=
  { system with openFiles := system.openFiles.set number file }

def setPipe (system : System) (number : Nat) (contents : Octets) : System :=
  { system with pipes := system.pipes.set number contents }

def pipeSize : Nat := 65536

def isHeld (system : System) (source : Source) : Bool :=
  system.tasks.any fun task =>
    task.descriptors.any fun entry =>
      (system.openFiles[entry.2]?.map OpenFile.source) = some source

def hasReader (system : System) (pipe : Nat) : Bool :=
  system.isHeld (.readEnd pipe) || system.isHeld (.bothEnds pipe)

def hasWriter (system : System) (pipe : Nat) : Bool :=
  system.isHeld (.writeEnd pipe) || system.isHeld (.bothEnds pipe)

def writes (system : System) (id : NodeId) (number : Nat) : Bool :=
  (system.openFiles[number]?).any fun file => file.canWrite && file.source = .node id

def isWritten (system : System) (held : List Nat) (id : NodeId) : Bool :=
  held.any (system.writes id) || system.tasks.any fun task =>
    task.descriptors.any fun entry => system.writes id entry.2

/-- Signals that do nothing to a program that did not ask for them. -/
def isHarmless (signal : Signal) : Bool := [17, 18, 19, 20, 21, 22, 23, 28].contains signal

def killSignal : Signal := 9

def pipeSignal : Signal := 13

def finish (task : Task) (status : Status) (time : Nat) : Task :=
  { task with state := .ended status time, descriptors := [] }

def wakeBySignal (state : TaskState) : TaskState :=
  match state with
  | .asleep _ next => .ready (next (.refused .interrupted))
  | _ => state

def receive (task : Task) (signal : Signal) (time : Nat) : Task :=
  if !task.isAlive || signal = 0 then task
  else if signal = killSignal then finish task (.signalled signal) time
  else
    match task.disposition signal with
    | .ignored => task
    | .caught =>
        { task with arrived := task.arrived ++ [signal], state := wakeBySignal task.state }
    | .normal => if isHarmless signal then task else finish task (.signalled signal) time

def present? (system : System) (pid : Pid) : Option Task :=
  (system.task? pid).filter fun task =>
    task.isAlive || (!task.collected && (system.task? task.parent).any Task.isAlive)

def targets (system : System) (sender : Task) (target : Int) : List Pid :=
  let group (number : Nat) := (List.range system.tasks.length).filterMap fun index =>
    (system.tasks[index]?).bind fun task =>
      if task.group = number && task.isAlive then some (firstPid + index) else none
  match target with
  | .ofNat 0 => group sender.group
  | .ofNat pid => if (system.present? pid).isSome then [pid] else []
  | .negSucc 0 => []
  | .negSucc n => group (n + 1)

def childSignal : Signal := 17

def tellParent (system : System) (child : Task) : System :=
  match system.task? child.parent with
  | some parent =>
      if !child.isAlive && parent.disposition childSignal = .caught then
        system.setTask child.parent (receive parent childSignal system.clock)
      else system
  | none => system

def finishTask (system : System) (pid : Pid) (task : Task) (status : Status) : System :=
  let ended := finish task status system.clock
  (system.setTask pid ended).tellParent ended

def sendAll (system : System) (signal : Signal) : List Pid → System
  | [] => system
  | pid :: pids =>
      match system.task? pid with
      | none => sendAll system signal pids
      | some task =>
          let after := receive task signal system.clock
          let told := system.setTask pid after
          sendAll (if task.isAlive then told.tellParent after else told) signal pids

/-- What the system shows of a task, in the order of its fields. -/
def taskText (pid : Pid) (task : Task) : Octets :=
  let state := if task.isAlive then "S" else "Z"
  Text.Utf8.encode (toString pid ++ " (" ++ task.name ++ ") " ++ state ++ " " ++
    toString task.parent ++ " " ++ toString task.group ++ " " ++ toString task.session ++ " 0 -1" ++
    String.join (List.replicate 44 " 0") ++ "\n")

def shown? (system : System) (self : Pid) (path : String) : Option Octets :=
  match Text.cutAt '/' path with
  | ["", "proc", "self", "stat"] => (system.task? self).map (taskText self)
  | ["", "proc", number, "stat"] =>
      number.toNat?.bind fun pid => (system.present? pid).map (taskText pid)
  | _ => none

def descriptorNamed? (path : String) : Option Descriptor :=
  match Text.cutAt '/' path with
  | ["", "dev", "stdin"] => some 0
  | ["", "dev", "stdout"] => some 1
  | ["", "dev", "stderr"] => some 2
  | ["", "dev", "fd", number] => number.toNat?
  | ["", "proc", "self", "fd", number] => number.toNat?
  | _ => none

def sourceOf? (system : System) (task : Task) (descriptor : Descriptor) : Option Source :=
  (task.openFile? descriptor).bind fun number => (system.openFiles[number]?).map OpenFile.source

def fileBits : Nat := 0o666

def masked (mode mask : Nat) : Nat := mode &&& (0o7777 - mask)

def reopen (system : System) (task : Task) (descriptor : Descriptor) (mode : OpenMode) :
    Except Errno (OpenFile × System) :=
  let reads := mode = .read
  match system.sourceOf? task descriptor with
  | none => .error .noEntry
  | some (.node id) =>
      let wanted := if reads then 4 else if mode = .readWrite then 6 else 2
      if !system.files.grants id wanted then .error .denied
      else
        let files := if mode = .write then
          (system.files.setLength id 0).toOption.getD system.files else system.files
        .ok (⟨.node id, 0, mode = .append, wanted ≠ 2, !reads⟩, { system with files := files })
  | some (.readEnd pipe) | some (.writeEnd pipe) | some (.bothEnds pipe) =>
      .ok (⟨if reads then .readEnd pipe else .writeEnd pipe, 0, false, reads, !reads⟩, system)
  | some (.text contents) =>
      if reads then .ok (⟨.text contents, 0, false, true, false⟩, system) else .error .denied

def openPath (system : System) (self : Pid) (task : Task) (path : String) (mode : OpenMode) :
    Except Errno (OpenFile × System) :=
  match descriptorNamed? path, mode with
  | some descriptor, _ => system.reopen task descriptor mode
  | none, .read =>
      match system.shown? self path with
      | some contents => .ok (⟨.text contents, 0, false, true, false⟩, system)
      | none =>
          match system.files.lookup task.cwd path true with
          | .error errno => .error errno
          | .ok id =>
              if system.files.grants id 4 then .ok (⟨.node id, 0, false, true, false⟩, system)
              else .error .denied
  | none, _ =>
      let opened := system.files.openForWriting task.cwd path (mode = .write) (mode = .readWrite)
        (masked fileBits task.mask)
      opened.map fun (id, files) =>
        (⟨.node id, 0, mode = .append, mode = .readWrite, true⟩, { system with files := files })

/-- What reading gives; `none` while there is nothing yet. -/
def readFrom (system : System) (number : Nat) (count : Nat) : Option (Reply × System) :=
  match system.openFiles[number]? with
  | none => some (.refused .badFile, system)
  | some file =>
      if !file.canRead then some (.refused .badFile, system)
      else
        let pass (octets : Octets) : Option (Reply × System) :=
          let found := (octets.drop file.place).take count
          some (.octets found,
            system.setOpen number { file with place := file.place + found.length })
        match file.source with
        | .text contents => pass contents
        | .node id =>
            match system.files.node? id with
            | some (.file contents _) => pass contents
            | some (.directory _ _ _) => some (.refused .isDirectory, system)
            | some (.device .zero) => some (.octets (List.replicate count 0), system)
            | _ => some (.octets [], system)
        | .readEnd pipe | .bothEnds pipe =>
            match system.pipes[pipe]? with
            | none => some (.octets [], system)
            | some [] => if system.hasWriter pipe then none else some (.octets [], system)
            | some contents =>
                some (.octets (contents.take count), system.setPipe pipe (contents.drop count))
        | .writeEnd _ => some (.refused .badFile, system)

/-- What writing gives; `none` while there is no room. A pipe without readers is broken. -/
def writeTo (system : System) (number : Nat) (octets : Octets) : Option (Reply × System) :=
  match system.openFiles[number]? with
  | none => some (.refused .badFile, system)
  | some file =>
      if !file.canWrite then some (.refused .badFile, system)
      else
        match file.source with
        | .node id =>
            match system.files.node? id with
            | some (.file _ _) =>
                let place := if file.appends then system.files.size id else file.place
                some (.done octets.length,
                  { system.setOpen number { file with place := place + octets.length } with
                    files := system.files.writeAt id place octets })
            | _ => some (.done octets.length, system)
        | .writeEnd pipe | .bothEnds pipe =>
            match system.pipes[pipe]? with
            | none => some (.refused .brokenPipe, system)
            | some contents =>
                if !system.hasReader pipe then some (.refused .brokenPipe, system)
                else
                  let fitting := octets.take (pipeSize - contents.length)
                  if fitting.isEmpty && !octets.isEmpty then none
                  else some (.done fitting.length, system.setPipe pipe (contents ++ fitting))
        | _ => some (.refused .badFile, system)

def children (system : System) (parent : Pid) : List (Pid × Task) :=
  (List.range system.tasks.length).filterMap fun index =>
    (system.tasks[index]?).bind fun task =>
      if task.parent = parent && !task.collected then some (firstPid + index, task) else none

/-- What waiting for a child gives; `none` while none ended. -/
def waitFor (system : System) (self : Pid) (child : Option Pid) : Option (Reply × System) :=
  let mine := (system.children self).filter fun entry => child.all (· = entry.1)
  if mine.isEmpty then some (.refused .noChild, system)
  else
    (mine.findSome? fun entry => entry.2.status?.map fun status => (entry.1, entry.2, status.1)).map
      fun (pid, task, status) =>
        (.ended pid status, system.setTask pid { task with collected := true })

def infoOf (files : Files) (id : NodeId) (node : Node) : Info :=
  let links := files.linkCount id
  match node with
  | .file contents attributes =>
      ⟨.file, id, attributes.mode, contents.length, links, attributes.own, attributes.modified⟩
  | .directory _ _ attributes =>
      ⟨.directory, id, attributes.mode, 4096, links, attributes.own, attributes.modified⟩
  | .link target => ⟨.link, id, node.mode, target.utf8ByteSize, links, true, files.now⟩
  | .fifo _ attributes =>
      ⟨.pipe, id, attributes.mode, 0, links, attributes.own, attributes.modified⟩
  | .device _ => ⟨.device, id, node.mode, 0, links, false, files.now⟩
  | .tool _ => ⟨.file, id, node.mode, 35664, links, false, files.now⟩

def infoAt (system : System) (self : Pid) (task : Task) (path : String) (follow : Bool) :
    Except Errno Info :=
  let files := system.files
  let ofNode (id : NodeId) : Except Errno Info :=
    match files.node? id with
    | some node => .ok (infoOf files id node)
    | none => .error .noEntry
  let pipe : Info := ⟨.pipe, files.nodes.length, 0o600, 0, 1, true, files.now⟩
  match (descriptorNamed? path).bind (system.sourceOf? task) with
  | some (.node id) => ofNode id
  | some _ => .ok pipe
  | none =>
      if (system.shown? self path).isSome then .ok { pipe with kind := .file, mode := 0o444 }
      else if (system.shown? self (Files.withoutEndSlashes path ++ "/stat")).isSome then
        .ok { pipe with kind := .directory, mode := 0o555 }
      else (files.lookup task.cwd path follow).bind ofNode

def changed (system : System) (result : Files.Changed) : Option (Reply × System) :=
  match result with
  | .ok files => some (.done 0, { system with files := files })
  | .error errno => some (.refused errno, system)

def namesTo (files : Files) : Nat → NodeId → List String
  | 0, _ => []
  | fuel + 1, id =>
      match files.node? id with
      | some (.directory parent _ _) =>
          if id = Files.root then []
          else
            let name := ((files.entries parent).find? (·.2 = id)).map (·.1)
            namesTo files fuel parent ++ name.toList
      | _ => []

def pathOf (files : Files) (id : NodeId) : String :=
  "/" ++ "/".intercalate (namesTo files files.nodes.length id)

def withDescriptor (system : System) (task : Task) (descriptor : Descriptor)
    (use : Nat → Option (Reply × System)) : Option (Reply × System) :=
  match task.openFile? descriptor with
  | none => some (.refused .badFile, system)
  | some number => use number

/-! Pipes with names. Whoever opens one waits until somebody opens the other end. -/

def namedPipe? (system : System) (task : Task) (path : Octets) : Option (Nat × Attributes) :=
  match system.files.get? task.cwd (Text.Utf8.decodeLossy path) with
  | some (.fifo pipe attributes) => some (pipe, attributes)
  | _ => none

def endOf (pipe : Nat) (mode : OpenMode) : OpenFile :=
  match mode with
  | .read => ⟨.readEnd pipe, 0, false, true, false⟩
  | .readWrite => ⟨.bothEnds pipe, 0, false, true, true⟩
  | _ => ⟨.writeEnd pipe, 0, false, false, true⟩

def openFor (system : System) (self : Pid) (task : Task) (file : OpenFile) : Reply × System :=
  let (more, number) := system.addOpen file
  let descriptor := task.freeDescriptor 0
  (.done descriptor, more.setTask self (task.opening descriptor number))

def neededBits (mode : OpenMode) : Nat :=
  if mode = .read then 4 else if mode = .readWrite then 6 else 2

def openers (system : System) (pipe : Nat) (reads : Bool) :
    List (Pid × Task × OpenMode × (Reply → Program)) :=
  (List.range system.tasks.length).filterMap fun index =>
    (system.tasks[index]?).bind fun task =>
      match task.state with
      | .ready (.call (.open path mode) next) =>
          let fits := (system.namedPipe? task path).any fun (number, attributes) =>
            number = pipe && attributes.grants (neededBits mode)
          if fits && mode ≠ .readWrite && decide (mode = .read) = reads then
            some (firstPid + index, task, mode, next)
          else none
      | _ => none

def unblock (system : System) (pipe : Nat) (pid : Pid) (task : Task) (mode : OpenMode)
    (next : Reply → Program) : System :=
  let (reply, after) := system.openFor pid task (endOf pipe mode)
  match after.task? pid with
  | some opened => after.setTask pid { opened with state := .ready (next reply) }
  | none => after

def letIn (system : System) (pipe : Nat) (reads : Bool) : System :=
  (system.openers pipe reads).foldl (fun system (pid, task, mode, next) =>
    system.unblock pipe pid task mode next) system

def freshPipe (system : System) (pipe : Nat) : System :=
  if system.hasReader pipe || system.hasWriter pipe then system else system.setPipe pipe []

def openPipe (system : System) (self : Pid) (task : Task) (pipe : Nat) (attributes : Attributes)
    (mode : OpenMode) : Option (Reply × System) :=
  let reads := decide (mode = .read)
  let met := if reads then system.hasWriter pipe else system.hasReader pipe
  if !attributes.grants (neededBits mode) then some (.refused .denied, system)
  else if mode ≠ .readWrite && !met && (system.openers pipe !reads).isEmpty then none
  else
    let (reply, opened) := (system.freshPipe pipe).openFor self task (endOf pipe mode)
    some (reply, if mode = .readWrite then (opened.letIn pipe true).letIn pipe false
      else opened.letIn pipe !reads)

/-- What a request gives, and the system after it; `none` while it has to wait. -/
def answer (system : System) (self : Pid) (task : Task) (call : Call) : Option (Reply × System) :=
  let text := Text.Utf8.decodeLossy
  let files := system.files
  let change (changed : Task) (value : Nat) : Option (Reply × System) :=
    some (.done value, system.setTask self changed)
  match call with
  | .read source count => system.withDescriptor task source fun number =>
      system.readFrom number count
  | .write target octets => system.withDescriptor task target fun number =>
      system.writeTo number octets
  | .open path mode =>
      match system.namedPipe? task path with
      | some (pipe, attributes) => system.openPipe self task pipe attributes mode
      | none =>
          match system.openPath self task (text path) mode with
          | .error errno => some (.refused errno, system)
          | .ok (file, opened) => some (opened.openFor self task file)
  | .close descriptor => change (task.closing descriptor) 0
  | .duplicate source target => system.withDescriptor task source fun number =>
      change (task.opening target number) target
  | .save source least => system.withDescriptor task source fun number =>
      let descriptor := task.freeDescriptor least
      change (task.opening descriptor number) descriptor
  | .pipe =>
      let number := system.pipes.length
      let made := { system with pipes := system.pipes ++ [[]] }
      let (one, readEnd) := made.addOpen ⟨.readEnd number, 0, false, true, false⟩
      let (two, writeEnd) := one.addOpen ⟨.writeEnd number, 0, false, false, true⟩
      let first := task.freeDescriptor 0
      let half := task.opening first readEnd
      let second := half.freeDescriptor 0
      some (.descriptors first second, two.setTask self (half.opening second writeEnd))
  | .wait child =>
      match system.waitFor self child with
      | some result => some result
      | none => if task.arrived.isEmpty then none else some (.refused .interrupted, system)
  | .check child =>
      match system.waitFor self (some child) with
      | some result => some result
      | none => some (.done 0, system)
  | .kill target signal =>
      match system.targets task target with
      | [] => some (.refused .noTask, system)
      | pids => some (.done 0, system.sendAll signal pids)
  | .sleep _ | .pause => some (.done 0, system)
  | .pid => some (.done self, system)
  | .setDisposition signal disposition =>
      change { task with dispositions := (signal, disposition) :: task.dispositions } 0
  | .takeSignals =>
      some (.signals task.arrived, system.setTask self { task with arrived := [] })
  | .changeDir path =>
      match system.files.lookup task.cwd (text path) true with
      | .error errno => some (.refused errno, system)
      | .ok id =>
          match system.files.node? id with
          | some (.directory _ _ attributes) =>
              if attributes.grants 1 then change { task with cwd := id } 0
              else some (.refused .denied, system)
          | _ => some (.refused .notDirectory, system)
  | .workingDir => some (.octets (Text.Utf8.encode (pathOf files task.cwd)), system)
  | .info path follow =>
      match system.infoAt self task (text path) follow with
      | .error errno => some (.refused errno, system)
      | .ok info => some (.info info, system)
  | .list path =>
      match files.lookup task.cwd (text path) true with
      | .error errno => some (.refused errno, system)
      | .ok id =>
          match files.node? id with
          | some (.directory _ entries attributes) =>
              if attributes.grants 4 then
                some (.names ((NameOrder.sorted entries).map fun entry =>
                  Text.Utf8.encode entry.1), system)
              else some (.refused .denied, system)
          | _ => some (.refused .notDirectory, system)
  | .makeDir path mode =>
      system.changed (files.makeNode task.cwd (text path) fun dir =>
        .directory dir [] (files.fresh (masked mode task.mask)))
  | .makePipe path mode =>
      let made := { system with pipes := system.pipes ++ [[]] }
      made.changed (files.makeNode task.cwd (text path) fun _ =>
        .fifo system.pipes.length (files.fresh (masked mode task.mask)))
  | .remove path => system.changed (files.removeName task.cwd (text path) false)
  | .removeDir path => system.changed (files.removeName task.cwd (text path) true)
  | .rename old new => system.changed (files.rename task.cwd (text old) (text new))
  | .makeLink target path =>
      if target.isEmpty then some (.refused .noEntry, system)
      else system.changed (files.makeNode task.cwd (text path) fun _ => .link (text target))
  | .readLink path =>
      match files.lookup task.cwd (text path) false with
      | .ok id =>
          match files.node? id with
          | some (.link target) => some (.octets (Text.Utf8.encode target), system)
          | _ => some (.refused .invalid, system)
      | .error errno => some (.refused errno, system)
  | .addName old new => system.changed (files.addName task.cwd (text old) (text new))
  | .setMode path mode => system.changed (files.setMode task.cwd (text path) mode)
  | .setTime path time => system.changed (files.setTime task.cwd (text path) time)
  | .setLength target length =>
      match system.sourceOf? task target with
      | some (.node id) => system.changed (files.setLength id length)
      | _ => some (.refused .invalid, system)
  | .rewind source count => system.withDescriptor task source fun number =>
      match system.openFiles[number]? with
      | some file =>
          if file.source matches .node _ then
            let place := file.place - count
            some (.done place, system.setOpen number { file with place := place })
          else some (.refused .invalid, system)
      | none => some (.refused .badFile, system)
  | .mask bits => change { task with mask := bits.getD task.mask } task.mask
  | .parent => some (.done task.parent, system)
  | .lead session =>
      if session && task.group = self then some (.refused .notPermitted, system)
      else
        change { task with group := self, session := if session then self else task.session } 0
  | .time => some (.done files.now.toNat, system)

/-- One step of a task; `none` while it cannot go on. -/
def step (boot : Boot) (system : System) (self : Pid) (task : Task) : Option System :=
  match task.state with
  | .asleep _ _ | .ended _ _ => none
  | .ready (.exit code) =>
      some (system.finishTask self task (.exited (code % 256)))
  | .ready (.fork child next) =>
      let pid := system.nextPid
      let made : Task := { task with
        parent := self, state := .ready child, arrived := [], collected := false }
      some ((system.setTask self { task with state := .ready (next pid) }).addTask made)
  | .ready (.become path args environment failed) =>
      match Image.atPath system.files (system.isWritten []) task.cwd Image.loadLimit
          (Text.Utf8.decodeLossy path) args with
      | .error errno => some (system.setTask self { task with state := .ready (failed errno) })
      | .ok image =>
          some (system.setTask self { task with
            name := image.tool
            state := .ready (boot image environment)
            descriptors := task.descriptors.filter (·.1 < firstPrivate)
            dispositions := task.dispositions.map fun entry =>
              if entry.2 = .caught then (entry.1, .normal) else entry
            arrived := [] })
  | .ready (.call (.sleep microseconds) next) =>
      some (system.setTask self { task with state := .asleep (system.clock + microseconds) next })
  | .ready (.call call next) =>
      (system.answer self task call).map fun (reply, after) =>
        match after.task? self with
        | none => after
        | some now =>
            if !now.isAlive then after
            else if reply = .refused .brokenPipe && now.disposition pipeSignal = .normal then
              after.finishTask self now (.signalled pipeSignal)
            else after.setTask self { now with state := .ready (next reply) }

end System
end BatchLaunch.Host
