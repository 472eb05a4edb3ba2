import BatchLaunch.Host.Machine
import BatchLaunch.Proofs.Host.Walk

/-!
What the requests of a launch make of a host. If anything, opening a log in a directory empties the
one file that its name there leads to, or makes an empty one; starting a program leaves the files
alone and adds one task, whose output and errors go to what is open.
-/
namespace BatchLaunch.Host

/-- What is written there is passed on or lost, but not kept. -/
def Node.isChannel : Node → Bool
  | .device _ | .fifo _ _ => true
  | _ => false

namespace Files

open BatchLaunch.Path (IsName)

/-- Where a name in a directory leads, behind all links. -/
inductive Meant (files : Files) (dir : NodeId) (name : String) : Place → Prop
  | itself {place : Place} (present : files.entry dir name = .ok place)
      (plain : ∀ id target, place = .node id → files.node? id ≠ some (.link target)) :
      Meant files dir name place
  | behind {id : NodeId} {target : String} {links : Nat} {place : Place}
      (present : files.entry dir name = .ok (.node id))
      (link : files.node? id = some (.link target))
      (leads : files.walk true links (origin dir target) (Text.cutAt '/' target) = .ok place) :
      Meant files dir name place

/-- A regular file is emptied, and all else is as it was. -/
structure Emptied (files after : Files) (id : NodeId) : Prop where
  file : ∃ contents attributes, files.node? id = some (.file contents attributes) ∧
    after.node? id = some (.file [] { attributes with modified := files.now })
  others : ∀ other ≠ id, after.node? other = files.node? other
  now : after.now = files.now

/-- A directory gains a name, for an empty regular file that was not there. All else is as it
was. -/
structure Gained (files after : Files) (dir : NodeId) (name : String) : Prop where
  directory : ∃ parent entries attributes,
    files.node? dir = some (.directory parent entries attributes) ∧ entries.lookup name = none ∧
      after.node? dir = some (.directory parent (entries ++ [(name, files.nodes.length)])
        { attributes with modified := files.now })
  file : after.node? files.nodes.length = some (.file [] (files.fresh plainMode))
  others : ∀ other, other ≠ dir → other ≠ files.nodes.length →
    after.node? other = files.node? other
  now : after.now = files.now

/-- What opening a log makes of the files where its name in a directory leads to: a file there is
emptied, a device or a pipe is left alone, and where nothing is a file is made. -/
inductive LogAt (files : Files) (dir : NodeId) (name : String) : NodeId → Files → Prop
  | emptied {id : NodeId} {after : Files} (meant : Meant files dir name (.node id))
      (change : Emptied files after id) : LogAt files dir name id after
  | channel {id : NodeId} {node : Node} (meant : Meant files dir name (.node id))
      (stands : files.node? id = some node) (channel : node.isChannel) :
      LogAt files dir name id files
  | made {d : NodeId} {n : String} {after : Files} (meant : Meant files dir name (.absent d n))
      (change : Gained files after d n) : LogAt files dir name files.nodes.length after

variable {files after : Files} {follow : Bool} {links : Nat} {here dir id other cwd : NodeId}
  {name dirPath : String} {names : List String} {place : Place} {node : Node}

theorem node?_set (files : Files) (id other : NodeId) (node : Node)
    (present : id < files.nodes.length) :
    (files.set id node).node? other = if other = id then some node else files.node? other := by
  simp only [node?, set, List.getElem?_set, present, if_true]
  split <;> simp_all [eq_comm]

theorem lt_of_node? (present : files.node? id = some node) : id < files.nodes.length :=
  (List.getElem?_eq_some_iff.mp present).1

theorem absent_of_walk {d : NodeId} {n : String}
    (goes : files.walk follow links here names = .ok (.absent d n)) :
    files.entry d n = .ok (.absent d n) := by
  fun_induction files.walk follow links here names
  case case7 directory nonempty passes notSame notAbove short missing last =>
    cases goes
    rw [entry_of_directory directory, if_neg passes, if_neg short, missing]
    rfl
  all_goals simp_all

theorem node?_push (files : Files) (node : Node) (other : NodeId) :
    (files.push node).1.node? other =
      if other = files.nodes.length then some node else files.node? other := by
  simp only [push, node?]
  rcases Nat.lt_trichotomy other files.nodes.length with before | same | behind
  · rw [List.getElem?_append_left before, if_neg (Nat.ne_of_lt before)]
  · rw [same, List.getElem?_concat_length, if_pos rfl]
  · rw [if_neg (Nat.ne_of_gt behind), List.getElem?_eq_none (Nat.le_of_lt behind),
      List.getElem?_eq_none (by rw [List.length_append]; exact behind)]

theorem node?_create {parent : NodeId} {entries : List (String × NodeId)} {attributes : Attributes}
    (directory : files.node? dir = some (.directory parent entries attributes)) (node : Node)
    (other : NodeId) :
    (files.create dir name node).1.node? other =
      if other = dir then some (.directory parent (entries ++ [(name, files.nodes.length)])
        { attributes with modified := files.now })
      else if other = files.nodes.length then some node
      else files.node? other := by
  have present := lt_of_node? directory
  have kept : (files.push node).1.node? dir = some (.directory parent entries attributes) := by
    rw [node?_push, if_neg (Nat.ne_of_lt present), directory]
  simp only [create, enter, withEntries, kept]
  rw [node?_set _ _ _ _ (lt_of_node? kept), node?_push]
  rfl

theorem create_now : (files.create dir name node).1.now = files.now := by
  simp only [create, enter, withEntries]
  split <;> rfl

theorem meant_of_walk (named : IsName name) {left : Nat}
    (goes : files.walk true left dir [name] = .ok place) : Meant files dir name place := by
  have proper : name ∉ ["", ".", ".."] := by
    simp [named.nonempty, named.notHere, named.notAbove]
  rw [walk_entry proper] at goes
  cases found : files.entry dir name with
  | error errno => simp [found] at goes
  | ok stands =>
      rw [found] at goes
      cases stands with
      | absent d n =>
          obtain ⟨rfl, rfl⟩ := entry_absent found
          cases goes
          exact .itself found (by simp)
      | node id =>
          simp only at goes
          split at goes
          · rename_i target link
            cases left with
            | zero => simp at goes
            | succ left =>
                by_cases nowhere : target = ""
                · simp [nowhere] at goes
                · exact .behind found link (by simpa [nowhere] using goes)
          · rename_i plain
            rw [walk] at goes
            cases goes
            refine .itself found ?_
            rintro _ target ⟨⟩
            exact plain target

theorem Meant.absent {d : NodeId} {n : String} (meant : Meant files dir name (.absent d n)) :
    files.entry d n = .ok (.absent d n) := by
  cases meant with
  | itself present plain =>
      obtain ⟨rfl, rfl⟩ := entry_absent present
      exact present
  | behind present link leads => exact absent_of_walk leads

theorem Meant.directory (meant : Meant files dir name place) :
    ∃ parent entries attributes, files.node? dir = some (.directory parent entries attributes) := by
  cases meant with
  | itself present plain => exact entry_ok present
  | behind present link leads => exact entry_ok present

theorem emptied_set {contents : Octets} {attributes : Attributes}
    (file : files.node? id = some (.file contents attributes)) :
    Emptied files (files.set id (.file [] { attributes with modified := files.now })) id where
  file := ⟨contents, attributes, file, by rw [node?_set _ _ _ _ (lt_of_node? file), if_pos rfl]⟩
  others := fun other apart => by rw [node?_set _ _ _ _ (lt_of_node? file), if_neg apart]
  now := rfl

theorem gained_create (missing : files.entry dir name = .ok (.absent dir name)) :
    Gained files (files.create dir name (.file [] (files.fresh plainMode))).1 dir name := by
  obtain ⟨parent, entries, attributes, directory⟩ := entry_ok missing
  have unnamed : entries.lookup name = none := by
    rw [entry_of_directory directory] at missing
    cases found : entries.lookup name with
    | none => rfl
    | some id =>
        simp only [found, Option.elim_some] at missing
        repeat' split at missing
        all_goals cases missing
  refine ⟨⟨parent, entries, attributes, directory, unnamed, ?_⟩, ?_, ?_, create_now⟩
  · rw [node?_create directory, if_pos rfl]
  · rw [node?_create directory, if_neg (Nat.ne_of_gt (lt_of_node? directory)), if_pos rfl]
  · intro other outside old
    rw [node?_create directory, if_neg outside, if_neg old]

theorem find_of_open {path : String} {empties reads : Bool} {mode : Nat}
    {opening : NodeId × Files}
    (opened : files.openForWriting cwd path empties reads mode = .ok opening) :
    ∃ place, files.find cwd path true = .ok place := by
  cases found : files.find cwd path true with
  | ok place => exact ⟨place, rfl⟩
  | error errno =>
      simp only [openForWriting, found] at opened
      split at opened
      · split at opened
        · split at opened <;> cases opened
        · cases opened
      · cases opened
      · rename_i same
        cases same
      · rename_i same
        cases same

theorem openForWriting_logAt (named : IsName name)
    (opened : files.openForWriting cwd (Path.join dirPath name) true false plainMode =
      .ok (id, after)) :
    ∃ left dir, Reaches files linkLimit (origin cwd dirPath) (Path.dirNames dirPath) left dir ∧
      Leads files cwd dirPath dir ∧ LogAt files dir name id after := by
  obtain ⟨place, found⟩ := find_of_open opened
  obtain ⟨left, dir, reaches, goes⟩ := find_join named found
  have meant := meant_of_walk named goes
  obtain ⟨parent, entries, attributes, directory⟩ := meant.directory
  refine ⟨left, dir, reaches, reaches.leads named (find_ok_iff.mp found).1 directory, ?_⟩
  rw [openForWriting, found] at opened
  cases place with
  | absent d n =>
      simp only at opened
      split at opened
      · cases opened
        exact .made meant (gained_create meant.absent)
      · cases opened
  | node target =>
      simp only [Bool.false_eq_true, if_false, if_true] at opened
      split at opened
      · cases opened
      · rename_i contents attributes file
        split at opened
        · cases opened
          exact .emptied meant (emptied_set file)
        · cases opened
      · rename_i device stands
        cases opened
        exact .channel meant stands rfl
      · rename_i pipe attributes stands
        split at opened
        · cases opened
          exact .channel meant stands rfl
        · cases opened
      · cases opened

end Files

/-! Opening a pipe lets those go on who wait to read from it, and changes no file and no number. -/

namespace System

variable {system : System} {pipe : Nat}

theorem unblock_keeps (system : System) (pipe : Nat) (pid : Pid) (task : Task) (mode : OpenMode)
    (next : Reply → Program) :
    (system.unblock pipe pid task mode next).files = system.files ∧
      (system.unblock pipe pid task mode next).tasks.length = system.tasks.length := by
  rw [unblock]
  simp only
  split <;> simp [openFor, addOpen, setTask]

theorem letIn_keeps (system : System) (pipe : Nat) (reads : Bool) :
    (system.letIn pipe reads).files = system.files ∧
      (system.letIn pipe reads).tasks.length = system.tasks.length := by
  rw [letIn]
  generalize system.openers pipe reads = openers
  induction openers generalizing system with
  | nil => exact ⟨rfl, rfl⟩
  | cons opener openers ih =>
      obtain ⟨pid, task, mode, next⟩ := opener
      obtain ⟨files, tasks⟩ := unblock_keeps system pipe pid task mode next
      rw [List.foldl_cons]
      obtain ⟨files', tasks'⟩ := ih (system.unblock pipe pid task mode next)
      exact ⟨files'.trans files, tasks'.trans tasks⟩

theorem freshPipe_keeps (system : System) (pipe : Nat) :
    (system.freshPipe pipe).files = system.files ∧
      (system.freshPipe pipe).tasks = system.tasks := by
  rw [freshPipe]
  split <;> exact ⟨rfl, rfl⟩

theorem withLog_keeps (system : System) (files : Files) (id : NodeId) :
    (system.withLog files id).files = files ∧
      (system.withLog files id).nextPid = system.nextPid := by
  rw [withLog]
  split
  · rename_i pipe attributes stands
    obtain ⟨files', tasks⟩ := letIn_keeps
      (({ system with files := files }.freshPipe pipe).addOpen (endOf pipe .write)).1 pipe true
    obtain ⟨files'', tasks'⟩ := freshPipe_keeps { system with files := files } pipe
    exact ⟨files'.trans files'', by rw [nextPid, tasks, nextPid, addOpen, tasks']⟩
  · exact ⟨rfl, rfl⟩

theorem withLog_of_file {files : Files} {id : NodeId}
    (file : ∀ pipe attributes, files.node? id ≠ some (.fifo pipe attributes)) :
    system.withLog files id = { system with
      files := files
      openFiles := system.openFiles ++ [⟨.node id, 0, false, false, true⟩] } := by
  rw [withLog]
  split
  · rename_i pipe attributes stands
    exact absurd stands (file pipe attributes)
  · rfl

end System

def withLog (host : Host) (files : Files) (id : NodeId) : Host :=
  host.withSystem (host.system.withLog files id)

open Files (Leads LogAt)

/-- What opening a log in a directory makes of a host: nothing, or else the log is open. -/
inductive OpensLog (dirPath name : String) (host : Host) : Host → Prop
  | refused : OpensLog dirPath name host host
  | opened {dir id : NodeId} {files : Files}
      (leads : Leads host.system.files host.cwd dirPath dir)
      (change : LogAt host.system.files dir name id files) :
      OpensLog dirPath name host (host.withLog files id)

theorem openLog_eq_some_iff {host after : Host} {path : String} {log : Nat} :
    host.openLog path = (some log, after) ↔
      0 < host.room ∧ log = host.system.openFiles.length ∧ ∃ id files,
        host.system.files.openForWriting host.cwd path true false Files.plainMode =
          .ok (id, files) ∧ after = host.withLog files id := by
  rw [openLog]
  by_cases room : host.room < 1
  · rw [if_pos room]
    exact iff_of_false nofun fun ⟨left, _⟩ => by omega
  · rw [if_neg room]
    cases host.system.files.openForWriting host.cwd path true false Files.plainMode with
    | error errno => simp
    | ok opening =>
        obtain ⟨id, files⟩ := opening
        simp only [Prod.mk.injEq, Option.some.injEq, Except.ok.injEq, withLog]
        constructor
        · rintro ⟨rfl, rfl⟩
          exact ⟨by omega, rfl, id, files, ⟨rfl, rfl⟩, rfl⟩
        · rintro ⟨-, rfl, _, _, ⟨rfl, rfl⟩, rfl⟩
          exact ⟨rfl, rfl⟩

theorem openLog_eq_none {host after : Host} {path : String}
    (refused : host.openLog path = (none, after)) : after = host := by
  rw [openLog] at refused
  split at refused
  · cases refused
    rfl
  · split at refused <;> cases refused
    rfl

/-- A log is open, and a job may have it for its output and for its errors. -/
structure HasLog (host : Host) (path : String) (log : Nat) (opened : Host) : Prop where
  opens : host.openLog path = (some log, opened)
  copies : opened.copyLog log = (some log, opened)

theorem openLog_opensLog (host : Host) (dirPath : String) {name : String}
    (named : Path.IsName name) :
    OpensLog dirPath name host (host.openLog (Path.join dirPath name)).2 := by
  cases opened : host.openLog (Path.join dirPath name) with
  | mk log after =>
      cases log with
      | none =>
          obtain rfl := openLog_eq_none opened
          exact .refused
      | some log =>
          obtain ⟨-, -, id, files, granted, rfl⟩ := openLog_eq_some_iff.mp opened
          obtain ⟨left, dir, -, leads, change⟩ := Files.openForWriting_logAt named granted
          exact .opened leads change

/-- What starting a program makes of a host, and the number of the new task if there is one. -/
inductive StartsTask (host : Host) (output errors : Nat) : Option Pid → Host → Prop
  | refused : StartsTask host output errors none host
  | started {input : OpenFile} {task : Task}
      (descriptors : task.descriptors =
        [(0, host.system.openFiles.length), (1, output), (2, errors)]) :
      StartsTask host output errors (some host.system.nextPid) (host.withSystem { host.system with
        openFiles := host.system.openFiles ++ [input]
        tasks := host.system.tasks ++ [task] })

theorem start_startsTask (boot : Boot) (host : Host) (program : String) (args : List String)
    (output errors : Nat) :
    StartsTask host output errors (start boot host program args output errors).1
      (start boot host program args output errors).2 := by
  rw [start]
  split
  · exact .refused
  · split
    · exact .refused
    · simp only
      split
      · exact .started rfl
      · exact .refused

def withTask (host : Host) (input : OpenFile) (task : Task) : Host :=
  host.withSystem { host.system with
    openFiles := host.system.openFiles ++ [input]
    tasks := host.system.tasks ++ [task] }

section WithTask

variable {host : Host} {input : OpenFile} {task : Task} {pid : Pid}

theorem task?_old (below : pid < host.system.nextPid) :
    (withTask host input task).system.task? pid = host.system.task? pid := by
  rw [Host.System.nextPid] at below
  rw [Host.System.task?, Host.System.task?]
  split
  · rfl
  · rename_i counted
    exact List.getElem?_append_left (Nat.sub_lt_left_of_lt_add (Nat.not_lt.mp counted) below)

theorem task?_new :
    (withTask host input task).system.task? host.system.nextPid = some task := by
  rw [Host.System.task?, Host.System.nextPid, if_neg (Nat.not_lt.mpr (Nat.le_add_right _ _)),
    Nat.add_sub_cancel_left]
  exact List.getElem?_concat_length

end WithTask

end BatchLaunch.Host
