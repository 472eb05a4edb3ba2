import BatchLaunch.Host.Edit
import BatchLaunch.Host.Machine
import BatchLaunch.Host.NameOrder
import BatchLaunch.Host.People

/-!
A fresh host, and what its user does to its files.
-/
namespace BatchLaunch.Host

abbrev Tried := Files × Option Errno

namespace Files

def tried (files : Files) : Changed → Tried
  | .ok changed => (changed, none)
  | .error errno => (files, some errno)

/-- Makes a directory and those above it; what is there already stays. -/
def makeDirs (files : Files) (cwd : NodeId) (path : String) : Tried :=
  let names := Text.cutAt '/' path
  let stages := (List.range names.length).map fun n => "/".intercalate (names.take (n + 1))
  (stages.filter (· ≠ "")).foldl (fun (files, fault) stage =>
    if fault.isSome then (files, fault)
    else
      match files.makeNode cwd stage fun dir =>
          .directory dir [] (files.fresh directoryMode) with
      | .ok changed => (changed, none)
      | .error errno =>
          match files.get? cwd stage with
          | some (.directory _ _ _) => (files, none)
          | _ => (files, some errno)) (files, none)

def parentPath (path : String) : String :=
  "/".intercalate (Text.cutAt '/' (withoutEndSlashes path)).dropLast

def writeFile (files : Files) (cwd : NodeId) (path : String) (contents : Octets) (mode : Nat) :
    Tried :=
  match files.makeDirs cwd (parentPath path) with
  | (inside, some errno) => (inside, some errno)
  | (inside, none) =>
      match inside.openForWriting cwd path true false plainMode with
      | .error errno => (inside, some errno)
      | .ok (id, opened) =>
          let written := opened.writeAt id 0 contents
          written.tried (written.setMode cwd path mode)

def makeLink (files : Files) (cwd : NodeId) (path target : String) : Tried :=
  files.tried (files.makeNode cwd path fun _ => .link target)

/-- Empties a directory and takes its name away, as far as the user may. The first fault ends it,
and what is listed behind that stays. -/
def removeTree (files : Files) (dir : NodeId) : Nat → String → Tried
  | 0, _ => (files, some .loop)
  | fuel + 1, name =>
      match (files.entries dir).lookup name with
      | none => (files, some .noEntry)
      | some id =>
          match files.node? id with
          | some (.directory _ entries attributes) =>
              if !attributes.grants 4 then (files, some .denied)
              else
                match (NameOrder.sorted entries).foldl (fun (left, fault) entry =>
                    if fault.isSome then (left, fault) else removeTree left id fuel entry.1)
                    (files, none) with
                | (emptied, none) => emptied.tried (emptied.removeName dir name true)
                | (left, fault) => (left, fault)
          | _ => files.tried (files.removeName dir name false)

def depthLimit : Nat := 256

def remove (files : Files) (cwd : NodeId) (path : String) : Tried :=
  match files.parentOf cwd path with
  | .error errno => (files, some errno)
  | .ok (dir, name, _) => files.removeTree dir depthLimit name

/-- What is found below a directory, links to directories followed: the path of each directory with
a slash, and that of all else with its contents. -/
def listing (files : Files) : Nat → String → NodeId → List (String × Option Octets)
  | 0, _, _ => []
  | fuel + 1, dirPath, dir =>
      if !files.grants dir 4 then []
      else
        (files.entries dir).flatMap fun (name, _) =>
          let path := dirPath ++ name
          match files.lookup dir name true with
          | .error _ => [(path, some [])]
          | .ok id =>
              match files.node? id with
              | some (.directory _ _ _) =>
                  (path ++ "/", none) :: listing files fuel (path ++ "/") id
              | some (.file contents attributes) =>
                  [(path, some (if attributes.grants 4 then contents else []))]
              | _ => [(path, some [])]

def systemDir (files : Files) (parent : NodeId) (name : String) : Files × NodeId :=
  files.create parent name (.directory parent [] ⟨directoryMode, false, files.now⟩)

def systemFile (files : Files) (dir : NodeId) (name text : String) (mode : Nat) : Files :=
  (files.create dir name (.file (Text.Utf8.encode text) ⟨mode, false, files.now⟩)).1

end Files

/-- The time at which every host starts, in nanoseconds since the beginning of 1970. -/
def startTime : Int := 1760000000000000000

def scratchName : String := "scratch"

/-- The files of a system without anything of its user: programs of the given names, devices, a file
that everybody may read and nobody execute, what shows tasks, and an empty working directory in one
that belongs to the user. -/
def baseFiles (tools : List String) : Files × NodeId :=
  let top : Node := .directory Files.root [] ⟨Files.directoryMode, false, startTime⟩
  let bare : Files := ⟨[top], startTime⟩
  let (files, usr) := bare.systemDir Files.root "usr"
  let (files, bin) := files.systemDir usr "bin"
  let files := tools.foldl (fun files name => (files.create bin name (.tool name)).1) files
  let files := (files.create Files.root "bin" (.link "usr/bin")).1
  let (files, dev) := files.systemDir Files.root "dev"
  let files := (files.create dev "null" (.device .null)).1
  let files := (files.create dev "zero" (.device .zero)).1
  let (files, etc) := files.systemDir Files.root "etc"
  let files := files.systemFile etc "passwd" usersText Files.plainMode
  let files := files.systemFile etc "group" groupsText Files.plainMode
  let (files, proc) := files.systemDir Files.root "proc"
  let (files, self) := files.systemDir proc "self"
  let files := files.systemFile self "status" "" 0o444
  let files := (files.create self "exe" (.tool "launcher")).1
  let (files, tmp) := files.create Files.root "tmp"
    (.directory Files.root [] ⟨0o777, true, startTime⟩)
  files.create tmp scratchName (.directory tmp [] (files.fresh Files.directoryMode))

/-- How many descriptors a program may have besides its input, output and errors. -/
def usualRoom : Nat := 1021

/-- A host with nothing in its working directory and nothing running. -/
def fresh (tools : List String) : Host :=
  let (files, cwd) := baseFiles tools
  ⟨⟨files, [], [], [], 0⟩, cwd, some "/usr/bin:/bin", usualRoom⟩

def withFiles (host : Host) (files : Files) : Host :=
  host.withSystem { host.system with files := files }

/-- The host for the next user: what the last one left in the working directory is removed as far as
the first fault, and nothing runs any more. -/
def renewed (host : Host) (tools : List String) : Host :=
  let left := host.system.files
  let parent := (left.lookup host.cwd ".." true).toOption.getD Files.root
  match left.removeTree parent Files.depthLimit scratchName with
  | (_, none) => fresh tools
  | (files, some _) =>
      match files.lookup parent scratchName true with
      | .ok cwd =>
          ⟨⟨{ files with now := startTime }, [], [], [], 0⟩, cwd, some "/usr/bin:/bin", usualRoom⟩
      | .error _ => fresh tools

end BatchLaunch.Host
