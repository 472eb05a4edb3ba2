import BatchLaunch.Host.Errno
import BatchLaunch.Text.Parts
import BatchLaunch.Text.Utf8

/-!
The files of a system: a table of nodes, of which directories name others. Nodes are never taken out
of the table, so what is open stays readable after its last name is gone. All is done for one user,
to whom everything belongs that is made; what was there before belongs to the system.
-/
namespace BatchLaunch.Host

inductive Device where
  | null
  | zero
  deriving DecidableEq, Repr

abbrev NodeId := Nat

structure Attributes where
  mode : Nat
  own : Bool
  /-- When its contents last changed, in nanoseconds since the beginning of 1970. -/
  modified : Int
  deriving DecidableEq, Repr

inductive Node where
  | file (contents : Octets) (attributes : Attributes)
  | directory (parent : NodeId) (entries : List (String × NodeId)) (attributes : Attributes)
  | link (target : String)
  | device (device : Device)
  | fifo (pipe : Nat) (attributes : Attributes)
  /-- An installed program, which everybody may execute. -/
  | tool (name : String)
  deriving DecidableEq, Repr

structure Files where
  nodes : List Node
  /-- The time, in nanoseconds since the beginning of 1970. -/
  now : Int
  deriving DecidableEq, Repr

/-- What a path leads to: a node, or a name that its directory does not have yet. -/
inductive Place where
  | node (id : NodeId)
  | absent (dir : NodeId) (name : String)
  deriving DecidableEq, Repr

/-! Permissions are sums of 4 for reading, 2 for writing and 1 for executing. -/

/-- The user is granted all of some permissions. A mode has three digits in base eight, of which the
first is the owner's and the last everybody's. -/
def Attributes.grants (attributes : Attributes) (bits : Nat) : Bool :=
  (if attributes.own then attributes.mode / 64 else attributes.mode) &&& bits = bits

def toolMode : Nat := 0o755

def deviceMode : Nat := 0o666

def Node.mode : Node → Nat
  | file _ attributes | directory _ _ attributes | fifo _ attributes => attributes.mode
  | link _ => 0o777
  | device _ => deviceMode
  | tool _ => toolMode

def Node.grants (node : Node) (bits : Nat) : Bool :=
  match node with
  | file _ attributes | directory _ _ attributes | fifo _ attributes => attributes.grants bits
  | _ => node.mode &&& bits = bits

namespace Files

def root : NodeId := 0

def node? (files : Files) (id : NodeId) : Option Node := files.nodes[id]?

def set (files : Files) (id : NodeId) (node : Node) : Files :=
  { files with nodes := files.nodes.set id node }

def push (files : Files) (node : Node) : Files × NodeId :=
  ({ files with nodes := files.nodes ++ [node] }, files.nodes.length)

def grants (files : Files) (id : NodeId) (bits : Nat) : Bool :=
  (files.node? id).any (Node.grants · bits)

def linkLimit : Nat := 40

def nameLimit : Nat := 255

def pathLimit : Nat := 4095

/-- Where a path starts: at the root if it is absolute, else at the working directory. -/
def origin (cwd : NodeId) (path : String) : NodeId :=
  if path.toList.head? = some '/' then root else cwd

/-- Goes along the names of a path, for which directories have to be executable. `links` is how many
links may still be followed, and `follow` tells whether one at the very end is. -/
def walk (files : Files) (follow : Bool) (links : Nat) (here : NodeId) (names : List String) :
    Except Errno Place :=
  match names with
  | [] => .ok (.node here)
  | name :: rest =>
      match files.node? here with
      | some (.directory parent entries attributes) =>
          if name = "" then walk files follow links here rest
          else if !attributes.grants 1 then .error .denied
          else if name = "." then walk files follow links here rest
          else if name = ".." then walk files follow links parent rest
          else if nameLimit < name.utf8ByteSize then .error .nameTooLong
          else
            match entries.lookup name with
            | none => if rest.isEmpty then .ok (.absent here name) else .error .noEntry
            | some id =>
                match files.node? id with
                | some (.link target) =>
                    if rest.isEmpty && !follow then .ok (.node id)
                    else
                      match links with
                      | 0 => .error .loop
                      | links + 1 =>
                          if target.isEmpty then .error .noEntry
                          else walk files follow links (origin here target)
                            (Text.cutAt '/' target ++ rest)
                | _ => walk files follow links id rest
      | _ => .error .notDirectory
  termination_by (links, names.length)

/-- Where a path leads from a working directory. No path is empty or holds a NUL. -/
def find (files : Files) (cwd : NodeId) (path : String) (follow : Bool) : Except Errno Place :=
  if path.isEmpty then .error .noEntry
  else if path.toList.contains '\x00' then .error .invalid
  else if pathLimit < path.utf8ByteSize then .error .nameTooLong
  else walk files follow linkLimit (origin cwd path) (Text.cutAt '/' path)

def lookup (files : Files) (cwd : NodeId) (path : String) (follow : Bool) :
    Except Errno NodeId :=
  match files.find cwd path follow with
  | .ok (.node id) => .ok id
  | .ok (.absent _ _) => .error .noEntry
  | .error errno => .error errno

def get? (files : Files) (cwd : NodeId) (path : String) : Option Node :=
  (files.lookup cwd path true).toOption.bind files.node?

def hasExecuteBit (mode : Nat) : Bool := mode &&& 0o111 ≠ 0

/-- The mode of a regular file; installed programs are regular files too. -/
def regularMode? : Node → Option Nat
  | .file _ attributes => some attributes.mode
  | .tool _ => some toolMode
  | _ => none

def executable? (files : Files) (cwd : NodeId) (path : String) : Option Bool :=
  ((files.get? cwd path).bind regularMode?).map hasExecuteBit

def read? (files : Files) (cwd : NodeId) (path : String) : Option Octets :=
  match files.get? cwd path with
  | some (.file contents attributes) => if attributes.grants 4 then some contents else none
  | some (.device .null) => some []
  | _ => none

def entries (files : Files) (id : NodeId) : List (String × NodeId) :=
  match files.node? id with
  | some (.directory _ entries _) => entries
  | _ => []

/-- How many names a node has. A directory has one more for itself, and one in each directory in
it. -/
def linkCount (files : Files) (id : NodeId) : Nat :=
  let isDirectory (id : NodeId) : Bool := files.node? id matches some (.directory _ _ _)
  let inside := (files.entries id).countP fun entry => isDirectory entry.2
  let names := files.nodes.foldl (fun count node =>
    match node with
    | .directory _ entries _ => count + entries.countP fun entry => entry.2 = id
    | _ => count) 0
  if isDirectory id then 2 + inside else names

def withEntries (files : Files) (dir : NodeId)
    (change : List (String × NodeId) → List (String × NodeId)) : Files :=
  match files.node? dir with
  | some (.directory parent entries attributes) =>
      files.set dir (.directory parent (change entries) { attributes with modified := files.now })
  | _ => files

def enter (files : Files) (dir : NodeId) (name : String) (id : NodeId) : Files :=
  files.withEntries dir (· ++ [(name, id)])

def leave (files : Files) (dir : NodeId) (name : String) : Files :=
  files.withEntries dir (·.filter (·.1 ≠ name))

def create (files : Files) (dir : NodeId) (name : String) (node : Node) : Files × NodeId :=
  let (more, id) := files.push node
  (more.enter dir name id, id)

def fresh (files : Files) (mode : Nat) : Attributes := ⟨mode, true, files.now⟩

def plainMode : Nat := 0o644

/-- The mode of directories that are created without stating one. -/
def directoryMode : Nat := 0o755

def withoutEndSlashes (path : String) : String :=
  String.ofList (path.toList.reverse.dropWhile (· = '/')).reverse

/-- Opens a path for writing, and for reading too if so wanted: a file there is emptied on request,
and made with a mode if there is none. Whoever opens a pipe sees to its other end. -/
def openForWriting (files : Files) (cwd : NodeId) (path : String) (empties reads : Bool)
    (mode : Nat) : Except Errno (NodeId × Files) :=
  match files.find cwd path true with
  | .error .noEntry =>
      if path.toList.getLast? = some '/' then
        match files.find cwd (withoutEndSlashes path) true with
        | .ok (.absent _ _) => .error .isDirectory
        | _ => .error .noEntry
      else .error .noEntry
  | .error errno => .error errno
  | .ok (.absent dir name) =>
      if files.grants dir 2 then
        let (more, id) := files.create dir name (.file [] (files.fresh mode))
        .ok (id, more)
      else .error .denied
  | .ok (.node id) =>
      match files.node? id with
      | some (.directory _ _ _) => .error .isDirectory
      | some (.file _ attributes) =>
          if attributes.grants (if reads then 6 else 2) then
            .ok (id, if empties then
              files.set id (.file [] { attributes with modified := files.now }) else files)
          else .error .denied
      | some (.device _) => .ok (id, files)
      | some (.fifo _ attributes) =>
          if attributes.grants (if reads then 6 else 2) then .ok (id, files) else .error .denied
      | _ => .error .denied

/-- Octets put into others at a place; a gap before it is filled with zeros. -/
def splice (contents : Octets) (place : Nat) (octets : Octets) : Octets :=
  contents.take place ++ List.replicate (place - contents.length) 0 ++ octets ++
    contents.drop (place + octets.length)

def writeAt (files : Files) (id : NodeId) (place : Nat) (octets : Octets) : Files :=
  match files.node? id with
  | some (.file contents attributes) =>
      files.set id (.file (splice contents place octets) { attributes with modified := files.now })
  | _ => files

def size (files : Files) (id : NodeId) : Nat :=
  match files.node? id with
  | some (.file contents _) => contents.length
  | _ => 0

end Files
end BatchLaunch.Host
