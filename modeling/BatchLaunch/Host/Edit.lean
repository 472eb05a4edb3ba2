import BatchLaunch.Host.Files

/-!
Changes to files by path: what the user may do, and what comes of it.
-/
namespace BatchLaunch.Host.Files

abbrev Changed := Except Errno Files

/-- A new node at a path where nothing is yet. Only a directory may have slashes at the end of its
path. -/
def makeNode (files : Files) (cwd : NodeId) (path : String) (make : NodeId → Node) : Changed := do
  let asDirectory := make root matches .directory _ _ _
  let plain := withoutEndSlashes path
  match ← files.find cwd (if asDirectory && plain ≠ "" then plain else path) false with
  | .node _ => .error .present
  | .absent dir name =>
      if files.grants dir 2 then .ok (files.create dir name (make dir)).1 else .error .denied

/-- The directory that the last part of a path stands in, that part, and its node. -/
def parentOf (files : Files) (cwd : NodeId) (path : String) :
    Except Errno (NodeId × String × NodeId) := do
  if path.isEmpty then .error .noEntry
  else if pathLimit < path.utf8ByteSize then .error .nameTooLong
  else
    match (Text.cutAt '/' path).reverse.dropWhile (· = "") with
    | [] => .error .isDirectory
    | name :: before =>
        let dir ← match before with
          | [] => .ok (origin cwd path)
          | _ => files.lookup cwd (String.intercalate "/" before.reverse ++ "/") true
        let _ ← files.walk true linkLimit dir ["."]
        if nameLimit < name.utf8ByteSize then .error .nameTooLong
        else
          match (files.entries dir).lookup name with
          | none => .error .noEntry
          | some id => .ok (dir, name, id)

/-- Takes a name away, of a directory or of something else as is asked for. -/
def removeName (files : Files) (cwd : NodeId) (path : String) (directories : Bool) : Changed := do
  let last := (Text.cutAt '/' (withoutEndSlashes path)).getLast?.getD ""
  if last = "." && directories then
    let _ ← files.lookup cwd path true
    .error .invalid
  else if last = ".." && directories then
    let _ ← files.lookup cwd path true
    .error .notEmpty
  else if last = "." || last = ".." then .error .isDirectory
  else
    let (dir, name, id) ← files.parentOf cwd path
    match files.node? id with
    | some (.directory _ entries _) =>
        if !files.grants dir 2 then .error .denied
        else if !directories then .error .isDirectory
        else if !entries.isEmpty then .error .notEmpty
        else .ok (files.leave dir name)
    | _ =>
        if !files.grants dir 2 then .error .denied
        else if directories || path.toList.getLast? = some '/' then .error .notDirectory
        else .ok (files.leave dir name)

def isWithin (files : Files) (top : NodeId) : Nat → NodeId → Bool
  | 0, _ => false
  | fuel + 1, id =>
      id = top ||
        match files.node? id with
        | some (.directory parent _ _) => id ≠ root && isWithin files top fuel parent
        | _ => false

/-- Gives what is at one path another. What has that path already gives way to it if both are
directories, of which the one that goes is empty, or neither is. -/
def rename (files : Files) (cwd : NodeId) (old new : String) : Changed := do
  let (dir, name, id) ← files.parentOf cwd old
  let isDirectory (id : NodeId) : Bool := files.node? id matches some (.directory _ _ _)
  let moved (files : Files) (newDir : NodeId) (newName : String) : Files :=
    match files.node? id with
    | some (.directory _ entries attributes) =>
        (files.enter newDir newName id).set id (.directory newDir entries attributes)
    | _ => files.enter newDir newName id
  let place ← match files.parentOf cwd new with
    | .ok (newDir, newName, present) => .ok (newDir, newName, some present)
    | .error errno =>
        match files.find cwd (if isDirectory id then withoutEndSlashes new else new) false with
        | .ok (.absent newDir newName) => .ok (newDir, newName, none)
        | .error .noEntry =>
            match files.find cwd (withoutEndSlashes new) false with
            | .ok _ => .error .notDirectory
            | .error errno => .error errno
        | .ok (.node _) => .error errno
        | .error errno => .error errno
  let (newDir, newName, present) := place
  if present = some id then .ok files
  else if !files.grants dir 2 || !files.grants newDir 2 then .error .denied
  else if isDirectory id && files.isWithin id files.nodes.length newDir then .error .invalid
  else if isDirectory id && dir ≠ newDir && !files.grants id 2 then .error .denied
  else
    match present with
    | none => .ok (moved (files.leave dir name) newDir newName)
    | some present =>
        if isDirectory present && !isDirectory id then .error .isDirectory
        else if isDirectory id && !isDirectory present then .error .notDirectory
        else if !(files.entries present).isEmpty then .error .notEmpty
        else .ok (moved ((files.leave dir name).leave newDir newName) newDir newName)

/-- Another name for a node. Directories have only one. -/
def addName (files : Files) (cwd : NodeId) (old new : String) : Changed := do
  let id ← files.lookup cwd old false
  match ← files.find cwd new false with
  | .node _ => .error .present
  | .absent dir name =>
      if files.node? id matches some (.directory _ _ _) then .error .notPermitted
      else if !files.grants dir 2 then .error .denied
      else .ok (files.enter dir name id)

def changeAttributes (files : Files) (cwd : NodeId) (path : String)
    (change : Attributes → Attributes) : Changed := do
  let id ← files.lookup cwd path true
  match files.node? id with
  | some (.file contents attributes) =>
      if attributes.own then .ok (files.set id (.file contents (change attributes)))
      else .error .notPermitted
  | some (.directory parent entries attributes) =>
      if attributes.own then .ok (files.set id (.directory parent entries (change attributes)))
      else .error .notPermitted
  | some (.fifo pipe attributes) =>
      if attributes.own then .ok (files.set id (.fifo pipe (change attributes)))
      else .error .notPermitted
  | _ => .error .notPermitted

def setMode (files : Files) (cwd : NodeId) (path : String) (mode : Nat) : Changed :=
  files.changeAttributes cwd path fun attributes => { attributes with mode := mode }

/-- Sets the time of the last change, to now if none is given; who may write may do that too. -/
def setTime (files : Files) (cwd : NodeId) (path : String) (time : Option Int) : Changed := do
  let id ← files.lookup cwd path true
  match files.changeAttributes cwd path fun attributes =>
      { attributes with modified := time.getD files.now } with
  | .ok changed => .ok changed
  | .error errno =>
      if time.isNone && files.grants id 2 then .ok files
      else .error (if time.isNone then .denied else errno)

def setLength (files : Files) (id : NodeId) (length : Nat) : Changed :=
  match files.node? id with
  | some (.file contents attributes) =>
      .ok (files.set id (.file
        (contents.take length ++ List.replicate (length - contents.length) 0)
        { attributes with modified := files.now }))
  | _ => .error .invalid

end BatchLaunch.Host.Files
