import BatchLaunch.Host.Files

/-!
Which program a path or a name stands for. A file that the user may execute and that names an
interpreter in its first line is run by it; one that does not is left to the shell.
-/
namespace BatchLaunch.Host

/-- An installed program with its arguments, the first of which is its own name. -/
structure Image where
  tool : String
  args : List Octets
  deriving DecidableEq, Repr

namespace Image

def shellPath : String := "/bin/sh"

def defaultSearchPath : String := "/bin:/usr/bin"

/-- So many files may be looked at to find a program: itself, and the interpreters up to it. -/
def loadLimit : Nat := 6

/-- How much of a file is looked at for its interpreter. -/
def headSize : Nat := 256

def argumentLimit : Nat := 131072

def isGap (octet : UInt8) : Bool := octet = 32 || octet = 9

def endsWord (octet : UInt8) : Bool := isGap octet || octet = 0

/-- The name in a line, and what follows a gap behind it. A zero octet ends either of
them, and may leave the name empty. -/
def nameAndArgument (line : Octets) : Option (Octets × Option Octets) :=
  let name := line.takeWhile fun octet => !endsWord octet
  let argument := match line.drop name.length with
    | 0 :: _ | [] => none
    | behind =>
        match behind.dropWhile isGap with
        | [] => none
        | found => some (found.takeWhile (· ≠ 0))
  if line.isEmpty then none else some (name, argument)

/-- The interpreter that a file names, and the one argument that may follow it. The line has to end
in the part that is looked at, or else the name has to. -/
def interpreter? (contents : Octets) : Option (Octets × Option Octets) :=
  let head := contents.take headSize ++ List.replicate (headSize - contents.length) 0
  match head with
  | 35 :: 33 :: rest =>
      let trimmed (line : Octets) : Octets := (line.reverse.dropWhile isGap).reverse
      let line := rest.takeWhile fun octet => octet ≠ 10 && octet ≠ 0
      if rest[line.length]? = some 10 then nameAndArgument ((trimmed line).dropWhile isGap)
      else
        let text := rest.dropWhile isGap
        if text.any endsWord then nameAndArgument ((trimmed rest.dropLast).dropWhile isGap)
        else none
  | _ => none

/-- The program at a path. `loads` is how many files may be looked at on the way to it. A file that
somebody has open for writing is busy and cannot be run. -/
def atPath (files : Files) (busy : NodeId → Bool) (cwd : NodeId) (loads : Nat) (path : String)
    (args : List Octets) : Except Errno Image :=
  match files.lookup cwd path true with
  | .error errno => .error errno
  | .ok id =>
      match files.node? id, loads with
      | some (.tool _), 0 => .error .loop
      | some (.tool name), _ + 1 => .ok ⟨name, args⟩
      | some (.file contents attributes), loads =>
          if !attributes.grants 1 then .error .denied
          else if busy id then .error .textBusy
          else
            match loads with
            | 0 => .error .loop
            | loads + 1 =>
                match interpreter? contents with
                | none => .error .notExecutable
                | some ([], _) => .error .denied
                | some (interpreter, argument) =>
                    atPath files busy cwd loads (Text.Utf8.decodeLossy interpreter)
                      (interpreter :: argument.toList ++ Text.Utf8.encode path :: args.drop 1)
      | _, _ => .error .denied

/-- The program at a path, where the shell runs what names no interpreter. -/
def runnable (files : Files) (busy : NodeId → Bool) (cwd : NodeId) (path : String)
    (args : List Octets) : Except Errno Image :=
  if args.any fun word => argumentLimit ≤ word.length then .error .listTooLong
  else
    match atPath files busy cwd loadLimit path args with
    | .error .notExecutable =>
        atPath files busy cwd loadLimit shellPath
          (Text.Utf8.encode shellPath :: Text.Utf8.encode path :: args.drop 1)
    | result => result

/-- The paths that a program is looked for at: its own if it has a slash, else one in each directory
of the search path. A directory that is too long for a path counts as the working directory, unless
it is the last. -/
def candidates (searchPath : Option String) (program : String) : List String :=
  if program.toList.contains '/' then [program]
  else
    let dirs := Text.cutAt ':' (searchPath.getD defaultSearchPath)
    let isLong (dir : String) : Bool := Files.pathLimit < dir.utf8ByteSize
    let tried := if dirs.getLast?.any isLong then dirs.dropLast else dirs
    tried.map fun dir => if dir.isEmpty || isLong dir then program else dir ++ "/" ++ program

def isPassedOver (errno : Errno) : Bool :=
  errno = .noEntry || errno = .denied || errno = .notDirectory

/-- The first of some paths where a program can be run from. -/
def locateAt (files : Files) (busy : NodeId → Bool) (cwd : NodeId) (args : List Octets) :
    List String → Option (String × Image)
  | [] => none
  | path :: rest =>
      match runnable files busy cwd path args with
      | .ok image => some (path, image)
      | .error errno => if isPassedOver errno then locateAt files busy cwd args rest else none

def locate (files : Files) (busy : NodeId → Bool) (cwd : NodeId) (searchPath : Option String)
    (program : String) (args : List Octets) : Option (String × Image) :=
  if program.isEmpty then none
  else locateAt files busy cwd args (candidates searchPath program)

end Image
end BatchLaunch.Host
