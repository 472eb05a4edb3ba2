import BatchLaunch.Text.Parts

/-!
Paths as text: joining a directory with a name, and the components that tell a bare name from a
path.
-/
namespace BatchLaunch.Path

def isAbsolute (path : String) : Bool := path.toList.head? == some '/'

/-- `path` below `base`. An absolute path stands for itself, an empty base adds nothing. -/
def join (base path : String) : String :=
  if isAbsolute path || base.isEmpty then path
  else if base.toList.getLast? == some '/' then base ++ path
  else base ++ "/" ++ path

/-- How many components a path has: its root or a `.` at the start, and each name or `..`. Repeated
and trailing slashes and inner `.` count nothing. -/
def componentCount (path : String) : Nat :=
  match Text.cutAt '/' path with
  | [] => 0
  | first :: rest =>
      let named := (rest.filter fun part => part ≠ "" && part ≠ ".").length
      if first = "" && rest.isEmpty then 0 else named + 1

/-- A path that names a place by itself, so that no search path applies. -/
def isDirect (path : String) : Bool := 1 < componentCount path

end BatchLaunch.Path
