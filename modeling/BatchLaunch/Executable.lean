import BatchLaunch.Config.Fault
import BatchLaunch.Launch.Machine
import BatchLaunch.Path
import BatchLaunch.Text.Parts

/-!
Finding the program that a launcher names. A path is taken as it is; a bare name is looked for in
the directories of the search path, of which an empty one is the working directory.
-/
namespace BatchLaunch.Executable

variable {World Log Child : Type}

/-- Whether somebody may execute a regular file. -/
def check (machine : Machine World Log Child) (world : World) (path : String) :
    Except ConfigError Bool :=
  match machine.executable? world path with
  | none => .error (.noFile path)
  | some executable => .ok executable

def isRunnable (machine : Machine World Log Child) (world : World) (path : String) : Bool :=
  machine.executable? world path = some true

/-- The places a bare name is looked for, in order. -/
def candidates (searchPath program : String) : List String :=
  (Text.cutAt ':' searchPath).map fun dir => Path.join dir program

def resolve (machine : Machine World Log Child) (world : World) (program : String) :
    Option String :=
  if Path.isDirect program then
    if isRunnable machine world program then some program else none
  else
    (machine.searchPath world).bind fun searchPath =>
      (candidates searchPath program).find? (isRunnable machine world)

end BatchLaunch.Executable
