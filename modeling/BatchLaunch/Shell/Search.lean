import BatchLaunch.Shell.Expand

/-!
Looking for commands: what a name stands for, and where programs are on the search path.
-/
namespace BatchLaunch.Shell

open Host (Errno)

def reason (errno : Errno) (missing : String) : Chars :=
  (if errno = .noEntry || errno = .notDirectory then missing else errno.text).toList

namespace Search

def standardPath : Chars := "/usr/local/sbin:/usr/local/bin:/usr/sbin:/usr/bin:/sbin:/bin".toList

def candidates (searchPath : Chars) (name : Chars) : List Chars :=
  if name.contains '/' then [name]
  else (Text.partsAt ':' searchPath).map fun dir => if dir.isEmpty then name else dir ++ '/' :: name

/-- The first of some paths that is accepted; else the worst reason why one is not. -/
def first (accepts : Host.Info → Bool) (worst : Errno) : List Chars → Act (Except Errno Chars)
  | [] => pure (.error worst)
  | path :: rest => do
      match ← Act.call (.info (Text.octetsOf path) true) with
      | .info info =>
          if accepts info then return .ok path else first accepts .denied rest
      | .refused errno =>
          first accepts (if errno = .noEntry || errno = .notDirectory then worst else errno) rest
      | _ => first accepts worst rest

def isProgram (info : Host.Info) : Bool := info.kind = .file && info.grants 1

def isRegular (info : Host.Info) : Bool := info.kind = .file

def variablePath : Act (Option Chars) := do return (← Act.get).value? "PATH".toList

def candidatesFor (searchPath : Option Chars) (name : Chars) : List Chars :=
  searchPath.elim (if name.contains '/' then [name] else []) (candidates · name)

def remember (name path : Chars) : Act Unit := Act.modify fun state =>
  if state.found.any (·.name = name) then
    { state with found := state.found.map fun entry =>
        if entry.name = name then ⟨name, path, false⟩ else entry }
  else { state with found := state.found ++ [⟨name, path, false⟩] }

def forget (name : Chars) : Act Unit := Act.modify fun state =>
  { state with found := state.found.filter (·.name ≠ name) }

def doubt : Act Unit := Act.modify fun state =>
  { state with found := state.found.map fun entry => { entry with stale := true } }

def program (name : Chars) : Act (Except Errno Chars) := do
  if name.contains '/' then return .ok name
  else
    let known := (← Act.get).found.find? fun entry => entry.name = name && !entry.stale
    match known with
    | some entry => return .ok entry.path
    | none =>
        match ← first isProgram .noEntry (candidatesFor (← variablePath) name) with
        | .ok path =>
            remember name path
            return .ok path
        | .error errno =>
            forget name
            return .error errno

end Search
end BatchLaunch.Shell
