import BatchLaunch.Host.Tree
import BatchLaunch.Run
import BatchLaunch.Tools.Installed

/-!
The program on a host of its own: a fresh one, which has a copy of the configuration file and the
search path of the caller.
-/
namespace BatchLaunch

def Host.furnished (searchPath : Option String) (file : Option (String × Octets)) : Host :=
  let bare := { fresh Tools.names with searchPath := searchPath }
  match file with
  | none => bare
  | some (path, contents) =>
      bare.withFiles (bare.system.files.writeFile bare.cwd path contents Files.plainMode).1

/-- The contents of a file; an unreadable one has none. -/
def contentsOf (path : String) : BaseIO (Option (String × Octets)) := do
  match ← (IO.FS.readBinFile path).toBaseIO with
  | .ok contents => return some (path, contents.toList)
  | .error _ => return none

/-- A host for a command line, with a copy of the configuration file that it names. -/
def hostFor (args : List String) : IO Host := do
  let path := (CommandLine.parse args).toOption.bind CommandLine.Options.config
  let file ← match path with
    | none => pure none
    | some path => contentsOf path
  return Host.furnished (← IO.getEnv "PATH") file

end BatchLaunch

open BatchLaunch in
def main (args : List String) : IO UInt32 := do
  let exit := obey (Host.machine Tools.boot) CommandLine.programName args .unbounded
    (← hostFor args)
  IO.print (Text.Utf8.decodeLossy exit.out.taken)
  for note in exit.notes do
    IO.eprintln note
  return exit.code.toUInt32
