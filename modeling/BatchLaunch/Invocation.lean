import BatchLaunch.Job
import BatchLaunch.Path
import BatchLaunch.Settings

/-!
The command that starts one job, and its spelling as a shell command: its words are written so that
a POSIX shell reads each back as one literal word.
-/
namespace BatchLaunch

namespace ShellWord

/-- Characters that mean nothing to the shell wherever they stand in a word. -/
def isPlain (c : Char) : Bool :=
  c.isAlphanum || "-_./=:,+@%".toList.contains c

/-- The inside of a single-quoted word: a quote closes the word, stands escaped, and opens it
again. -/
def escape : List Char → List Char
  | [] => []
  | c :: rest =>
      if c = '\x27' then "'\\''".toList ++ escape rest else c :: escape rest

def quoteChars (word : List Char) : List Char :=
  if word ≠ [] ∧ word.all isPlain then word else '\x27' :: escape word ++ ['\x27']

/-- The word itself where it is plain and not empty, else the word in single quotes. -/
def quote (word : String) : String := String.ofList (quoteChars word.toList)

end ShellWord

structure Invocation where
  program : String
  args : List String
  logPath : String
  deriving DecidableEq, Repr

namespace Invocation

def ofJob (settings : Settings) (job : Job) : Invocation where
  program := settings.launcher
  args := settings.workerFlag :: decimal job.workerCount :: settings.runtime :: settings.script ::
    job.scriptArgs
  logPath := job.logName

def within (dir : String) (invocation : Invocation) : Invocation :=
  { invocation with logPath := Path.join dir invocation.logPath }

/-- The command as a shell line, in the pieces it is written in: output and errors go to the log,
and the shell does not wait. -/
def pieces (invocation : Invocation) : List String :=
  [ShellWord.quote invocation.program, " ",
    " ".intercalate (invocation.args.map ShellWord.quote), " > ",
    ShellWord.quote invocation.logPath, " 2>&1 &"]

def line (invocation : Invocation) : String := String.join invocation.pieces

end Invocation
end BatchLaunch
