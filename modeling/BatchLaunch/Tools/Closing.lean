import BatchLaunch.Tools.Basic
import BatchLaunch.Tools.Quote

/-!
What programs do at their end about output that could not be written because there was nowhere to
write it.
-/
namespace BatchLaunch.Tools

open Host (Program Call Reply)

structure OutputFault where
  lines : List String
  status : Nat

def isLostOutput (call : Call) (reply : Reply) : Bool :=
  match call with
  | .write target octets => target = output && !octets.isEmpty && reply = .refused .badFile
  | _ => false

def lamentIn (name : Chars) (status : Nat) : List String → Program
  | [] => .exit status
  | line :: rest =>
      let text := name ++ ": ".toList ++ octetChars line ++ ['\n']
      .call (.write errors (Text.octetsOf text)) fun _ => lamentIn name status rest

def watched (name : Chars) (fault : OutputFault) : Bool → Program → Program
  | lost, .exit code => if lost then lamentIn name fault.status fault.lines else .exit code
  | lost, .call call next =>
      .call call fun reply => watched name fault (lost || isLostOutput call reply) (next reply)
  | lost, .fork child next => .fork child fun pid => watched name fault lost (next pid)
  | lost, .become path args environment failed =>
      .become path args environment fun errno => watched name fault lost (failed errno)

def plainOutputFault (status : Nat) : OutputFault := ⟨["write error: Bad file descriptor"], status⟩

def outputFaults : List (String × OutputFault) := [
  ("ls", plainOutputFault 2), ("dir", plainOutputFault 2), ("vdir", plainOutputFault 2),
  ("grep", plainOutputFault 2), ("egrep", plainOutputFault 2), ("fgrep", plainOutputFault 2),
  ("printenv", plainOutputFault 2), ("expr", plainOutputFault 3), ("tty", plainOutputFault 3),
  ("env", plainOutputFault 125), ("nice", plainOutputFault 125),
  ("which", ⟨["printf: I/O error"], 1⟩),
  ("sort", ⟨["fflush failed: 'standard output': Bad file descriptor", "write error"], 2⟩),
  ("awk", ⟨["close failed on file /dev/stdout (Bad file descriptor)"], 2⟩),
  ("mawk", ⟨["close failed on file /dev/stdout (Bad file descriptor)"], 2⟩),
  ("diff", ⟨["standard output: Bad file descriptor"], 2⟩),
  ("yes", ⟨["standard output: Bad file descriptor"], 1⟩),
  ("find", ⟨["‘standard output’: Bad file descriptor", "write error: Bad file descriptor"], 1⟩)]

def careless : List String := ["cmp", "dd", "rev", "hostname", "sed", "tee", "xargs"]

def scriptNames : List (String × String) :=
  [("egrep", "grep"), ("fgrep", "grep"), ("which", "/usr/bin/which: 13: printf")]

def minded (tool : String) (name : Chars) (program : Program) : Program :=
  if careless.contains tool then program
  else
    watched (((scriptNames.lookup tool).map String.toList).getD name)
      ((outputFaults.lookup tool).getD (plainOutputFault 1)) false program

end BatchLaunch.Tools
