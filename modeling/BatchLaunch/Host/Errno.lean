/-!
Why the system refuses a request.
-/
namespace BatchLaunch.Host

inductive Errno where
  | noEntry
  | notDirectory
  | isDirectory
  | loop
  | nameTooLong
  | present
  | notEmpty
  | denied
  | notPermitted
  | invalid
  | badFile
  | notExecutable
  | textBusy
  | listTooLong
  | noChild
  | noTask
  | brokenPipe
  | interrupted
  deriving DecidableEq, Repr

def Errno.text : Errno → String
  | noEntry => "No such file or directory"
  | notDirectory => "Not a directory"
  | isDirectory => "Is a directory"
  | loop => "Too many levels of symbolic links"
  | nameTooLong => "File name too long"
  | present => "File exists"
  | notEmpty => "Directory not empty"
  | denied => "Permission denied"
  | notPermitted => "Operation not permitted"
  | invalid => "Invalid argument"
  | badFile => "Bad file descriptor"
  | notExecutable => "Exec format error"
  | textBusy => "Text file busy"
  | listTooLong => "Argument list too long"
  | noChild => "No child processes"
  | noTask => "No such process"
  | brokenPipe => "Broken pipe"
  | interrupted => "Interrupted system call"

end BatchLaunch.Host
