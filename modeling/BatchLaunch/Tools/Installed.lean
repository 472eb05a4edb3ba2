import BatchLaunch.Host.System
import BatchLaunch.Shell.Start
import BatchLaunch.Tools.Arguments
import BatchLaunch.Tools.Arrange
import BatchLaunch.Tools.Awk
import BatchLaunch.Tools.Blocks
import BatchLaunch.Tools.Closing
import BatchLaunch.Tools.Columns
import BatchLaunch.Tools.CommandLine
import BatchLaunch.Tools.Comparison
import BatchLaunch.Tools.Copying
import BatchLaunch.Tools.Digests
import BatchLaunch.Tools.Dump
import BatchLaunch.Tools.Ends
import BatchLaunch.Tools.Fill
import BatchLaunch.Tools.Find
import BatchLaunch.Tools.Grep
import BatchLaunch.Tools.Identity
import BatchLaunch.Tools.Installing
import BatchLaunch.Tools.Lines
import BatchLaunch.Tools.Making
import BatchLaunch.Tools.Numbers
import BatchLaunch.Tools.Ownership
import BatchLaunch.Tools.Pages
import BatchLaunch.Tools.Portable
import BatchLaunch.Tools.Scaling
import BatchLaunch.Tools.Sections
import BatchLaunch.Tools.Sed
import BatchLaunch.Tools.Sort
import BatchLaunch.Tools.Spreading
import BatchLaunch.Tools.Test
import BatchLaunch.Tools.Translate
import BatchLaunch.Tools.Usage

/-!
The installed programs by name.
-/
namespace BatchLaunch.Tools

open Host (Environment)

def fileTools : List (String × Tool) := [
  ("basename", basename), ("chgrp", chgrp), ("chmod", chmod), ("chown", chown), ("cmp", cmp),
  ("cp", cp), ("dd", dd), ("diff", diff), ("dir", listing .columns), ("dirname", dirname),
  ("du", du), ("install", install), ("link", link), ("ln", ln), ("ls", ls), ("mkdir", mkdir),
  ("mkfifo", mkfifo), ("mknod", mknod), ("mv", mv), ("pathchk", pathchk), ("readlink", readlink),
  ("realpath", realpath), ("rm", rm), ("rmdir", rmdir), ("split", split), ("stat", stat),
  ("sync", sync), ("tee", tee), ("touch", touch), ("truncate", truncate), ("unlink", unlink),
  ("vdir", listing .long)]

def textTools : List (String × Tool) := digestTools ++ [
  ("base32", lettersTool alphabet32), ("base64", lettersTool alphabet64), ("basenc", basenc),
  ("cat", cat), ("cksum", cksum), ("comm", comm), ("csplit", csplit), ("cut", cut),
  ("egrep", fun _ => grepAs "E" "grep".toList), ("expand", expand),
  ("fgrep", fun _ => grepAs "F" "grep".toList), ("fmt", fmt), ("fold", fold), ("grep", grep),
  ("head", head), ("join", joinFiles), ("nl", nl), ("numfmt", numfmt), ("od", od),
  ("paste", paste), ("pr", pr), ("rev", rev), ("sed", sed), ("shuf", shuf), ("sort", sort),
  ("sum", sum), ("tac", tac), ("tail", tail), ("tr", tr), ("tsort", tsort), ("unexpand", unexpand),
  ("uniq", uniq), ("wc", wc)]

def plainTools : List (String × Tool) := [
  ("[", bracket), ("arch", arch), ("date", date), ("echo", echo), ("expr", expr),
  ("factor", factor), ("false", fun _ _ => pure 1), ("groups", groups), ("hostname", hostname),
  ("id", identity), ("logname", logname), ("nproc", nproc), ("printf", printf), ("seq", seq),
  ("sleep", sleep), ("stty", stty), ("test", test), ("true", fun _ _ => pure 0), ("tty", tty),
  ("uname", uname), ("users", users), ("who", who), ("whoami", whoami), ("yes", yes)]

def environmentTools : List (String × EnvironmentTool) := [
  ("awk", awk), ("env", env), ("find", find), ("getopt", getopt), ("mawk", awk),
  ("mktemp", fun environment => mktemp (valueOf? environment "TMPDIR")), ("nice", nice),
  ("nohup", nohup), ("printenv", printenv),
  ("pwd", fun environment => pwd (valueOf? environment "PWD")), ("setsid", setsid),
  ("stdbuf", stdbuf), ("timeout", timeout), ("which", which), ("xargs", xargs)]

def tools : List (String × EnvironmentTool) :=
  (fileTools ++ textTools ++ plainTools).map (fun (name, tool) => (name, fun _ => tool)) ++
    environmentTools

def shellNames : List String := ["sh", "bash", "dash"]

def names : List String := shellNames ++ tools.map (·.1)

def boot : Host.Boot := fun image environment =>
  let name := Text.charsOf (image.args.headD [])
  let words := (image.args.drop 1).map Text.charsOf
  if shellNames.contains image.tool then Shell.program image.args environment
  else
    match tools.lookup image.tool with
    | some tool => minded image.tool name (tool environment name words).program
    | none => .exit 127

end BatchLaunch.Tools
