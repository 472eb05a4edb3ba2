import BatchLaunch.Host.People
import BatchLaunch.Tools.Listing
import BatchLaunch.Tools.Starting

/-!
Programs that say who the user is and what the system is.
-/
namespace BatchLaunch.Tools

open Host (Action Environment)

def sayLine (text : Chars) : Action Nat := do
  let _ ← put (text ++ ['\n'])
  pure 0

def people : List (Chars × Nat × Nat × Chars) :=
  Host.users.map fun user => (user.name.toList, user.number, user.group,
    ((Host.groupNumbered? user.group).getD "").toList)

def idOptions : OptionTable :=
  ⟨"agnruzGZ", [("context", "Z"), ("group", "g"), ("groups", "G"), ("name", "n"), ("real", "r"),
    ("user", "u"), ("zero", "z")], true⟩

def identity : Tool := withOptions idOptions 1 fun name asked => do
  let single := asked.has "u" || asked.has "g" || asked.has "G"
  if 1 < (["u", "g", "G", "Z"].filter asked.has).length then
    giveUp name "cannot print \"only\" of more than one choice".toList 1
  if !single && (asked.has "n" || asked.has "r") then
    giveUp name "cannot print only names or real IDs in default format".toList 1
  let ending := if asked.has "z" then '\x00' else '\n'
  let words := if asked.operands.isEmpty then [userName] else asked.operands
  forEach words fun word => do
    match people.find? fun person => person.1 = word || natChars person.2.1 = word with
    | none =>
        complain name (quoted word ++ ": no such user".toList)
        pure false
    | some (person, user, group, groupWord) =>
        let both (number : Nat) (word : Chars) : Chars :=
          natChars number ++ '(' :: word ++ [')']
        let text := if asked.has "u" then (if asked.has "n" then person else natChars user)
          else if single then (if asked.has "n" then groupWord else natChars group)
          else "uid=".toList ++ both user person ++ " gid=".toList ++ both group groupWord ++
            " groups=".toList ++ both group groupWord
        put (text ++ [ending])

def whoami : Tool := withOptions ⟨"", [], true⟩ 1 fun name asked => do
  refuseExtra name asked 0 1 quoted
  sayLine userName

def logname : Tool := withOptions ⟨"", [], true⟩ 1 fun name asked => do
  refuseExtra name asked 0 1 quoted
  giveUp name "no login name".toList 1

def groups : Tool := withOptions ⟨"", [], true⟩ 1 fun name asked => do
  if asked.operands.isEmpty then sayLine groupName
  else
    forEach asked.operands fun word => do
      match people.find? fun person => person.1 = word with
      | some person => put (word ++ " : ".toList ++ person.2.2.2 ++ ['\n'])
      | none =>
          complain name (quoted word ++ ": no such user".toList)
          pure false

def hostName : Chars := "localhost".toList

def hostname : Tool := withOptions ⟨"fsiAdIa", [], true⟩ 1 fun _ _ => sayLine hostName

def systemNames : List (String × String) := [
  ("s", "Linux"), ("n", "localhost"), ("r", "6.1.0"), ("v", "#1 SMP"), ("m", "x86_64"),
  ("p", "unknown"), ("i", "unknown"), ("o", "GNU/Linux")]

def unameOptions : OptionTable :=
  ⟨"asnrvmpio", [("all", "a"), ("kernel-name", "s"), ("sysname", "s"), ("nodename", "n"),
    ("kernel-release", "r"), ("release", "r"), ("kernel-version", "v"), ("machine", "m"),
    ("processor", "p"), ("hardware-platform", "i"), ("operating-system", "o")], true⟩

def uname : Tool := withOptions unameOptions 1 fun name asked => do
  refuseExtra name asked 0 1 quoted
  let wanted := if asked.given.isEmpty then systemNames.take 1
    else if asked.has "a" then systemNames.filter fun entry => entry.2 ≠ "unknown"
    else systemNames.filter fun entry => asked.has entry.1
  sayLine (join [' '] (wanted.map fun entry => entry.2.toList))

def arch : Tool := withOptions ⟨"", [], true⟩ 1 fun name asked => do
  refuseExtra name asked 0 1 quoted
  sayLine "x86_64".toList

def processors : Nat := 4

def nproc : Tool := withOptions ⟨"", [("all", "all"), ("ignore:", "ignore")], true⟩ 1
  fun name asked => do
    refuseExtra name asked 0 1 quoted
    let ignored ← match asked.value? "ignore" with
      | none => pure 0
      | some text => amountOf name "" "number" text
    sayLine (natChars (max 1 (processors - ignored)))

def tty : Tool := withOptions ⟨"s", [("silent", "s"), ("quiet", "s")], true⟩ 2 fun name asked => do
  refuseExtra name asked 0 2 quoted
  if !asked.has "s" then
    let _ ← put "not a tty\n".toList
  pure 1

/-! Terminals: there is none, and no one is logged in at one. -/

def sttyOptions : OptionTable :=
  ⟨"agF:", [("all", "a"), ("save", "g"), ("file:", "F")], true⟩

def notTerminal : Chars := "Inappropriate ioctl for device".toList

def stty : Tool := withOptions sttyOptions 1 fun name asked => do
  match asked.value? "F" with
  | none => giveUp name ("'standard input': ".toList ++ notTerminal) 1
  | some file =>
      match ← Action.call (.open (path file) .read) with
      | .refused errno => giveUp name (nameSafe file ++ ": ".toList ++ errno.text.toList) 1
      | _ => giveUp name (nameSafe file ++ ": ".toList ++ notTerminal) 1

def users : Tool := withOptions ⟨"", [], true⟩ 1 fun name asked => do
  refuseExtra name asked 1 1 quoted
  pure 0

def whoOptions : OptionTable :=
  ⟨"abdHlmpqrsTtuw", [("all", "a"), ("boot", "b"), ("count", "q"), ("dead", "d"),
    ("heading", "H"), ("login", "l"), ("lookup", "lookup"), ("message", "T"), ("mesg", "T"),
    ("process", "p"), ("runlevel", "r"), ("short", "s"), ("time", "t"), ("users", "u"),
    ("writable", "T")], true⟩

def who : Tool := withOptions whoOptions 1 fun name asked => do
  refuseExtra name asked 2 1 quoted
  if asked.has "q" then
    let _ ← put "\n# users=0\n".toList
  else if asked.has "H" then
    let _ ← put "NAME     LINE         TIME             COMMENT\n".toList
  pure 0

/-! Programs by name -/

def which : EnvironmentTool := fun environment _ words => do
  let all := words.head? = some "-a".toList
  let dirs := match valueOf? environment "PATH" with
    | some text => Text.partsAt ':' text
    | none => []
  let isProgram (file : Chars) : Action Bool := do
    match ← infoAt file true with
    | .ok info => pure (info.kind = .file && info.grants 1)
    | .error _ => pure false
  let words := if all || words.head? = some "-s".toList then words.drop 1 else words
  if words.isEmpty then pure 1
  else
    forEach words fun word => do
      let places := if word.contains '/' then [word]
        else dirs.map fun dir => inside (if dir.isEmpty then ['.'] else dir) word
      let found ← places.foldlM (fun found place => do
        if ← isProgram place then pure (found ++ [place]) else pure found) []
      let _ ← put (unlines (if all then found else found.take 1))
      pure !found.isEmpty

end BatchLaunch.Tools
