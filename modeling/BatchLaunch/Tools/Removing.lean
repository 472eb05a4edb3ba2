import BatchLaunch.Tools.Mode

/-!
Programs that take names away.
-/
namespace BatchLaunch.Tools

open Host (Action Call Reply Errno Info)

def readReply : Nat → Action Chars
  | 0 => pure []
  | fuel + 1 => do
      match ← Action.call (.read 0 1) with
      | .octets [octet] =>
          if octet = 10 then pure []
          else do
            let more ← readReply fuel
            pure (Char.ofNat octet.toNat :: more)
      | _ => pure []

def confirm (name question : Chars) : Action Bool := do
  let _ ← Action.write errors (Text.octetsOf (name ++ ": ".toList ++ question ++ "? ".toList))
  let reply ← readReply 4096
  pure (reply.head? = some 'y' || reply.head? = some 'Y')

def kindWords (info : Info) : Chars :=
  (match info.kind with
    | .file => if info.size = 0 then "regular empty file" else "regular file"
    | .directory => "directory"
    | .link => "symbolic link"
    | .device => "character special file"
    | .pipe => "fifo").toList

def rmdirOptions : OptionTable :=
  ⟨"pv", [("ignore-fail-on-non-empty", "ignore"), ("parents", "p"), ("path", "p"),
    ("verbose", "v")], true⟩

def parentsOf (word : Chars) : List Chars :=
  let trimmed := (word.reverse.dropWhile (· = '/')).reverse
  let parts := Text.partsAt '/' trimmed
  ((List.range parts.length).drop 1).reverse.filterMap fun count =>
    let above := join ['/'] (parts.take count)
    if above.isEmpty || above.getLast? = some '/' then none else some above

def rmdir : Tool := withOptions rmdirOptions 1 fun name asked => do
  needOperand name asked 1
  let announce (dir : Chars) : Action Unit := do
    if asked.has "v" then
      let _ ← put (name ++ ": removing directory, ".toList ++ shellQuoted dir ++ ['\n'])
      pure ()
    else pure ()
  let ignores (errno : Errno) : Bool := asked.has "ignore" && errno = .notEmpty
  let rec climb : List Chars → Action Bool
    | [] => pure true
    | dir :: rest => do
        announce dir
        match ← Action.call (.removeDir (path dir)) with
        | .refused errno =>
            if ignores errno then pure true
            else
              complain name ("failed to remove directory ".toList ++ shellQuoted dir ++
                ": ".toList ++ errno.text.toList)
              pure false
        | _ => climb rest
  forEach asked.operands fun dir => do
    announce dir
    match ← Action.call (.removeDir (path dir)) with
    | .refused errno =>
        if ignores errno then pure true
        else
          complain name
            ("failed to remove ".toList ++ shellQuoted dir ++ ": ".toList ++ errno.text.toList)
          pure false
    | _ => if asked.has "p" then climb (parentsOf dir) else pure true

structure Removal where
  name : Chars
  recursive : Bool
  emptyDirs : Bool
  forced : Bool
  asks : Bool
  tells : Bool

namespace Removal

def refuse (removal : Removal) (word : Chars) (errno : Errno) : Action Bool := do
  complain removal.name
    ("cannot remove ".toList ++ shellQuoted word ++ ": ".toList ++ errno.text.toList)
  pure false

def tell (removal : Removal) (what : String) (word : Chars) : Action Unit := do
  if removal.tells then
    let _ ← put (what.toList ++ shellQuoted word ++ ['\n'])
    pure ()
  else pure ()

def agree (removal : Removal) (question : Chars) : Action Bool :=
  if removal.asks then confirm removal.name question else pure true

/-- Takes the name of a directory away. One that cannot be listed is not known to be empty. -/
def takeDir (removal : Removal) (word : Chars) (unread : Option Errno) : Action Bool := do
  if ← removal.agree ("remove directory ".toList ++ shellQuoted word) then
    match ← Action.call (.removeDir (path word)) with
    | .refused errno =>
        removal.refuse word (if errno = .notEmpty then unread.getD errno else errno)
    | _ =>
        removal.tell "removed directory " word
        pure true
  else pure true

def takeFile (removal : Removal) (word : Chars) (info : Info) : Action Bool := do
  if ← removal.agree ("remove ".toList ++ kindWords info ++ ' ' :: shellQuoted word) then
    match ← Action.call (.remove (path word)) with
    | .refused errno => removal.refuse word errno
    | _ =>
        removal.tell "removed " word
        pure true
  else pure true

def take (removal : Removal) : Nat → Bool → Chars → Action Bool
  | 0, _, _ => pure false
  | fuel + 1, top, word => do
      match ← infoAt word false with
      | .error errno =>
          if removal.forced && (errno = .noEntry || errno = .notDirectory) then pure true
          else removal.refuse word errno
      | .ok info =>
          if info.kind ≠ .directory then takeFile removal word info
          else
            let found ← namesIn word
            let names := found.toOption.getD []
            let last := baseOf word
            if !removal.recursive && !(removal.emptyDirs && names.isEmpty) then
              removal.refuse word (if removal.emptyDirs then .notEmpty else .isDirectory)
            else if top && (last = ['.'] || last = ['.', '.']) then
              complain removal.name
                ("refusing to remove '.' or '..' directory: skipping ".toList ++ shellQuoted word)
              pure false
            else if top && last = ['/'] then
              complain removal.name
                ("it is dangerous to operate recursively on ".toList ++ shellQuoted word)
              complain removal.name "use --no-preserve-root to override this failsafe".toList
              pure false
            else
              match found with
              | .error errno => removal.takeDir word (some errno)
              | .ok [] => removal.takeDir word none
              | .ok names =>
                  if ← removal.agree ("descend into directory ".toList ++ shellQuoted word) then
                    let status ← forEach names fun entry =>
                      take removal fuel false (inside word entry)
                    if status = 0 then removal.takeDir word none else pure false
                  else pure true

end Removal

def rmOptions : OptionTable :=
  ⟨"dfirvIR", [("dir", "d"), ("force", "f"), ("interactive::", "when"),
    ("no-preserve-root", "n"), ("one-file-system", "x"), ("preserve-root::", "p"),
    ("recursive", "r"), ("verbose", "v")], true⟩

def rm : Tool := withOptions rmOptions 1 fun name asked => do
  let chosen := match asked.last? ["f", "i", "I", "when"] with
    | some ("when", word) =>
        if ["never".toList, "no".toList, "none".toList].contains word then "f"
        else if word = "once".toList then "I" else "i"
    | some (key, _) => key
    | none => ""
  let forced := chosen = "f"
  if asked.operands.isEmpty then
    if forced then pure 0 else giveUpUse name "missing operand".toList 1
  else
    let recursive := asked.has "r" || asked.has "R"
    let count := asked.operands.length
    let removal : Removal :=
      ⟨name, recursive, asked.has "d", forced, chosen = "i", asked.has "v"⟩
    if chosen = "I" && (recursive || 3 < count) then
      let question := "remove ".toList ++ natChars count ++
        (if count = 1 then " argument" else " arguments").toList ++
        (if recursive then " recursively" else "").toList
      if !(← confirm name question) then Action.exit 0
    forEach asked.operands fun word => removal.take deepest true word

def unlink : Tool := withOptions ⟨"", [], true⟩ 1 fun name asked => do
  needOperand name asked 1
  refuseExtra name asked 1 1 quoted
  let word := asked.operands.headD []
  match ← Action.call (.remove (path word)) with
  | .refused errno =>
      giveUp name
        ("cannot unlink ".toList ++ shellQuoted word ++ ": ".toList ++ errno.text.toList) 1
  | _ => pure 0

end BatchLaunch.Tools
