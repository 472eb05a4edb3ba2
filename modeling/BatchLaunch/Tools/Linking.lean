import BatchLaunch.Tools.Removing

/-!
Programs that put things under other names, and where these go: in a directory, or in place of
something.
-/
namespace BatchLaunch.Tools

open Host (Action Call Reply Errno Info)

def isDirectory (word : Chars) (follow : Bool) : Action Bool := do
  match ← infoAt word follow with
  | .ok info => pure (info.kind = .directory)
  | .error _ => pure false

structure Aim where
  dir : Option Chars
  plain : Bool
  follow : Bool

def nameInside (dir word : Chars) : Chars :=
  let base := baseOf word
  inside dir (if base = ['.', '.'] then ['.'] else base)

def Aim.places (aim : Aim) (name : Chars) (operands : List Chars) :
    Action (List (Chars × Chars)) := do
  let missingTarget (first : Chars) : Action (List (Chars × Chars)) :=
    giveUpUse name ("missing destination file operand after ".toList ++ shellQuoted first) 1
  match operands, operands.reverse with
  | [], _ | _, [] => giveUpUse name "missing file operand".toList 1
  | first :: _, last :: before =>
      if aim.plain then
        if aim.dir.isSome then
          giveUp name
            "cannot combine --target-directory (-t) and --no-target-directory (-T)".toList 1
        else
          match operands with
          | [source, target] => pure [(source, target)]
          | _ :: _ :: extra :: _ =>
              giveUpUse name ("extra operand ".toList ++ shellQuoted extra) 1
          | _ => missingTarget first
      else
        match aim.dir with
        | some dir =>
            match ← infoAt dir true with
            | .error errno =>
                giveUp name ("target directory ".toList ++ shellQuoted dir ++ ": ".toList ++
                  errno.text.toList) 1
            | .ok info =>
                if info.kind = .directory then
                  pure (operands.map fun word => (word, nameInside dir word))
                else
                  giveUp name ("target directory ".toList ++ shellQuoted dir ++ ": ".toList ++
                    Errno.notDirectory.text.toList) 1
        | none =>
            if before.isEmpty then missingTarget first
            else
              match ← infoAt last aim.follow with
              | .ok info =>
                  if info.kind = .directory then
                    pure (before.reverse.map fun word => (word, nameInside last word))
                  else if before.length = 1 then pure [(first, last)]
                  else
                    giveUp name ("target ".toList ++ shellQuoted last ++ ": ".toList ++
                      Errno.notDirectory.text.toList) 1
              | .error errno =>
                  if before.length = 1 then pure [(first, last)]
                  else
                    giveUp name
                      ("target ".toList ++ shellQuoted last ++ ": ".toList ++ errno.text.toList) 1

def isSameName (one other : Chars) : Action Bool := do
  if baseOf one = baseOf other then isSamePlace (dirOf one) (dirOf other) else pure false

inductive BackupKind where
  | simple
  | numbered
  | asBefore
  deriving DecidableEq, Repr

structure Backup where
  kind : BackupKind
  suffix : Chars

def backupNumber? (base name : Chars) : Option Nat :=
  if !(base ++ ".~".toList).isPrefixOf name || name.getLast? ≠ some '~' then none
  else natural? ((name.drop (base.length + 2)).dropLast)

def Backup.nameFor (backup : Backup) (word : Chars) : Action Chars := do
  let numbers ← match backup.kind with
    | .simple => pure []
    | _ => do
        match ← namesIn (dirOf word) with
        | .ok names => pure (names.filterMap (backupNumber? (baseOf word)))
        | .error _ => pure []
  if backup.kind = .numbered || !numbers.isEmpty then
    pure (word ++ ".~".toList ++ natChars (numbers.foldl max 0 + 1) ++ ['~'])
  else pure (word ++ backup.suffix)

def keepBackup (backup : Option Backup) (word : Chars) : Action (Option Chars) := do
  match backup with
  | none => pure none
  | some backup =>
      let kept ← backup.nameFor word
      let _ ← Action.call (.rename (path word) (path kept))
      pure (some kept)

def keptText (kept : Option Chars) : Chars :=
  kept.elim [] fun kept => " (backup: ".toList ++ shellQuoted kept ++ [')']

def backupKinds : List (List String × Option BackupKind) := [
  (["none", "off"], none), (["simple", "never"], some .simple),
  (["existing", "nil"], some .asBefore), (["numbered", "t"], some .numbered)]

def backupOf (name : Chars) (asked : Asked) : Action (Option Backup) := do
  let suffix := (asked.value? "S").getD ['~']
  let kind ← match asked.last? ["b", "backup"] with
    | some (_, []) => pure (some BackupKind.asBefore)
    | some (_, word) => choiceOf name "backup type" backupKinds word
    | none => pure (if asked.has "S" then some .asBefore else none)
  pure (kind.map (⟨·, suffix⟩))

def lnOptions : OptionTable :=
  ⟨"bdfinrst:vFLPS:T", [("backup::", "backup"), ("directory", "d"), ("no-dereference", "n"),
    ("no-target-directory", "T"), ("force", "f"), ("interactive", "i"), ("suffix:", "S"),
    ("target-directory:", "t"), ("logical", "L"), ("physical", "P"), ("relative", "r"),
    ("symbolic", "s"), ("verbose", "v")], true⟩

def relativeTarget (source target : Chars) : Action Chars := do
  match ← canonical .anything true (dirOf target), ← canonical .anything true source with
  | .ok dir, .ok found => pure (wayBetween dir found)
  | _, _ => pure source

def linkFault (symbolic : Bool) (source target : Chars) (errno : Errno) : Chars :=
  let behind := ": ".toList ++ errno.text.toList
  if symbolic then
    "failed to create symbolic link ".toList ++ shellQuoted target ++
      (if errno ≠ .nameTooLong && !source.isEmpty then [] else " -> ".toList ++ shellQuoted source) ++
      behind
  else
    "failed to create hard link ".toList ++ shellQuoted target ++
      (if errno = .present then [] else " => ".toList ++ shellQuoted source) ++ behind

def makeOneLink (name : Chars) (asked : Asked) (backup : Option Backup) (source target : Chars) :
    Action Bool := do
  let symbolic := asked.has "s"
  let replaces := asked.has "f" || asked.has "i" || backup.isSome
  let refuse (text : Chars) : Action Bool := do
    complain name text
    pure false
  let accessible ← if symbolic then pure none
    else
      match ← infoAt source (asked.has "L") with
      | .error errno => pure (some ("failed to access ".toList ++ shellQuoted source ++ ": ".toList ++
          errno.text.toList))
      | .ok info => pure (if info.kind = .directory then
          some (nameSafe source ++ ": hard link not allowed for directory".toList) else none)
  match accessible with
  | some fault => refuse fault
  | none =>
      let words ← if symbolic && asked.has "r" then relativeTarget source target else pure source
      let create : Action Reply := do
        if symbolic then Action.call (.makeLink (path words) (path target))
        else
          let named ← if asked.has "L" then canonical .nothing true source else pure (.ok source)
          Action.call (.addName (path (named.toOption.getD source)) (path target))
      let done : Action Bool := do
        if asked.has "v" then
          let arrow := if symbolic then " -> " else " => "
          let _ ← put (shellQuoted target ++ arrow.toList ++ shellQuoted words ++ ['\n'])
        pure true
      match ← create with
      | .refused .present =>
          if !replaces then refuse (linkFault symbolic words target .present)
          else if ← isDirectory target false then
            refuse (nameSafe target ++ ": cannot overwrite directory".toList)
          else if (← isSameName source target) ||
              (!symbolic && (← isSamePlace source target) && backup.isSome) then
            refuse (shellQuoted source ++ " and ".toList ++ shellQuoted target ++
              " are the same file".toList)
          else
            let goesOn ← if asked.has "i" && !asked.has "f" then
                confirm name ("replace ".toList ++ shellQuoted target) else pure true
            if !goesOn then pure false
            else
              if backup.isSome then
                let _ ← keepBackup backup target
              else
                let _ ← Action.call (.remove (path target))
              match ← create with
              | .refused errno => refuse (linkFault symbolic words target errno)
              | _ => done
      | .refused errno => refuse (linkFault symbolic words target errno)
      | _ => done

def ln : Tool := withOptions lnOptions 1 fun name asked => do
  let backup ← backupOf name asked
  let dir := asked.value? "t"
  let aim : Aim := ⟨dir, asked.has "T", !asked.has "n"⟩
  let places ← match asked.operands with
    | [single] =>
        if dir.isNone && !aim.plain then pure [(single, nameInside ['.'] single)]
        else aim.places name asked.operands
    | operands => aim.places name operands
  let status ← places.foldlM (fun status (source, target) => do
    let fine ← makeOneLink name asked backup source target
    pure (if fine then status else 1)) 0
  pure status

def link : Tool := withOptions ⟨"", [], true⟩ 1 fun name asked => do
  needOperand name asked 1
  match asked.operands with
  | [source, target] =>
      match ← Action.call (.addName (path source) (path target)) with
      | .refused errno =>
          giveUp name ("cannot create link ".toList ++ shellQuoted target ++ " to ".toList ++
            shellQuoted source ++ ": ".toList ++ errno.text.toList) 1
      | _ => pure 0
  | single :: [] =>
      giveUpUse name ("missing operand after ".toList ++ quoted single) 1
  | _ =>
      refuseExtra name asked 2 1 quoted
      pure 1

end BatchLaunch.Tools
