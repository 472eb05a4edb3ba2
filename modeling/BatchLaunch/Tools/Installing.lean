import BatchLaunch.Tools.Copying
import BatchLaunch.Tools.Making
import BatchLaunch.Tools.Ownership

/-!
`install`: copies that get the mode they are asked to have, and the directories around them.
-/
namespace BatchLaunch.Tools

open Host (Action Call Reply Errno Info)

def installOptions : OptionTable :=
  ⟨"bcCsDdg:m:o:pt:TvS:Z", [("backup::", "backup"), ("compare", "C"), ("directory", "d"),
    ("group:", "g"), ("mode:", "m"), ("no-target-directory", "T"), ("owner:", "o"),
    ("preserve-timestamps", "p"), ("strip", "s"), ("strip-program:", "program"), ("suffix:", "S"),
    ("target-directory:", "t"), ("verbose", "v")], true⟩

structure Installing where
  copying : Copying
  mode : Nat
  owner : Owner
  compares : Bool
  leads : Bool

namespace Installing

def construction (installing : Installing) (mode : Option Nat) : Construction :=
  ⟨installing.copying.name, true, installing.copying.tells, mode, "creating"⟩

def leadTo (installing : Installing) (target : Chars) : Action Bool := do
  let dir := dirOf target
  if installing.leads && dir ≠ ['.'] && dir ≠ ['/'] then (installing.construction none).make dir
  else pure true

def isSame (installing : Installing) (source target : Chars) : Action Bool := do
  if !installing.compares then pure false
  else
    match ← infoAt source true, ← infoAt target false with
    | .ok one, .ok other =>
        if other.kind = .file && one.size = other.size && other.mode = installing.mode then
          match ← slurp source, ← slurp target with
          | .ok text, .ok there => pure (text == there)
          | _, _ => pure false
        else pure false
    | _, _ => pure false

def finish (installing : Installing) (target : Chars) : Action Bool := do
  let fine ← match ← infoAt target false with
    | .ok info => pure (installing.owner.fits (Owner.ofInfo info))
    | .error _ => pure false
  if !fine then
    complain installing.copying.name ("cannot change ownership of ".toList ++ shellQuoted target ++
      ": ".toList ++ Errno.notPermitted.text.toList)
    pure false
  else
    let _ ← Action.call (.setMode (path target) installing.mode)
    pure true

def draftMode : Nat := 0o600

def one (installing : Installing) (source target : Chars) : Action Bool := do
  let copying := installing.copying
  if !(← installing.leadTo target) then pure false
  else if ← isDirectory source true then
    complain copying.name ("omitting directory ".toList ++ shellQuoted source)
    pure false
  else if ← installing.isSame source target then pure true
  else
    let (fine, _) ← copying.copy (source, target) deepest true ⟨[], none, false⟩ source target
    if fine then
      let _ ← Action.call (.setMode (path target) draftMode)
      installing.finish target
    else pure false

def directory (installing : Installing) (dir : Chars) : Action Bool := do
  if ← (installing.construction (some installing.mode)).make dir then installing.finish dir
  else pure false

end Installing

def installedOwner (name : Chars) (asked : Asked) : Action Owner := do
  let number (key what : String) (number? : Chars → Option Nat) : Action (Option (Nat × Chars)) :=
    match asked.value? key with
    | none => pure none
    | some word =>
        match number? word with
        | some n => pure (some (n, word))
        | none => giveUp name (what.toList ++ ' ' :: shellQuoted word) 1
  let user ← number "o" "invalid user" Owner.userOf?
  let group ← number "g" "invalid group" Owner.groupOf?
  pure ⟨user, group⟩

def install : Tool := withOptions installOptions 1 fun name asked => do
  let mask ← currentMask
  let backup ← backupOf name asked
  if asked.has "d" && asked.has "t" then
    giveUp name "target directory not allowed when installing a directory".toList 1
  let mode ← match asked.value? "m" with
    | none => pure 0o755
    | some text =>
        match Mode.parse? text with
        | some changes => pure (Mode.adjust (asked.has "d") 0 changes 0)
        | none => giveUp name ("invalid mode ".toList ++ quoted text) 1
  let owner ← installedOwner name asked
  let copying : Copying := {
    name := name
    recursive := false
    follow := .always
    keepsMode := false
    keepsTimes := asked.has "p"
    keepsLinks := false
    forced := false
    removesFirst := true
    clash := .overwrite
    onlyNewer := false
    tells := asked.has "v"
    symbolic := false
    hard := false
    backup := backup
    onlyAttributes := false
    mask := mask }
  let installing : Installing := ⟨copying, mode, owner, asked.has "C", asked.has "D"⟩
  if asked.operands.isEmpty then giveUpUse name "missing file operand".toList 1
  if asked.has "d" then forEach asked.operands installing.directory
  else
    match asked.value? "t" with
    | some dir => if asked.has "D" then
        let _ ← (installing.construction none).make dir
    | none => pure ()
    let aim : Aim := ⟨asked.value? "t", asked.has "T" || asked.has "D" && !asked.has "t" &&
      asked.operands.length = 2 && !(← isDirectory (asked.operands.getLast?.getD []) true), true⟩
    let places ← aim.places name asked.operands
    let rec go (status : Nat) : List (Chars × Chars) → Action Nat
      | [] => pure status
      | (source, target) :: rest => do
          let fine ← installing.one source target
          go (if fine then status else 1) rest
    go 0 places

end BatchLaunch.Tools
