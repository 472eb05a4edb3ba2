import BatchLaunch.Host.People
import BatchLaunch.Tools.Listing

/-!
Programs that change whom files belong to. What belongs to the user stays with them: only the
ownership that a file has already can be asked for.
-/
namespace BatchLaunch.Tools

open Host (Action Call Reply Errno Info)

/-- Whom files are to belong to. Each has a number, and the word that it was named with. -/
structure Owner where
  user : Option (Nat × Chars)
  group : Option (Nat × Chars)
  deriving DecidableEq, Repr

namespace Owner

def numberLimit : Nat := 4294967295

def userOf? (word : Chars) : Option Nat :=
  match Host.userNamed? (String.ofList word) with
  | some user => some user.number
  | none => (natural? word).filter (· < numberLimit)

def groupOf? (word : Chars) : Option Nat :=
  match Host.groupNamed? (String.ofList word) with
  | some number => some number
  | none => (natural? word).filter (· < numberLimit)

def loginGroup? (word : Chars) : Option (Nat × Chars) :=
  (Host.userNamed? (String.ofList word)).map fun user =>
    (user.group, ((Host.groupNumbered? user.group).getD (toString user.group)).toList)

def ofText (mark : Char) (text : Chars) : Except String Owner :=
  let userWord := text.takeWhile (· ≠ mark)
  let marked := userWord.length < text.length
  let groupWord := text.drop (userWord.length + 1)
  match if userWord.isEmpty then some none else (userOf? userWord).map some with
  | none => .error "invalid user"
  | some number =>
      let user := number.map (·, userWord)
      if marked && groupWord.isEmpty && !userWord.isEmpty then
        match loginGroup? userWord with
        | some group => .ok ⟨user, some group⟩
        | none => .error "invalid spec"
      else if groupWord.isEmpty then .ok ⟨user, none⟩
      else
        match groupOf? groupWord with
        | some number => .ok ⟨user, some (number, groupWord)⟩
        | none => .error "invalid group"

def ofGroup (text : Chars) : Except String Owner :=
  if text.isEmpty then .ok ⟨none, none⟩
  else
    match groupOf? text with
    | some number => .ok ⟨none, some (number, text)⟩
    | none => .error "invalid group"

def ofInfo (info : Info) : Owner := ⟨some (ownerOf info), some (groupOf info)⟩

def named (owner : Owner) (asUser : Bool) : Option Chars × Option Chars :=
  let user := owner.user.map (·.2)
  let group := owner.group.map (·.2)
  (if asUser && user.isNone && group.isSome then some [] else user, group)

def shown : Option Chars × Option Chars → Option Chars
  | (some user, some group) => some (user ++ ':' :: group)
  | (some user, none) => some user
  | (none, group) => group

def along (names : Option Chars × Option Chars) (owner : Owner) : Option Chars × Option Chars :=
  (names.1.bind fun _ => owner.user.map (·.2), names.2.bind fun _ => owner.group.map (·.2))

def fits (owner other : Owner) : Bool :=
  let agrees (a b : Option (Nat × Chars)) : Bool :=
    match a, b with
    | some (n, _), some (m, _) => n = m
    | _, _ => true
  agrees owner.user other.user && agrees owner.group other.group

end Owner

structure OwnerChange where
  name : Chars
  owner : Owner
  names : Option Chars × Option Chars
  required : Option Owner
  deep : Bool
  follow : Bool
  quiet : Bool
  tells : Bool

namespace OwnerChange

def tell (change : OwnerChange) (file : Chars) (old : Owner) (fine : Bool) : Action Unit := do
  let what := if change.names.1.isSome then "ownership of ".toList else "group of ".toList
  let from? := Owner.shown (Owner.along change.names old)
  let text := if fine then
      (if change.names = (none, none) then "ownership of ".toList else what) ++ shellQuoted file ++
        " retained".toList ++ from?.elim [] (" as ".toList ++ ·)
    else "failed to change ".toList ++ what ++ shellQuoted file ++
      from?.elim [] (" from ".toList ++ ·) ++
      (Owner.shown change.names).elim [] (" to ".toList ++ ·)
  let _ ← put (text ++ ['\n'])

def one (change : OwnerChange) (file : Chars) (info : Info) : Action Bool := do
  let old := Owner.ofInfo info
  let wanted := change.required.all old.fits
  let fine := !wanted || (info.own && change.owner.fits old)
  if !fine && !change.quiet then
    complain change.name ((if change.owner.user.isSome then "changing ownership of ".toList
      else "changing group of ".toList) ++ shellQuoted file ++ ": ".toList ++
      Errno.notPermitted.text.toList)
  if change.tells then change.tell file old fine
  pure fine

def all (change : OwnerChange) : Nat → Bool → Chars → Action Bool
  | 0, _, _ => pure false
  | fuel + 1, top, file => do
      match ← infoAt file (change.follow && (top || !change.deep)) with
      | .error errno =>
          if !change.quiet then
            let what := match ← infoAt file false with
              | .ok _ => "cannot dereference "
              | .error _ => "cannot access "
            complain change.name
              (what.toList ++ shellQuoted file ++ ": ".toList ++ errno.text.toList)
          pure false
      | .ok info =>
          let inner ← if change.deep && info.kind = .directory then do
              match ← namesIn file with
              | .ok names =>
                  let status ← forEach names fun entry =>
                    change.all fuel false (inside file entry)
                  pure (status == 0)
              | .error errno =>
                  if !change.quiet then
                    complain change.name ("cannot read directory ".toList ++ shellQuoted file ++
                      ": ".toList ++ errno.text.toList)
                  pure false
            else pure true
          let fine ← change.one file info
          pure (inner && fine)

end OwnerChange

def ownerOptions : OptionTable :=
  ⟨"HLPRcfhv", [("recursive", "R"), ("changes", "c"), ("dereference", "dereference"),
    ("from:", "from"), ("no-dereference", "h"), ("no-preserve-root", "n"), ("preserve-root", "p"),
    ("quiet", "f"), ("silent", "f"), ("reference:", "reference"), ("verbose", "v")], true⟩

/-- Whom a word means; the program ends if that is no one. A point may stand for a colon, which is
pointed out. -/
def ownerFrom (name : Chars) (asUser : Bool) (text : Chars) : Action Owner := do
  let fault (reason : String) : Action Owner :=
    giveUp name (reason.toList ++ ": ".toList ++ quoted text) 1
  if !asUser then
    match Owner.ofGroup text with
    | .ok owner => pure owner
    | .error reason => fault reason
  else
    match Owner.ofText ':' text with
    | .ok owner => pure owner
    | .error reason =>
        if text.contains ':' then fault reason
        else
          match Owner.ofText '.' text with
          | .ok owner => do
              complain name ("warning: '.' should be ':': ".toList ++ quoted text)
              pure owner
          | .error _ => fault reason

def ownership (asUser : Bool) : Tool := withOptions ownerOptions 1 fun name asked => do
  let given := asked.has "reference"
  let operands := if given then asked.operands else asked.operands.drop 1
  if operands.isEmpty then
    match asked.operands with
    | [] => giveUpUse name "missing operand".toList 1
    | last :: _ => giveUpUse name ("missing operand after ".toList ++ quoted last) 1
  let owner ← match asked.value? "reference" with
    | some file => do
        match ← infoAt file true with
        | .ok info =>
            let owner := Owner.ofInfo info
            pure (if asUser then owner else { owner with user := none })
        | .error errno =>
            giveUp name ("failed to get attributes of ".toList ++ shellQuoted file ++ ": ".toList ++
              errno.text.toList) 1
    | none => ownerFrom name asUser (asked.operands.headD [])
  let required ← match asked.value? "from" with
    | none => pure none
    | some text => do
        let owner ← ownerFrom name true text
        pure (some owner)
  let change : OwnerChange :=
    ⟨name, owner, owner.named asUser, required, asked.has "R", !asked.has "h", asked.has "f",
      asked.has "v"⟩
  forEach operands (change.all deepest true)

def chown : Tool := ownership true

def chgrp : Tool := ownership false

end BatchLaunch.Tools
