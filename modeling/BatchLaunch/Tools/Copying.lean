import BatchLaunch.Tools.Linking

/-!
Programs that copy things and move them.
-/
namespace BatchLaunch.Tools

open Host (Action Call Reply Errno Info)

inductive FollowRule where
  | always
  | operands
  | never
  deriving DecidableEq, Repr

inductive Clash where
  | overwrite
  | ask
  | keep
  deriving DecidableEq, Repr

structure Copying where
  name : Chars
  recursive : Bool
  follow : FollowRule
  keepsMode : Bool
  keepsTimes : Bool
  keepsLinks : Bool
  forced : Bool
  removesFirst : Bool
  clash : Clash
  onlyNewer : Bool
  tells : Bool
  symbolic : Bool
  hard : Bool
  backup : Option Backup
  onlyAttributes : Bool
  mask : Nat

structure Copies where
  made : List (Host.NodeId × Chars)
  first : Option Host.NodeId
  meetsItself : Bool

def Copies.add (copies : Copies) (source : Host.NodeId) (target : Chars) : Copies :=
  { copies with made := (source, target) :: copies.made }

namespace Copying

def refuse (copying : Copying) (copies : Copies) (text : Chars) : Action (Bool × Copies) := do
  complain copying.name text
  pure (false, copies)

def refuseFor (copying : Copying) (copies : Copies) (text word : Chars) (errno : Errno) :
    Action (Bool × Copies) :=
  copying.refuse copies (text ++ shellQuoted word ++ ": ".toList ++ errno.text.toList)

def tell (copying : Copying) (source target : Chars) (kept : Option Chars) : Action Unit := do
  if copying.tells then
    let _ ← put (shellQuoted source ++ " -> ".toList ++ shellQuoted target ++ keptText kept ++ ['\n'])
    pure ()
  else pure ()

def finish (copying : Copying) (info : Info) (isNew : Bool) (target : Chars) : Action Unit := do
  if copying.keepsTimes then
    let _ ← Action.call (.setTime (path target) (some info.modified))
  if copying.keepsMode then
    let _ ← Action.call (.setMode (path target) info.mode)
  else if isNew then
    let _ ← Action.call (.setMode (path target) (Mode.without (info.mode &&& 0o777) copying.mask))

def copyContents (copying : Copying) (copies : Copies) (source target : Chars) (info : Info)
    (isNew : Bool) : Action (Bool × Copies) := do
  match ← Action.call (.open (path source) .read) with
  | .refused errno =>
      copying.refuse copies ("cannot open ".toList ++ shellQuoted source ++ " for reading: ".toList ++
        errno.text.toList)
  | .done input => do
      let contents ← if copying.onlyAttributes then pure (.ok []) else Action.readAll input blockLimit
      let _ ← Action.call (.close input)
      match contents with
      | .error errno => copying.refuseFor copies "error reading ".toList source errno
      | .ok octets =>
          let dangling ← if isNew then
              match ← infoAt target false with
              | .ok _ => pure true
              | .error _ => pure false
            else pure false
          if dangling then
            copying.refuse copies
              ("not writing through dangling symlink ".toList ++ shellQuoted target)
          else
            let mode : Host.OpenMode := if copying.onlyAttributes then .keep else .write
            let opened ← match ← Action.call (.open (path target) mode) with
              | .refused errno =>
                  if copying.forced && !isNew then do
                    let _ ← Action.call (.remove (path target))
                    let again ← Action.call (.open (path target) .write)
                    pure (again, true)
                  else pure (.refused errno, isNew)
              | reply => pure (reply, isNew)
            match opened with
            | (.refused errno, _) =>
                let errno := if isNew && errno = .isDirectory then .notDirectory else errno
                copying.refuseFor copies "cannot create regular file ".toList target errno
            | (.done output, isNew) => do
                let fine ← Action.write output octets
                let _ ← Action.call (.close output)
                copying.finish info isNew target
                pure (fine, copies.add info.node target)
            | _ => pure (false, copies)
  | _ => pure (false, copies)

/-- What is done about a thing that is there already: whether to go on, whether the copy is then a
new thing, and the name under which what was there is kept. -/
def meet (copying : Copying) (source target : Chars) (info there : Info) :
    Action (Except Chars (Bool × Bool × Option Chars)) := do
  let leave : Except Chars (Bool × Bool × Option Chars) := .ok (false, false, none)
  let removes := copying.removesFirst || copying.symbolic || copying.hard
  if copying.clash = .keep && info.kind ≠ .directory then pure leave
  else if info.node = there.node && !(copying.hard && !copying.forced) then
    pure (.error (shellQuoted source ++ " and ".toList ++ shellQuoted target ++
      " are the same file".toList))
  else if info.node = there.node then pure leave
  else if copying.onlyNewer && info.modified ≤ there.modified && info.kind ≠ .directory then
    pure leave
  else
    let agreed ← if copying.clash = .ask && info.kind ≠ .directory then
        confirm copying.name ("overwrite ".toList ++ shellQuoted target) else pure true
    if !agreed then pure leave
    else if there.kind ≠ .directory && info.kind = .directory then
      pure (.error ("cannot overwrite non-directory ".toList ++ shellQuoted target ++
        " with directory ".toList ++ shellQuoted source))
    else if there.kind = .directory && info.kind ≠ .directory then
      pure (.error
        ("cannot overwrite directory ".toList ++ shellQuoted target ++ " with non-directory".toList))
    else if there.kind = .directory then pure (.ok (true, false, none))
    else if copying.backup.isSome then
      let kept ← keepBackup copying.backup target
      pure (.ok (true, true, kept))
    else if (removes && copying.forced) || copying.removesFirst || info.kind = .link then
      let _ ← Action.call (.remove (path target))
      if copying.tells && !copying.symbolic && !copying.hard then
        let _ ← put ("removed ".toList ++ shellQuoted target ++ ['\n'])
      pure (.ok (true, true, none))
    else pure (.ok (true, false, none))

def linkInstead (copying : Copying) (copies : Copies) (source target : Chars) :
    Action (Bool × Copies) := do
  if copying.symbolic && source.head? ≠ some '/' &&
      !(← isSamePlace (dirOf target) ['.']) then
    copying.refuse copies (nameSafe target ++
      ": can make relative symbolic links only in current directory".toList)
  else
    let kind := if copying.symbolic then "symbolic" else "hard"
    match ← Action.call (if copying.symbolic then .makeLink (path source) (path target)
        else .addName (path source) (path target)) with
    | .refused errno =>
        copying.refuse copies ("cannot create ".toList ++ kind.toList ++ " link ".toList ++
          shellQuoted target ++ " to ".toList ++ shellQuoted source ++ ": ".toList ++
          errno.text.toList)
    | _ => pure (true, copies)

def copyNames (one : Copies → Chars → Chars → Action (Bool × Copies)) (source target : Chars) :
    Copies → List Chars → Action (Bool × Copies)
  | copies, [] => pure (true, copies)
  | copies, entry :: rest => do
      let (fine, copies) ← one copies (inside source entry) (inside target entry)
      if copies.meetsItself then pure (fine, copies)
      else
        let (others, copies) ← copyNames one source target copies rest
        pure (fine && others, copies)

def copyDir (copying : Copying) (origin : Chars × Chars)
    (one : Copies → Chars → Chars → Action (Bool × Copies)) (copies : Copies)
    (source target : Chars) (info : Info) (isNew : Bool) (kept : Option Chars) :
    Action (Bool × Copies) := do
  if copies.first = some info.node then
    copying.refuse { copies with meetsItself := true }
      ("cannot copy a directory, ".toList ++ shellQuoted origin.1 ++ ", into itself, ".toList ++
        shellQuoted origin.2)
  else
    let made ← if isNew then
        copying.tell source target kept
        Action.call (.makeDir (path target) ((info.mode ||| 0o700) &&& 0o777))
      else pure (.done 0)
    match made with
    | .refused errno => copying.refuseFor copies "cannot create directory ".toList target errno
    | _ =>
        let copies ← match copies.first, ← infoAt target true with
          | none, .ok there => pure { copies with first := some there.node }
          | _, _ => pure copies
        match ← namesIn source with
        | .error errno => do
            let result ← copying.refuseFor copies "cannot access ".toList source errno
            copying.finish info isNew target
            pure result
        | .ok names => do
            let result ← copyNames one source target copies names
            copying.finish info isNew target
            pure result

def copy (copying : Copying) (origin : Chars × Chars) :
    Nat → Bool → Copies → Chars → Chars → Action (Bool × Copies)
  | 0, _, copies, _, _ => pure (false, copies)
  | fuel + 1, top, copies, source, target => do
      let follows := copying.follow = .always || (copying.follow = .operands && top)
      match ← infoAt source follows with
      | .error errno => copying.refuseFor copies "cannot stat ".toList source errno
      | .ok info =>
          if info.kind = .directory && !copying.recursive then
            copying.refuse copies
              ("-r not specified; omitting directory ".toList ++ shellQuoted source)
          else
            let byName := info.kind = .directory || info.kind = .link || copying.symbolic ||
              copying.hard || copying.removesFirst || copying.backup.isSome
            let met ← match ← infoAt target (!byName) with
              | .ok there => copying.meet source target info there
              | .error .noEntry => pure (.ok (true, true, none))
              | .error errno => pure (.error
                  ("cannot stat ".toList ++ shellQuoted target ++ ": ".toList ++ errno.text.toList))
            match met with
            | .error fault => copying.refuse copies fault
            | .ok (false, _, _) => pure (true, copies)
            | .ok (true, isNew, kept) =>
                if copying.keepsLinks && 1 < info.links && info.kind ≠ .directory &&
                    (copies.made.lookup info.node).isSome then
                  copying.tell source target kept
                  let first := (copies.made.lookup info.node).getD target
                  if !isNew then
                    let _ ← Action.call (.remove (path target))
                  match ← Action.call (.addName (path first) (path target)) with
                  | .refused errno =>
                      copying.refuse copies ("cannot create hard link ".toList ++
                        shellQuoted target ++ " to ".toList ++ shellQuoted first ++ ": ".toList ++
                        errno.text.toList)
                  | _ => pure (true, copies)
                else if info.kind = .directory then
                  copying.copyDir origin (copy copying origin fuel false) copies source target info
                    isNew kept
                else
                  copying.tell source target kept
                  if copying.symbolic || copying.hard then
                    copying.linkInstead copies source target
                  else if info.kind = .link then
                    match ← Action.call (.readLink (path source)) with
                    | .octets words =>
                        match ← Action.call (.makeLink words (path target)) with
                        | .refused errno =>
                            copying.refuseFor copies "cannot create symbolic link ".toList target errno
                        | _ => pure (true, copies.add info.node target)
                    | _ => pure (false, copies)
                  else copying.copyContents copies source target info isNew

end Copying

def clashOf (asked : Asked) : Clash :=
  match asked.last? ["f", "i", "n"] with
  | some ("i", _) => .ask
  | some ("n", _) => .keep
  | _ => .overwrite

def cpOptions : OptionTable :=
  ⟨"abdfHilLnprst:uvxPRS:TZ", [("archive", "a"), ("attributes-only", "attributes"),
    ("backup::", "backup"), ("copy-contents", "contents"), ("dereference", "L"), ("force", "f"),
    ("interactive", "i"), ("link", "l"), ("no-clobber", "n"), ("no-dereference", "P"),
    ("no-preserve:", "loses"), ("no-target-directory", "T"), ("one-file-system", "x"),
    ("parents", "parents"), ("path", "parents"), ("preserve::", "keeps"), ("recursive", "R"),
    ("reflink::", "reflink"), ("remove-destination", "removes"), ("sparse:", "sparse"),
    ("strip-trailing-slashes", "strip"), ("suffix:", "S"), ("symbolic-link", "s"),
    ("target-directory:", "t"), ("update", "u"), ("verbose", "v")], true⟩

def keepsAlso (asked : Asked) (what : String) : Bool :=
  (asked.values "keeps").any fun text =>
    text.isEmpty && what ≠ "links" ||
      (Text.partsAt ',' text).any fun word => word = what.toList || word = "all".toList

def copyParents (copying : Copying) (dir source : Chars) : Action (Option Chars) := do
  let parts := (Text.partsAt '/' (dirOf source)).filter fun part => part ≠ [] && part ≠ ['.']
  let rec make (above here : Chars) : List Chars → Action Unit
    | [] => pure ()
    | part :: rest => do
        let next := inside here part
        let model := if above.isEmpty then part else inside above part
        match ← infoAt next true with
        | .ok _ => pure ()
        | .error _ => do
            let _ ← Action.call (.makeDir (path next) 0o777)
            match ← infoAt model true with
            | .ok info => copying.finish info true next
            | .error _ => pure ()
            copying.tell model next none
        make model next rest
  make (if source.head? = some '/' then ['/'] else []) dir parts
  pure (some (inside dir (source.dropWhile (· = '/'))))

def cp : Tool := withOptions cpOptions 1 fun name asked => do
  let mask ← currentMask
  let backup ← backupOf name asked
  let archive := asked.has "a"
  let recursive := archive || asked.has "R" || asked.has "r"
  let plain := asked.has "p"
  let follow := match asked.last? ["H", "L", "P", "d", "a"] with
    | some ("H", _) => FollowRule.operands
    | some ("L", _) => .always
    | some _ => .never
    | none => if recursive && !asked.has "l" then .never
        else if asked.has "l" then .never else .always
  let copying : Copying := {
    name := name
    recursive := recursive
    follow := follow
    keepsMode := archive || plain || keepsAlso asked "mode"
    keepsTimes := archive || plain || keepsAlso asked "timestamps"
    keepsLinks := archive || asked.has "d" || keepsAlso asked "links"
    forced := asked.has "f"
    removesFirst := asked.has "removes"
    clash := clashOf asked
    onlyNewer := asked.has "u"
    tells := asked.has "v"
    symbolic := asked.has "s"
    hard := asked.has "l"
    backup := backup
    onlyAttributes := asked.has "attributes"
    mask := mask }
  let aim : Aim := ⟨asked.value? "t", asked.has "T", true⟩
  let places ← aim.places name asked.operands
  let dir := aim.dir.getD (asked.operands.getLast?.getD [])
  let rec go (status : Nat) (copies : Copies) (done : List Chars) :
      List (Chars × Chars) → Action Nat
    | [] => pure status
    | (source, target) :: rest => do
        if done.contains source then do
          let kind := if ← isDirectory source true then "directory" else "file"
          complain name ("warning: source ".toList ++ kind.toList ++ ' ' :: shellQuoted source ++
            " specified more than once".toList)
          go status copies done rest
        else if (copies.made.map (·.2)).contains target then do
          complain name ("will not overwrite just-created ".toList ++ shellQuoted target ++
            " with ".toList ++ shellQuoted source)
          go 1 copies done rest
        else
          let target ← if asked.has "parents" then
              (do pure ((← copyParents copying dir source).getD target))
            else pure target
          let start := { copies with first := none, meetsItself := false }
          let (fine, copies) ← copying.copy (source, target) deepest true start source target
          go (if fine then status else 1) copies (source :: done) rest
  go 0 ⟨[], none, false⟩ [] places

/-! Moving -/

def mvOptions : OptionTable :=
  ⟨"bfint:uvS:TZ", [("backup::", "backup"), ("force", "f"), ("interactive", "i"),
    ("no-clobber", "n"), ("no-target-directory", "T"), ("strip-trailing-slashes", "strip"),
    ("suffix:", "S"), ("target-directory:", "t"), ("update", "u"), ("verbose", "v")], true⟩

def moveOne (name : Chars) (asked : Asked) (backup : Option Backup) (source target : Chars) :
    Action Bool := do
  let refuse (text : Chars) : Action Bool := do
    complain name text
    pure false
  let both (before between : String) (behind : Chars) : Chars :=
    before.toList ++ shellQuoted source ++ between.toList ++ shellQuoted target ++ behind
  let go (kept : Option Chars) : Action Bool := do
    match ← Action.call (.rename (path source) (path target)) with
    | .refused .invalid => refuse (both "cannot move " " to a subdirectory of itself, " [])
    | .refused errno => refuse (both "cannot move " " to " (": ".toList ++ errno.text.toList))
    | _ =>
        if asked.has "v" then
          let _ ← put (both "renamed " " -> " (keptText kept ++ ['\n']))
        pure true
  match ← infoAt source false with
  | .error errno =>
      refuse ("cannot stat ".toList ++ shellQuoted source ++ ": ".toList ++ errno.text.toList)
  | .ok info =>
      match ← infoAt target false with
      | .error .noEntry => go none
      | .error errno =>
          refuse ("cannot stat ".toList ++ shellQuoted target ++ ": ".toList ++ errno.text.toList)
      | .ok there =>
          if clashOf asked = .keep then pure true
          else if info.node = there.node &&
              (backup.isNone || (← isSameName source target)) then
            refuse (both "" " and " " are the same file".toList)
          else if asked.has "u" && info.modified ≤ there.modified && info.kind ≠ .directory then
            pure true
          else
            let agreed ← if clashOf asked = .ask then
                confirm name ("overwrite ".toList ++ shellQuoted target) else pure true
            if !agreed then pure true
            else if there.kind ≠ .directory && info.kind = .directory then
              refuse ("cannot overwrite non-directory ".toList ++ shellQuoted target ++
                " with directory ".toList ++ shellQuoted source)
            else if there.kind = .directory && info.kind ≠ .directory then
              refuse ("cannot overwrite directory ".toList ++ shellQuoted target ++
                " with non-directory".toList)
            else
              go (← keepBackup backup target)

def mv : Tool := withOptions mvOptions 1 fun name asked => do
  let backup ← backupOf name asked
  let aim : Aim := ⟨asked.value? "t", asked.has "T", true⟩
  let places ← aim.places name asked.operands
  let cut (word : Chars) : Chars :=
    if asked.has "strip" then (word.reverse.dropWhile (· = '/')).reverse else word
  places.foldlM (fun status (source, target) => do
    let fine ← moveOne name asked backup (cut source) target
    pure (if fine then status else 1)) 0

end BatchLaunch.Tools
