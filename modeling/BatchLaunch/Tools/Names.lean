import BatchLaunch.Text.Pattern
import BatchLaunch.Tools.Inputs

/-!
The names of files: their parts, and the ways on which they lead to something.
-/
namespace BatchLaunch.Tools

open Host (Action Call Reply Errno Info)

/-- The last part of a path, trailing slashes left out. -/
def baseOf (word : Chars) : Chars :=
  let trimmed := (word.reverse.dropWhile (· = '/')).reverse
  if trimmed.isEmpty then (if word.isEmpty then [] else ['/'])
  else (trimmed.reverse.takeWhile (· ≠ '/')).reverse

def dirOf (word : Chars) : Chars :=
  let trimmed := (word.reverse.dropWhile (· = '/')).reverse
  let before := (trimmed.reverse.dropWhile (· ≠ '/'))
  if before.isEmpty then (if trimmed.isEmpty && !word.isEmpty then ['/'] else ['.'])
  else
    let dir := (before.dropWhile (· = '/')).reverse
    if dir.isEmpty then ['/'] else dir

def inside (dir name : Chars) : Chars :=
  if dir.getLast? = some '/' then dir ++ name else dir ++ '/' :: name

def fitsPattern (pattern name : Chars) : Bool :=
  Text.Pattern.matchesAll (Text.Pattern.ofMarked (pattern.map fun c => (c, false))) name

def withoutEnding (ending name : Chars) : Chars :=
  if name ≠ ending && ending.isSuffixOf name && name ≠ ['/'] then
    name.take (name.length - ending.length)
  else name

def basename : Tool :=
  withOptions ⟨"as:z", [("multiple", "a"), ("suffix:", "s"), ("zero", "z")], false⟩ 1
    fun name asked => do
      needOperand name asked 1
      let many := asked.has "a" || asked.has "s"
      if !many then refuseExtra name asked 2 1 quoted
      let ending := (asked.value? "s").getD
        (if many then [] else (asked.operands[1]?).getD [])
      let words := if many then asked.operands else asked.operands.take 1
      let _ ← put (endEach (endingOf asked) (words.map fun word =>
        withoutEnding ending (baseOf word)))
      pure 0

def dirname : Tool := withOptions ⟨"z", [("zero", "z")], true⟩ 1 fun name asked => do
  needOperand name asked 1
  let _ ← put (endEach (endingOf asked) (asked.operands.map dirOf))
  pure 0

def isSamePlace (one other : Chars) : Action Bool := do
  match ← Action.call (.info (path one) true), ← Action.call (.info (path other) true) with
  | .info a, .info b => pure (a.node = b.node)
  | _, _ => pure false

def workingPath : Action Chars := do
  match ← Action.call .workingDir with
  | .octets dir => pure (Text.charsOf dir)
  | _ => pure ['/']

/-- A path that starts at the root and goes neither round nor back. -/
def isPlainPath (word : Chars) : Bool :=
  word.head? = some '/' &&
    (Text.partsAt '/' word).all fun part => part ≠ ['.'] && part ≠ ['.', '.']

def pwd (known : Option Chars) : Tool :=
  withOptions ⟨"LP", [("logical", "L"), ("physical", "P")], true⟩ 1 fun name asked => do
    if !asked.operands.isEmpty then complain name "ignoring non-option arguments".toList
    let logical := (asked.last? ["L", "P"]).any (·.1 = "L")
    let dir ← match known with
      | some dir =>
          if logical && isPlainPath dir then
            if ← isSamePlace dir ['.'] then pure dir else workingPath
          else workingPath
      | none => workingPath
    let _ ← put (dir ++ ['\n'])
    pure 0

inductive Missing where
  | nothing
  | last
  | anything
  deriving DecidableEq, Repr

def follow (missing : Missing) (links : Bool) :
    Nat → Chars → List Chars → Action (Except Errno Chars)
  | 0, _, _ => pure (.error .loop)
  | _, here, [] => pure (.ok (if here.isEmpty then ['/'] else here))
  | fuel + 1, here, part :: rest => do
      if part.isEmpty || part = ['.'] then follow missing links fuel here rest
      else if part = ['.', '.'] then
        follow missing links fuel
          ((here.reverse.dropWhile (· ≠ '/')).drop 1).reverse rest
      else
        let next := here ++ '/' :: part
        match ← Action.call (.info (path next) false) with
        | .info info =>
            if info.kind = .link && links then
              match ← Action.call (.readLink (path next)) with
              | .octets target =>
                  let target := Text.charsOf target
                  follow missing links fuel (if target.head? = some '/' then [] else here)
                    (Text.partsAt '/' target ++ rest)
              | _ => pure (.error .invalid)
            else if info.kind ≠ .directory && !rest.isEmpty && missing ≠ .anything then
              pure (.error .notDirectory)
            else follow missing links fuel next rest
        | .refused errno =>
            if missing = .anything ||
                (missing = .last && errno = .noEntry && rest.all List.isEmpty) then
              follow missing links fuel next rest
            else pure (.error errno)
        | _ => pure (.error .invalid)

def canonical (missing : Missing) (links : Bool) (word : Chars) :
    Action (Except Errno Chars) := do
  if word.isEmpty then pure (.error .noEntry)
  else
    let start ← if word.head? = some '/' then pure [] else workingPath
    follow missing links (4096 + word.length) (if start = ['/'] then [] else start)
      (Text.partsAt '/' word)

def missingOf (asked : Asked) (otherwise : Option Missing) : Option Missing :=
  match asked.last? ["e", "f", "m"] with
  | some ("e", _) => some .nothing
  | some ("f", _) => some .last
  | some _ => some .anything
  | none => otherwise

def readlink : Tool :=
  withOptions ⟨"efmnqsvz", [("canonicalize", "f"), ("canonicalize-existing", "e"),
    ("canonicalize-missing", "m"), ("no-newline", "n"), ("quiet", "q"), ("silent", "s"),
    ("verbose", "v"), ("zero", "z")], true⟩ 1 fun name asked => do
      needOperand name asked 1
      let several := 1 < asked.operands.length
      if several && asked.has "n" then
        complain name "ignoring --no-newline with multiple arguments".toList
      let behind := if asked.has "n" && !several then [] else [endingOf asked]
      forEach asked.operands fun word => do
        let found ← match missingOf asked none with
          | some missing => canonical missing true word
          | none => do
              match ← Action.call (.readLink (path word)) with
              | .octets target => pure (.ok (Text.charsOf target))
              | .refused errno => pure (.error errno)
              | _ => pure (.error .invalid)
        match found with
        | .ok text => put (text ++ behind)
        | .error errno =>
            if asked.has "v" then complainOfFile name word errno
            pure false

def wayBetween (source target : Chars) : Chars :=
  let parts (word : Chars) : List Chars := (Text.partsAt '/' word).filter fun part => part ≠ []
  let shared := (((parts source).zip (parts target)).takeWhile fun pair => pair.1 = pair.2).length
  let way := List.replicate ((parts source).length - shared) ['.', '.'] ++
    (parts target).drop shared
  if way.isEmpty then ['.'] else join ['/'] way

def isUnder (base word : Chars) : Bool :=
  base = ['/'] || base = word || (base ++ ['/']).isPrefixOf word

def realpath : Tool :=
  withOptions ⟨"eLmPqsz", [("canonicalize-existing", "e"), ("canonicalize-missing", "m"),
    ("logical", "L"), ("physical", "P"), ("quiet", "q"), ("relative-to:", "to"),
    ("relative-base:", "base"), ("strip", "s"), ("no-symlinks", "s"), ("zero", "z")], true⟩ 1
    fun name asked => do
      needOperand name asked 1
      let missing := (missingOf asked (some .last)).getD .last
      let resolve (word : Chars) : Action (Except Errno Chars) :=
        canonical missing (!asked.has "s") word
      let bound (key : String) : Action (Option Chars) := do
        match asked.value? key with
        | none => pure none
        | some word =>
            match ← resolve word with
            | .ok found => pure (some found)
            | .error errno =>
                giveUp name (nameSafe word ++ ": ".toList ++ errno.text.toList) 1
      let base ← bound "base"
      let source ← bound "to"
      let source := match source, base with
        | some source, some base => if isUnder base source then some source else none
        | some source, none => some source
        | none, base => base
      forEach asked.operands fun word => do
        match ← resolve word with
        | .ok found =>
            let shown := match source with
              | some source => if base.all (isUnder · found) then wayBetween source found else found
              | none => found
            put (shown ++ [endingOf asked])
        | .error errno =>
            if !asked.has "q" then complainOfFile name word errno
            pure false

def templateMark : Char := 'X'

def madeUp : Nat → Nat → Chars
  | 0, _ => []
  | count + 1, n =>
      let letters := "abcdefghijklmnopqrstuvwxyzABCDEFGHIJKLMNOPQRSTUVWXYZ0123456789".toList
      (letters[n % letters.length]?).getD 'a' :: madeUp count (n * 31 / 7 + 17)

def makeFresh (before behind : Chars) (marks : Nat) (make : Chars → Action (Except Errno Unit)) :
    Nat → Nat → Action (Except Errno Chars)
  | 0, _ => pure (.error .present)
  | fuel + 1, seed => do
      let word := before ++ madeUp marks seed ++ behind
      match ← make word with
      | .ok () => pure (.ok word)
      | .error .present => makeFresh before behind marks make fuel (seed + 1009)
      | .error errno => pure (.error errno)

def mktemp (home : Option Chars) : Tool :=
  withOptions ⟨"dp:qtuV", [("directory", "d"), ("quiet", "q"), ("dry-run", "u"),
    ("suffix:", "suffix"), ("tmpdir::", "p")], true⟩ 1 fun name asked => do
      if 1 < asked.operands.length then
        giveUpUse name "too many templates".toList 1
      let template := asked.operands.headD "tmp.XXXXXXXXXX".toList
      let usual := match home with
        | some dir => if dir.isEmpty then "/tmp".toList else dir
        | none => "/tmp".toList
      let dir := if asked.operands.isEmpty || asked.has "p" || asked.has "t" then
          some (match asked.value? "p" with
            | some dir => if dir.isEmpty then usual else dir
            | none => usual)
        else none
      let whole := dir.elim template (inside · template)
      let behind := match asked.value? "suffix" with
        | some ending => ending
        | none => (whole.reverse.takeWhile (· ≠ templateMark)).reverse
      let body := if asked.has "suffix" then whole
        else (whole.reverse.dropWhile (· ≠ templateMark)).reverse
      if asked.has "suffix" && body.getLast? ≠ some templateMark then
        giveUp name ("with --suffix, template ".toList ++ quoted template ++
          " must end in X".toList) 1
      if behind.contains '/' && body.getLast? = some templateMark then
        giveUp name ("invalid suffix ".toList ++ quoted behind ++
          ", contains directory separator".toList) 1
      let marks := (body.reverse.takeWhile (· = templateMark)).length
      if marks < 3 then
        giveUp name ("too few X's in template ".toList ++ quoted template) 1
      let make (word : Chars) : Action (Except Errno Unit) := do
        match ← Action.call (.info (path word) false) with
        | .info _ => pure (.error .present)
        | _ =>
            if asked.has "u" then pure (.ok ())
            else if asked.has "d" then
              match ← Action.call (.makeDir (path word) 0o700) with
              | .refused errno => pure (.error errno)
              | _ => pure (.ok ())
            else
              match ← Action.call (.open (path word) .write) with
              | .done descriptor =>
                  let _ ← Action.call (.close descriptor)
                  let _ ← Action.call (.setMode (path word) 0o600)
                  pure (.ok ())
              | .refused errno => pure (.error errno)
              | _ => pure (.error .invalid)
      let seed := match ← Action.call .pid with
        | .done pid => pid
        | _ => 0
      let before := body.take (body.length - marks)
      match ← makeFresh before behind marks make 1000 seed with
      | .ok word =>
          let _ ← put (word ++ ['\n'])
          pure 0
      | .error errno =>
          if asked.has "q" then Action.exit 1
          let what := if asked.has "d" then "directory" else "file"
          giveUp name ("failed to create ".toList ++ what.toList ++ " via template ".toList ++
            quoted whole ++ ": ".toList ++ errno.text.toList) 1

end BatchLaunch.Tools
