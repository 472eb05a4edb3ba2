import BatchLaunch.Shell.Builtin.Basic
import BatchLaunch.Tools.Mode

/-!
Commands about the working directory and the mask of new files.
-/
namespace BatchLaunch.Shell.Builtin

/-! The working directory is known by the names that led to it, of which `..` takes the last one
away. -/

/-- The last of the options asks for the directory without links on the way to it. -/
def wantsPhysical (found : List (Char × Chars)) : Bool := (found.getLast?.map (·.1)) = some 'P'

def step (names : List Chars) (part : Chars) : List Chars :=
  if part.isEmpty || part = ['.'] then names
  else if part = ['.', '.'] then names.dropLast
  else names ++ [part]

/-- The path that names lead along. Two slashes at the start of a path may be kept apart. -/
def pathAlong (doubled : Bool) (names : List Chars) : Chars :=
  (if doubled then ['/'] else []) ++ '/' :: List.intercalate ['/'] names

def startsDoubled (path : Chars) : Bool :=
  path.take 2 = ['/', '/'] && path[2]? ≠ some '/'

def logicalPath (dir path : Chars) : Chars :=
  let whole := if path.head? = some '/' then path else dir ++ '/' :: path
  pathAlong (startsDoubled whole) ((Text.partsAt '/' whole).foldl step [])

def physicalDir : Act Chars := do
  match ← Act.call .workingDir with
  | .octets dir => return Text.charsOf dir
  | _ => return []

def setDir (logical : Option Chars) (keepsOld : Bool) : Act Unit := do
  let old := (← Act.get).dir
  if keepsOld then
    assign "OLDPWD".toList old
    Act.modify fun state => state.exported "OLDPWD".toList
  let dir ← match logical with
    | some dir => pure dir
    | none => physicalDir
  Act.modify fun state => { state with dir := dir }
  assign "PWD".toList dir
  Act.modify fun state => state.exported "PWD".toList

def enterDir (physical : Bool) (path : Chars) : Act Bool := do
  let dir := (← Act.get).dir
  let logical := if physical || (dir.isEmpty && path.head? ≠ some '/') then none
    else some (logicalPath dir path)
  match ← Act.call (.changeDir (Text.octetsOf (logical.getD path))) with
  | .refused _ => return false
  | _ =>
      setDir logical true
      Search.doubt
      return true

def isFixed (path : Chars) : Bool :=
  path.head? = some '/' || path = ['.'] || path = ['.', '.'] ||
    "./".toList.isPrefixOf path || "../".toList.isPrefixOf path

def searchDirs (path : Chars) : List Chars → Act (Option (Chars × Bool))
  | [] => pure none
  | dir :: dirs => do
      let whole := if dir.isEmpty then path else dir ++ '/' :: path
      match ← Act.call (.info (Text.octetsOf whole) true) with
      | .info info =>
          if info.kind = .directory then return some (whole, !dir.isEmpty) else searchDirs path dirs
      | _ => searchDirs path dirs

def changeDir : Routine := withOptions "LP" "" fun found words => do
  let state ← Act.get
  let back := words.head? = some ['-']
  let target := match words with
    | [] => (state.value? "HOME".toList).getD []
    | first :: _ => if back then (state.value? "OLDPWD".toList).getD [] else first
  let path := if target.isEmpty then ['.'] else target
  let place ← match state.value? "CDPATH".toList with
    | some dirs => if isFixed target then pure none else searchDirs path (Text.partsAt ':' dirs)
    | none => pure none
  let (whole, away) := place.getD (path, false)
  if ← enterDir (wantsPhysical found) whole then
    if back || away then emit ((← Act.get).dir ++ ['\n']) else return 0
  else Act.fault ("can't cd to ".toList ++ target)

def workingDir : Routine := withOptions "LP" "" fun found _ => do
  let dir ← if wantsPhysical found then physicalDir else pure (← Act.get).dir
  emit (dir ++ ['\n'])

/-! The mask of new files -/

def grantedText (mask : Nat) : Chars :=
  let granted := 0o777 - mask % 0o1000
  List.intercalate [','] ([('u', 64), ('g', 8), ('o', 1)].map fun (who, unit) =>
    let bits := granted / unit % 8
    who :: '=' :: [('r', 4), ('w', 2), ('x', 1)].filterMap fun (letter, bit) =>
      if bits / bit % 2 = 1 then some letter else none)

def octalText (width n : Nat) : Chars :=
  let digits := Nat.toDigits 8 n
  List.replicate (width - digits.length) '0' ++ digits

def permissionBits (granted : Nat) (letter : Char) : Option Nat :=
  match letter with
  | 'r' => some 4
  | 'w' => some 2
  | 'x' => some 1
  | 'u' => some (granted / 64 % 8)
  | 'g' => some (granted / 8 % 8)
  | 'o' => some (granted % 8)
  | 'X' => some (if granted &&& 0o111 = 0 then 0 else 1)
  | 's' => some 0
  | _ => none

def classBits (letter : Char) : Option Nat :=
  match letter with
  | 'a' => some 0o111
  | 'u' => some 0o100
  | 'g' => some 0o010
  | 'o' => some 0o001
  | _ => none

def lettersOf (value? : Char → Option Nat) (text : Chars) : Nat × Chars :=
  let found := text.takeWhile fun c => (value? c).isSome
  (found.foldl (fun bits c => bits ||| (value? c).getD 0) 0, text.drop found.length)

/-- What is granted after changes by letters, such as `u=rw,g-w`; `none` if they mean nothing. -/
def changeGranted (before : Nat) : Nat → Nat → Nat → Chars → Option Nat
  | 0, _, _, _ => none
  | _, _, granted, [] => some granted
  | fuel + 1, classes, granted, text =>
      let (more, rest) := lettersOf classBits text
      let classes := if classes ||| more = 0 then 0o111 else classes ||| more
      match rest with
      | sign :: rest =>
          let (bits, rest) := lettersOf (permissionBits before) rest
          let value := (bits % 8) * classes
          let changed := match sign with
            | '-' => some (granted - (granted &&& value))
            | '+' => some (granted ||| value)
            | '=' => some (value ||| (granted - (granted &&& classes * 7)))
            | _ => none
          changed.bind fun granted =>
            match rest with
            | ',' :: rest => changeGranted before fuel 0 granted rest
            | [] => some granted
            | c :: rest =>
                if "=+-".toList.contains c then changeGranted before fuel classes granted (c :: rest)
                else none
      | [] => none

def umask : Routine := withOptions "S" "" fun found words => do
  let mask ← match ← Act.call (.mask none) with
    | .done mask => pure mask
    | _ => pure 0
  match words with
  | [] => emit ((if found.isEmpty then octalText 4 mask else grantedText mask) ++ ['\n'])
  | word :: _ =>
      let new ← if word.head?.any Char.isDigit then
          match Tools.octal? word with
          | some new => pure new
          | none => Act.fault ("Illegal number: ".toList ++ word)
        else
          let granted := 0o777 - mask % 0o1000
          match changeGranted granted (word.length + 1) 0 granted word with
          | some granted => pure (0o777 - granted % 0o1000)
          | none => Act.fault ("Illegal mode: ".toList ++ word)
      let _ ← Act.call (.mask (some (new % 0o1000)))
      return 0

end BatchLaunch.Shell.Builtin
