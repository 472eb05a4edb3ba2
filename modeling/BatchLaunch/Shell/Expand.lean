import BatchLaunch.Shell.Arithmetic
import BatchLaunch.Shell.State
import BatchLaunch.Text.Pattern
import BatchLaunch.Tools.Order

/-!
Expanding words: home directories, parameters, the output of commands and arithmetic, then splitting
into fields, then patterns of paths.
-/
namespace BatchLaunch.Shell

open Host (Call Reply)

inductive Atom where
  | char (c : Char) (quoted splits : Bool)
  | mark
  | cut
  | gap
  | edge
  deriving DecidableEq, Repr

namespace Expand

def atoms (inQuotes : Bool) (text : Chars) : List Atom :=
  (if inQuotes then .mark else .edge) :: text.map fun c => .char c inQuotes (!inQuotes)

def separators (state : State) : Chars := (state.value? "IFS".toList).getD " \t\n".toList

def natText (n : Nat) : Chars := Nat.toDigits 10 n

def intText (n : Int) : Chars := (toString n).toList

def position? (name : Chars) : Option Nat :=
  if name.all Char.isDigit then Tools.natural? name else none

def parameter? (state : State) (name : Chars) : Option Chars :=
  match name with
  | ['#'] => some (natText state.arguments.length)
  | ['?'] => some (natText state.status)
  | ['-'] => some (Setting.letters state.settings)
  | ['$'] => some (natText state.pid)
  | ['!'] => state.lastBackground.map natText
  | _ =>
      match position? name with
      | some 0 => some state.name
      | some n => state.arguments[n - 1]?
      | none => state.value? name

def joint (state : State) : Chars :=
  match state.value? "IFS".toList with
  | none => [' ']
  | some ifs => ifs.take 1

def joinArguments (state : State) : Chars := List.intercalate (joint state) state.arguments

def argumentAtoms (state : State) (name : Chars) (inQuotes : Bool) : List Atom :=
  if !inQuotes then List.intercalate [.gap] (state.arguments.map (atoms false))
  else if name = ['*'] then atoms true (joinArguments state)
  else List.intercalate [.cut] (state.arguments.map (atoms true))

def isAllArguments (name : Chars) : Bool := name = ['@'] || name = ['*']

def valueAtoms? (state : State) (name : Chars) (inQuotes : Bool) : Option (List Atom) :=
  if isAllArguments name then
    if state.arguments.isEmpty then none else some (argumentAtoms state name inQuotes)
  else (parameter? state name).map (atoms inQuotes)

def textOf (between : Chars) (found : List Atom) : Chars :=
  found.flatMap fun atom =>
    match atom with
    | .char c _ _ => [c]
    | .mark | .edge => []
    | .cut | .gap => between

def markedOf (found : List Atom) : List Text.Marked :=
  found.flatMap fun atom =>
    match atom with
    | .char c quoted _ => [(c, quoted)]
    | .mark | .edge => []
    | .cut | .gap => [(' ', false)]

/-- Characters of a word within an expansion that is not quoted may separate fields. -/
def splittable (found : List Atom) : List Atom :=
  found.map fun atom =>
    match atom with
    | .char c quoted splits => .char c quoted (splits || !quoted)
    | other => other

def arithmetic (text : Chars) : Act Chars := do
  let state ← Act.get
  match Arithmetic.evaluate ⟨state.value?, state.isReadOnly⟩ text with
  | .ok (value, set) =>
      for (name, value) in set.reverse do
        assign name (intText value)
      return intText value
  | .error (.malformed message) =>
      Act.fault ("arithmetic expression: ".toList ++ message.toList ++ ": \"".toList ++ text ++
        ['"'])
  | .error (.notNumber value) => Act.fault ("Illegal number: ".toList ++ value)
  | .error (.readOnly name) => Act.fault (name ++ ": is read only".toList)

/-! Home directories -/

/-- Behind a tilde, the name of a user up to the end of a part of a path, and what follows; `none`
if any of it is quoted. -/
def userName (assigns : Bool) : Word → Option (Option Chars × Word)
  | [] => some (some [], [])
  | .plain c :: rest =>
      if c = '/' || (assigns && c = ':') then some (some [], .plain c :: rest)
      else (userName assigns rest).map fun (name, after) => (name.map (c :: ·), after)
  | .quoted _ :: _ | .quotes :: _ => none
  | _ :: rest => (userName assigns rest).map fun (_, after) => (none, after)

def usersFile : Chars := "/etc/passwd".toList

def homeOf (user : Chars) : Act (Option Chars) := do
  if user.isEmpty then return (← Act.get).value? "HOME".toList
  else
    match ← Act.ofAction (Tools.slurp usersFile) with
    | .ok text =>
        return (Tools.lines text).findSome? fun line =>
          match Text.partsAt ':' line with
          | name :: _ :: _ :: _ :: _ :: home :: _ => if name = user then some home else none
          | _ => none
    | .error _ => return none

def home (assigns : Bool) (rest : Word) : Act (Option (Chars × Word)) := do
  match userName assigns rest with
  | some (some user, after) => return (← homeOf user).map (·, after)
  | _ => return none

/-! Words -/

def unsetText (name : Chars) (orNull : Bool) : Chars :=
  name ++ ": parameter not set".toList ++ (if orNull then " or null".toList else [])

def parameter (name : Chars) (use : Use) (word : Word) (inside : Act (List Atom))
    (inQuotes : Bool) : Act (List Atom) := do
  let state ← Act.get
  let value := valueAtoms? state name inQuotes
  let counts (colon : Bool) : Bool :=
    match value with
    | none => false
    | some found => !colon || !(textOf [' '] found).isEmpty
  let inner : Act (List Atom) := do
    let found ← inside
    return if inQuotes then .mark :: found else .edge :: splittable found
  let required : Act (List Atom) := do
    if value.isNone && state.settings.contains .failOnUnset && !isAllArguments name then
      Act.fault (unsetText name false)
    else return value.getD (if inQuotes && name ≠ ['@'] then [.mark] else [])
  match use with
  | .invalid => Act.fault "Bad substitution".toList
  | .value => required
  | .length => do
      let found ← required
      let length := if isAllArguments name then (joinArguments state).length
        else (textOf [] found).length
      return atoms inQuotes (natText length)
  | .default colon => if counts colon then return value.getD [] else inner
  | .alternative colon => if counts colon then inner else return if inQuotes then [.mark] else []
  | .assign colon =>
      if counts colon then return value.getD []
      else
        let text := textOf (joint state) (← inside)
        if !isName name then Act.fault (name ++ ": bad variable name".toList)
        else
          Shell.assign name text
          return atoms inQuotes text
  | .require colon =>
      if counts colon then return value.getD []
      else if word.isEmpty then Act.fault (unsetText name colon)
      else
        let text := textOf (joint state) (← inside)
        Act.fault (name ++ ": ".toList ++ text)
  | .dropEnd longest => do
      let text := textOf [' '] (← required)
      let pattern := Text.Pattern.ofMarked (markedOf (← inside))
      return atoms inQuotes (Text.Pattern.dropEnd pattern longest text)
  | .dropStart longest => do
      let text := textOf [' '] (← required)
      let pattern := Text.Pattern.ofMarked (markedOf (← inside))
      return atoms inQuotes (Text.Pattern.dropStart pattern longest text)

/-- The atoms of a word. `outputOf` gives what a command writes, `assigns` tells whether the word is
the value of a variable, and `atStart` whether a tilde is special here. -/
def word (outputOf : Command → Act Chars) (assigns : Bool) :
    Nat → Bool → Word → Act (List Atom)
  | 0, _, _ => pure []
  | fuel + 1, atStart, pieces => do
      match pieces with
      | [] => return []
      | first :: rest =>
          let go (found : List Atom) (atStart : Bool) (rest : Word) : Act (List Atom) := do
            return found ++ (← word outputOf assigns fuel atStart rest)
          match first with
          | .plain '~' =>
              match ← if atStart then home assigns rest else pure none with
              | some (dir, after) => go (dir.map fun c => .char c true false) false after
              | none => go [.char '~' false false] false rest
          | .plain c => go [.char c false false] (assigns && c = ':') rest
          | .quoted c => go [.char c true false] false rest
          | .quotes => go [.mark] false rest
          | .substitution body inQuotes => do
              let text ← outputOf body
              go (atoms inQuotes text) false rest
          | .arithmetic inside inQuotes => do
              let text := textOf [' '] (← word outputOf false fuel false inside)
              let value ← arithmetic text
              go (atoms inQuotes value) false rest
          | .parameter name use inside inQuotes => do
              let found ← parameter name use inside (word outputOf assigns fuel true inside)
                inQuotes
              go found false rest

/-! Fields -/

/-- What splitting has come to: the fields so far, the last one if it is started, and whether white
space just ended one. -/
structure Splitting where
  fields : List (List Text.Marked)
  current : Option (List Text.Marked)
  afterSpace : Bool

def Splitting.finish (splitting : Splitting) : List (List Text.Marked) :=
  splitting.fields ++ splitting.current.toList

def Splitting.space (splitting : Splitting) : Splitting :=
  match splitting.current with
  | some _ => ⟨splitting.finish, none, true⟩
  | none => splitting

def Splitting.step (ifs : Chars) (splitting : Splitting) (atom : Atom) : Splitting :=
  match atom with
  | .cut => ⟨splitting.finish, none, false⟩
  | .mark => { splitting with current := some (splitting.current.getD []) }
  | .edge => { splitting with afterSpace := false }
  | .gap => splitting.space
  | .char c quoted splits =>
      if splits && ifs.contains c then
        if c = ' ' || c = '\t' || c = '\n' then splitting.space
        else
          match splitting.current with
          | some _ => ⟨splitting.finish, none, false⟩
          | none =>
              if splitting.afterSpace then { splitting with afterSpace := false }
              else { splitting with fields := splitting.fields ++ [[]] }
      else ⟨splitting.fields, some (splitting.current.getD [] ++ [(c, quoted)]), false⟩

def split (ifs : Chars) (found : List Atom) : List (List Text.Marked) :=
  (found.foldl (Splitting.step ifs) ⟨[], none, false⟩).finish

def plainText (field : List Text.Marked) : Chars := field.map (·.1)

def isPattern (field : List Text.Marked) : Bool :=
  !Text.Pattern.isLiteral (Text.Pattern.ofMarked field)

def pathParts : List Text.Marked → List (List Text.Marked)
  | [] => [[]]
  | (c, quoted) :: rest =>
      if c = '/' then [] :: pathParts rest
      else
        match pathParts rest with
        | [] => [[(c, quoted)]]
        | first :: others => ((c, quoted) :: first) :: others

def paths (before : Chars) : List (List Text.Marked) → Act (List Chars)
  | [] => pure [before]
  | part :: parts => do
      let join (name : Chars) : Chars := before ++ name ++ (if parts.isEmpty then [] else ['/'])
      if !isPattern part then
        let whole := join (plainText (Text.Pattern.unescaped part))
        if parts.isEmpty then
          match ← Act.call (.info (Text.octetsOf whole) false) with
          | .info _ => return [whole]
          | _ => return []
        else paths whole parts
      else
        match ← Act.call (.list (Text.octetsOf (if before.isEmpty then ['.'] else before))) with
        | .names names =>
            let pattern := Text.Pattern.ofMarked part
            let all := ['.'] :: ['.', '.'] :: names.map Text.charsOf
            let fitting := (Tools.sortedNames all).filter fun name =>
              Text.Pattern.matchesAll pattern name &&
                (name.head? ≠ some '.' || (part.head?.map (·.1)) = some '.')
            fitting.foldlM (fun found name => do
              let whole := join name
              if parts.isEmpty then return found ++ [whole]
              else
                match ← Act.call (.info (Text.octetsOf (before ++ name)) true) with
                | .info info =>
                    if info.kind = .directory then return found ++ (← paths whole parts)
                    else return found
                | _ => return found) []
        | _ => return []

def glob (field : List Text.Marked) : Act (List Chars) := do
  if isPattern field && !(← Act.has .noGlobbing) then
    match ← paths [] (pathParts field) with
    | [] => return [plainText field]
    | found => return Tools.sortedNames found
  else return [plainText field]

def limit : Nat := 100000

def fieldsOf (outputOf : Command → Act Chars) (pieces : Word) : Act (List Chars) := do
  let found ← word outputOf false limit true pieces
  let parts := split (separators (← Act.get)) found
  parts.foldlM (fun done field => do return done ++ (← glob field)) []

def fields (outputOf : Command → Act Chars) : List Word → Act (List Chars)
  | [] => pure []
  | first :: rest => do
      let texts ← fieldsOf outputOf first
      return texts ++ (← fields outputOf rest)

def single (outputOf : Command → Act Chars) (assigns : Bool) (pieces : Word) : Act Chars := do
  let found ← word outputOf assigns limit true pieces
  return textOf (joint (← Act.get)) found

def pattern (outputOf : Command → Act Chars) (pieces : Word) : Act (List Text.Pattern.Element) := do
  return Text.Pattern.ofMarked (markedOf (← word outputOf false limit true pieces))

def prompt (outputOf : Command → Act Chars) (text : Chars) : Act Chars := do
  let nested := Read.nestedTo Read.depthLimit
  match Read.pieces nested true (text.length + 1) .hereText (.start text 1 []) with
  | .ok (pieces, _) => single outputOf false pieces
  | .error _ => return text

end Expand
end BatchLaunch.Shell
