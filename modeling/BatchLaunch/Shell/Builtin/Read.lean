import BatchLaunch.Shell.Builtin.Variables

/-!
`read`: a line of the input in fields.
-/
namespace BatchLaunch.Shell.Builtin

/-- Reads a line octet by octet. A backslash quotes what follows it, unless the line is read raw.
The answer tells whether the line had an end. -/
def readLine (raw : Bool) : Nat → List Text.Marked → Act (List Text.Marked × Bool)
  | 0, line => pure (line.reverse, false)
  | fuel + 1, line => do
      let next : Act (Option Char) := do
        match ← Act.call (.read 0 1) with
        | .octets [octet] => return some (Char.ofNat octet.toNat)
        | _ => return none
      match ← next with
      | none => return (line.reverse, false)
      | some '\x00' => readLine raw fuel line
      | some '\n' => return (line.reverse, true)
      | some c =>
          if c = '\\' && !raw then
            match ← next with
            | none => return (line.reverse, false)
            | some '\n' => readLine raw fuel line
            | some c => readLine raw fuel ((c, true) :: line)
          else readLine raw fuel ((c, false) :: line)

def lineLimit : Nat := 1000000

def isSpace (ifs : Chars) (item : Text.Marked) : Bool :=
  !item.2 && ifs.contains item.1 && (item.1 = ' ' || item.1 = '\t' || item.1 = '\n')

def isSeparator (ifs : Chars) (item : Text.Marked) : Bool := !item.2 && ifs.contains item.1

def trimEnd (ifs : Chars) (line : List Text.Marked) : List Text.Marked :=
  (line.reverse.dropWhile (isSpace ifs)).reverse

def firstField (ifs : Chars) (line : List Text.Marked) : List Text.Marked × List Text.Marked :=
  let first := line.takeWhile fun item => !isSeparator ifs item
  let rest := line.drop first.length
  let behind := rest.dropWhile (isSpace ifs)
  (first, if behind.head?.any (isSeparator ifs) then (behind.drop 1).dropWhile (isSpace ifs)
    else behind)

/-- The fields of a line for so many variables; the last one gets all that is left, and a single
separator at its end does not count. -/
def lineFields (ifs : Chars) : Nat → List Text.Marked → List Chars
  | 0, _ => []
  | 1, line =>
      let whole := trimEnd ifs (line.dropWhile (isSpace ifs))
      match firstField ifs whole with
      | (first, []) => [first.map (·.1)]
      | _ => [whole.map (·.1)]
  | count + 1, line =>
      let (first, rest) := firstField ifs (line.dropWhile (isSpace ifs))
      first.map (·.1) :: lineFields ifs count rest

def read : Routine := withOptions "r" "p" fun found names => do
  if names.isEmpty then Act.fault "arg count".toList
  else
    let (line, ended) ← readLine (found.any (·.1 = 'r')) lineLimit []
    let values := lineFields (Expand.separators (← Act.get)) names.length line
    for (name, value) in names.zip values do
      requireName name
      assign name value
    return if ended then 0 else 1

end BatchLaunch.Shell.Builtin
