import BatchLaunch.Shell.Builtin.Basic

/-!
Commands about what names stand for: aliases, programs that were found, and kinds of commands.
-/
namespace BatchLaunch.Shell.Builtin

/-! Aliases -/

def aliasLine (name text : Chars) : Chars := name ++ '=' :: singleQuoted text ++ ['\n']

def listAliases : Act Nat := do
  let aliases := State.inGroups State.variableGroups (·.1) (← Act.get).aliases
  emit (aliases.flatMap fun (name, text) => aliasLine name text)

def setAlias (name text : Chars) : Act Unit := Act.modify fun state =>
  let aliases := if state.aliases.any (·.1 = name) then
      state.aliases.map fun entry => if entry.1 = name then (name, text) else entry
    else state.aliases ++ [(name, text)]
  { state with aliases := aliases }

/-- Sets aliases, or shows them. An equals sign at the very start belongs to the name. -/
def aliasCommand : Routine := fun words =>
  if words.isEmpty then listAliases
  else do
    let (text, status) ← words.foldlM (fun (shown, status) word => do
      let start := word.take 1
      let rest := word.drop 1
      let name := start ++ rest.takeWhile (· ≠ '=')
      match rest.dropWhile (· ≠ '=') with
      | _ :: text => do
          setAlias name text
          return (shown, status)
      | [] =>
          match (← Act.get).aliases.lookup name with
          | some text => return (shown ++ aliasLine name text, status)
          | none =>
              tell ("alias: ".toList ++ name ++ " not found".toList)
              return (shown, 1)) (([] : Chars), 0)
    return max status (← emit text)

def unalias : Routine := withOptions "a" "" fun found words => do
  if !found.isEmpty then
    Act.modify fun state => { state with aliases := [] }
    return 0
  else forAll words fun name => do
    if ((← Act.get).aliases.lookup name).isNone then
      tell ("unalias: ".toList ++ name ++ " not found".toList)
      return 1
    else
      Act.modify fun state => { state with aliases := state.aliases.filter (·.1 ≠ name) }
      return 0

/-! Programs -/

def listFound : Act Nat := do
  let found := State.inGroups State.foundGroups Found.name (← Act.get).found
  emit (found.flatMap fun entry =>
    entry.path ++ (if entry.stale then ['*'] else []) ++ ['\n'])

/-! Meanings -/

def names : List String :=
  Read.specialNames ++ ["[", "alias", "bg", "cd", "chdir", "command", "echo", "false", "fg",
    "getopts", "hash", "jobs", "kill", "printf", "pwd", "read", "test", "true", "type", "ulimit",
    "umask", "unalias", "wait"]

def isBuiltin (name : Chars) : Bool := names.contains (String.ofList name)

def isSpecial (name : Chars) : Bool := Read.specialNames.contains (String.ofList name)

def hash : Routine := withOptions "r" "" fun found words => do
  if !found.isEmpty then
    Act.modify fun state => { state with found := [] }
    return 0
  else if words.isEmpty then listFound
  else forAll words fun name => do
    if isBuiltin name || ((← Act.get).functions.lookup name).isSome then return 0
    else
      Search.forget name
      match ← Search.program name with
      | .ok _ => return 0
      | .error errno =>
          Act.complain (name ++ ": ".toList ++ reason errno "not found")
          return 1

def programMeant (standard : Bool) (name : Chars) : Act (Option (Chars × Bool)) := do
  let known := (← Act.get).found.find? (·.name = name)
  match if standard then none else known with
  | some entry => return some (entry.path, true)
  | none =>
      if name.contains '/' then
        match ← Act.call (.info (Text.octetsOf name) true) with
        | .info _ => return some (name, false)
        | _ => return none
      else
        let found ← if standard then
            Search.first Search.isProgram .noEntry (Search.candidates Search.standardPath name)
          else Search.program name
        return found.toOption.map (·, false)

def meaning (standard : Bool) (name : Chars) : Act (Option (Chars × Chars)) := do
  let state ← Act.get
  if keywords.contains (String.ofList name) then return some (name, " is a shell keyword".toList)
  else
    match state.aliases.lookup name with
    | some text =>
        return some ("alias ".toList ++ (aliasLine name text).dropLast,
          " is an alias for ".toList ++ text)
    | none =>
        if (state.functions.lookup name).isSome then
          return some (name, " is a shell function".toList)
        else if isBuiltin name then
          return some (name, (if isSpecial name then " is a special shell builtin"
            else " is a shell builtin").toList)
        else
          return (← programMeant standard name).map fun (path, known) =>
            (path, (if known then " is a tracked alias for " else " is ").toList ++ path)

def meaningLine (verbose standard : Bool) (name : Chars) : Act (Chars × Nat) := do
  match ← meaning standard name with
  | some (short, long) => return ((if verbose then name ++ long else short) ++ ['\n'], 0)
  | none => return (if verbose then name ++ ": not found\n".toList else [], 127)

def type : Routine := fun words => do
  let (text, status) ← words.foldlM (fun (text, status) name => do
    let (line, next) ← meaningLine true false name
    return (text ++ line, status ||| next)) (([] : Chars), 0)
  return max status (← emit text)

def command : Routine := withOptions "pvV" "" fun found words => do
  let has (letter : Char) : Bool := found.any fun entry => entry.1 = letter
  match words with
  | name :: _ =>
      if !has 'v' && !has 'V' then return 0
      else
        let (text, status) ← meaningLine (has 'V') (has 'p') name
        return max status (← emit text)
  | [] => return 0

end BatchLaunch.Shell.Builtin
