import BatchLaunch.Shell.Builtin.Basic

/-!
Commands about variables, parameters and settings.
-/
namespace BatchLaunch.Shell.Builtin

def splitAssignment (word : Chars) : Chars × Option Chars :=
  match word.dropWhile (· ≠ '=') with
  | [] => (word, none)
  | _ :: value => (word.takeWhile (· ≠ '='), some value)

def requireName (name : Chars) : Act Unit :=
  if isName name then pure () else Act.fault (name ++ ": bad variable name".toList)

def declare (change : Variable → Variable) (words : List Chars) : Act Nat :=
  forAll words fun word => do
    let (name, value) := splitAssignment word
    requireName name
    if let some value := value then assign name value
    Act.modify fun state => state.bind name (change ((state.lookup? name).getD .plain))
    return 0

def listVariables (command : String) (isListed : Variable → Bool) : Act Nat := do
  let state ← Act.get
  let names := (state.bindings.filter fun entry => isListed entry.2).map (·.1)
  emit (Tools.unlines ((Tools.sortedNames names).map fun name =>
    command.toList ++ name ++ ((state.value? name).elim [] fun value => '=' :: singleQuoted value)))

def declaration (name : String) (isListed : Variable → Bool) (change : Variable → Variable) :
    Routine :=
  withOptions "p" "" fun found words =>
    if !found.isEmpty || words.isEmpty then listVariables name isListed
    else declare change words

def exportAll : Routine :=
  declaration "export " Variable.exported fun held => { held with exported := true }

def readOnlyAll : Routine :=
  declaration "readonly " Variable.readOnly fun held => { held with readOnly := true }

def unset : Routine := withOptions "vf" "" fun found words => do
  if (found.getLast?.map (·.1)) = some 'f' then
    Act.modify fun state => { state with
      functions := state.functions.filter fun entry => !words.contains entry.1 }
    return 0
  else forAll words fun word => do
    let (name, _) := splitAssignment word
    requireName name
    if (← Act.get).isReadOnly name then Act.fault (name ++ ": is read only".toList)
    else
      Act.modify fun state => state.unset name
      return 0

/-! Settings -/

inductive Change where
  | setting (on : Bool) (setting : Setting)
  | report (on : Bool)

/-- The changes that letters behind a sign ask for. An `o` takes its name from the words that
follow. -/
def changesOf (on : Bool) : Chars → List Chars → Except Chars (List Change × List Chars)
  | [], rest => .ok ([], rest)
  | 'o' :: letters, [] => (changesOf on letters []).map fun (more, rest) =>
      (.report on :: more, rest)
  | 'o' :: letters, name :: rest =>
      match Setting.ofName? name with
      | some setting => (changesOf on letters rest).map fun (more, rest) =>
          (.setting on setting :: more, rest)
      | none => .error ("Illegal option -o ".toList ++ name)
  | letter :: letters, rest =>
      match Setting.ofLetter? letter with
      | some setting => (changesOf on letters rest).map fun (more, rest) =>
          (.setting on setting :: more, rest)
      | none => .error ("Illegal option -".toList ++ [letter])

def changesIn : Nat → List Chars → Except Chars (List Change × List Chars × Bool)
  | 0, words => .ok ([], words, false)
  | _, [] => .ok ([], [], false)
  | fuel + 1, (sign :: letters) :: rest =>
      if sign = '-' && letters = ['-'] then .ok ([], rest, true)
      else if sign = '-' && letters.isEmpty then
        .ok ([.setting false .trace, .setting false .verbose], rest, false)
      else if sign = '-' || sign = '+' then do
        let (changes, rest) ← changesOf (sign = '-') letters rest
        let (more, rest) ← changesIn fuel rest
        return (changes ++ more, rest)
      else .ok ([], (sign :: letters) :: rest, false)
  | _, words => .ok ([], words, false)

def applyChange : Change → Act Nat
  | .setting on setting => do
      Act.modify fun state => { state with settings := setting.change on state.settings }
      return 0
  | .report on => do
      let settings := (← Act.get).settings
      emit (if on then Setting.report settings else Setting.commands settings)

def setArguments (words : List Chars) : Act Unit := Act.modify fun state =>
  { state with arguments := words, options := .start }

def set : Routine := fun words => do
  if words.isEmpty then listVariables "" fun held => held.value.isSome
  else
    match changesIn (words.length + 1) words with
    | .error fault => Act.fault fault
    | .ok (changes, rest, explicit) =>
        let status ← changes.foldlM (fun status change => do
          return max status (← applyChange change)) 0
        if explicit || !rest.isEmpty then setArguments rest
        let state ← Act.get
        if state.settings.contains .monitor then
          -- a shell within another one takes part in what that one does
          if (← Act.call .pid) = .done state.pid then
            Act.complain Setting.noTerminal
          Act.modify fun state => { state with
            settings := Setting.monitor.change false state.settings }
        return status

def shift : Routine := fun words => do
  let count ← numberOr 1 words
  let arguments := (← Act.get).arguments
  if arguments.length < count then Act.fault "can't shift that many".toList
  else
    setArguments (arguments.drop count)
    return 0

/-- Hides variables for the rest of a function; a hyphen stands for the settings. -/
def makeLocal : Routine := fun words => do
  if (← Act.get).frames.isEmpty then Act.fault "not in a function".toList
  else forAll words fun word => do
    let (name, value) := splitAssignment word
    if word = ['-'] then Act.modify fun state => state.hide fun frame =>
      { frame with settings := frame.settings.or (some state.settings) }
    else
      if value.isNone && ((← Act.get).lookup? name).isNone then requireName name
      Act.modify fun state => state.hide fun frame =>
        { frame with hidden := (name, state.lookup? name) :: frame.hidden }
      match value with
      | some value => assign name value
      | none => Act.modify fun state => state.bind name ((state.lookup? name).getD .plain)
    return 0

/-! Options of a script -/

structure OptionFound where
  letter : Char
  value : Option Chars
  fault : Option Chars
  place : OptionPlace
  done : Bool

def optionKind (letter : Char) : Chars → Option Bool
  | [] => none
  | c :: ':' :: rest => if c = letter then some true else optionKind letter rest
  | c :: rest => if c = letter then some false else optionKind letter rest

def optionIn (known : Chars) (words : List Chars) (letter : Char) (rest : Chars) (next done : Nat) :
    OptionFound :=
  let quiet := known.head? = some ':'
  let behind : OptionPlace := ⟨next, some (done + 1)⟩
  match optionKind letter known with
  | none =>
      if quiet then ⟨'?', some [letter], none, behind, false⟩
      else ⟨'?', none, some ("Illegal option -".toList ++ [letter]), behind, false⟩
  | some false => ⟨letter, some [], none, behind, false⟩
  | some true =>
      match rest, words[next - 1]? with
      | c :: more, _ => ⟨letter, some (c :: more), none, ⟨next, none⟩, false⟩
      | [], some value => ⟨letter, some value, none, ⟨next + 1, none⟩, false⟩
      | [], none =>
          if quiet then ⟨':', some [letter], none, ⟨next, none⟩, false⟩
          else ⟨'?', none, some ("No arg for -".toList ++ letter :: " option".toList),
            ⟨next, none⟩, false⟩

def nextOption (known : Chars) (words : List Chars) (place : OptionPlace) : OptionFound :=
  let unfinished : Option (Chars × Nat) := do
    let done ← place.done
    let word ← if place.next ≤ 1 then none else words[place.next - 2]?
    if done < word.length then some (word.drop done, done) else none
  let ended (next : Nat) : OptionFound := ⟨'?', none, none, ⟨next, none⟩, true⟩
  match unfinished, words[place.next - 1]? with
  | some (letter :: rest, done), _ => optionIn known words letter rest place.next done
  | _, some ['-', '-'] => ended (place.next + 1)
  | _, some ('-' :: letter :: rest) => optionIn known words letter rest (place.next + 1) 1
  | _, _ => ended place.next

def getopts : Routine := fun words => do
  match words with
  | known :: name :: given => do
      let state ← Act.get
      let words := if given.isEmpty then state.arguments else given
      let place := if words.length + 1 < state.options.next then .start else state.options
      let found := nextOption known words place
      if let some fault := found.fault then
        tell fault
      match found.value with
      | some value => assign "OPTARG".toList value
      | none => if !found.done then Act.modify fun state => state.unset "OPTARG".toList
      Act.modify fun state => state.bind "OPTIND".toList
        { (state.lookup? "OPTIND".toList).getD .plain with
          value := some (Expand.natText found.place.next) }
      requireName name
      assign name [found.letter]
      Act.modify fun state => { state with options := found.place }
      return if found.done then 1 else 0
  | _ => Act.fault "Usage: getopts optstring var [arg...]".toList

end BatchLaunch.Shell.Builtin
