import BatchLaunch.Tools.Awk.Streams

/-!
Running scripts. Whatever goes on for long lets other programs go on too, at every turn of a loop
and at every call of a function.
-/
namespace BatchLaunch.Tools.Awk

open Host (Action Call)
open Text (BinaryReal Regex)

/-! Random numbers -/

def nextSeed (seed : Nat) : Nat := 16807 * seed % 2147483647

/-- The first numbers for a seed, the latest first. -/
def seeds : Nat → Nat → List UInt32 → List UInt32
  | 0, _, done => done
  | count + 1, seed, done => seeds count (nextSeed seed) (UInt32.ofNat seed :: done)

def nextRandom (known : List UInt32) : List UInt32 :=
  (known.getD 2 0 + known.getD 30 0) :: known.take 30

def randomFrom (seed : Nat) : List UInt32 :=
  let seed := if seed = 0 then 1 else seed % 4294967296
  let latest := seeds 31 seed []
  let start := (latest.drop 28).take 3 ++ latest.take 28
  (List.range 310).foldl (fun known _ => nextRandom known) start

def randomBound : Nat := 2147483647

/-! Places -/

inductive Address where
  | named (name : Name)
  | element (table : Nat) (key : Chars)
  | field (index : Nat)

def load : Address → Run Value
  | .named name => variableValue name
  | .field index => field index
  | .element id key => do
      let table ← tableAt id
      match table.find? key with
      | some value => return value
      | none =>
          setTable id (table.insert key .unset)
          return .unset

def store (address : Address) (value : Value) : Run Unit := do
  match address with
  | .named name => setVariable name value
  | .field index => setField index value
  | .element id key => setTable id ((← tableAt id).insert key value)

def attempt (part : Run Unit) : Run (Option Leave) := fun state => do
  let (result, state) ← part state
  pure (.ok (match result with
    | .ok _ => none
    | .error reason => some reason), state)

def pause : Run Unit := do
  let _ ← act (Action.call .pause)

/-! Built-in functions -/

def indexOf (wanted : Chars) : Nat → Chars → Nat
  | _, [] => 0
  | place, c :: rest =>
      if wanted.isPrefixOf (c :: rest) then place else indexOf wanted (place + 1) rest

/-- So many characters from a place on; those before the first one count but are not there. -/
def substring (text : Chars) (start : BinaryReal) (length : Option BinaryReal) : Chars :=
  let first := start.nearestInt
  let begins := max 1 first
  let stop : Int := match length with
    | none => text.length + 1
    | some (.infinite negative) => if negative then 0 else text.length + 1
    | some (.notNumber _) => 0
    | some length => (BinaryReal.add precision start length).nearestInt
  let stop := min stop (text.length + 1)
  if start.isFinite then (text.drop (begins - 1).toNat).take (stop - begins).toNat
  else if start.isNegative && length.isNone then text else []

def numberFunction? (name : Name) : Option (BinaryReal → BinaryReal) :=
  match name with
  | "sin" => some (.sine precision)
  | "cos" => some (.cosine precision)
  | "exp" => some (.exponential precision)
  | "log" => some (.logarithm precision)
  | "sqrt" => some (.squareRoot precision)
  | "int" => some (.truncate precision)
  | _ => none

def formatValues (who : String) (args : List Value) : Run (Chars × Run Unit) := do
  match args with
  | [] => return ([], pure ())
  | format :: values =>
      let format ← textOf format
      let numbers := textFormat (← get)
      let (text, fault) := formatted (Value.toText numbers) (format.length + 1) 0 format values
      let about := who.toList ++ "(\"".toList ++ format ++ "\")".toList
      match fault with
      | none => return (text, pure ())
      | some .tooFew =>
          return (text, runError ("not enough arguments passed to ".toList ++ about))
      | some (.improper number) =>
          return (text, runError ("improper conversion(number ".toList ++ natChars number ++
            ") in ".toList ++ about))

def plainFunction (name : Name) (args : List Value) : Run Value := do
  let textAt (place : Nat) : Run Chars := textOf (args.getD place .unset)
  let numberOf (place : Nat) : BinaryReal := (args.getD place .unset).toNumber
  match numberFunction? name with
  | some function => return .number (function (numberOf 0))
  | none =>
      match name with
      | "atan2" => return .number (.angle precision (numberOf 0) (numberOf 1))
      | "index" => do
          let wanted ← textAt 1
          let text ← textAt 0
          return .ofInt (if wanted.isEmpty then 0 else indexOf wanted 1 text : Nat)
      | "substr" => return .text (substring (← textAt 0) (numberOf 1)
          (if args.length < 3 then none else some (numberOf 2)))
      | "tolower" => return .text ((← textAt 0).map Char.toLower)
      | "toupper" => return .text ((← textAt 0).map Char.toUpper)
      | "sprintf" => do
          let (text, check) ← formatValues "sprintf" args
          check
          return .text text
      | "system" => return .ofInt (← runCommand (← textAt 0))
      | "close" => return .ofInt (← closeNamed (← textAt 0))
      | "fflush" => do
          flushAll
          return .ofInt 0
      | "rand" => do
          let known := nextRandom (← get).random
          modify fun state => { state with random := known }
          let drawn := (known.headD 0).toNat / 2
          return .number (.ofFraction precision false drawn randomBound)
      | "srand" => do
          let seed ← match args with
            | seed :: _ => pure seed
            | [] => do
                match ← act (Action.call .time) with
                | .done nanoseconds => pure (.ofInt (nanoseconds / 1000000000 : Nat))
                | _ => pure (.ofInt 0)
          let before := (← get).seed
          modify fun state => { state with
            seed := seed, random := randomFrom (unsignedValue seed.toNumber) }
          return before
      | _ => return .unset

def matchIn (text : Chars) (regex : Regex) : Run Value := do
  let (start, length) : Int × Int := match Regex.find? mode regex text 0 with
    | some found => (found.start + 1, found.stop - found.start)
    | none => (0, -1)
  setPlain "RSTART" (.ofInt start)
  setPlain "RLENGTH" (.ofInt length)
  return .ofInt start

def handOver (name : Name) : Run Slot := do
  if name = "NF" then return .value (← variableValue name)
  else
    let state ← get
    match slotOf state name with
    | .unset =>
        let id := state.tables.size
        set { state with tables := state.tables.push .empty }
        setSlot name (.pending id)
        return .pending id
    | slot => return slot

def keepRecord (target : Option Address) (record : Chars) : Run Unit :=
  match target with
  | some address => store address (.input record)
  | none => setWhole (.input record)

def printedText (value : Value) : Run Chars := do
  match value with
  | .number number => return numberText (← plainText "OFMT") number
  | _ => textOf value

/-! Expressions and statements -/

mutual

def eval : Nat → Expr → Run Value
  | 0, _ => runError "function call nesting too deep".toList
  | fuel + 1, expr => do
      match expr with
      | .number value => return .number value
      | .text text => return .text text
      | .regex regex => return .ofBool (isFound regex (← textOf (← wholeRecord)))
      | .place place => load (← resolve fuel place)
      | .grouped inside => eval fuel inside
      | .assign place none value =>
          let address ← resolve fuel place
          let value ← eval fuel value
          store address value
          return value
      | .assign place (some operation) value =>
          let address ← resolve fuel place
          let value := (← eval fuel value).toNumber
          let result := Value.number (operate operation (← load address).toNumber value)
          store address result
          return result
      | .step place up gives =>
          let address ← resolve fuel place
          let before := (← load address).toNumber
          let after := operate (if up then .add else .subtract) before .one
          store address (.number after)
          return .number (if gives then after else before)
      | .plus inside => return .number (← eval fuel inside).toNumber
      | .minus inside => return .number (← eval fuel inside).toNumber.negated
      | .not inside => return .ofBool !(← eval fuel inside).isTrue
      | .operate operation first second =>
          let a ← eval fuel first
          let b ← eval fuel second
          return .number (operate operation a.toNumber b.toNumber)
      | .relate relation first second =>
          let a ← eval fuel first
          let b ← eval fuel second
          return .ofBool (Value.relates (textFormat (← get)) relation a b)
      | .concat first second =>
          let a ← textOf (← eval fuel first)
          let b ← textOf (← eval fuel second)
          return .text (a ++ b)
      | .both first second =>
          if (← eval fuel first).isTrue then return .ofBool (← eval fuel second).isTrue
          else return .ofBool false
      | .either first second =>
          if (← eval fuel first).isTrue then return .ofBool true
          else return .ofBool (← eval fuel second).isTrue
      | .choose condition yes no =>
          if (← eval fuel condition).isTrue then eval fuel yes else eval fuel no
      | .fits negated text pattern =>
          let text ← textOf (← eval fuel text)
          let regex ← regexFor fuel pattern
          return .ofBool (isFound regex text != negated)
      | .within key array =>
          let key ← keyOf fuel key
          return .ofBool ((← tableAt (← tableOf array)).find? key).isSome
      | .call function args => call fuel function args
      | .builtin name args => builtin fuel name args
      | .readMain target =>
          let target ← resolve? fuel target
          match ← nextRecord blockLimit with
          | some record =>
              keepRecord target record
              return .ofInt 1
          | none => return .ofInt 0
      | .readFile file target =>
          let name ← textOf (← eval fuel file)
          readNamed fuel name false target
      | .readCommand command target =>
          let name ← textOf (← eval fuel command)
          readNamed fuel name true target

def readNamed : Nat → Chars → Bool → Option Place → Run Value
  | 0, _, _, _ => runError "function call nesting too deep".toList
  | fuel + 1, name, isCommand, target => do
      let target ← resolve? fuel target
      let (record, result) ← namedRecord name isCommand
      match record with
      | some record => keepRecord target record
      | none => pure ()
      return .ofInt result

def resolve? : Nat → Option Place → Run (Option Address)
  | 0, _ => runError "function call nesting too deep".toList
  | fuel + 1, target => do
      match target with
      | some place => return some (← resolve fuel place)
      | none => return none

def resolve : Nat → Place → Run Address
  | 0, _ => runError "function call nesting too deep".toList
  | fuel + 1, place => do
      match place with
      | .named name => return .named name
      | .element array key =>
          let key ← keyOf fuel key
          return .element (← tableOf array) key
      | .field number => return .field (← fieldIndex (← eval fuel number))

def evalAll : Nat → List Expr → Run (List Value)
  | 0, _ => runError "function call nesting too deep".toList
  | fuel + 1, exprs => do
      match exprs with
      | [] => return []
      | expr :: rest =>
          let value ← eval fuel expr
          return value :: (← evalAll fuel rest)

def keyOf : Nat → List Expr → Run Chars
  | 0, _ => runError "function call nesting too deep".toList
  | fuel + 1, exprs => do
      let values ← evalAll fuel exprs
      let texts ← values.mapM textOf
      return join (← plainText "SUBSEP") texts

def regexFor : Nat → Expr → Run Regex
  | 0, _ => runError "function call nesting too deep".toList
  | fuel + 1, expr => do
      match expr with
      | .regex regex => return regex
      | _ =>
          let text ← textOf (← eval fuel expr)
          orFault text (regexOf text)

def builtin : Nat → Name → List Expr → Run Value
  | 0, _, _ => runError "function call nesting too deep".toList
  | fuel + 1, name, args => do
      match name, args with
      | "length", [] => return .ofInt (← textOf (← wholeRecord)).length
      | "length", [.place (.named array)] =>
          match slotOf (← get) array with
          | .table id => return .ofInt (← tableAt id).size
          | .pending id => return .ofInt (← tableAt id).size
          | _ => return .ofInt (← textOf (← variableValue array)).length
      | "length", first :: _ => return .ofInt (← textOf (← eval fuel first)).length
      | "split", text :: .place (.named array) :: more =>
          let text ← textOf (← eval fuel text)
          let separator ← match more with
            | .regex regex :: _ => pure (Separator.fits regex)
            | other :: _ => do
                let written ← textOf (← eval fuel other)
                orFault written (separatorOf written)
            | [] => do
                let written ← plainText "FS"
                orFault written (separatorOf written)
          let parts := split separator false text
          setTable (← tableOf array) (.ofTexts parts)
          return .ofInt parts.length
      | "match", text :: pattern :: _ =>
          let text ← textOf (← eval fuel text)
          matchIn text (← regexFor fuel pattern)
      | "sub", pattern :: put :: more => substitute fuel false pattern put more.head?
      | "gsub", pattern :: put :: more => substitute fuel true pattern put more.head?
      | _, args => plainFunction name (← evalAll fuel args)

def substitute : Nat → Bool → Expr → Expr → Option Expr → Run Value
  | 0, _, _, _, _ => runError "function call nesting too deep".toList
  | fuel + 1, all, pattern, put, target => do
      let regex ← regexFor fuel pattern
      let put ← textOf (← eval fuel put)
      let address ← match target with
        | none => pure (some (Address.field 0))
        | some (.place place) => do pure (some (← resolve fuel place))
        | some _ => pure none
      let text ← match address, target with
        | some address, _ => do textOf (← load address)
        | none, some expr => do textOf (← eval fuel expr)
        | none, none => pure []
      let (result, count) := replaced regex put all text
      match address with
      | some address => if 0 < count then store address (.text result)
      | none => pure ()
      return .ofInt count

def call : Nat → Name → List Expr → Run Value
  | 0, _, _ => runError "function call nesting too deep".toList
  | fuel + 1, name, args => do
      pause
      match (← get).functions.find? (·.name = name) with
      | none => return .unset
      | some function =>
          let slots ← slotsFor fuel args
          let before := (← get).locals
          let locals := function.params.zipIdx.map fun (param, place) =>
            (param, slots.getD place .unset)
          modify fun state => { state with locals := locals }
          let left ← attempt (execAll fuel function.body)
          modify fun state => { state with locals := before }
          match left with
          | none => return .unset
          | some (.giveBack value) => return value
          | some other => throw other

def slotsFor : Nat → List Expr → Run (List Slot)
  | 0, _ => runError "function call nesting too deep".toList
  | fuel + 1, args => do
      match args with
      | [] => return []
      | .place (.named name) :: rest =>
          let slot ← handOver name
          return slot :: (← slotsFor fuel rest)
      | expr :: rest =>
          let value ← eval fuel expr
          return .value value :: (← slotsFor fuel rest)

def sinkOf : Nat → Option (SinkKind × Expr) → Run (Option (SinkKind × Chars))
  | 0, _ => runError "function call nesting too deep".toList
  | fuel + 1, sink => do
      match sink with
      | none => return none
      | some (kind, expr) => return some (kind, ← textOf (← eval fuel expr))

def execAll : Nat → List Statement → Run Unit
  | 0, _ => runError "function call nesting too deep".toList
  | fuel + 1, statements => do
      match statements with
      | [] => pure ()
      | first :: rest =>
          exec fuel first
          execAll fuel rest

def exec : Nat → Statement → Run Unit
  | 0, _ => runError "function call nesting too deep".toList
  | fuel + 1, statement => do
      match statement with
      | .simple expr =>
          let _ ← eval fuel expr
      | .print args sink =>
          let text ← match args with
            | [] => do textOf (← wholeRecord)
            | args => do
                let values ← evalAll fuel args
                let texts ← values.mapM printedText
                pure (join (← plainText "OFS") texts)
          let sink ← sinkOf fuel sink
          emit sink (text ++ (← plainText "ORS"))
      | .printf args sink =>
          let values ← evalAll fuel args
          let sink ← sinkOf fuel sink
          let (text, check) ← formatValues "printf" values
          emit sink text
          check
      | .block body => execAll fuel body
      | .branch condition yes no =>
          if (← eval fuel condition).isTrue then exec fuel yes
          else
            match no with
            | some no => exec fuel no
            | none => pure ()
      | .whileDo condition body => loop fuel (some condition) none body
      | .doWhile body condition =>
          match ← attempt (exec fuel body) with
          | some .leave => pure ()
          | none | some .again => loop fuel (some condition) none body
          | some other => throw other
      | .forDo first condition step body =>
          match first with
          | some first =>
              let _ ← eval fuel first
          | none => pure ()
          loop fuel condition step body
      | .forEach name array body =>
          each fuel name (← tableAt (← tableOf array)).keys body
      | .next => throw .next
      | .nextFile => throw .nextFile
      | .exit code =>
          match code with
          | some code =>
              let code := wholeValue (← eval fuel code).toNumber
              modify fun state => { state with code := (code % 256).toNat }
          | none => pure ()
          throw .exit
      | .giveBack value =>
          match value with
          | some value => throw (.giveBack (← eval fuel value))
          | none => throw (.giveBack .unset)
      | .leave => throw .leave
      | .again => throw .again
      | .delete array key =>
          let id ← tableOf array
          match key with
          | none => setTable id .empty
          | some key =>
              let key ← keyOf fuel key
              setTable id ((← tableAt id).erase key)

def loop : Nat → Option Expr → Option Expr → Statement → Run Unit
  | 0, _, _, _ => runError "function call nesting too deep".toList
  | fuel + 1, condition, step, body => do
      pause
      let goesOn ← match condition with
        | some condition => do pure (← eval fuel condition).isTrue
        | none => pure true
      if goesOn then
        let left ← attempt (exec fuel body)
        match left with
        | some .leave => pure ()
        | none | some .again =>
            match step with
            | some step =>
                let _ ← eval fuel step
            | none => pure ()
            loop fuel condition step body
        | some other => throw other

def each : Nat → Name → List Chars → Statement → Run Unit
  | 0, _, _, _ => runError "function call nesting too deep".toList
  | fuel + 1, name, keys, body => do
      match keys with
      | [] => pure ()
      | key :: rest =>
          pause
          setVariable name (.text key)
          match ← attempt (exec fuel body) with
          | some .leave => pure ()
          | none | some .again => each fuel name rest body
          | some other => throw other

end

/-! Scripts -/

def patience : Nat := 1000000000

def applies (place : Nat) (pattern : Pattern) : Run Bool := do
  match pattern with
  | .atStart | .atEnd => return false
  | .always => return true
  | .when condition => return (← eval patience condition).isTrue
  | .between first last =>
      let isOpen := (← get).ranges.contains place
      let starts ← if isOpen then pure true else do pure (← eval patience first).isTrue
      if starts then
        let stops := (← eval patience last).isTrue
        modify fun state => { state with
          ranges := if stops then state.ranges.filter (· ≠ place)
            else if isOpen then state.ranges else place :: state.ranges }
        return true
      else return false

def runRules : Nat → List Rule → Run Unit
  | _, [] => pure ()
  | place, rule :: rest => do
      if ← applies place rule.pattern then
        execAll patience (rule.body.getD [.print [] none])
      runRules (place + 1) rest

/-- Goes through all records. The answer tells whether the script asks to end. -/
def runRecords (rules : List Rule) : Nat → Run Bool
  | 0 => return false
  | fuel + 1 => do
      match ← nextRecord blockLimit with
      | none => return false
      | some record =>
          setWhole (.input record)
          match ← attempt (runRules 0 rules) with
          | some .exit => return true
          | some .nextFile =>
              leaveFile
              runRecords rules fuel
          | _ => runRecords rules fuel

/-- Does what the rules of a kind ask for. The answer tells whether the script asks to end. -/
def runSpecial (rules : List Rule) (isWanted : Pattern → Bool) : Run Bool := do
  let wanted := rules.filter fun rule => isWanted rule.pattern
  match ← attempt (execAll patience (wanted.map fun rule => .block (rule.body.getD []))) with
  | some .exit => return true
  | _ => return false

def Pattern.isStart : Pattern → Bool
  | .atStart => true
  | _ => false

def Pattern.isEnd : Pattern → Bool
  | .atEnd => true
  | _ => false

def runScript (script : Script) : Run Unit := do
  let stopped ← runSpecial script.rules Pattern.isStart
  let reads := script.rules.any fun rule => !rule.pattern.isStart
  if !stopped && reads then
    let _ ← runRecords script.rules patience
  let _ ← runSpecial script.rules Pattern.isEnd
  finish (← get).code

end BatchLaunch.Tools.Awk
