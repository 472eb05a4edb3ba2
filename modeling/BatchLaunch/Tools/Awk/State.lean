import BatchLaunch.Tools.Awk.Fields
import BatchLaunch.Tools.Awk.Token
import BatchLaunch.Tools.Awk.Value
import BatchLaunch.Tools.Starting

/-!
What a running script knows: its variables, the record at hand, and what it reads and writes. Arrays
lead from texts to values, and are gone through in the order of a hash of their keys.
-/
namespace BatchLaunch.Tools.Awk

structure Table where
  slots : Array (List (Chars × Value))
  size : Nat

namespace Table

def hash (key : Chars) : UInt32 :=
  key.foldl (fun sum c => (sum ^^^ UInt32.ofNat c.toNat) * 16777619) 2166136261

def firstSlots : Nat := 64

def fullness : Nat := 12

def empty : Table := ⟨Array.replicate firstSlots [], 0⟩

def slot (table : Table) (key : Chars) : Nat := (hash key).toNat % table.slots.size

def find? (table : Table) (key : Chars) : Option Value :=
  (table.slots.getD (table.slot key) []).lookup key

def entries (table : Table) : List (Chars × Value) := table.slots.toList.flatten

def push (table : Table) (key : Chars) (value : Value) : Table :=
  let place := table.slot key
  ⟨table.slots.set! place ((key, value) :: table.slots.getD place []), table.size + 1⟩

def doubled (table : Table) : Table :=
  table.entries.foldr (fun (key, value) wide => wide.push key value)
    ⟨Array.replicate (2 * table.slots.size) [], 0⟩

def insert (table : Table) (key : Chars) (value : Value) : Table :=
  let place := table.slot key
  let entries := table.slots.getD place []
  if entries.any (·.1 = key) then
    let changed := entries.map fun entry => if entry.1 = key then (key, value) else entry
    { table with slots := table.slots.set! place changed }
  else
    let wider := table.push key value
    if fullness * wider.slots.size < wider.size then wider.doubled else wider

def erase (table : Table) (key : Chars) : Table :=
  let place := table.slot key
  let entries := table.slots.getD place []
  let left := entries.filter (·.1 ≠ key)
  ⟨table.slots.set! place left, table.size - (entries.length - left.length)⟩

def keys (table : Table) : List Chars := table.entries.map (·.1)

def ofList (entries : List (Chars × Value)) : Table :=
  entries.foldl (fun table (key, value) => table.insert key value) empty

def ofTexts (texts : List Chars) : Table :=
  ofList (texts.zipIdx.map fun (text, place) => (natChars (place + 1), .input text))

end Table

open Host (Action Call Reply Errno Descriptor Environment Pid)
open Text (BinaryReal)

inductive Slot where
  | unset
  | value (value : Value)
  | table (id : Nat)
  | pending (id : Nat)

structure Source where
  name : Chars
  descriptor : Descriptor
  buffer : Chars
  atEnd : Bool
  child : Option Pid

structure Sink where
  name : Chars
  descriptor : Descriptor
  /-- What is to be written, in pieces, the last first, and how much it is. -/
  buffer : List Chars
  size : Nat
  child : Option Pid

structure State where
  name : Chars
  environment : Environment
  functions : List Function
  globals : List (Name × Slot)
  locals : List (Name × Slot)
  tables : Array Table
  whole : Value
  isStale : Bool
  fields : Array Value
  isCut : Bool
  main : Option Source
  operand : Nat
  hasFile : Bool
  sources : List Source
  /-- The ones that were used last come first. -/
  sinks : List Sink
  ranges : List Nat
  seed : Value
  /-- The last numbers of the random sequence, the latest first. -/
  random : List UInt32
  code : Nat

inductive Leave where
  | next
  | nextFile
  | exit
  | giveBack (value : Value)
  | leave
  | again

abbrev Run := ExceptT Leave (StateT State Action)

def act {α : Type} (action : Action α) : Run α := fun state => do
  let value ← action
  pure (.ok value, state)

/-! Ends and faults -/

def Sink.flush (sink : Sink) : Action Sink := do
  if sink.size = 0 then pure sink
  else
    let _ ← Action.write sink.descriptor (Text.octetsOf sink.buffer.reverse.flatten)
    pure { sink with buffer := [], size := 0 }

def statusNumber : Status → Int
  | .exited code => code
  | .signalled signal => 256 + signal

def Sink.close (sink : Sink) : Action Int := do
  let _ ← sink.flush
  let _ ← Action.call (.close sink.descriptor)
  match sink.child with
  | none => pure 0
  | some child =>
      let status ← waitOut child 100000
      pure (status.elim (-1) statusNumber)

def standardOutput : Chars := "/dev/stdout".toList

def closeSinks : List Sink → Action Unit
  | [] => pure ()
  | sink :: rest => do
      let _ ← if sink.name = standardOutput then do
          let _ ← sink.flush
          pure 0
        else sink.close
      closeSinks rest

/-- Ends the program after everything is written. Commands are waited for before the rest. -/
def finish {α : Type} (code : Nat) : Run α := fun state => do
  closeSinks state.sinks
  Action.exit code

def fatal {α : Type} (text : Chars) : Run α := do
  act (complain (← get).name text)
  finish 2

/-! Variables -/

def globalSlot (state : State) (name : Name) : Slot := (state.globals.lookup name).getD .unset

def slotOf (state : State) (name : Name) : Slot :=
  (state.locals.lookup name).getD (globalSlot state name)

def withSlot (slots : List (Name × Slot)) (name : Name) (slot : Slot) : List (Name × Slot) :=
  if slots.any (·.1 = name) then
    slots.map fun entry => if entry.1 = name then (name, slot) else entry
  else (name, slot) :: slots

def setSlot (name : Name) (slot : Slot) : Run Unit := modify fun state =>
  if state.locals.any (·.1 = name) then { state with locals := withSlot state.locals name slot }
  else { state with globals := withSlot state.globals name slot }

def plainValue (state : State) (name : Name) : Value :=
  match globalSlot state name with
  | .value value => value
  | _ => .unset

def setPlain (name : Name) (value : Value) : Run Unit := modify fun state =>
  { state with globals := withSlot state.globals name (.value value) }

def textFormat (state : State) : Chars := (plainValue state "CONVFMT").toText "%.6g".toList

def textOf (value : Value) : Run Chars := do
  match value with
  | .number _ => return value.toText (textFormat (← get))
  | _ => return value.toText []

def plainText (name : Name) : Run Chars := do textOf (plainValue (← get) name)

def runError {α : Type} (text : Chars) : Run α := do
  let state ← get
  let shown (name : Name) : Chars := (plainValue state name).toText "%.6g".toList
  fatal ("run time error: ".toList ++ text ++ "\n\tFILENAME=\"".toList ++ shown "FILENAME" ++
    "\" FNR=".toList ++ shown "FNR" ++ " NR=".toList ++ shown "NR")

def orFault {α : Type} (text : Chars) (found : Except Fault α) : Run α :=
  match found with
  | .ok value => pure value
  | .error fault => runError ("regular expression compile failed (".toList ++ fault.toList ++
      ")\n".toList ++ text)

/-! Arrays -/

def tableOf (name : Name) : Run Nat := do
  let state ← get
  match slotOf state name with
  | .table id | .pending id => return id
  | .unset =>
      set { state with tables := state.tables.push .empty }
      setSlot name (.table state.tables.size)
      return state.tables.size
  | .value _ => runError ("illegal reference to array ".toList ++ name.toList)

def tableAt (id : Nat) : Run Table := do return ((← get).tables.getD id .empty)

def setTable (id : Nat) (table : Table) : Run Unit := modify fun state =>
  { state with tables := state.tables.set! id table }

/-! Fields -/

def cut : Run Unit := do
  let state ← get
  if !state.isCut then
    let separator ← plainText "FS"
    let ends ← plainText "RS"
    let whole ← textOf state.whole
    let separator ← orFault separator (separatorOf separator)
    modify fun state => { state with
      fields := ((split separator ends.isEmpty whole).map Value.input).toArray, isCut := true }

def wholeRecord : Run Value := do
  let state ← get
  if !state.isStale then return state.whole
  else
    let between ← plainText "OFS"
    let format := textFormat state
    let whole := Value.input (join between (state.fields.toList.map (Value.toText format)))
    modify fun state => { state with whole := whole, isStale := false }
    return whole

def setWhole (value : Value) : Run Unit := modify fun state =>
  { state with whole := value, isStale := false, fields := #[], isCut := false }

def fieldIndex (value : Value) : Run Nat := do
  let n := wholeValue value.toNumber
  if n < 0 then runError ("negative field index $".toList ++ intChars n) else return n.toNat

def field (index : Nat) : Run Value := do
  if index = 0 then wholeRecord
  else
    cut
    return (← get).fields.getD (index - 1) .unset

def resized (fields : Array Value) (count : Nat) : Array Value :=
  fields.take count ++ Array.replicate (count - fields.size) (Value.input [])

def fieldLimit : Nat := 1000000

def setField (index : Nat) (value : Value) : Run Unit := do
  if index = 0 then setWhole value
  else if fieldLimit < index then
    runError ("maximum number of fields exceeded $".toList ++ natChars index)
  else
    cut
    modify fun state => { state with
      fields := (resized state.fields (max index state.fields.size)).set! (index - 1) value
      isStale := true }

def variableValue (name : Name) : Run Value := do
  if name = "NF" then
    cut
    return .ofInt (← get).fields.size
  else
    match slotOf (← get) name with
    | .value value => return value
    | .table _ => runError ("illegal reference to array ".toList ++ name.toList)
    | _ => return .unset

def setVariable (name : Name) (value : Value) : Run Unit := do
  if name = "NF" then
    let count := wholeValue value.toNumber
    if count < 0 then runError "negative value assigned to NF".toList
    else
      cut
      modify fun state => { state with
        fields := resized state.fields (min fieldLimit count.toNat), isStale := true }
  else
    if name = "FS" || name = "RS" then cut
    setSlot name (.value value)

def assigned? (word : Chars) : Option (Name × Value) :=
  match word.dropWhile isNamePart with
  | '=' :: value =>
      let name := word.takeWhile isNamePart
      if name.head?.any isNameStart then
        some (String.ofList name, .input (resolved (value.length + 1) value))
      else none
  | _ => none

end BatchLaunch.Tools.Awk
