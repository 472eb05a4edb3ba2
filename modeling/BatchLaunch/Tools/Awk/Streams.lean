import BatchLaunch.Tools.Awk.State

/-!
What scripts read and write: operands, files, and commands at the other end of a pipe.
-/
namespace BatchLaunch.Tools.Awk

open Host (Action Call Reply Errno Descriptor Pid)
open Text (BinaryReal)

/-! Reading -/

def blockSize : Nat := 4096

def Source.fill (all : Bool) : Nat → Source → Action (Except Errno Source)
  | 0, source => pure (.ok source)
  | fuel + 1, source => do
      match ← Action.call (.read source.descriptor blockSize) with
      | .octets [] => pure (.ok { source with atEnd := true })
      | .octets octets =>
          let more := { source with buffer := source.buffer ++ Text.charsOf octets }
          if all then Source.fill all fuel more else pure (.ok more)
      | .refused errno => pure (.error errno)
      | _ => pure (.ok { source with atEnd := true })

def Source.ready (ends : RecordEnd) : Nat → Source → Action (Except Errno Source)
  | 0, source => pure (.ok source)
  | fuel + 1, source => do
      if source.atEnd then pure (.ok source)
      else
        match ends with
        | .char c =>
            if source.buffer.contains c then pure (.ok source)
            else
              match ← Source.fill false 1 source with
              | .ok more => Source.ready ends fuel more
              | .error errno => pure (.error errno)
        | _ => Source.fill true blockLimit source

def Source.next (source : Source) : Run (Option Chars × Source) := do
  let text ← plainText "RS"
  let ends ← orFault text (recordEndOf text)
  match ← act (Source.ready ends blockLimit source) with
  | .error errno => fatal ("read error (".toList ++ errno.text.toList ++ [')'])
  | .ok source =>
      match firstRecord ends source.buffer with
      | some (record, rest) => return (some record, { source with buffer := rest })
      | none => return (none, source)

def isInputName (name : Chars) : Bool := name = ['-'] || name = "/dev/stdin".toList

def openSource (name : Chars) : Run (Except Errno Source) := do
  if isInputName name then return .ok ⟨name, 0, [], false, none⟩
  else
    match ← act (openInput name) with
    | .ok descriptor => return .ok ⟨name, ← act (withhold descriptor), [], false, none⟩
    | .error errno => return .error errno

def closeSource (source : Source) : Action Int := do
  if source.descriptor ≠ 0 then
    let _ ← Action.call (.close source.descriptor)
  match source.child with
  | none => pure 0
  | some child =>
      let status ← waitOut child 100000
      pure (status.elim (-1) statusNumber)

def isAssignment (word : Chars) : Bool := (assigned? word).isSome

def operandAt (place : Nat) : Run (Option Chars) := do
  let count := wholeValue (plainValue (← get) "ARGC").toNumber
  if count ≤ place then return none
  else
    let table ← tableAt (← tableOf "ARGV")
    return some (← textOf ((table.find? (natChars place)).getD (.text [])))

def nextFile : Nat → Run Bool
  | 0 => return false
  | fuel + 1 => do
      let state ← get
      match ← operandAt state.operand with
      | none =>
          if state.hasFile then return false
          else
            set { state with hasFile := true, main := some ⟨['-'], 0, [], false, none⟩ }
            return true
      | some word =>
          set { state with operand := state.operand + 1 }
          if word.isEmpty then nextFile fuel
          else
            match assigned? word with
            | some (name, value) =>
                setVariable name value
                nextFile fuel
            | none =>
                match ← openSource word with
                | .ok source =>
                    modify fun state => { state with main := some source, hasFile := true }
                    setPlain "FILENAME" (.text word)
                    setPlain "FNR" (.ofInt 0)
                    return true
                | .error errno =>
                    fatal ("cannot open ".toList ++ word ++ " (".toList ++ errno.text.toList ++ [')'])

def leaveFile : Run Unit := do
  match (← get).main with
  | some source =>
      let _ ← act (closeSource source)
      modify fun state => { state with main := none }
  | none => pure ()

def nextRecord : Nat → Run (Option Chars)
  | 0 => return none
  | fuel + 1 => do
      match (← get).main with
      | some source =>
          let (record, source) ← source.next
          match record with
          | some record =>
              modify fun state => { state with main := some source }
              let count (name : Name) : Run Unit := do
                let value := (plainValue (← get) name).toNumber
                setPlain name (.number (operate .add value .one))
              count "NR"
              count "FNR"
              return some record
          | none =>
              leaveFile
              nextRecord fuel
      | none => if ← nextFile blockLimit then nextRecord fuel else return none

/-! Writing -/

def gathered : Nat := 4096

def flushAll : Run Unit := do
  let sinks ← (← get).sinks.mapM fun sink => act sink.flush
  modify fun state => { state with sinks := sinks }

def becomeShell (state : State) (shown : String) (command : Chars) : Action Nat := do
  let words := [shown.toList, "-c".toList, command]
  let _ ← Action.become (Text.Utf8.encode Host.Image.shellPath) (words.map path) state.environment
  pure 127

def startCommand (command : Chars) (writes : Bool) : Run (Option (Descriptor × Pid)) := do
  flushAll
  let state ← get
  match ← act (Action.call .pipe) with
  | .descriptors readEnd writeEnd =>
      let readEnd ← act (withhold readEnd)
      let writeEnd ← act (withhold writeEnd)
      let (kept, given) := if writes then (readEnd, writeEnd) else (writeEnd, readEnd)
      let child ← act (Action.fork do
        let _ ← Action.call (.duplicate given (if writes then 1 else 0))
        becomeShell state Host.Image.shellPath command)
      let _ ← act (Action.call (.close given))
      return some (kept, child)
  | _ => return none

/-- The sink of a name, which is opened if it is not; it becomes the one that was used last. -/
def useSink (name : Chars) (kind : SinkKind) : Run Unit := do
  let state ← get
  let name := if name = ['-'] && kind = .file then standardOutput else name
  match state.sinks.find? (·.name = name) with
  | some sink => set { state with sinks := sink :: state.sinks.filter (·.name ≠ name) }
  | none =>
      let add (descriptor : Descriptor) (child : Option Pid) : Run Unit := modify fun state =>
        { state with sinks := ⟨name, descriptor, [], 0, child⟩ :: state.sinks }
      if kind = .command then
        match ← startCommand name false with
        | some (descriptor, child) => add descriptor (some child)
        | none => fatal "cannot create pipe".toList
      else if name = "/dev/stderr".toList then add errors none
      else
        match ← act (Action.call (.open (path name) (if kind = .file then .write else .append))) with
        | .done descriptor => add (← act (withhold descriptor)) none
        | .refused errno => fatal ("cannot open \"".toList ++ name ++ "\" for output (".toList ++
            errno.text.toList ++ [')'])
        | _ => fatal "cannot open file".toList

/-- Writes to the sink of a name. What goes to the standard error is written at once. -/
def writeTo (name : Chars) (text : Chars) : Run Unit := do
  let state ← get
  let sinks ← state.sinks.mapM fun sink =>
    if sink.name ≠ name then pure sink
    else
      let more := { sink with buffer := text :: sink.buffer, size := sink.size + text.length }
      if gathered ≤ more.size || sink.descriptor = errors then act more.flush else pure more
  set { state with sinks := sinks }

def emit (sink : Option (SinkKind × Chars)) (text : Chars) : Run Unit := do
  match sink with
  | none => writeTo standardOutput text
  | some (kind, name) =>
      useSink name kind
      writeTo (if name = ['-'] && kind = .file then standardOutput else name) text

def runCommand (command : Chars) : Run Int := do
  flushAll
  let state ← get
  let child ← act (Action.fork (becomeShell state "sh" command))
  let status ← act (waitOut child 100000)
  return status.elim (-1) statusNumber

def closeNamed (name : Chars) : Run Int := do
  let state ← get
  let closedSource ← match state.sources.find? (·.name = name) with
    | some source => do pure (some (← act (closeSource source)))
    | none => pure none
  let closedSink ← match state.sinks.find? (·.name = name) with
    | some sink => do pure (some (← act sink.close))
    | none => pure none
  set { state with
    sources := state.sources.filter (·.name ≠ name), sinks := state.sinks.filter (·.name ≠ name) }
  return (closedSink.or closedSource).getD (-1)

/-- The next record of a named source, which is opened first if it is not yet; the number tells
whether there is one, or that it cannot be opened. -/
def namedRecord (name : Chars) (isCommand : Bool) : Run (Option Chars × Int) := do
  let state ← get
  let found ← match state.sources.find? (·.name = name) with
    | some source => pure (some source)
    | none =>
        if isCommand then do
          let started ← startCommand name true
          pure (started.map fun (descriptor, child) => ⟨name, descriptor, [], false, some child⟩)
        else do
          match ← openSource name with
          | .ok source => pure (some source)
          | .error _ => pure none
  match found with
  | none => return (none, -1)
  | some source =>
      let (record, source) ← source.next
      modify fun state => { state with
        sources := source :: state.sources.filter (·.name ≠ name) }
      return (record, if record.isSome then 1 else 0)

end BatchLaunch.Tools.Awk
