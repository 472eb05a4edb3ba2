import BatchLaunch.Tools.Sed.Script

/-!
Running a script over the lines of files. Lines are read as they are needed, and what is written is
gathered up to a size.
-/
namespace BatchLaunch.Tools.Sed

open Host (Action Call Reply Errno Descriptor)
open Text (Regex Found)

/-! Replacing -/

structure Casing where
  all : Option Char
  once : Option Char

def changed : Option Char → Chars → Chars
  | some 'U', text | some 'u', text => text.map Char.toUpper
  | some 'L', text | some 'l', text => text.map Char.toLower
  | _, text => text

def Casing.apply (casing : Casing) (text : Chars) : Chars × Casing :=
  match text with
  | [] => ([], casing)
  | c :: rest =>
      (changed (casing.once.or casing.all) [c] ++ changed casing.all rest,
        { casing with once := none })

def replacementFor (found : Found) (text : Chars) (pieces : List Piece) : Chars :=
  (pieces.foldl (fun (done, casing) piece =>
    match piece with
    | .text part =>
        let (part, casing) := Casing.apply casing part
        (part.reverse ++ done, casing)
    | .group number =>
        let (part, casing) := Casing.apply casing (found.group text number)
        (part.reverse ++ done, casing)
    | .case letter =>
        (done, match letter with
          | 'E' => ⟨none, none⟩
          | 'U' | 'L' => { casing with all := some letter }
          | _ => { casing with once := some letter }))
    (([], ⟨none, none⟩) : Chars × Casing)).1.reverse

/-- Replaces matches from a place on. `count` is how many were found before, and `last` where the
last one of them ended. The text comes in reverse, with whether anything was replaced. -/
def replaceFrom (matcher : Matcher) (substitution : Substitution) (text : Chars) :
    Nat → Nat → Nat → Option Nat → Chars → Option Chars → Bool → Chars × Bool
  | 0, _, _, _, _, done, any => (done.getD [], any)
  | fuel + 1, start, count, last, rest, done, any =>
      let done := done.getD []
      match Regex.find? matcher.mode matcher.regex text start with
      | none => (rest.reverse ++ done, any)
      | some found =>
          let before := rest.take (found.start - start)
          let behind := rest.drop (found.start - start)
          let length := found.stop - found.start
          let isEmpty := length = 0
          let step := behind.take 1
          if isEmpty && last = some found.start then
            if behind.isEmpty then (before.reverse ++ done, any)
            else replaceFrom matcher substitution text fuel (found.start + 1) count none
              (behind.drop 1) (some (step ++ before.reverse ++ done)) any
          else
            let replaces := substitution.number ≤ count + 1
            let put := if replaces then replacementFor found text substitution.pieces
              else behind.take length
            let done := put.reverse ++ before.reverse ++ done
            let after := behind.drop length
            if replaces && !substitution.all then (after.reverse ++ done, true)
            else if isEmpty then
              if behind.isEmpty then (done, any || replaces)
              else replaceFrom matcher substitution text fuel (found.start + 1) (count + 1) none
                (behind.drop 1) (some (step ++ done)) (any || replaces)
            else replaceFrom matcher substitution text fuel found.stop (count + 1)
              (some found.stop) after (some done) (any || replaces)

def replaced? (matcher : Matcher) (substitution : Substitution) (text : Chars) : Option Chars :=
  let (found, any) := replaceFrom matcher substitution text (2 * text.length + 3) 0 0 none text none
    false
  if any then some found.reverse else none

/-! A line in visible characters -/

def visibleParts (c : Char) : Chars :=
  match c with
  | '\\' => "\\\\".toList
  | '\x07' => "\\a".toList
  | '\x08' => "\\b".toList
  | '\x0c' => "\\f".toList
  | '\n' => "\\n".toList
  | '\r' => "\\r".toList
  | '\t' => "\\t".toList
  | '\x0b' => "\\v".toList
  | c => if c.toNat < 32 || 126 < c.toNat then '\\' :: octalDigits c else [c]

def visibleText (width : Nat) (text : Chars) : Chars :=
  let (done, _) := text.foldl (fun (done, used) c =>
    let part := visibleParts c
    if 1 < width && width - 1 < used + part.length then
      (part.reverse ++ '\n' :: '\\' :: done, part.length)
    else (part.reverse ++ done, used + part.length)) (([], 0) : Chars × Nat)
  (('\n' :: '$' :: done)).reverse

/-! Input and output -/

structure Sink where
  file : Chars
  descriptor : Descriptor
  unended : Bool

abbrev LineFiles := List (Chars × Chars)

structure Machine where
  name : Chars
  script : Array Command
  silent : Bool
  delimiter : Char
  width : Nat
  files : List Chars
  current : Option Descriptor
  file : Chars
  buffer : Chars
  /-- What is to be written, in pieces, the last first, and how much it is. -/
  output : List Chars
  outputSize : Nat
  keeps : Bool
  unended : Bool
  sinks : List Sink
  lineFiles : LineFiles
  pattern : Chars
  hold : Chars
  ended : Bool
  line : Nat
  /-- What is written at the end of the cycle, the last first. -/
  queue : List (Chars ⊕ Chars)
  ranges : Array (Option (Option Nat))
  closed : List Nat
  /-- Something was replaced since the last line was read. -/
  changed : Bool
  lastMatcher : Option Matcher
  status : Nat

abbrev Run := StateT Machine Action

def act {α : Type} (action : Action α) : Run α := fun machine => do
  let value ← action
  pure (value, machine)

def gathered : Nat := 4096

def flush : Run Unit := do
  let machine ← get
  if !machine.keeps && 0 < machine.outputSize then
    let _ ← act (put machine.output.reverse.flatten)
    set { machine with output := [], outputSize := 0 }

def emit (text : Chars) : Run Unit := do
  modify fun machine => { machine with
    output := text :: machine.output, outputSize := machine.outputSize + text.length }
  if gathered ≤ (← get).outputSize then flush

def endLine : Run Unit := do
  let machine ← get
  if machine.unended then
    set { machine with unended := false }
    emit [machine.delimiter]

def emitLine (text : Chars) (ended : Bool) : Run Unit := do
  endLine
  emit text
  let machine ← get
  if ended then emit [machine.delimiter] else set { machine with unended := true }

/-- Reads more into the buffer, from this file or those after it. The answer tells whether there is
anything. -/
def fill : Nat → Run Bool
  | 0 => pure false
  | fuel + 1 => do
      let machine ← get
      match machine.current with
      | some descriptor => do
          match ← act (Action.call (.read descriptor 65536)) with
          | .octets [] =>
              if descriptor ≠ 0 then
                let _ ← act (Action.call (.close descriptor))
              if machine.buffer.isEmpty then
                set { machine with current := none }
                fill fuel
              else
                set { machine with current := none }
                pure false
          | .octets octets =>
              set { machine with buffer := machine.buffer ++ Text.charsOf octets }
              pure true
          | .refused errno => do
              flush
              act (complain machine.name ("read error on ".toList ++ machine.file ++ ": ".toList ++
                errno.text.toList))
              act (Action.exit 4)
          | _ => pure false
      | none =>
          if !machine.buffer.isEmpty then pure false
          else
            match machine.files with
            | [] => pure false
            | file :: rest => do
                match ← act (openInput file) with
                | .ok descriptor =>
                    set { machine with
                      files := rest, current := some descriptor, file := file }
                    fill fuel
                | .error errno => do
                    act (complain machine.name
                      ("can't read ".toList ++ file ++ ": ".toList ++ errno.text.toList))
                    set { machine with files := rest, status := 2 }
                    fill fuel

def hasMore : Run Bool := do
  if (← get).buffer.isEmpty then fill blockLimit else pure true

/-- Reads until the buffer holds a whole line, or all that is left of a file. -/
def fillLine : Nat → Run Unit
  | 0 => pure ()
  | fuel + 1 => do
      let machine ← get
      if machine.buffer.contains machine.delimiter then pure ()
      else if machine.current.isNone && !machine.buffer.isEmpty then pure ()
      else if ← fill blockLimit then fillLine fuel
      else pure ()

def emitQueue : Run Unit := do
  let queue := (← get).queue.reverse
  modify fun machine => { machine with queue := [] }
  for entry in queue do
    endLine
    match entry with
    | .inl text => emit text
    | .inr file =>
        match ← act (slurp file) with
        | .ok text => emit text
        | .error _ => pure ()

def readLine (keep : Bool) : Run Bool := do
  emitQueue
  if !(← hasMore) then pure false
  else
    fillLine blockLimit
    modify fun machine =>
      let text := machine.buffer.takeWhile (· ≠ machine.delimiter)
      let behind := machine.buffer.drop text.length
      { machine with
        pattern := if keep then machine.pattern ++ machine.delimiter :: text else text
        ended := !behind.isEmpty
        buffer := behind.drop 1
        line := machine.line + 1
        changed := if keep then machine.changed else false }
    pure true

def writeTo (file text : Chars) (ended : Bool) : Run Unit := do
  if file = "/dev/stdout".toList then emitLine text ended
  else
    let machine ← get
    match machine.sinks.find? (·.file = file) with
    | none => pure ()
    | some sink =>
        let before := if sink.unended then [machine.delimiter] else []
        let behind := if ended then [machine.delimiter] else []
        let _ ← act (Action.write sink.descriptor (Text.octetsOf (before ++ text ++ behind)))
        let mark (other : Sink) : Sink :=
          if other.file = file then { other with unended := !ended } else other
        set { machine with sinks := machine.sinks.map mark }

/-! Addresses -/

def usedMatcher (matcher : Option Matcher) : Run Matcher := do
  let machine ← get
  match matcher.or machine.lastMatcher with
  | some matcher =>
      set { machine with lastMatcher := some matcher }
      pure matcher
  | none => do
      flush
      act (giveUp machine.name
        "-e expression #1, char 0: no previous regular expression".toList 1)

def addressHolds (address : Address) : Run Bool := do
  let machine ← get
  match address with
  | .line number => pure (machine.line = number)
  | .last => do
      let more ← hasMore
      pure !more
  | .every first step =>
      pure (first ≤ machine.line && (machine.line - first) % step = 0)
  | .fits matcher => do
      let matcher ← usedMatcher matcher
      pure (Regex.isMatched matcher.mode matcher.regex machine.pattern)

def setRange (place : Nat) (range : Option (Option Nat)) : Run Unit :=
  modify fun machine => { machine with
    ranges := machine.ranges.set! place range
    closed := if range.isNone then place :: machine.closed else machine.closed }

def openRange (place : Nat) (stop : RangeEnd) : Run Unit := do
  let line := (← get).line
  let upTo (number : Nat) : Run Unit :=
    if line < number then setRange place (some (some number)) else setRange place none
  match stop with
  | .at (.line number) => upTo number
  | .after count => upTo (line + count)
  | .multiple count => upTo ((line + count - 1) / count * count)
  | .at _ => setRange place (some none)

/-- A range starts at this line. One that starts at a line by its number does so later too, if that
line was passed over, but not behind the number of its end. -/
def startsRange (place : Nat) (first : Address) (stop : RangeEnd) : Run Bool := do
  let line := (← get).line
  match first with
  | .line number =>
      if line = number then pure true
      else if line < number || (← get).closed.contains place then pure false
      else
        match stop with
        | .at (.line last) => pure (line ≤ last)
        | _ => pure true
  | _ => addressHolds first

def selects (place : Nat) (command : Command) : Run Bool := do
  match command.first, command.stop with
  | none, _ => pure true
  | some first, none => addressHolds first
  | some first, some stop =>
      let line := (← get).line
      match ((← get).ranges[place]?).join with
      | some (some last) =>
          if last ≤ line then setRange place none
          pure (line ≤ last)
      | some none => do
          match stop with
          | .at address => if ← addressHolds address then setRange place none
          | _ => setRange place none
          pure true
      | none =>
          let began ← startsRange place first stop
          if began then openRange place stop
          pure began

/-! Commands -/

inductive Way where
  | next
  | to (place : Nat)
  | finish (writes : Bool)
  | again
  | quit (code : Nat) (writes : Bool)

def firstLine (delimiter : Char) (text : Chars) : Chars := text.takeWhile (· ≠ delimiter)

def doLetter (c : Char) : Run Way := do
  let machine ← get
  match c with
  | '=' => do
      endLine
      emit (natChars machine.line ++ ['\n'])
      pure .next
  | 'd' => pure (.finish false)
  | 'D' =>
      if machine.pattern.contains machine.delimiter then
        set { machine with
          pattern := (machine.pattern.dropWhile (· ≠ machine.delimiter)).drop 1 }
        pure .again
      else pure (.finish false)
  | 'F' => do
      endLine
      emit (machine.file ++ ['\n'])
      pure .next
  | 'g' => do
      set { machine with pattern := machine.hold }
      pure .next
  | 'G' => do
      set { machine with pattern := machine.pattern ++ machine.delimiter :: machine.hold }
      pure .next
  | 'h' => do
      set { machine with hold := machine.pattern }
      pure .next
  | 'H' => do
      set { machine with hold := machine.hold ++ machine.delimiter :: machine.pattern }
      pure .next
  | 'x' => do
      set { machine with pattern := machine.hold, hold := machine.pattern }
      pure .next
  | 'n' =>
      if !(← hasMore) then pure (.quit 0 true)
      else
        if !machine.silent then emitLine machine.pattern machine.ended
        let _ ← readLine false
        pure .next
  | 'N' =>
      if !(← hasMore) then pure (.quit 0 true)
      else
        let _ ← readLine true
        pure .next
  | 'p' => do
      emitLine machine.pattern machine.ended
      pure .next
  | 'P' => do
      emitLine (firstLine machine.delimiter machine.pattern) true
      pure .next
  | _ => do
      set { machine with pattern := [] }
      pure .next

def nextFrom (file : Chars) : Run (Option Chars) := do
  let text ← match (← get).lineFiles.lookup file with
    | some text => pure text
    | none => do
        match ← act (slurp file) with
        | .ok text => pure text
        | .error _ => pure []
  let line := (fullLines text).headD []
  let rest := text.drop line.length
  modify fun machine => { machine with
    lineFiles := (file, rest) :: machine.lineFiles.filter (·.1 ≠ file) }
  pure (if text.isEmpty then none else some line)

def deed (place : Nat) (command : Command) : Run Way := do
  let machine ← get
  match command.deed with
  | .block _ | .nothing => pure .next
  | .jump target => pure (.to target)
  | .jumpIfChanged target =>
      set { machine with changed := false }
      pure (if machine.changed then .to target else .next)
  | .jumpUnlessChanged target =>
      set { machine with changed := false }
      pure (if machine.changed then .next else .to target)
  | .append text =>
      set { machine with queue := .inl text :: machine.queue }
      pure .next
  | .insert text => do
      endLine
      emit text
      pure .next
  | .change text => do
      let inRange := command.stop.isSome && ((machine.ranges[place]?).join).isSome
      if !inRange then
        endLine
        emit text
      pure (.finish false)
  | .substitute substitution => do
      let matcher ← usedMatcher substitution.matcher
      match replaced? matcher substitution machine.pattern with
      | none => pure .next
      | some text => do
          modify fun machine => { machine with pattern := text, changed := true }
          if substitution.prints then emitLine text machine.ended
          match substitution.target with
          | some file => writeTo file text machine.ended
          | none => pure ()
          pure .next
  | .transliterate pairs =>
      set { machine with pattern := machine.pattern.map fun c => (pairs.lookup c).getD c }
      pure .next
  | .quit code silent => pure (.quit code !silent)
  | .reveal width => do
      endLine
      emit (visibleText (width.getD machine.width) machine.pattern)
      pure .next
  | .readFile file =>
      set { machine with queue := .inr file :: machine.queue }
      pure .next
  | .readLine file => do
      match ← nextFrom file with
      | some line =>
          modify fun machine => { machine with queue := .inl line :: machine.queue }
      | none => pure ()
      pure .next
  | .writeFile file => do
      writeTo file machine.pattern machine.ended
      pure .next
  | .writeFirst file => do
      writeTo file (firstLine machine.delimiter machine.pattern) true
      pure .next
  | .letter c => doLetter c

def cycle : Nat → Nat → Run Way
  | 0, _ => pure (.quit 4 false)
  | fuel + 1, place => do
      match (← get).script[place]? with
      | none => pure (.finish true)
      | some command =>
          let selected ← selects place command
          if selected ≠ command.negated then
            match ← deed place command with
            | .next => cycle fuel (place + 1)
            | .to target => cycle fuel target
            | way => pure way
          else
            match command.deed with
            | .block stop => cycle fuel (stop + 1)
            | _ => cycle fuel (place + 1)

def patience : Nat := 100000000

def closeCycle (writes : Bool) : Run Unit := do
  let machine ← get
  if writes && !machine.silent then emitLine machine.pattern machine.ended
  emitQueue

/-- Goes through all lines. The answer is a status if the script asks to stop. -/
def cycles : Nat → Bool → Run (Option Nat)
  | 0, _ => pure (some 4)
  | fuel + 1, again => do
      let goesOn ← if again then pure true else readLine false
      if !goesOn then pure none
      else
        match ← cycle patience 0 with
        | .again => do
            closeCycle false
            cycles fuel true
        | .quit code writes => do
            closeCycle writes
            pure (some code)
        | .finish writes => do
            closeCycle writes
            cycles fuel false
        | _ => cycles fuel false

def startRanges (script : Array Command) : Array (Option (Option Nat)) :=
  script.map fun command =>
    match command.first, command.stop with
    | some (.line 0), some _ => some none
    | _, _ => none

end BatchLaunch.Tools.Sed
