import BatchLaunch.Tools.Flow

/-!
Programs that go by columns: cutting parts out of lines, pasting lines together, breaking them, and
turning tabs into spaces and back.
-/
namespace BatchLaunch.Tools

open Host (Action)

/-! Parts of lines -/

abbrev PlaceRange := Nat × Option Nat

def rangeWord (fields : Bool) (ofFields ofBytes : String) : Chars :=
  (if fields then ofFields else ofBytes).toList

structure RangeDraft where
  digits : Chars
  hasFirst : Bool
  initial : Option Nat
  hasLast : Bool

def RangeDraft.start : RangeDraft := ⟨[], false, none, false⟩

def RangeDraft.number (draft : RangeDraft) : Nat := (natural? draft.digits).getD 0

def RangeDraft.range (fields : Bool) (draft : RangeDraft) : Except Chars PlaceRange :=
  match draft.initial with
  | none =>
      if draft.number = 0 then .error (rangeWord fields "fields are numbered from 1"
        "byte/character positions are numbered from 1")
      else .ok (draft.number, some draft.number)
  | some initial =>
      if !draft.hasFirst && !draft.hasLast then .error "invalid range with no endpoint: -".toList
      else if !draft.hasLast then .ok (initial, none)
      else if draft.number < initial then .error "invalid decreasing range".toList
      else .ok (initial, some draft.number)

def rangesFrom (fields : Bool) : RangeDraft → Chars → Except Chars (List PlaceRange)
  | draft, [] => (draft.range fields).map ([·])
  | draft, c :: rest =>
      if c = '-' then
        if draft.initial.isSome then
          .error (rangeWord fields "invalid field range" "invalid byte or character range")
        else if draft.hasFirst && draft.number = 0 then
          .error (rangeWord fields "fields are numbered from 1"
            "byte/character positions are numbered from 1")
        else rangesFrom fields { draft with
          digits := [], initial := some (if draft.hasFirst then draft.number else 1) } rest
      else if c = ',' || isBlankChar c then
        match draft.range fields with
        | .error fault => .error fault
        | .ok range => (rangesFrom fields .start rest).map (range :: ·)
      else if c.isDigit then
        let digits := draft.digits ++ [c]
        if largestCount ≤ (natural? digits).getD 0 then
          .error (rangeWord fields "field number " "byte/character offset " ++
            quoted (digits ++ rest.takeWhile Char.isDigit) ++ " is too large".toList)
        else rangesFrom fields { draft with
          digits := digits
          hasFirst := draft.hasFirst || draft.initial.isNone
          hasLast := draft.hasLast || draft.initial.isSome } rest
      else .error (rangeWord fields "invalid field value " "invalid byte/character position " ++
        quoted (c :: rest))

def rangesOf (fields : Bool) (text : Chars) : Except Chars (List PlaceRange) :=
  rangesFrom fields .start text

def inRange (place : Nat) (range : PlaceRange) : Bool :=
  range.1 ≤ place && range.2.all (place ≤ ·)

def chosenRuns {α : Type} (ranges : List PlaceRange) (complement : Bool) (parts : List α) :
    List (List α) :=
  let chosen (place : Nat) : Bool := ranges.any (inRange place) ≠ complement
  let starts (place : Nat) : Bool :=
    if complement then !chosen (place - 1) || place = 1
    else ranges.any (fun range => range.1 = place) &&
      !ranges.any fun range => range.1 < place && range.2.all (place ≤ ·)
  let kept := (parts.zipIdx 1).filter fun entry => chosen entry.2
  (kept.foldl (fun runs (part, place) =>
    match runs with
    | run :: rest => if starts place then [part] :: run :: rest else (part :: run) :: rest
    | [] => [[part]]) []).reverse.map List.reverse

def cut : Tool := withOptions
  { letters := "b:c:d:f:nsz", mixed := true
    words := [("bytes:", "b"), ("characters:", "c"), ("delimiter:", "d"), ("fields:", "f"),
      ("only-delimited", "s"), ("complement", "complement"),
      ("output-delimiter:", "output-delimiter"), ("zero-terminated", "z")] } 1
  fun name asked => do
    let lists := asked.given.filter fun entry => ["b", "c", "f"].contains entry.1
    let refuse {α : Type} (text : String) : Action α := giveUpUse name text.toList 1
    let (key, text) ← match lists with
      | [] => refuse "you must specify a list of bytes, characters, or fields"
      | [single] => pure single
      | _ => refuse "only one list may be specified"
    let fields := key = "f"
    let given := (asked.value? "d")
    if given.any fun text => 1 < text.length then
      refuse "the delimiter must be a single character"
    if !fields && given.isSome then
      refuse "an input delimiter may be specified only when operating on fields"
    if !fields && asked.has "s" then
      refuse ("suppressing non-delimited lines makes sense\n\tonly when operating on fields")
    let ranges ← match rangesOf fields text with
      | .ok ranges => pure ranges
      | .error fault => giveUpUse name fault 1
    let delimiter := given.elim '\t' fun text => text.headD '\x00'
    let between := (asked.value? "output-delimiter").getD (if fields then [delimiter] else [])
    let complement := asked.has "complement"
    let ending := endingOf asked
    let cutLine (line : Chars) : Chars :=
      if fields then
        let parts := Text.partsAt delimiter line
        if parts.length = 1 then (if asked.has "s" then [] else line ++ [ending])
        else join between (chosenRuns ranges complement parts).flatten ++ [ending]
      else join between (chosenRuns ranges complement line) ++ [ending]
    eachPiece name ending (fun text => (recordsAt ending text).flatMap cutLine) (filesOf asked)

/-! Lines side by side -/

def delimitersOf : Chars → Option (List Chars)
  | [] => some []
  | ['\\'] => none
  | '\\' :: c :: rest =>
      (delimitersOf rest).map fun more =>
        (match c with
        | '0' => []
        | 'b' => ['\x08']
        | 'f' => ['\x0c']
        | 'n' => ['\n']
        | 'r' => ['\r']
        | 't' => ['\t']
        | 'v' => ['\x0b']
        | c => [c]) :: more
  | c :: rest => (delimitersOf rest).map ([c] :: ·)

def interleave (delimiters : List Chars) (texts : List Chars) : Chars :=
  let count := delimiters.length
  (texts.zipIdx).flatMap fun (text, place) =>
    (if place = 0 then []
      else (delimiters[(place - 1) % max count 1]?).getD []) ++ text

structure Pasting where
  name : Chars
  files : Array Chars
  delimiters : List Chars
  ending : Char
  columns : List Nat

def Pasting.row (pasting : Pasting) :
    List Nat → Array RecordSource → Action ((Bool × List (Option Chars)) × Array RecordSource)
  | [], sources => pure ((true, []), sources)
  | column :: rest, sources => do
      match sources[column]? with
      | none => pure ((true, []), sources)
      | some records => do
          let (fine, line, records) ← match ← records.next pasting.ending blockLimit with
            | .ok (line, records) => pure (true, line, records)
            | .error errno => do
                complainOfFile pasting.name ((pasting.files[column]?).getD []) errno
                pure (false, none, { records with atEnd := true })
          let ((others, lines), sources) ←
            pasting.row rest (sources.setIfInBounds column records)
          pure ((fine && others, line :: lines), sources)

def Pasting.rows (pasting : Pasting) :
    Nat → Array RecordSource → Flow Bool → Action (Flow Bool)
  | 0, _, flow => pure flow
  | fuel + 1, sources, flow => do
      let ((fine, lines), sources) ← pasting.row pasting.columns sources
      let flow := { flow with state := flow.state && fine }
      if lines.all Option.isNone || flow.refused then pure flow
      else
        let row := interleave pasting.delimiters (lines.map (·.getD [])) ++ [pasting.ending]
        let flow ← { flow with held := flow.held ++ row }.release
        pasting.rows fuel sources flow

def paste : Tool := withOptions
  { letters := "d:sz", mixed := true
    words := [("delimiters:", "d"), ("serial", "s"), ("zero-terminated", "z")] } 1
  fun name asked => do
    let given := ((asked.value? "d").filter (!·.isEmpty)).getD
      (if asked.has "d" then "\\0".toList else ['\t'])
    let some delimiters := delimitersOf given
      | giveUp name ("delimiter list ends with an unescaped backslash: ".toList ++
          given) 1
    let ending := endingOf asked
    let files := filesOf asked
    if asked.has "s" then
      forEach files fun file => do
        match ← openInput file with
        | .error errno => do
            complainOfFile name file errno
            pure false
        | .ok source => do
            let (text, fault) ← match ← Action.readAll source blockLimit with
              | .ok octets => pure (Text.charsOf octets, none)
              | .error errno => pure ([], some errno)
            let _ ← put (interleave delimiters (recordsAt ending text) ++ [ending])
            for errno in fault.toList do
              complainOfFile name file errno
            pure fault.isNone
    else
      let (columns, sources) ← files.foldlM (fun (columns, sources) file => do
        let shared := sources.findIdx? fun (records : RecordSource) => records.source = 0
        match if file = ['-'] then shared else none, ← openInput file with
        | some place, _ => pure (place :: columns, sources)
        | none, .ok source => pure (sources.size :: columns, sources.push ⟨source, [], false⟩)
        | none, .error errno =>
            giveUp name (nameSafe file ++ ": ".toList ++ errno.text.toList) 1)
        (([], #[]) : List Nat × Array RecordSource)
      let names := (columns.reverse.zip files).foldl (fun (names : Array Chars) (column, file) =>
        if column = names.size then names.push file else names) #[]
      let pasting : Pasting := ⟨name, names, delimiters, ending, columns.reverse⟩
      let flow ← pasting.rows blockLimit sources (.start true)
      let flow ← flow.flush
      pure (if flow.state then 0 else 1)

/-! Breaking lines -/

def columnAfter (bytes : Bool) (column : Nat) (c : Char) : Nat :=
  if bytes then column + 1
  else
    match c with
    | '\x08' => column - 1
    | '\r' => 0
    | '\t' => column + 8 - column % 8
    | _ => column + 1

/-- A line so far, its last character first, behind a new character, and the lines that had to be
ended for that. -/
def foldChar (bytes spaces : Bool) (width : Nat) : Nat → Chars → Char → Chars × Chars
  | 0, current, c => (c :: current, [])
  | fuel + 1, current, c =>
      let column := current.reverse.foldl (columnAfter bytes) 0
      if columnAfter bytes column c ≤ width then (c :: current, [])
      else
        let behindBlank := current.takeWhile fun c => !isBlankChar c
        if spaces && behindBlank.length < current.length then
          let ended := (current.drop behindBlank.length).reverse
          let (current, more) := foldChar bytes spaces width fuel behindBlank c
          (current, ended ++ '\n' :: more)
        else if current.isEmpty then ([c], [])
        else
          let (next, more) := foldChar bytes spaces width fuel [] c
          (next, current.reverse ++ '\n' :: more)

def foldText (bytes spaces : Bool) (width : Nat) (text : Chars) : Chars :=
  let (current, done) := text.foldl (fun (current, done) c =>
    if c = '\n' then ([], (current.reverse ++ ['\n']) :: done)
    else
      let (current, ended) := foldChar bytes spaces width (width + 2) current c
      (current, if ended.isEmpty then done else ended :: done)) (([], []) : Chars × List Chars)
  done.reverse.flatten ++ current.reverse

def modernWidth (letter : Char) (words : List Chars) : List Chars :=
  words.map fun word =>
    match word with
    | '-' :: digits => if (natural? digits).isSome then '-' :: letter :: digits else word
    | word => word

def fold : Tool := fun name words =>
  withOptions
    { letters := "bsw:", mixed := true
      words := [("bytes", "b"), ("spaces", "s"), ("width:", "w")] } 1
    (fun name asked => do
      let width ← match asked.value? "w" with
        | some text => amountOf name "" "number of columns" text
        | none => pure 80
      if width = 0 then
        giveUp name ("invalid number of columns: ".toList ++ quoted ['0'] ++
          ": Numerical result out of range".toList) 1
      eachPiece name '\n' (foldText (asked.has "b") (asked.has "s") width) (filesOf asked))
    name (modernWidth 'w' words)

/-! Tabs -/

structure TabStops where
  places : List Nat
  every : Option Nat
  fromLast : Bool

def TabStops.next (stops : TabStops) (column : Nat) : Option Nat :=
  match stops.places.find? (column < ·) with
  | some place => some place
  | none => stops.every.map fun size =>
      let start := if stops.fromLast then stops.places.getLastD 0 else 0
      start + ((column - start) / size + 1) * size

def tabStopsOf (texts : List Chars) : Except Chars TabStops := do
  let words := (texts.flatMap fun text =>
    Text.partsAt ',' (text.map fun c => if isBlankChar c then ',' else c)).filter (!·.isEmpty)
  let stops ← words.foldlM (fun (stops : TabStops) word => do
    let (mark, digits) := match word with
      | '/' :: digits => (some '/', digits)
      | '+' :: digits => (some '+', digits)
      | digits => (none, digits)
    match natural? digits with
    | none => .error ("tab size contains invalid character(s): ".toList ++
        quoted (digits.dropWhile Char.isDigit))
    | some n =>
        if mark.isSome then return { stops with every := some n, fromLast := mark = some '+' }
        else return { stops with places := stops.places ++ [n] }) ⟨[], none, false⟩
  if stops.places.contains 0 then .error "tab size cannot be 0".toList
  else if stops.places.zip (stops.places.drop 1) |>.any fun (a, b) => b ≤ a then
    .error "tab sizes must be ascending".toList
  else
    match stops.places, stops.every with
    | [], none => return ⟨[], some 8, false⟩
    | [single], none => return ⟨[], some single, false⟩
    | _, _ => return stops

def expandTabs (stops : TabStops) (initial : Bool) (state : Nat × Bool) (text : Chars) :
    (Nat × Bool) × Chars :=
  let (state, done) := text.foldl (fun ((column, converts), done) c =>
    if c = '\n' then ((0, true), [c] :: done)
    else if !converts then ((column, converts), [c] :: done)
    else
      let goes := !initial || isBlankChar c
      if c = '\t' then
        let next := (stops.next column).getD (column + 1)
        ((next, goes), List.replicate (next - column) ' ' :: done)
      else
        ((if c = '\x08' then column - 1 else column + 1, goes), [c] :: done)) (state, [])
  (state, done.reverse.flatten)

structure TabPlace where
  column : Nat
  pending : Chars
  single : Bool
  afterBlank : Bool
  converts : Bool

def TabPlace.start : TabPlace := ⟨0, [], false, true, true⟩

def TabPlace.flushed (place : TabPlace) : Chars :=
  if 1 < place.pending.length && place.single then '\t' :: place.pending.drop 1 else place.pending

def TabPlace.step (stops : TabStops) (whole : Bool) (place : TabPlace) (c : Char) :
    TabPlace × Chars :=
  if c = '\n' then (.start, place.flushed ++ [c])
  else if !place.converts then (place, [c])
  else
    let written (place : TabPlace) (c : Char) (blank : Bool) : TabPlace × Chars :=
      (⟨place.column, [], false, blank, whole || blank⟩, place.flushed ++ [c])
    if !isBlankChar c then
      written { place with column := if c = '\x08' then place.column - 1 else place.column + 1 } c
        false
    else
      match stops.next place.column with
      | none => ({ place with converts := false, pending := [], single := false },
          place.flushed ++ [c])
      | some next =>
          let kept : Chars := if place.single then ['\t'] else []
          if c = '\t' then written { place with column := next, pending := kept } '\t' true
          else
            let column := place.column + 1
            if place.afterBlank && column = next then
              written { place with column := column, pending := kept } '\t' true
            else
              ({ place with
                  column := column, single := place.single || column = next
                  pending := place.pending ++ [c], afterBlank := true }, [])

def tabTable (letters : String) (more : List (String × String)) : OptionTable :=
  { letters := letters, words := ("tabs:", "t") :: more, mixed := true }

def withTabStops (name : Chars) (asked : Asked) (use : TabStops → Action Nat) : Action Nat :=
  match tabStopsOf (asked.values "t") with
  | .ok stops => use stops
  | .error fault => giveUp name fault 1

def expand : Tool := fun name words =>
  withOptions (tabTable "it:" [("initial", "i")]) 1 (fun name asked =>
    withTabStops name asked fun stops =>
      throughTexts name (some '\n') (expandTabs stops (asked.has "i")) (filesOf asked) (0, true))
    name (modernWidth 't' words)

def unexpand : Tool := fun name words =>
  withOptions (tabTable "at:" [("all", "a"), ("first-only", "first")]) 1 (fun name asked =>
    withTabStops name asked fun stops =>
      let whole := (asked.has "a" || asked.has "t") && !asked.has "first"
      let step (place : TabPlace) (text : Chars) : TabPlace × Chars :=
        let (place, done) := text.foldl (fun (place, done) c =>
          let (place, written) := place.step stops whole c
          (place, written :: done)) (place, [])
        let ended := { place with pending := [], single := false }
        (ended, done.reverse.flatten ++ place.flushed)
      throughTexts name (some '\n') step (filesOf asked) .start)
    name (modernWidth 't' words)

def rev : Tool := withOptions { letters := "", words := [], mixed := true } 1 fun name asked => do
  let turned (_ : Unit) (text : Chars) : Unit × Chars :=
    ((), (fullLines text).flatMap fun line =>
      if line.getLast? = some '\n' then line.dropLast.reverse ++ ['\n'] else line.reverse)
  let (status, flow) ← (filesOf asked).foldlM (fun (status, flow) file => do
    match ← openInput file with
    | .ok source =>
        let (fault, flow) ← flow.through source (some '\n') turned blockLimit []
        for errno in fault.toList do
          complain name (file ++ ": ".toList ++ errno.text.toList)
        pure (if fault.isNone then status else 1, flow)
    | .error errno =>
        complain name ("cannot open ".toList ++ file ++ ": ".toList ++ errno.text.toList)
        pure (1, flow)) (0, Flow.start ())
  let _ ← flow.flush
  pure status

end BatchLaunch.Tools
