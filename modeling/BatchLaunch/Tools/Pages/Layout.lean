import BatchLaunch.Tools.Inputs

/-!
Text set in pages: in one column or several, down or across or one for each file, with headings,
numbers and margins. Room between columns is held back until something follows it.
-/
namespace BatchLaunch.Tools.Pages

structure Plan where
  body : Nat
  edges : Bool
  keepsBreaks : Bool
  feeds : Bool
  doubled : Bool
  parallel : Bool
  stores : Bool
  separator : Option Chars
  cuts : Bool
  untabs : Bool
  tabs : Bool
  inputTab : Char × Nat
  outputTab : Char × Nat
  numbers : Option (Char × Nat)
  numberWidth : Nat
  columnWidth : Nat
  margin : Nat
  octal : Bool
  carets : Bool
  countsPassed : Bool
  lastPage : Nat
  date : Chars
  title : Chars
  width : Nat

def Plan.gap (plan : Plan) : Nat := plan.separator.elim 0 List.length

inductive Status where
  | ready
  | broken
  | held
  | closed
  deriving DecidableEq, Repr

structure Column where
  source : Nat
  status : Status
  fullPage : Bool
  stored : Nat
  current : Nat
  left : Int
  numbered : Bool
  start : Nat
  stores : Bool

structure Sheet where
  inputs : List Chars
  columns : List Column
  output : Chars
  /-- The characters of the line that is being stored, the last first. -/
  pending : Chars
  lines : Array (Chars × Int)
  outputPlace : Int
  inputPlace : Int
  spaces : Int
  separators : Nat
  padding : Nat
  written : Bool
  headingDue : Bool
  breakDue : Bool
  onlyBreak : Bool
  alignsEmpty : Bool
  emptyLine : Bool
  number : Int
  page : Nat
  readable : Int

abbrev Press := StateM Sheet

def column? (index : Nat) : Press Column := do
  return ((← get).columns[index]?).getD ⟨0, .closed, false, 0, 0, 0, false, 0, false⟩

def changeColumn (index : Nat) (change : Column → Column) : Press Unit :=
  modify fun sheet => { sheet with columns := sheet.columns.modify index change }

def changeColumns (change : Column → Column) : Press Unit :=
  modify fun sheet => { sheet with columns := sheet.columns.map change }

def emit (text : Chars) : Press Unit :=
  modify fun sheet => { sheet with output := text.reverse ++ sheet.output }

/-! Reading -/

def nextChar (source : Nat) : Press (Option Char) := do
  let sheet ← get
  match sheet.inputs[source]? with
  | some (c :: rest) =>
      set { sheet with inputs := sheet.inputs.set source rest }
      return some c
  | _ => return none

def skipLineEnd (source : Nat) : Press Unit := do
  let sheet ← get
  let shorten (text : Chars) : Chars := if text.head? = some '\n' then text.drop 1 else text
  set { sheet with inputs := sheet.inputs.modify source shorten }

def hold (plan : Plan) (index : Nat) : Press Unit := do
  if plan.parallel then changeColumn index fun column => { column with status := .held }
  else
    changeColumns fun column =>
      { column with status := if plan.stores then .broken else .held }
  changeColumn index fun column => { column with left := 0 }
  modify fun sheet => { sheet with readable := sheet.readable - 1 }

def close (plan : Plan) (index : Nat) : Press Unit := do
  if (← column? index).status ≠ .closed then
    if plan.parallel then
      changeColumn index fun column => { column with status := .closed, left := 0 }
    else
      changeColumns fun column => { column with
        status := .closed
        left := if column.stored = 0 then 0 else column.left }
    modify fun sheet => { sheet with readable := sheet.readable - 1 }

def breakPage (plan : Plan) (index source : Nat) : Press Unit := do
  skipLineEnd source
  if plan.keepsBreaks then modify fun sheet => { sheet with breakDue := true }
  hold plan index

def passLine (plan : Plan) (index source : Nat) : Nat → Press Unit
  | 0 => pure ()
  | fuel + 1 => do
      match ← nextChar source with
      | some '\n' => pure ()
      | some '\x0c' => breakPage plan index source
      | none => close plan index
      | some _ => passLine plan index source fuel

def inputSize (source : Nat) : Press Nat := do
  return (((← get).inputs[source]?).getD []).length + 1

/-! Writing -/

def afterTab (size : Nat) (place : Int) : Int := place + (size - place.tmod size)

def tabsTo (plan : Plan) (goal : Int) : Nat → Int → Chars → Chars × Int
  | 0, place, done => (done, place)
  | fuel + 1, place, done =>
      let next := afterTab plan.outputTab.2 place
      if 1 < goal - place && next ≤ goal then
        tabsTo plan goal fuel next (plan.outputTab.1 :: done)
      else (done, place)

def flushSpaces (plan : Plan) : Press Unit := do
  let sheet ← get
  let goal := sheet.outputPlace + sheet.spaces
  let (tabs, place) := tabsTo plan goal sheet.spaces.toNat sheet.outputPlace []
  emit (tabs ++ List.replicate (goal - place).toNat ' ')
  modify fun sheet => { sheet with outputPlace := goal, spaces := 0 }

def padTo (plan : Plan) (place : Nat) : Press Unit := do
  let sheet ← get
  if plan.tabs then set { sheet with spaces := (place : Int) - sheet.outputPlace }
  else
    emit (List.replicate ((place : Int) - sheet.outputPlace).toNat ' ')
    modify fun sheet => { sheet with outputPlace := place }

def emitSeparator (plan : Plan) : Chars → Press Unit
  | [] => pure ()
  | c :: rest => do
      if c = ' ' then modify fun sheet => { sheet with spaces := sheet.spaces + 1 }
      else
        if 0 < (← get).spaces then flushSpaces plan
        emit [c]
        modify fun sheet => { sheet with outputPlace := sheet.outputPlace + 1 }
      emitSeparator plan rest

/-- Writes the separators that were held back; only the first of them is shown in full. -/
def flushSeparators (plan : Plan) : Press Unit := do
  if 0 < (← get).separators then emitSeparator plan (plan.separator.getD [])
  if 0 < (← get).spaces then flushSpaces plan
  modify fun sheet => { sheet with separators := 0 }

def isShown (c : Char) : Bool := ' ' ≤ c && c ≤ '~'

def emitChar (plan : Plan) (c : Char) : Press Unit := do
  if plan.tabs && c = ' ' then modify fun sheet => { sheet with spaces := sheet.spaces + 1 }
  else
    if plan.tabs then
      if 0 < (← get).spaces then flushSpaces plan
      modify fun sheet => { sheet with outputPlace := sheet.outputPlace +
        (if isShown c then 1 else if c = '\x08' then -1 else 0) }
    emit [c]

def putChar (plan : Plan) (stores : Bool) (c : Char) : Press Unit :=
  if stores then modify fun sheet => { sheet with pending := c :: sheet.pending }
  else emitChar plan c

def putChars (plan : Plan) (stores : Bool) : Chars → Press Unit
  | [] => pure ()
  | c :: rest => do
      putChar plan stores c
      putChars plan stores rest

def shownChar (plan : Plan) (place : Int) (c : Char) : Chars × Int :=
  let octal := '\\' :: (let digits := Nat.toDigits 8 c.toNat
    List.replicate (3 - digits.length) '0' ++ digits)
  if c = plan.inputTab.1 || c = '\t' then
    let size := if c = plan.inputTab.1 then plan.inputTab.2 else 8
    let width := size - place.tmod size
    (if plan.untabs then List.replicate width.toNat ' ' else [c], width)
  else if isShown c then ([c], 1)
  else if plan.octal then (octal, 4)
  else if plan.carets then
    if c.toNat < 128 then (['^', Char.ofNat (c.toNat ^^^ 64)], 2) else (octal, 4)
  else ([c], if c = '\x08' then -1 else 0)

/-- Takes the room of a character on the line that is read. The answer is how it is shown. -/
def takeChar (plan : Plan) (c : Char) : Press Chars := do
  let place := (← get).inputPlace
  let (shown, width) := shownChar plan place c
  modify fun sheet => { sheet with inputPlace := max 0 (place + width) }
  return if width < 0 && place = 0 then [] else shown

def putNumber (plan : Plan) (column : Column) : Press Unit := do
  match plan.numbers with
  | none => pure ()
  | some (mark, digits) => do
      let sheet ← get
      let text := padLeft digits (intChars sheet.number)
      set { sheet with number := sheet.number + 1 }
      putChars plan column.stores (text.drop (text.length - digits))
      if 1 < sheet.columns.length then
        if mark = '\t' then
          putChars plan column.stores (List.replicate (plan.numberWidth - digits) ' ')
        else putChar plan column.stores mark
      else
        putChar plan column.stores mark
        if mark = '\t' then
          modify fun sheet => { sheet with
            outputPlace := afterTab plan.outputTab.2 sheet.outputPlace }
      if plan.cuts && !plan.parallel then
        modify fun sheet => { sheet with inputPlace := sheet.inputPlace + plan.numberWidth }

def reachColumn (plan : Plan) : Press Unit := do
  let padding := (← get).padding
  if plan.gap < padding then
    padTo plan (padding - plan.gap)
    modify fun sheet => { sheet with padding := 0 }
  if plan.separator.isSome then flushSeparators plan

def alignColumn (plan : Plan) (column : Column) : Press Unit := do
  modify fun sheet => { sheet with padding := column.start }
  reachColumn plan
  if column.numbered then putNumber plan column

def putHeading (plan : Plan) : Press Unit := do
  modify fun sheet => { sheet with outputPlace := 0 }
  padTo plan plan.margin
  flushSpaces plan
  let page := "Page ".toList ++ natChars (← get).page
  let free := plan.width - plan.date.length - plan.title.length - page.length
  emit ("\n\n".toList ++ List.replicate plan.margin ' ' ++ plan.date ++ padLeft (free / 2) [' '] ++
    plan.title ++ padLeft (free - free / 2) [' '] ++ page ++ "\n\n\n".toList)
  modify fun sheet => { sheet with page := sheet.page + 1, headingDue := false, outputPlace := 0 }

/-! Lines -/

def alignBefore (plan : Plan) (column : Column) : Press Unit := do
  let count := (← get).separators
  modify fun sheet => { sheet with separators := 0 }
  ((← get).columns.take count).forM fun before => do
    alignColumn plan before
    modify fun sheet => { sheet with separators := sheet.separators + 1 }
  modify fun sheet => { sheet with
    padding := column.start
    spaces := if plan.cuts then plan.columnWidth else 0
    alignsEmpty := false }

/-- Reads what is left of a line. The answer tells if all of it fits. -/
def readRest (plan : Plan) (index : Nat) (column : Column) : Nat → Press Bool
  | 0 => pure true
  | fuel + 1 => do
      match ← nextChar column.source with
      | some '\n' => return true
      | some '\x0c' =>
          breakPage plan index column.source
          return true
      | none =>
          close plan index
          return true
      | some c =>
          let before := (← get).inputPlace
          let shown ← takeChar plan c
          if plan.cuts && (plan.columnWidth : Int) < (← get).inputPlace then
            modify fun sheet => { sheet with inputPlace := before }
            return false
          putChars plan column.stores shown
          readRest plan index column fuel

/-- The first character of a line; a page break right behind a full page does not count. -/
def firstChar (index : Nat) (column : Column) : Press (Option Char) := do
  let c ← nextChar column.source
  let c ← if c = some '\x0c' && column.fullPage then do
      match ← nextChar column.source with
      | some '\n' => nextChar column.source
      | c => pure c
    else pure c
  changeColumn index fun column => { column with fullPage := false }
  return c

def readLine (plan : Plan) (index : Nat) : Press Bool := do
  let column ← column? index
  let start := (← get).inputPlace
  match ← firstChar index column with
  | some '\x0c' =>
      skipLineEnd column.source
      modify fun sheet => { sheet with onlyBreak := true }
      if (← get).headingDue && !plan.stores then
        modify fun sheet => { sheet with written := true }
        putHeading plan
      else if plan.keepsBreaks then modify fun sheet => { sheet with breakDue := true }
      hold plan index
      return true
  | none =>
      close plan index
      return true
  | some c =>
      let shown ← if c = '\n' then pure [] else takeChar plan c
      if plan.cuts && (plan.columnWidth : Int) < (← get).inputPlace then
        modify fun sheet => { sheet with inputPlace := start }
        return false
      if !column.stores then
        modify fun sheet => { sheet with written := true }
        if (← get).headingDue && !plan.stores then putHeading plan
        if plan.parallel && (← get).alignsEmpty then alignBefore plan column
        reachColumn plan
      if column.numbered then putNumber plan column
      modify fun sheet => { sheet with emptyLine := false }
      if c = '\n' then return true
      putChars plan column.stores shown
      readRest plan index column (← inputSize column.source)

def putStored (plan : Plan) (index : Nat) : Press Unit := do
  let column ← column? index
  changeColumn index fun column => { column with current := column.current + 1 }
  modify fun sheet => { sheet with written := true }
  if (← get).headingDue then putHeading plan
  let broken := column.status = .broken
  if broken then changeColumns fun column => { column with status := .held }
  if broken && (← column? 0).left ≤ 0 then
    if !plan.edges then modify fun sheet => { sheet with written := false }
  else
    reachColumn plan
    let (line, width) := ((← get).lines[column.current]?).getD ([], 0)
    line.forM (emitChar plan)
    if (← get).spaces = 0 then
      let back := if (column.start : Int) - plan.gap = plan.margin then plan.gap else 0
      modify fun sheet => { sheet with outputPlace := column.start + width - back }

/-! Pages -/

def storeLine (plan : Plan) (index : Nat) : Press Unit := do
  if (← column? index).status = .ready then
    modify fun sheet => { sheet with inputPlace := 0 }
    if !(← readLine plan index) then
      let source := (← column? index).source
      passLine plan index source (← inputSize source)
    let sheet ← get
    if (← column? index).status = .ready || !sheet.pending.isEmpty then
      changeColumn index fun column => { column with stored := column.stored + 1 }
      set { (← get) with
        lines := sheet.lines.push (sheet.pending.reverse, sheet.inputPlace), pending := [] }

def storeLines (plan : Plan) (index : Nat) : Nat → Press Unit
  | 0 => pure ()
  | count + 1 => do
      if 0 < (← get).readable then
        storeLine plan index
        storeLines plan index count

def storeColumns (plan : Plan) : Press Unit := do
  modify fun sheet => { sheet with lines := #[], pending := [] }
  changeColumns fun column => { column with stored := 0 }
  let count := (← get).columns.length
  (List.range count).forM fun index => do
    if 0 < (← get).readable then storeLines plan index plan.body
  let total := (← get).lines.size
  (List.range count).forM fun index =>
    changeColumn index fun column => { column with
      stored := total / count + (if index < total % count then 1 else 0)
      current := total / count * index + min index (total % count) }

def readyColumns (plan : Plan) : Press Nat := do
  return ((← get).columns.filter fun column =>
    column.status = .ready || column.status = .broken ||
      (plan.stores && 0 < column.stored && 0 < column.left)).length

def printColumns (plan : Plan) : Nat → Nat → Bool → Press Bool
  | 0, _, any => pure any
  | count + 1, index, any => do
      modify fun sheet => { sheet with inputPlace := 0 }
      let column ← column? index
      let (any, ends) ←
        if 0 < column.left || column.status = .broken then do
          modify fun sheet => { sheet with onlyBreak := false, padding := column.start }
          if plan.stores then putStored plan index
          else if !(← readLine plan index) then
            passLine plan index column.source (← inputSize column.source)
          let any := any || (← get).written
          changeColumn index fun column => { column with left := column.left - 1 }
          let after ← column? index
          if after.left ≤ 0 && (← readyColumns plan) = 0 then pure (any, true)
          else
            if plan.parallel && after.status ≠ .ready then
              if (← get).emptyLine then modify fun sheet => { sheet with alignsEmpty := true }
              else if after.status = .closed ||
                  (after.status = .held && (← get).onlyBreak) then
                alignColumn plan after
            pure (any, false)
        else do
          if plan.parallel then
            if (← get).emptyLine then modify fun sheet => { sheet with alignsEmpty := true }
            else alignColumn plan column
          pure (any, false)
      if ends then return any
      if plan.separator.isSome then
        modify fun sheet => { sheet with separators := sheet.separators + 1 }
      printColumns plan count (index + 1) any

def printLines (plan : Plan) : Nat → Nat → Bool → Press (Nat × Bool)
  | 0, left, any => pure (left, any)
  | fuel + 1, left, any => do
      if left = 0 || (← readyColumns plan) = 0 then return (left, any)
      modify fun sheet => { sheet with
        outputPlace := 0, spaces := 0, separators := 0, written := false, alignsEmpty := false
        emptyLine := true }
      let any ← printColumns plan (← get).columns.length 0 any
      let left ← if (← get).written then do
          emit ['\n']
          pure (left - 1)
        else pure left
      if (← readyColumns plan) = 0 && !plan.edges then return (left, any)
      let left ← if plan.doubled && any then do
          emit ['\n']
          pure (left - 1)
        else pure left
      printLines plan fuel left any

def renew (plan : Plan) : Press Unit := do
  let held := ((← get).columns.filter fun column => column.status = .held).length
  changeColumns fun column =>
    if column.status = .held then { column with status := .ready } else column
  modify fun sheet => { sheet with readable := sheet.readable + held }
  if plan.stores then
    let closed := (← column? 0).status = .closed
    modify fun sheet => { sheet with readable := if closed then 0 else 1 }

def printPage (plan : Plan) : Press Bool := do
  if plan.stores then
    storeColumns plan
    changeColumns fun column => { column with left := column.stored }
  else
    changeColumns fun column => { column with
      left := if column.status = .ready then plan.body else 0 }
  if (← readyColumns plan) = 0 then return false
  if plan.edges then modify fun sheet => { sheet with headingDue := true }
  modify fun sheet => { sheet with written := false }
  let lines := if plan.doubled then 2 * plan.body else plan.body
  let size := (← get).inputs.foldl (fun size input => size + input.length) (2 * lines + 2)
  let (left, any) ← printLines plan size lines false
  if left = 0 then
    changeColumns fun column =>
      if column.status = .ready then { column with fullPage := true } else column
  modify fun sheet => { sheet with written := any }
  if any && plan.edges then
    emit (if plan.feeds then ['\x0c'] else List.replicate (left + 5) '\n')
  else if plan.keepsBreaks && (← get).breakDue then
    emit ['\x0c']
    modify fun sheet => { sheet with breakDue := false }
  if plan.lastPage < (← get).page then return false
  renew plan
  return true

def printPages (plan : Plan) : Nat → Press Unit
  | 0 => pure ()
  | fuel + 1 => do
      if ← printPage plan then printPages plan fuel

/-! Pages that are passed -/

def skipLine (plan : Plan) (last : Bool) (index : Nat) : Press Unit := do
  let column ← column? index
  let start ← firstChar index column
  if last then changeColumn index fun column => { column with fullPage := true }
  match start with
  | some '\n' => pure ()
  | none => close plan index
  | some c =>
      if c ≠ '\x0c' then skipTo column.source (← inputSize column.source)
      else endPage column.source
  if plan.countsPassed && (!plan.parallel || index = 0) && start ≠ some '\x0c' then
    modify fun sheet => { sheet with number := sheet.number + 1 }
where
  endPage (source : Nat) : Press Unit := do
    if last then
      if plan.parallel then changeColumn index fun column => { column with fullPage := false }
      else changeColumns fun column => { column with fullPage := false }
    skipLineEnd source
    hold plan index
  skipTo (source : Nat) : Nat → Press Unit
    | 0 => pure ()
    | fuel + 1 => do
        match ← nextChar source with
        | some '\n' => pure ()
        | some '\x0c' => endPage source
        | none => close plan index
        | some _ => skipTo source fuel

def skipLines (plan : Plan) (last : Bool) : Press Unit := do
  (List.range (← get).columns.length).forM fun index => do
    if (← column? index).status = .ready then skipLine plan last index

/-- Passes over pages. The answer is the number of the page after which nothing was left. -/
def skipPages (plan : Plan) : Nat → Nat → Press (Option Nat)
  | 0, _ => return none
  | count + 1, done => do
      (List.range (plan.body - 1)).forM fun _ => skipLines plan false
      skipLines plan true
      if plan.stores then
        changeColumns fun column =>
          if column.status = .closed then column else { column with status := .held }
      renew plan
      if (← get).readable < 1 then return some (done + 1)
      skipPages plan count (done + 1)

/-! The whole -/

def columnsOf (plan : Plan) (sources : List Nat) : List Column :=
  (sources.zipIdx).map fun (source, index) =>
    let width := plan.columnWidth
    let extra := if plan.parallel && plan.numbers.isSome then plan.numberWidth else 0
    let start := if index = 0 then plan.margin + plan.gap
      else if !plan.cuts then 0
      else plan.margin + extra + index * (width + plan.gap)
    { source := source, status := .ready, fullPage := false, stored := 0, current := 0, left := 0
      numbered := plan.numbers.isSome && (!plan.parallel || index = 0)
      start := start
      stores := plan.stores }

def layOut (plan : Plan) (inputs : List Chars) (sources : List Nat) (number : Int)
    (firstPage : Nat) : Except Nat Chars :=
  let sheet : Sheet := {
    inputs := inputs, columns := columnsOf plan sources, output := [], pending := [], lines := #[]
    outputPlace := 0, inputPlace := 0, spaces := 0, separators := 0, padding := 0, written := false
    headingDue := false, breakDue := false, onlyBreak := false, alignsEmpty := false
    emptyLine := false, number := number, page := 1
    readable := if plan.parallel then sources.length else 1 }
  let (short, sheet) := (skipPages plan (firstPage - 1) 0).run sheet
  match short with
  | some count => .error count
  | none =>
      let sheet := if 1 < firstPage then { sheet with page := firstPage } else sheet
      let size := inputs.foldl (fun size input => size + input.length) 2
      .ok ((printPages plan size).run sheet).2.output.reverse

end BatchLaunch.Tools.Pages
