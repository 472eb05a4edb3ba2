import BatchLaunch.Tools.Flow

/-!
Programs that go through texts line by line: showing them with numbers or backwards, and counting
what is in them.
-/
namespace BatchLaunch.Tools

open Host (Action Call Reply Errno Descriptor)

/-! Showing whole files -/

def copyThrough (name file : Chars) (source : Descriptor) : Nat → Action Bool
  | 0 => pure true
  | fuel + 1 => do
      match ← Action.call (.read source 65536) with
      | .octets [] => pure true
      | .octets octets =>
          if ← Action.write output octets then copyThrough name file source fuel
          else
            complain name "write error".toList
            pure false
      | .refused errno =>
          complainOfFile name file errno
          pure false
      | _ => pure true

def visibleForm (c : Char) : Chars :=
  let low (n : Nat) : Chars :=
    if n < 32 then ['^', Char.ofNat (n + 64)] else if n = 127 then "^?".toList else [Char.ofNat n]
  if c.toNat < 128 then low c.toNat else "M-".toList ++ low (c.toNat - 128)

structure LineDress where
  numbersAll : Bool
  numbersFull : Bool
  marksEnds : Bool
  marksTabs : Bool
  showsHidden : Bool
  squeezes : Bool

/-- Where showing lines has come to: the number of lines that have one, how many empty lines were
just passed, and whether a line starts here. -/
structure LinePlace where
  number : Nat
  empties : Nat
  atStart : Bool

def LineDress.show (dress : LineDress) (place : LinePlace) (line : Chars) : LinePlace × Chars :=
  let isEmpty := place.atStart && line = ['\n']
  let empties := if isEmpty then place.empties + 1 else 0
  if dress.squeezes && 1 < empties then ({ place with empties := empties }, [])
  else
    let numbered := place.atStart &&
      (dress.numbersAll || dress.numbersFull) && !(dress.numbersFull && isEmpty)
    let number := if numbered then place.number + 1 else place.number
    let ended := line.getLast? = some '\n'
    let body := if ended then line.dropLast else line
    let (body, carriage) := if dress.marksEnds && ended && body.getLast? = some '\r' &&
        !dress.showsHidden then (body.dropLast, "^M".toList) else (body, [])
    let shown := body.flatMap fun c =>
      if c = '\t' then (if dress.marksTabs then "^I".toList else [c])
      else if dress.showsHidden then visibleForm c else [c]
    (⟨number, empties, ended⟩,
      (if numbered then padLeft 6 (natChars number) ++ ['\t'] else []) ++ shown ++ carriage ++
        (if dress.marksEnds && ended then ['$'] else []) ++ (if ended then ['\n'] else []))

def showLines (dress : LineDress) (place : LinePlace) (text : Chars) : LinePlace × Chars :=
  let (place, shown) := (fullLines text).foldl (fun (place, done) line =>
    let (place, shown) := dress.show place line
    (place, shown :: done)) (place, [])
  (place, shown.reverse.flatten)

/-- Shows files, one after the other, with something that changes on the way. A file that is also
the output is left out if there is something to read in it, as it would never end. -/
def catEach {α : Type} (name : Chars) (use : Chars → Descriptor → α → Action (Bool × α)) :
    List Chars → α → Action Nat
  | [], _ => pure 0
  | file :: rest, state => do
      match ← openInput file with
      | .error errno =>
          complainOfFile name file errno
          let _ ← catEach name use rest state
          pure 1
      | .ok source =>
          let endless ← match ← sizeIfOutput? source, ← Action.call (.rewind source 0) with
            | some size, .done place => pure (decide (place < size))
            | _, _ => pure false
          let (fine, state) ← if endless then do
              complain name (nameSafe file ++ ": input file is output file".toList)
              pure (false, state)
            else use file source state
          if source ≠ 0 then
            let _ ← Action.call (.close source)
          let status ← catEach name use rest state
          pure (if fine then status else 1)

def cat : Tool := withOptions
  { letters := "AbeEnstTuv", mixed := true
    words := [("show-all", "A"), ("number-nonblank", "b"), ("show-ends", "E"), ("number", "n"),
      ("squeeze-blank", "s"), ("show-tabs", "T"), ("show-nonprinting", "v")] } 1
  fun name asked => do
    if (← Action.call (.rewind output 0)) = .refused .badFile then
      complain name "standard output: Bad file descriptor".toList
      return 1
    let some (keys : List String) : Bool := keys.any asked.has
    let lineEnd : Option Char := Option.some '\n'
    let dress : LineDress := ⟨some ["n"], some ["b"], some ["A", "e", "E"], some ["A", "t", "T"],
      some ["A", "e", "t", "v"], some ["s"]⟩
    if asked.given.any fun entry => entry.1 ≠ "u" then
      catEach name (fun file source flow => do
        let (fault, flow) ← flow.through source lineEnd (showLines dress) blockLimit []
        let flow ← flow.flush
        for errno in fault.toList do
          complainOfFile name file errno
        pure (fault.isNone, flow)) (filesOf asked) (Flow.start ⟨0, 0, true⟩)
    else
      catEach name (fun file source _ => do
        pure (← copyThrough name file source blockLimit, ())) (filesOf asked) ()

def separated (separator : Chars) (before : Bool) : Nat → Chars → Chars → List Chars
  | 0, current, rest => [current.reverse ++ rest]
  | _, current, [] => [current.reverse]
  | fuel + 1, current, c :: rest =>
      if separator.isPrefixOf (c :: rest) then
        let behind := (c :: rest).drop separator.length
        if before then
          current.reverse :: separated separator before fuel separator.reverse behind
        else (current.reverse ++ separator) :: separated separator before fuel [] behind
      else separated separator before fuel (c :: current) rest

def tac : Tool := withOptions
  { letters := "brs:", mixed := true
    words := [("before", "b"), ("regex", "r"), ("separator:", "s")] } 1
  fun name asked =>
    let separator := ((asked.value? "s").filter (!·.isEmpty)).getD
      (if asked.has "s" then ['\x00'] else ['\n'])
    forEach (filesOf asked) fun file => do
      match ← openInput file with
      | .error errno =>
          complain name ("failed to open ".toList ++ shellQuoted file ++ " for reading: ".toList ++
            errno.text.toList)
          pure false
      | .ok _ =>
          match ← slurp file with
          | .error errno =>
              complain name (nameSafe (shownName file) ++ ": read error: ".toList ++
                errno.text.toList)
              pure false
          | .ok text =>
              put (separated separator (asked.has "b") (text.length + 1) [] text).reverse.flatten

/-! Numbers in front of lines -/

def numberColumn (format : Chars) (width : Nat) (n : Int) : Chars :=
  let digits := natChars n.natAbs
  let sign := if n < 0 then ['-'] else []
  match String.ofList format with
  | "ln" => padRight width (sign ++ digits)
  | "rz" => sign ++ List.replicate (width - sign.length - digits.length) '0' ++ digits
  | _ => padLeft width (sign ++ digits)

def pagePart? (mark line : Chars) : Option String :=
  if mark.isEmpty then none
  else if line = mark ++ mark ++ mark then some "h"
  else if line = mark ++ mark then some "b"
  else if line = mark then some "f"
  else none

structure Numbering where
  part : String
  number : Int
  empties : Nat

def nl : Tool := withOptions
  { letters := "b:d:f:h:i:l:n:ps:v:w:", mixed := true
    words := [("body-numbering:", "b"), ("section-delimiter:", "d"), ("footer-numbering:", "f"),
      ("header-numbering:", "h"), ("line-increment:", "i"), ("join-blank-lines:", "l"),
      ("number-format:", "n"), ("no-renumber", "p"), ("number-separator:", "s"),
      ("starting-line-number:", "v"), ("number-width:", "w")] } 1
  fun name asked => do
    let integerFor (key what : String) (least otherwise : Int) : Action Int :=
      match asked.value? key with
      | none => pure otherwise
      | some text =>
          match integer? text with
          | some n =>
              if least ≤ n then pure n
              else giveUp name ("invalid ".toList ++ what.toList ++ ": ".toList ++ quoted text ++
                ": Numerical result out of range".toList) 1
          | none => giveUp name ("invalid ".toList ++ what.toList ++ ": ".toList ++ quoted text) 1
    let first ← integerFor "v" "starting line number" (-9223372036854775808) 1
    let step ← integerFor "i" "line number increment" (-9223372036854775808) 1
    let joined ← integerFor "l" "line number of blank lines" 1 1
    let width ← integerFor "w" "line number field width" 1 6
    for (key, part) in [("h", "header"), ("b", "body"), ("f", "footer")] do
      for style in (asked.value? key).toList do
        if !"atnp".toList.contains (style.headD 'x') then
          giveUpUse name ("invalid ".toList ++ part.toList ++ " numbering style: ".toList ++
            quoted style) 1
    for format in (asked.value? "n").toList do
      if !(["ln", "rn", "rz"].contains (String.ofList format)) then
        giveUpUse name ("invalid line numbering format: ".toList ++ quoted format) 1
    let separator := (asked.value? "s").getD ['\t']
    let mark := match asked.value? "d" with
      | some [c] => [c, ':']
      | some text => text
      | none => "\\:".toList
    let format := (asked.value? "n").getD "rn".toList
    let styleOf (part : String) : Char :=
      ((asked.value? part).bind List.head?).getD (if part = "b" then 't' else 'n')
    let step (place : Numbering) (line : Chars) : Numbering × Chars :=
      match pagePart? mark line with
      | some part =>
          (⟨part, if asked.has "p" then place.number else first, 0⟩, ['\n'])
      | none =>
          let empties := if line.isEmpty then place.empties + 1 else 0
          let numbered := match styleOf place.part with
            | 'a' => !line.isEmpty || joined ≤ 1 || (empties : Int) = joined
            | 't' => !line.isEmpty
            | _ => false
          let number := if numbered then
              numberColumn format width.toNat place.number ++ separator
            else List.replicate (width.toNat + separator.length) ' '
          ({ place with
              number := if numbered then place.number + step else place.number
              empties := if (empties : Int) = joined then 0 else empties },
            number ++ line ++ ['\n'])
    throughTexts name (some '\n') (fun place text =>
      let (place, shown) := (lines text).foldl (fun (place, done) line =>
        let (place, shown) := step place line
        (place, shown :: done)) (place, [])
      (place, shown.reverse.flatten)) (filesOf asked) (⟨"b", first, 0⟩ : Numbering)

/-! Counting -/

def wordCount (text : Chars) : Nat :=
  (text.foldl (fun (count, inside) c =>
    if isSpaceChar c then (count, false) else (if inside then count else count + 1, true))
    ((0, false) : Nat × Bool)).1

def longestLine (text : Chars) : Nat :=
  let (longest, last) := text.foldl (fun (longest, column) c =>
    if c = '\n' || c = '\r' || c = '\x0c' then (max longest column, 0)
    else if c = '\t' then (longest, (column / 8 + 1) * 8)
    else if isControl c || (0x80 ≤ c.toNat && c.toNat < 0xc0) then (longest, column)
    else (longest, column + 1)) ((0, 0) : Nat × Nat)
  max longest last

def counters : List (String × (Chars → Nat)) := [
  ("l", fun text => text.count '\n'), ("w", wordCount),
  ("m", fun text => (text.filter fun c => !(0x80 ≤ c.toNat && c.toNat < 0xc0)).length),
  ("c", List.length), ("L", longestLine)]

/-- How wide the columns of counts are: as wide as the size of all files, but wider if not all of
them have a size that is known. -/
def countWidth (single : Bool) (files : List Chars) : Action Nat := do
  if single && files.length ≤ 1 then pure 1
  else
    let (size, least) ← files.foldlM (fun (size, least) file => do
      let place := if file = ['-'] then "/dev/stdin".toList else file
      match ← Action.call (.info (path place) true) with
      | .info info => pure (if info.kind = .file then (size + info.size, least) else (size, 7))
      | _ => pure (size, least)) ((0, 1) : Nat × Nat)
    pure (max least (natChars size).length)

def wc : Tool := withOptions
  { letters := "clLmw", mixed := true
    words := [("bytes", "c"), ("chars", "m"), ("lines", "l"), ("words", "w"),
      ("max-line-length", "L"), ("total:", "total")] } 1
  fun name asked => do
    let chosen := counters.filter fun entry => asked.has entry.1
    let chosen := if chosen.isEmpty then
        counters.filter fun entry => ["l", "w", "c"].contains entry.1
      else chosen
    let files := filesOf asked
    let width ← countWidth (chosen.length = 1) files
    let line (counts : List Nat) (name : Chars) : Chars :=
      join [' '] (counts.map fun n => padLeft width (natChars n)) ++
        (if name.isEmpty then [] else ' ' :: name) ++ ['\n']
    let (status, totals) ← files.foldlM (fun (status, totals) file => do
      let found ← slurp file
      let shows ← match found with
        | .ok _ => pure true
        | .error errno => do
            complainOfFile name file errno
            pure (errno = .isDirectory)
      let counts := chosen.map fun entry => entry.2 (found.toOption.getD [])
      if shows then
        let _ ← put (line counts (if asked.operands.isEmpty then [] else file))
      let totals := (chosen.zip (totals.zip counts)).map fun (entry, (total, count)) =>
        if entry.1 = "L" then max total count else total + count
      pure (if found matches .ok _ then status else 1, totals))
      ((0, chosen.map fun _ => 0) : Nat × List Nat)
    if 1 < files.length then
      let _ ← put (line totals "total".toList)
    pure status

end BatchLaunch.Tools
