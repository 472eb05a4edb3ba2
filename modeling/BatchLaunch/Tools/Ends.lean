import BatchLaunch.Tools.Clock
import BatchLaunch.Tools.Flow
import BatchLaunch.Tools.Mode

/-!
The starts and the ends of files: `head`, and `tail`, which may wait for files to grow.
-/
namespace BatchLaunch.Tools

open Host (Action Call Reply Errno Descriptor NodeId)

/-- An old way to write a count: `-5` or `-5c` as the first word. The letter tells the unit, or asks
for headings or for none. -/
def modernCount (sign : Char) (words : List Chars) : List Chars :=
  match words with
  | (first :: digit :: more) :: rest =>
      let digits := (digit :: more).takeWhile Char.isDigit
      let letters := (digit :: more).drop digits.length
      if first ≠ sign || digits.isEmpty || !letters.all fun c => "bckmlqvzf".toList.contains c then
        words
      else
        let count := if sign = '+' then '+' :: digits else digits
        let unit := (letters.filter fun c => "bkm".toList.contains c).take 1
        let bytes := letters.any fun c => "bckm".toList.contains c
        (letters.filter fun c => "qvzf".toList.contains c).map (fun c => ['-', c]) ++
          ['-', if bytes then 'c' else 'n'] :: (count ++ unit) :: rest
  | _ => words

def endsTable : OptionTable where
  letters := "c:n:qvz"
  words := [("bytes:", "c"), ("lines:", "n"), ("quiet", "q"), ("silent", "q"), ("verbose", "v"),
    ("zero-terminated", "z")]
  mixed := true

def headed (asked : Asked) : Bool :=
  match asked.last? ["q", "v"] with
  | some (key, _) => key = "v"
  | none => 1 < asked.operands.length

def underHeadings (name : Chars) (asked : Asked) (use : Chars → Descriptor → Action Bool) :
    Action Nat :=
  go true (filesOf asked)
where
  go (first : Bool) : List Chars → Action Nat
    | [] => pure 0
    | file :: rest => do
        match ← openInput file with
        | .error errno =>
            complain name ("cannot open ".toList ++ shellQuoted file ++ " for reading: ".toList ++
              errno.text.toList)
            let _ ← go first rest
            pure 1
        | .ok source =>
            if headed asked then
              let _ ← put ((if first then [] else ['\n']) ++ "==> ".toList ++ shownName file ++
                " <==\n".toList)
            let fine ← use file source
            let status ← go false rest
            pure (if fine then status else 1)

def complainOfReading (name file : Chars) (errno : Errno) : Action Bool := do
  complain name ("error reading ".toList ++ shellQuoted (shownName file) ++ ": ".toList ++
    errno.text.toList)
  pure false

/-- Octets that fill whole blocks are written at once; the others are kept for later. -/
def putBlocks (held : Octets) : Action (Option Octets) := do
  let kept := held.length % 4096
  let written := held.length - kept
  let fine ← if written = 0 then pure true else Action.write output (held.take written)
  pure (if fine then some (held.drop written) else none)

def takeOctets (name file : Chars) (source : Descriptor) : Nat → Nat → Octets → Action Bool
  | 0, _, held => Action.write output held
  | fuel + 1, count, held =>
      if count = 0 then Action.write output held
      else do
        match ← Action.call (.read source (min count 8192)) with
        | .octets [] => Action.write output held
        | .octets octets =>
            match ← putBlocks (held ++ octets) with
            | some kept => takeOctets name file source fuel (count - octets.length) kept
            | none => pure false
        | .refused errno => do
            let _ ← Action.write output held
            complainOfReading name file errno
        | _ => pure false

/-- The first records of an input. What is read behind them is given back if that is possible. -/
def takeRecords (name file : Chars) (ending : Char) (source : Descriptor) :
    Nat → Nat → Octets → Action Bool
  | 0, _, held => Action.write output held
  | fuel + 1, count, held =>
      if count = 0 then Action.write output held
      else do
        match ← Action.call (.read source 8192) with
        | .octets [] => Action.write output held
        | .octets octets =>
            let records := recordsWith ending (Text.charsOf octets)
            let complete := (Text.charsOf octets).count ending
            if count ≤ complete then
              let kept := (records.take count).flatten
              let _ ← Action.call (.rewind source (octets.length - kept.length))
              Action.write output (held ++ Text.octetsOf kept)
            else
              match ← putBlocks (held ++ octets) with
              | some kept => takeRecords name file ending source fuel (count - complete) kept
              | none => pure false
        | .refused errno => do
            let _ ← Action.write output held
            complainOfReading name file errno
        | _ => pure false

def readWhole (name file : Chars) (source : Descriptor) (use : Chars → Action Bool) :
    Action Bool := do
  match ← Action.readAll source blockLimit with
  | .ok octets => use (Text.charsOf octets)
  | .error errno => complainOfReading name file errno

def countUnit (asked : Asked) : Bool × Chars :=
  match asked.last? ["c", "n"] with
  | some (key, text) => (key = "c", text)
  | none => (false, "10".toList)

def countWords (bytes : Bool) : String := if bytes then "number of bytes" else "number of lines"

def strayDigit? (fault : Chars) : Option Char :=
  ((List.range 10).map Nat.digitChar).find? fun digit =>
    fault = "invalid option -- '".toList ++ [digit, '\x27']

def withEnds (table : OptionTable) (use : Chars → Asked → Action Nat)
    (onDigit : Chars → Char → Action Nat) : Tool :=
  fun name words =>
    match table.read (words.length + 1) words with
    | .ok asked => use name asked
    | .error fault =>
        match strayDigit? fault with
        | some digit => onDigit name digit
        | none => giveUpUse name fault 1

def head : Tool := fun name words =>
  withEnds endsTable (fun name asked => do
    let (bytes, text) := countUnit asked
    let fromEnd := text.head? = some '-'
    let digits := if fromEnd then text.drop 1 else text
    let count ← amountOf name amountLetters (countWords bytes) digits
    let ending := endingOf asked
    underHeadings name asked fun file source =>
      if fromEnd then
        readWhole name file source fun text => do
          let records := recordsWith ending text
          let kept := if bytes then text.take (text.length - count)
            else (records.take (records.length - count)).flatten
          let _ ← Action.call (.rewind source (text.length - kept.length))
          put kept
      else if bytes then takeOctets name file source (count + 1) count []
      else takeRecords name file ending source blockLimit count [])
    (fun name digit => giveUpUse name ("invalid trailing option -- ".toList ++ [digit]) 1)
    name (modernCount '-' words)

/-! Ends -/

namespace Tail

/-- What is left of a text without so many records at its start, and how many are still to be left
out. -/
def skipRecords (ending : Char) : Nat → Chars → Nat × Chars
  | 0, text => (0, text)
  | count + 1, [] => (count + 1, [])
  | count + 1, c :: rest => skipRecords ending (if c = ending then count else count + 1) rest

def skipOctets (count : Nat) (text : Chars) : Nat × Chars :=
  (count - text.length, text.drop count)

structure Part where
  bytes : Bool
  fromStart : Bool
  count : Nat
  ending : Char

/-- Writes the part of an input that is wanted. The answer tells whether it could be read. -/
def Part.show (part : Part) (name file : Chars) (source : Descriptor) : Action Bool := do
  if part.fromStart then
    let step := if part.bytes then skipOctets else skipRecords part.ending
    let (fault, flow) ← (Flow.start (part.count - 1)).through source none step blockLimit []
    let _ ← flow.flush
    match fault with
    | some errno => complainOfReading name file errno
    | none => pure true
  else
    let last {α : Type} (items : List α) : List α := items.drop (items.length - part.count)
    readWhole name file source fun text =>
      put (if part.bytes then last text else (last (recordsWith part.ending text)).flatten)

structure Followed where
  file : Chars
  source : Option Descriptor
  node : Option NodeId
  left : Bool

structure Following where
  name : Chars
  byName : Bool
  retries : Bool
  headed : Bool
  until? : Option Int

def heading (first : Bool) (file : Chars) : Chars :=
  (if first then [] else ['\n']) ++ "==> ".toList ++ shownName file ++ " <==\n".toList

def Following.reopen (following : Following) (followed : Followed) (what : String) :
    Action Followed := do
  match ← openInput followed.file with
  | .error _ => pure followed
  | .ok source => do
      complain following.name (shellQuoted followed.file ++ " has ".toList ++ what.toList ++
        ";  following new file".toList)
      let node ← match ← infoAt followed.file true with
        | .ok info => pure (some info.node)
        | .error _ => pure none
      pure { followed with source := some source, node := node }

def Followed.close (followed : Followed) : Action Followed := do
  for source in followed.source.toList do
    let _ ← Action.call (.close source)
  pure { followed with source := none }

def Following.look (following : Following) (followed : Followed) : Action Followed := do
  if !following.byName || followed.left || followed.file = ['-'] then pure followed
  else
    match ← infoAt followed.file true, followed.source with
    | .error errno, some _ => do
        complain following.name (shellQuoted followed.file ++ " has become inaccessible: ".toList ++
          errno.text.toList)
        let followed ← followed.close
        pure { followed with left := !following.retries }
    | .error _, none => pure followed
    | .ok _, none => following.reopen followed "appeared"
    | .ok info, some _ =>
        if followed.node = some info.node then pure followed
        else do
          let followed ← followed.close
          following.reopen followed "been replaced"

/-- Writes what a file has got since the last time. `last` is the file of the last heading. -/
def Following.grow (following : Following) (last : Nat) (place : Nat) (followed : Followed) :
    Action Nat := do
  match followed.source with
  | none => pure last
  | some source => do
      let size ← match ← Action.call (.info (path ("/dev/fd/".toList ++ natChars source)) true) with
        | .info info => pure (if info.kind = .file then some info.size else none)
        | _ => pure none
      match size, ← Action.call (.rewind source 0) with
      | some size, .done at_ => do
          if size < at_ then
            complain following.name (nameSafe followed.file ++ ": file truncated".toList)
            let _ ← Action.call (.rewind source at_)
      | _, _ => pure ()
      match ← Action.readAll source blockLimit with
      | .error _ | .ok [] => pure last
      | .ok octets => do
          if following.headed && last ≠ place then
            let _ ← put (heading false followed.file)
          let _ ← Action.write output octets
          pure place

def Following.wait (following : Following) : Nat → Nat → List Followed → Action Nat
  | 0, _, _ => pure 1
  | fuel + 1, last, files => do
      let files ← files.mapM following.look
      let isGone (followed : Followed) : Bool :=
        followed.left || (followed.source.isNone && !following.retries)
      if files.all isGone then
        complain following.name "no files remaining".toList
        pure 1
      else
        let last ← (files.zipIdx).foldlM (fun last (followed, place) =>
          following.grow last place followed) last
        let ended ← match following.until? with
          | none => pure false
          | some task => pure ((← Action.call (.kill task 0)) matches .refused _)
        -- nothing is written, but it is noticed if nobody reads any more
        let _ ← Action.call (.write output [])
        if ended then pure 0
        else
          let _ ← Action.call (.sleep 100000)
          following.wait fuel last files

def table : OptionTable :=
  { endsTable with
    letters := "c:n:qvzfFs:"
    words := endsTable.words ++ [("follow::", "f"), ("max-unchanged-stats:", "unchanged"),
      ("pid:", "pid"), ("retry", "retry"), ("sleep-interval:", "s")] }

end Tail

open Tail in
def tail : Tool := fun name words =>
  withEnds table (fun name asked => do
    let (bytes, text) := countUnit asked
    let fromStart := text.head? = some '+'
    let signed := fromStart || text.head? = some '-'
    let digits := if signed then text.drop 1 else text
    let count ← amountOf name amountLetters (countWords bytes) digits
    let byName ← match asked.last? ["f", "F"] with
      | some ("f", []) | none => pure false
      | some ("f", text) =>
          choiceOf name "--follow" [(["descriptor"], false), (["name"], true)] text
      | some _ => pure true
    let follows := asked.has "f" || asked.has "F"
    let task ← (asked.value? "pid").mapM fun text =>
      match natural? text with
      | some n => pure (n : Int)
      | none => giveUp name ("invalid PID: ".toList ++ quoted text) 1
    for text in (asked.value? "s").toList do
      if (duration? text).isNone then
        giveUp name ("invalid number of seconds: ".toList ++ quoted text) 1
    if asked.has "retry" && !follows then
      complain name "warning: --retry ignored; --retry is useful only when following".toList
    if task.isSome && !follows then
      complain name
        "warning: PID ignored; --pid=PID is useful only when following".toList
    if count = 0 && !fromStart && !follows then pure 0
    else
      let part : Part := ⟨bytes, fromStart, count, endingOf asked⟩
      let following : Following :=
        ⟨name, byName, asked.has "F" || asked.has "retry", headed asked, task⟩
      let (status, files) ← (filesOf asked).foldlM (fun (status, files) file => do
        match ← openInput file with
        | .error errno => do
            complain name ("cannot open ".toList ++ shellQuoted file ++ " for reading: ".toList ++
              errno.text.toList)
            pure (1, ⟨file, none, none, !following.retries⟩ :: files)
        | .ok source => do
            if following.headed then
              let _ ← put (heading (files.all fun followed => followed.source.isNone) file)
            let fine ← part.show name file source
            let info ← Action.call (.info (path ("/dev/fd/".toList ++ natChars source)) true)
            let (node, isDir) := match info with
              | .info info => (some info.node, info.kind = .directory)
              | _ => (none, false)
            if follows && isDir then
              complain name (nameSafe file ++
                ": cannot follow end of this type of file; giving up on this name".toList)
            pure (if fine then status else 1, ⟨file, some source, node, isDir⟩ :: files))
        ((0, []) : Nat × List Followed)
      let piped ← match ← Action.call (.info (path "/dev/stdin".toList) true) with
        | .info info => pure (decide (info.kind = .pipe))
        | _ => pure false
      let files := files.reverse.map fun followed =>
        if followed.file = ['-'] && piped then { followed with left := true } else followed
      if follows && !(piped && (filesOf asked).all (· = ['-'])) then
        following.wait 10000000 (files.length - 1) files
      else pure status)
    (fun name digit =>
      giveUp name ("option used in invalid context -- ".toList ++ [digit]) 1)
    name (modernCount '-' (modernCount '+' words))

end BatchLaunch.Tools
