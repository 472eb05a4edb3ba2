import BatchLaunch.Tools.Names

/-!
Programs that write what they read to several files.
-/
namespace BatchLaunch.Tools

open Host (Action Call Reply Errno Descriptor)

/-- Writes octets to all of some descriptors. The answer tells whether that worked, and which of
them still take any. -/
def writeToAll (name : Chars) (octets : Octets) :
    List (Chars × Descriptor) → Action (Bool × List (Chars × Descriptor))
  | [] => pure (true, [])
  | target :: rest => do
      let fine ← Action.write target.2 octets
      if !fine then
        match ← Action.call (.write target.2 octets) with
        | .refused errno =>
            complain name (shellQuoted target.1 ++ ": ".toList ++ errno.text.toList)
        | _ => pure ()
      let (others, left) ← writeToAll name octets rest
      pure (fine && others, if fine then target :: left else left)

def passAlong (name : Chars) : Nat → Bool → List (Chars × Descriptor) → Action Bool
  | 0, fine, _ => pure fine
  | fuel + 1, fine, targets => do
      if targets.isEmpty then pure fine
      else
        match ← Action.call (.read 0 65536) with
        | .octets [] => pure fine
        | .octets octets => do
            let (worked, left) ← writeToAll name octets targets
            passAlong name fuel (fine && worked) left
        | _ => pure fine

def teeOptions : OptionTable :=
  ⟨"aip", [("append", "a"), ("ignore-interrupts", "i"), ("output-error::", "p")], true⟩

def tee : Tool := withOptions teeOptions 1 fun name asked => do
  let rec openAll : List Chars → Action (Bool × List (Chars × Descriptor))
    | [] => pure (true, [])
    | file :: rest => do
        match ← Action.call (.open (path file) (if asked.has "a" then .append else .write)) with
        | .done opened => do
            let descriptor ← if 2 < opened then pure opened
              else do
                let saved ← Action.call (.save opened 3)
                let _ ← Action.call (.close opened)
                pure (match saved with
                  | .done descriptor => descriptor
                  | _ => opened)
            let (fine, more) ← openAll rest
            pure (fine, (file, descriptor) :: more)
        | .refused errno => do
            complainOfFile name file errno
            let (_, more) ← openAll rest
            pure (false, more)
        | _ => openAll rest
  let (opened, targets) ← openAll asked.operands
  let fine ← passAlong name blockLimit true (("standard output".toList, output) :: targets)
  pure (if opened && fine then 0 else 1)

/-! Pieces -/

def pieceEnding (alphabet : Chars) (length : Nat) (number : Nat) : Chars :=
  let base := alphabet.length
  ((List.range length).reverse.map fun place =>
    (alphabet[number / Nat.pow base place % base]?).getD 'a')

def inGroups (count : Nat) : Nat → List Chars → List Chars
  | 0, _ => []
  | _, [] => []
  | fuel + 1, parts => (parts.take count).flatten :: inGroups count fuel (parts.drop count)

def inPieces (size : Nat) : Nat → Chars → List Chars
  | 0, _ => []
  | _, [] => []
  | fuel + 1, text => text.take size :: inPieces size fuel (text.drop size)

def inEqualPieces (count : Nat) (text : Chars) : List Chars :=
  let size := text.length / count
  let longer := text.length % count
  ((List.range count).foldl (fun (found, rest) place =>
    let length := if place < longer then size + 1 else size
    (found ++ [rest.take length], rest.drop length)) (([], text) : List Chars × Chars)).1

def inEqualLines (count : Nat) (ending : Char) (text : Chars) : List Chars :=
  let bounds := (List.range count).map fun place => text.length * (place + 1) / count
  let rec go : List Nat → Nat → List Chars → List Chars
    | [], _, _ => []
    | bound :: more, start, records =>
        let (taken, rest, stop) := take bound (records.length + 1) start [] records
        taken :: go more stop rest
  go bounds 0 (recordsWith ending text)
where
  take (bound : Nat) : Nat → Nat → Chars → List Chars → Chars × List Chars × Nat
    | 0, start, done, records => (done, records, start)
    | _, start, done, [] => (done, [], start)
    | fuel + 1, start, done, record :: rest =>
        if start < bound then take bound fuel (start + record.length) (done ++ record) rest
        else (done, record :: rest, start)

def dealt (count : Nat) (records : List Chars) : List Chars :=
  (List.range count).map fun piece =>
    (records.zipIdx.filter fun entry => entry.2 % count = piece).flatMap (·.1)

inductive ChunkKind where
  | octets
  | lines
  | dealt
  deriving DecidableEq, Repr

structure Chunks where
  kind : ChunkKind
  only : Option Nat
  count : Nat

def Chunks.parse (text : Chars) : Except Chars Chunks :=
  let (kind, body) := match text with
    | 'l' :: '/' :: rest => (ChunkKind.lines, rest)
    | 'r' :: '/' :: rest => (ChunkKind.dealt, rest)
    | rest => (ChunkKind.octets, rest)
  let fault (what : String) (text : Chars) : Except Chars Chunks :=
    .error ("invalid ".toList ++ what.toList ++ ": ".toList ++ quoted text)
  match Text.partsAt '/' body with
  | [count] =>
      match natural? count with
      | some (n + 1) => .ok ⟨kind, none, n + 1⟩
      | _ => fault "number of chunks" count
  | piece :: rest =>
      let count := join ['/'] rest
      match natural? count, natural? piece with
      | some (n + 1), some number =>
          if number = 0 || n + 1 < number then fault "chunk number" piece
          else .ok ⟨kind, some number, n + 1⟩
      | some (_ + 1), none => fault "chunk number" piece
      | _, _ => fault "number of chunks" count
  | [] => fault "number of chunks" text

def Chunks.cut (chunks : Chunks) (ending : Char) (text : Chars) : List Chars :=
  match chunks.kind with
  | .octets => inEqualPieces chunks.count text
  | .lines => inEqualLines chunks.count ending text
  | .dealt => dealt chunks.count (recordsWith ending text)

/-- Lines in pieces of so many octets at most; longer lines are cut. -/
def byLineBytes (size : Nat) (ending : Char) (text : Chars) : List Chars :=
  let parts := (recordsWith ending text).flatMap fun line => inPieces size (line.length + 1) line
  let (found, last) := parts.foldl (fun (found, piece) part =>
    if size < piece.length + part.length && !piece.isEmpty then (piece :: found, part)
    else (found, piece ++ part)) (([], []) : List Chars × Chars)
  (if last.isEmpty then found else last :: found).reverse

def splitOptions : OptionTable :=
  ⟨"a:b:C:del:n:t:ux", [("suffix-length:", "a"), ("additional-suffix:", "more"), ("bytes:", "b"),
    ("line-bytes:", "C"), ("numeric-suffixes::", "d"), ("hex-suffixes::", "x"),
    ("elide-empty-files", "e"), ("lines:", "l"), ("number:", "n"), ("separator:", "t"),
    ("unbuffered", "u"), ("verbose", "verbose")], true⟩

def split : Tool := withOptions splitOptions 1 fun name asked => do
  refuseExtra name asked 2 1 quoted
  let file := asked.operands.headD ['-']
  let start := (asked.operands[1]?).getD ['x']
  let amountFor (what : String) (text : Chars) : Action Nat := do
    let fault : Chars := "invalid number of ".toList ++ what.toList ++ ": ".toList ++ quoted text
    match amount? amountLetters text with
    | .ok 0 => giveUp name fault 1
    | .ok n => pure n
    | .error more => giveUp name (fault ++ more) 1
  let ending ← match asked.value? "t" with
    | none => pure '\n'
    | some [c] => pure c
    | some ['\\', '0'] => pure '\x00'
    | some [] => giveUp name "empty record separator".toList 1
    | some text => giveUp name ("multi-character separator ".toList ++ quoted text) 1
  let chunks ← match asked.last? ["b", "C", "l", "n"] with
    | some ("n", text) =>
        match Chunks.parse text with
        | .ok chunks => pure (some chunks)
        | .error fault => giveUp name fault 1
    | _ => pure none
  let cutter : Chars → List Chars ← match asked.last? ["b", "C", "l", "n"] with
    | some ("b", text) => do
        let n ← amountFor "bytes" text
        pure fun text => inPieces n (text.length + 1) text
    | some ("C", text) => do
        let n ← amountFor "bytes" text
        pure fun text => byLineBytes n ending text
    | some ("n", _) => pure fun text => chunks.elim [] fun chunks => chunks.cut ending text
    | some (_, text) => do
        let n ← amountFor "lines" text
        pure fun text => let parts := recordsWith ending text; inGroups n (parts.length + 1) parts
    | none => pure fun text =>
        let parts := recordsWith ending text
        inGroups 1000 (parts.length + 1) parts
  let text ← match ← slurp file with
    | .ok text => pure text
    | .error errno =>
        giveUp name ("cannot open ".toList ++ shellQuoted file ++ " for reading: ".toList ++
          errno.text.toList) 1
  let alphabet := if asked.has "d" then "0123456789".toList
    else if asked.has "x" then "0123456789abcdef".toList
    else "abcdefghijklmnopqrstuvwxyz".toList
  let pieces := cutter text
  match chunks.bind (·.only) with
  | some number =>
      let _ ← put ((pieces[number - 1]?).getD [])
      Action.exit 0
  | none => pure ()
  let pieces := if asked.has "e" then pieces.filter (!·.isEmpty) else pieces
  let wanted ← match asked.value? "a" with
    | none => pure 0
    | some text =>
        match natural? text with
        | some n => pure n
        | none => giveUp name ("invalid suffix length: ".toList ++ quoted text) 1
  let first ← match asked.last? ["d", "x"] with
    | none | some (_, []) => pure 0
    | some (_, text) =>
        match natural? text with
        | some n => pure n
        | none => giveUp name (quoted text ++ ": invalid start value for numerical suffix".toList) 1
  let length := if wanted = 0 then 2 else wanted
  let rec write (number : Nat) : List Chars → Action Nat
    | [] => pure 0
    | piece :: rest => do
        if Nat.pow alphabet.length length ≤ number then
          giveUp name "output file suffixes exhausted".toList 1
        let target := start ++ pieceEnding alphabet length number ++
          (asked.value? "more").getD []
        if asked.has "verbose" then
          let _ ← put ("creating file ".toList ++ shellQuoted target ++ ['\n'])
        match ← Action.call (.open (path target) .write) with
        | .done descriptor => do
            let _ ← Action.write descriptor (Text.octetsOf piece)
            let _ ← Action.call (.close descriptor)
            write (number + 1) rest
        | .refused errno => giveUp name (nameSafe target ++ ": ".toList ++ errno.text.toList) 1
        | _ => pure 1
  write first pieces

end BatchLaunch.Tools
