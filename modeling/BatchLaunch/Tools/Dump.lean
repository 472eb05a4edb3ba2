import BatchLaunch.Text.Digest
import BatchLaunch.Tools.Flow

/-!
Programs that show octets in other forms: numbers in several bases, and letters for some bits at a
time.
-/
namespace BatchLaunch.Tools

open Host (Action)

/-! Letters for bits -/

structure Alphabet where
  bits : Nat
  letters : Chars
  group : Nat
  parts : List Nat
  lowestFirst : Bool

def upperLetters : Chars := "ABCDEFGHIJKLMNOPQRSTUVWXYZ".toList

def alphabet64 : Alphabet :=
  ⟨6, upperLetters ++ "abcdefghijklmnopqrstuvwxyz0123456789+/".toList, 4, [2, 3], false⟩

def alphabet64Url : Alphabet :=
  ⟨6, upperLetters ++ "abcdefghijklmnopqrstuvwxyz0123456789-_".toList, 4, [2, 3], false⟩

def alphabet32 : Alphabet := ⟨5, upperLetters ++ "234567".toList, 8, [2, 4, 5, 7], false⟩

def alphabet32Hex : Alphabet :=
  ⟨5, "0123456789".toList ++ upperLetters.take 22, 8, [2, 4, 5, 7], false⟩

def alphabet16 : Alphabet := ⟨4, "0123456789ABCDEF".toList, 2, [], false⟩

def alphabet2 (lowestFirst : Bool) : Alphabet := ⟨1, ['0', '1'], 8, [], lowestFirst⟩

namespace Alphabet

def encode (alphabet : Alphabet) (octets : Octets) : Chars :=
  let size := alphabet.bits * alphabet.group / 8
  (Text.Digest.blocks size (octets.length + 1) octets).flatMap fun block =>
    let value := Text.Digest.ofOctets (block ++ List.replicate (size - block.length) 0)
    let used := (block.length * 8 + alphabet.bits - 1) / alphabet.bits
    let letters := (List.range alphabet.group).map fun place =>
      if place < used then
        let shift := Nat.pow 2 (alphabet.bits * (alphabet.group - 1 - place))
        (alphabet.letters[value / shift % Nat.pow 2 alphabet.bits]?).getD '='
      else '='
    if alphabet.lowestFirst then letters.reverse else letters

def decodeGroup (alphabet : Alphabet) (group : Chars) : Octets × Bool :=
  let known := group.takeWhile fun c => alphabet.letters.contains c
  let ordered := if alphabet.lowestFirst then known.reverse else known
  let value := ordered.foldl (fun n c => n * Nat.pow 2 alphabet.bits +
    (alphabet.letters.findIdx? (· = c)).getD 0) 0
  let whole := value * Nat.pow 2 (alphabet.bits * (alphabet.group - known.length))
  let count := known.length * alphabet.bits / 8
  let rest := group.drop known.length
  let fine := known.length = alphabet.group || (group.length = alphabet.group &&
    alphabet.parts.contains known.length && rest.all (· = '='))
  let count := if alphabet.bits = 5 && group.length < alphabet.group then 0 else count
  ((Text.Digest.toOctets (alphabet.bits * alphabet.group / 8) whole).take count, fine)

def decodeGroups (alphabet : Alphabet) : List Chars → Octets × Bool
  | [] => ([], true)
  | group :: rest =>
      let (octets, fine) := alphabet.decodeGroup group
      if fine then
        let (more, allFine) := alphabet.decodeGroups rest
        (octets ++ more, allFine)
      else (octets, false)

def decode (alphabet : Alphabet) (text : Chars) : Octets × Bool :=
  alphabet.decodeGroups (Text.Digest.blocks alphabet.group (text.length + 1) text)

end Alphabet

structure Lettering where
  encode : Octets → Except Chars Chars
  decode : Chars → Octets × Bool
  letters : Chars

def Alphabet.lettering (alphabet : Alphabet) : Lettering :=
  ⟨fun octets => .ok (alphabet.encode octets), alphabet.decode, '=' :: alphabet.letters⟩

/-! Five letters for four octets -/

def letters85 : Chars := "0123456789".toList ++ upperLetters.map Char.toLower ++ upperLetters ++
  ".-:+=^!/*?&<>()[]\x7b\x7d@%$#".toList

def encode85 (octets : Octets) : Except Chars Chars :=
  if octets.length % 4 ≠ 0 then
    .error "invalid input (length must be multiple of 4 characters)".toList
  else
    .ok ((Text.Digest.blocks 4 (octets.length + 1) octets).flatMap fun block =>
      let value := Text.Digest.ofOctets block
      [4, 3, 2, 1, 0].map fun place =>
        (letters85[value / Nat.pow 85 place % 85]?).getD '0')

def decodeGroups85 : List Chars → Octets × Bool
  | [] => ([], true)
  | group :: rest =>
      let values := group.map fun c => letters85.findIdx? (· = c)
      let value := values.foldl (fun n found => n * 85 + found.getD 0) 0
      if group.length = 5 && values.all Option.isSome && value < Nat.pow 2 32 then
        let (more, fine) := decodeGroups85 rest
        (Text.Digest.toOctets 4 value ++ more, fine)
      else ([], false)

def lettering85 : Lettering :=
  ⟨encode85, fun text => decodeGroups85 (Text.Digest.blocks 5 (text.length + 1) text),
    '=' :: letters85⟩

/-! Programs -/

def lettersTable (more : List (String × String)) : OptionTable :=
  { letters := "diw:", mixed := true
    words := [("decode", "d"), ("ignore-garbage", "i"), ("wrap:", "w")] ++ more }

def failLetters {α : Type} (name file : Chars) (errno : Host.Errno) : Action α :=
  if errno = .isDirectory then giveUp name "read error: Is a directory".toList 1
  else giveUp name (nameSafe file ++ ": ".toList ++ errno.text.toList) 1

structure LetterProgress where
  octets : Octets
  line : Chars

def groupedOctets : Nat := 60

def letterLines (width : Nat) (letters : Chars) : Chars × Chars :=
  if width = 0 then (letters, [])
  else
    let count := letters.length - letters.length % width
    (endEach '\n' (Text.Digest.blocks width (letters.length + 1) (letters.take count)),
      letters.drop count)

def LetterProgress.step (width : Nat) (lettering : Lettering) (progress : LetterProgress)
    (text : Chars) : LetterProgress × Chars :=
  let octets := progress.octets ++ Text.octetsOf text
  let count := octets.length - octets.length % groupedOctets
  let letters := (lettering.encode (octets.take count)).toOption.getD []
  let (shown, line) := letterLines width (progress.line ++ letters)
  (⟨octets.drop count, line⟩, shown)

def writeLetters (name : Chars) (asked : Asked) (width : Nat) (lettering : Lettering) :
    Action Nat := do
  refuseExtra name asked 1 1 quoted
  let file := asked.operands.headD ['-']
  match ← openInput file with
  | .error errno => failLetters name file errno
  | .ok source =>
      if asked.has "d" then
        match ← Action.readAll source blockLimit with
        | .error errno => failLetters name file errno
        | .ok octets => do
            let admitted (c : Char) : Bool :=
              c ≠ '\n' && (!asked.has "i" || lettering.letters.contains c)
            let (octets, fine) := lettering.decode ((Text.charsOf octets).filter admitted)
            let _ ← Action.write output octets
            if fine then pure 0 else giveUp name "invalid input".toList 1
      else
        let (fault, flow) ← (Flow.start (⟨[], []⟩ : LetterProgress)).through source none
          (LetterProgress.step width lettering) blockLimit []
        match fault, lettering.encode flow.state.octets with
        | some errno, _ => failLetters name file errno
        | none, .error fault => do
            let _ ← flow.flush
            giveUp name fault 1
        | none, .ok letters =>
            let (shown, line) := letterLines width (flow.state.line ++ letters)
            let _ ← put (flow.held ++ shown ++ line ++
              (if line.isEmpty || width = 0 then [] else ['\n']))
            pure 0

def wrapWidth (name : Chars) (asked : Asked) : Action Nat :=
  match asked.value? "w" with
  | none => pure 76
  | some text => amountOf name "" "wrap size" text

def lettersTool (alphabet : Alphabet) : Tool := withOptions (lettersTable []) 1 fun name asked => do
  let width ← wrapWidth name asked
  writeLetters name asked width alphabet.lettering

def letterings : List (String × Lettering) := [
  ("base64", alphabet64.lettering), ("base64url", alphabet64Url.lettering),
  ("base32", alphabet32.lettering), ("base32hex", alphabet32Hex.lettering),
  ("base16", alphabet16.lettering), ("base2msbf", (alphabet2 false).lettering),
  ("base2lsbf", (alphabet2 true).lettering), ("z85", lettering85)]

def basenc : Tool := withOptions
  (lettersTable (letterings.map fun (word, _) => (word, word))) 1
  fun name asked => do
    let width ← wrapWidth name asked
    match (asked.last? (letterings.map (·.1))).bind fun entry => letterings.lookup entry.1 with
    | none => giveUpUse name "missing encoding type".toList 1
    | some lettering => writeLetters name asked width lettering

/-! Numbers -/

structure DumpForm where
  size : Nat
  width : Nat
  text : Octets → Chars
  withText : Bool

def charNames : List String := ["nul", "soh", "stx", "etx", "eot", "enq", "ack", "bel", "bs", "ht",
  "nl", "vt", "ff", "cr", "so", "si", "dle", "dc1", "dc2", "dc3", "dc4", "nak", "syn", "etb", "can",
  "em", "sub", "esc", "fs", "gs", "rs", "us", "sp"]

def wordOf (octets : Octets) : Nat := Text.Digest.ofOctets octets.reverse

def zeroPadded (width : Nat) (digits : Chars) : Chars :=
  List.replicate (width - digits.length) '0' ++ digits

def dumpForm? (letter : Char) (size : Nat) : Option DumpForm :=
  let widest (n : Nat) (base : Nat) : Nat := (Nat.toDigits base n).length
  let limit := Nat.pow 256 size
  match letter with
  | 'a' => some ⟨1, 3, fun octets =>
      let n := wordOf octets % 128
      if n = 127 then "del".toList
      else (charNames[n]?).elim [Char.ofNat n] String.toList, false⟩
  | 'c' => some ⟨1, 3, fun octets =>
      let n := wordOf octets
      if n = 0 then "\\0".toList
      else
        match controlLetter? (Char.ofNat n) with
        | some letter => ['\\', letter]
        | none => if 32 ≤ n && n < 127 then [Char.ofNat n] else zeroPadded 3 (Nat.toDigits 8 n),
      false⟩
  | 'o' =>
      let width := widest (limit - 1) 8
      some ⟨size, width, fun octets => zeroPadded width (Nat.toDigits 8 (wordOf octets)), false⟩
  | 'x' => some ⟨size, 2 * size, fun octets =>
      zeroPadded (2 * size) (Nat.toDigits 16 (wordOf octets)), false⟩
  | 'u' => some ⟨size, widest (limit - 1) 10, fun octets => natChars (wordOf octets), false⟩
  | 'd' => some ⟨size, widest (limit / 2) 10 + 1, fun octets =>
      let n := wordOf octets
      intChars (if limit / 2 ≤ n then (n : Int) - limit else n), false⟩
  | _ => none

def dumpForms (whole : Chars) : Nat → Chars → Except Chars (List DumpForm)
  | 0, _ => .ok []
  | _, [] => .ok []
  | fuel + 1, letter :: rest =>
      let sizes := [('C', 1), ('S', 2), ('I', 4), ('L', 8)]
      let digits := rest.takeWhile Char.isDigit
      let (size, behind) := match rest with
        | c :: more =>
            if letter = 'a' || letter = 'c' then (1, rest)
            else
              match sizes.lookup c with
              | some size => (size, more)
              | none => ((natural? digits).getD 4, rest.drop digits.length)
        | [] => (if letter = 'a' || letter = 'c' then 1 else 4, [])
      let (withText, behind) := if behind.head? = some 'z' then (true, behind.drop 1)
        else (false, behind)
      if !([1, 2, 4, 8].contains size) then
        .error ("invalid type string ".toList ++ quoted whole ++
          ";\nthis system doesn't provide a ".toList
          ++ natChars size ++ "-byte integral type".toList)
      else
        match dumpForm? letter size with
        | none => .error ("invalid character '".toList ++ letter :: "' in type string ".toList ++
            quoted whole)
        | some form => (dumpForms whole fuel behind).map ({ form with withText := withText } :: ·)

def dumpLetters : List (String × String) := [
  ("a", "a"), ("b", "o1"), ("c", "c"), ("d", "u2"), ("i", "dI"), ("l", "dL"), ("o", "o2"),
  ("s", "d2"), ("x", "x2")]

def dumpLine (form : DumpForm) (total blockSize : Nat) (octets : Octets) : Chars :=
  let fields := blockSize / form.size
  let padding := total - fields * form.width
  let parts := Text.Digest.blocks form.size (octets.length + 1) octets
  let shown := parts.zipIdx.flatMap fun (part, place) =>
    let left := padding * (fields - place) / fields
    let next := padding * (fields - place - 1) / fields
    let part := part ++ List.replicate (form.size - part.length) 0
    padLeft (left - next + form.width) (form.text part)
  if !form.withText then shown
  else padRight total shown ++ "  >".toList ++ (octets.map fun octet =>
    if 32 ≤ octet.toNat && octet.toNat < 127 then Char.ofNat octet.toNat else '.') ++ ['<']

structure Dump where
  size : Nat
  all : Bool
  address : Nat → Chars
  lines : Octets → List Chars

structure Dumping where
  place : Nat
  skip : Nat
  left : Option Nat
  begun : Octets
  before : Option Octets
  starred : Bool

namespace Dump

def blockText (dump : Dump) (place : Nat) (block : Octets) : Chars :=
  let start := dump.address place
  ((dump.lines block).zipIdx.flatMap fun (text, index) =>
    (if index = 0 then start else List.replicate start.length ' ') ++ text ++ ['\n'])

def block (dump : Dump) (dumping : Dumping) (block : Octets) : Dumping × Chars :=
  let next := { dumping with place := dumping.place + block.length, before := some block }
  if !dump.all && dumping.before = some block then
    ({ next with starred := true }, if dumping.starred then [] else "*\n".toList)
  else ({ next with starred := false }, dump.blockText dumping.place block)

def take (dump : Dump) (dumping : Dumping) (octets : Octets) : Dumping × Chars :=
  let found := octets.drop dumping.skip
  let found := dumping.left.elim found found.take
  let whole := dumping.begun ++ found
  let count := whole.length - whole.length % dump.size
  let (dumping, shown) := (Text.Digest.blocks dump.size (whole.length + 1) (whole.take count)).foldl
    (fun (dumping, shown) octets =>
      let (dumping, text) := dump.block dumping octets
      (dumping, text :: shown))
    ({ dumping with
        skip := dumping.skip - octets.length
        left := dumping.left.map (· - found.length) }, [])
  ({ dumping with begun := whole.drop count }, shown.reverse.flatten)

def finish (dump : Dump) (dumping : Dumping) : Chars :=
  let last := dump.address (dumping.place + dumping.begun.length)
  (if dumping.begun.isEmpty then [] else dump.blockText dumping.place dumping.begun) ++
    (if last.isEmpty then [] else last ++ ['\n'])

def through (dump : Dump) (source : Host.Descriptor) :
    Nat → Flow Dumping → Action (Option Host.Errno × Flow Dumping)
  | 0, flow => pure (none, flow)
  | fuel + 1, flow => do
      let count := flow.state.left.elim 65536 fun left => min (flow.state.skip + left) 65536
      if count = 0 || flow.refused then pure (none, flow)
      else
        match ← Action.call (.read source count) with
        | .octets [] => pure (none, flow)
        | .octets octets => do
            let flow ← (flow.take (fun dumping text => dump.take dumping (Text.octetsOf text))
              (Text.charsOf octets)).release
            through dump source fuel flow
        | .refused errno => pure (some errno, flow)
        | _ => pure (none, flow)

/-- Shows files, one after the other as if they were one. The answer tells whether any could be
opened, and whether all was well. -/
def files (dump : Dump) (name : Chars) :
    List Chars → Flow Dumping → Action ((Bool × Bool) × Flow Dumping)
  | [], flow => pure ((false, true), flow)
  | file :: rest, flow => do
      let fail (errno : Host.Errno) (flow : Flow Dumping) : Action (Flow Dumping) := do
        let flow ← flow.flush
        complainOfFile name file errno
        pure flow
      if flow.state.skip = 0 && flow.state.left = some 0 then pure ((true, true), flow)
      else
        match ← openInput file with
        | .error errno => do
            let flow ← fail errno flow
            let ((opened, _), flow) ← dump.files name rest flow
            pure ((opened, false), flow)
        | .ok source => do
            let (fault, flow) ← dump.through source blockLimit flow
            if source ≠ 0 then
              let _ ← Action.call (.close source)
            let flow ← match fault with
              | some errno => fail errno flow
              | none => pure flow
            let ((_, fine), flow) ← dump.files name rest flow
            pure ((true, fine && fault.isNone), flow)

def strings (least : Nat) : Nat → Chars → Octets → List (Nat × Chars)
  | _, _, [] => []
  | place, found, octet :: rest =>
      if octet = 0 then
        (if least ≤ found.length then [(place - found.length, found.reverse)] else []) ++
          strings least (place + 1) [] rest
      else if 32 ≤ octet.toNat && octet.toNat < 127 then
        strings least (place + 1) (Char.ofNat octet.toNat :: found) rest
      else strings least (place + 1) [] rest

end Dump

def inBaseTen (text : Chars) : Chars :=
  let convert (base : Nat) (isOne : Char → Bool) (rest : Chars) : Chars :=
    let digits := rest.takeWhile isOne
    if digits.isEmpty then text
    else natChars (digits.foldl (fun n c =>
      n * base + (if c.isDigit then c.toNat - 48 else c.toLower.toNat - 87)) 0) ++
      rest.drop digits.length
  match text with
  | '0' :: 'x' :: rest | '0' :: 'X' :: rest =>
      convert 16 (fun c => c.isDigit || ('a' ≤ c.toLower && c.toLower ≤ 'f')) rest
  | '0' :: rest => convert 8 (fun c => '0' ≤ c && c ≤ '7') rest
  | _ => text

def od : Tool := withOptions
  { letters := "A:abcdfij:lN:oS:st:vw::x", mixed := true
    words := [("skip-bytes:", "j"), ("address-radix:", "A"), ("read-bytes:", "N"),
      ("format:", "t"), ("output-duplicates", "v"), ("strings::", "S"), ("width::", "w")] } 1
  fun name asked => do
    let radix := ((asked.value? "A").getD ['o']).headD '?'
    if !"doxn".toList.contains radix then
      giveUpUse name ("invalid output address radix '".toList ++ (if radix = '?' then [] else [radix])
        ++ "'; it must be one character from [doxn]".toList) 1
    let argument (option : String) (text : Chars) : Action Nat :=
      argumentOf name option amountLetters 1 (inBaseTen text)
    let skipped ← (asked.value? "j").mapM (argument "-j")
    let count ← (asked.value? "N").mapM (argument "-N")
    let types := asked.given.filterMap fun (key, value) =>
      if key = "t" then some value else (dumpLetters.lookup key).map String.toList
    let forms ← (if types.isEmpty then ["o2".toList] else types).mapM fun text =>
      match dumpForms text (text.length + 1) text with
      | .ok forms => pure forms
      | .error fault => giveUp name fault 1
    let forms := forms.flatten
    let step := (forms.map DumpForm.size).foldl max 1
    let width ← match asked.value? "w" with
      | none => pure (max 16 step)
      | some [] => pure 32
      | some text => do
          let wanted ← argument "-w" text
          if wanted = 0 || wanted % step ≠ 0 then
            complain name ("warning: invalid width ".toList ++ natChars wanted ++
              "; using ".toList ++ natChars step ++ " instead".toList)
            pure step
          else pure wanted
    let least ← (asked.value? "S").mapM fun text =>
      if text.isEmpty then pure 3 else argument "-S" text
    let address (n : Nat) : Chars :=
      match radix with
      | 'd' => zeroPadded 7 (Nat.toDigits 10 n)
      | 'o' => zeroPadded 7 (Nat.toDigits 8 n)
      | 'x' => zeroPadded 6 (Nat.toDigits 16 n)
      | _ => []
    let total := (forms.map fun form => width / form.size * (form.width + 1)).foldl max 0
    let start := skipped.getD 0
    if let some least := least then
      let texts ← (filesOf asked).mapM fun file => textOrGiveUp name file 1
      let octets := Text.octetsOf (texts.flatten.drop start)
      let found := Dump.strings least start [] (count.elim octets octets.take)
      let _ ← put (found.flatMap fun (place, text) =>
        address place ++ (if radix = 'n' then [] else [' ']) ++ text ++ ['\n'])
      Action.exit 0
    let dump : Dump := ⟨width, asked.has "v", address, fun block =>
      forms.map fun form => dumpLine form total width block⟩
    let ((opened, fine), flow) ← dump.files name (filesOf asked)
      (.start ⟨start, start, count, [], none, false⟩)
    if !opened then Action.exit 1
    if 0 < flow.state.skip then giveUp name "cannot skip past end of combined input".toList 1
    let _ ← put (flow.held ++ dump.finish flow.state)
    pure (if fine then 0 else 1)

end BatchLaunch.Tools
