import BatchLaunch.Text.Digest.Blake
import BatchLaunch.Text.Digest
import BatchLaunch.Tools.Inputs

/-!
Programs that show digests and check sums of files, and check them against lists.
-/
namespace BatchLaunch.Tools

open Host (Action Errno)

namespace Digests

structure Kind where
  label : String
  size : Nat
  sized : Bool
  digest : Nat → Octets → Octets

def plainKind (label : String) (size : Nat) (digest : Octets → Octets) : Kind :=
  ⟨label, size, false, fun _ => digest⟩

def md5 : Kind := plainKind "MD5" 16 Text.Digest.md5

def sha1 : Kind := plainKind "SHA1" 20 Text.Digest.sha1

def sha224 : Kind := plainKind "SHA224" 28 Text.Digest.sha224

def sha256 : Kind := plainKind "SHA256" 32 Text.Digest.sha256

def sha384 : Kind := plainKind "SHA384" 48 Text.Digest.sha384

def sha512 : Kind := plainKind "SHA512" 64 Text.Digest.sha512

def blake : Kind := ⟨"BLAKE2b", 64, true, Text.Digest.Blake.digest⟩

def sm3 : Kind := plainKind "SM3" 32 Text.Digest.Sm3.digest

def hexText (octets : Octets) : Chars :=
  octets.flatMap fun octet =>
    let digits := Nat.toDigits 16 octet.toNat
    List.replicate (2 - digits.length) '0' ++ digits

/-! Names -/

def isProblem (c : Char) : Bool := c = '\\' || c = '\n' || c = '\r'

def escapedName (file : Chars) : Chars :=
  file.flatMap fun c =>
    match c with
    | '\\' => "\\\\".toList
    | '\n' => "\\n".toList
    | '\r' => "\\r".toList
    | c => [c]

def unescapedName? : Chars → Option Chars
  | [] => some []
  | '\\' :: '\\' :: rest => (unescapedName? rest).map ('\\' :: ·)
  | '\\' :: 'n' :: rest => (unescapedName? rest).map ('\n' :: ·)
  | '\\' :: 'r' :: rest => (unescapedName? rest).map ('\r' :: ·)
  | '\\' :: _ => none
  | c :: rest => (unescapedName? rest).map (c :: ·)

def shownFile (file : Chars) : Chars :=
  if file.any isProblem then '\\' :: escapedName file else file

structure Form where
  tagged : Bool
  binary : Bool
  zero : Bool

def Form.line (form : Form) (kind : Kind) (size : Nat) (digest : Octets) (file : Chars) : Chars :=
  let escapes := !form.zero && file.any isProblem
  let shown := if escapes then escapedName file else file
  (if escapes then ['\\'] else []) ++
    (if form.tagged then
      kind.label.toList ++ (if size < kind.size then '-' :: natChars (size * 8) else []) ++
        " (".toList ++ shown ++ ") = ".toList ++ hexText digest
    else hexText digest ++ [' ', if form.binary then '*' else ' '] ++ shown) ++
    [if form.zero then '\x00' else '\n']

/-! Checking -/

structure Entry where
  kind : Kind
  size : Nat
  digest : Chars
  file : Chars

def isHexDigit (c : Char) : Bool := c.isDigit || ('a' ≤ c.toLower && c.toLower ≤ 'f')

def named? (escaped : Bool) (file : Chars) : Option Chars :=
  if escaped then unescapedName? file else some file

def taggedLine? (kind : Kind) (escaped : Bool) (text : Chars) : Option Entry := do
  let (size, text) ←
    if kind.sized && text.head? = some '-' then
      let digits := (text.drop 1).takeWhile Char.isDigit
      let bits := (natural? digits).getD 0
      if bits = 0 || bits % 8 ≠ 0 || kind.size * 8 < bits then none
      else some (bits / 8, text.drop (1 + digits.length))
    else some (kind.size, text)
  let text := if text.head? = some ' ' then text.drop 1 else text
  if text.head? ≠ some '(' then none
  let body := text.drop 1
  let behind := (body.reverse.takeWhile (· ≠ ')')).reverse
  if behind.length = body.length then none
  let file ← named? escaped (body.take (body.length - behind.length - 1))
  let rest := behind.dropWhile isBlankChar
  if rest.head? ≠ some '=' then none
  let digest := (rest.drop 1).dropWhile isBlankChar
  if digest.length = 2 * size && digest.all isHexDigit then some ⟨kind, size, digest, file⟩
  else none

/-- The entry of a line without the name of a kind, and whether the name of the file follows at
once; lines of one list are all alike in that. -/
def untaggedLine? (kind : Kind) (escaped : Bool) (alike : Option Bool) (text : Chars) :
    Option (Entry × Bool) := do
  let size := if kind.sized then (text.takeWhile isHexDigit).length / 2 else kind.size
  if kind.sized && (size = 0 || kind.size < size || (text.takeWhile isHexDigit).length % 2 = 1) then
    none
  if text.length < (if kind.sized then 1 else 2 * size) + 2 then none
  let digest := text.take (2 * size)
  let rest := text.drop (2 * size)
  if !(rest.head?.any isBlankChar) || !digest.all isHexDigit then none
  let rest := rest.drop 1
  let atOnce := rest.length = 1 || (rest.head? ≠ some ' ' && rest.head? ≠ some '*')
  if atOnce && alike = some false then none
  let atOnce := atOnce || alike = some true
  let file ← named? escaped (if atOnce then rest else rest.drop 1)
  some (⟨kind, size, digest, file⟩, atOnce)

def lineEntry (tagged : List Kind) (untagged : Option Kind) (alike : Option Bool) (line : Chars) :
    Option (Entry × Option Bool) := do
  let text := line.dropWhile isBlankChar
  let escaped := text.head? = some '\\'
  let text := if escaped then text.drop 1 else text
  match tagged.find? fun kind => kind.label.toList.isPrefixOf text with
  | some kind =>
      (taggedLine? kind escaped (text.drop kind.label.length)).map fun entry => (entry, alike)
  | none =>
      let kind ← untagged
      (untaggedLine? kind escaped alike text).map fun (entry, atOnce) => (entry, some atOnce)

structure Manner where
  silent : Bool
  warns : Bool
  quiet : Bool
  strict : Bool
  skipsMissing : Bool

structure Found where
  misformed : Nat
  unreadable : Nat
  different : Nat
  proper : Bool
  matched : Bool
  alike : Option Bool

def warn (name : Chars) (count : Nat) (single several : String) : Action Unit :=
  if count = 0 then pure ()
  else complain name ("WARNING: ".toList ++ natChars count ++ ' ' ::
    (if count = 1 then single else several).toList)

structure Checker where
  name : Chars
  manner : Manner
  tagged : List Kind
  untagged : Option Kind
  label : String

def Checker.checkEntry (checker : Checker) (entry : Entry) (found : Found) : Action Found := do
  let found := { found with proper := true }
  match ← slurp entry.file with
  | .error errno =>
      if checker.manner.skipsMissing && errno = .noEntry then pure found
      else
        complainOfFile checker.name entry.file errno
        if !checker.manner.silent then
          let _ ← put (shownFile entry.file ++ ": FAILED open or read\n".toList)
        pure { found with unreadable := found.unreadable + 1 }
  | .ok text =>
      let digest := entry.kind.digest entry.size (Text.octetsOf text)
      let same := hexText digest = entry.digest.map Char.toLower
      if !checker.manner.silent && !(same && checker.manner.quiet) then
        let _ ← put (shownFile entry.file ++ (if same then ": OK\n" else ": FAILED\n").toList)
      pure { found with
        matched := found.matched || same
        different := if same then found.different else found.different + 1 }

def Checker.checkLines (checker : Checker) (list : Chars) (isInput : Bool) :
    Nat → List Chars → Found → Action Found
  | _, [], found => pure found
  | number, line :: rest, found => do
      let bare := if line.getLast? = some '\n' then line.dropLast else line
      let bare := if bare.getLast? = some '\r' then bare.dropLast else bare
      let found ←
        if line.head? = some '#' || bare.isEmpty then pure found
        else
          let entry := (lineEntry checker.tagged checker.untagged found.alike bare).filter
            fun (entry, _) => !(isInput && entry.file = ['-'])
          match entry with
          | some (entry, alike) => checker.checkEntry entry { found with alike := alike }
          | none =>
              if checker.manner.warns then
                complain checker.name (list ++ ": ".toList ++ natChars number ++
                  ": improperly formatted ".toList ++ checker.label.toList ++
                  " checksum line".toList)
              pure { found with misformed := found.misformed + 1 }
      checker.checkLines list isInput (number + 1) rest found

def Checker.check (checker : Checker) (list : Chars) : Action Bool := do
  let shown := nameSafe (shownName list)
  match ← slurp list with
  | .error .isDirectory =>
      complain checker.name (shown ++ ": read error".toList)
      pure false
  | .error errno =>
      complain checker.name (shown ++ ": ".toList ++ errno.text.toList)
      pure false
  | .ok text =>
      let found ← checker.checkLines shown (list = ['-']) 1 (fullLines text)
        ⟨0, 0, 0, false, false, none⟩
      if !found.proper then
        complain checker.name (shown ++ ": no properly formatted checksum lines found".toList)
      else if !checker.manner.silent then
        warn checker.name found.misformed "line is improperly formatted"
          "lines are improperly formatted"
        warn checker.name found.unreadable "listed file could not be read"
          "listed files could not be read"
        warn checker.name found.different "computed checksum did NOT match"
          "computed checksums did NOT match"
        if checker.manner.skipsMissing && !found.matched then
          complain checker.name (shown ++ ": no file was verified".toList)
      pure (found.proper && found.matched && found.different = 0 && found.unreadable = 0 &&
        !(checker.manner.strict && found.misformed ≠ 0))

/-! Programs -/

def commonWords : List (String × String) := [
  ("binary", "b"), ("check", "c"), ("text", "t"), ("tag", "tag"), ("quiet", "quiet"),
  ("status", "status"), ("strict", "strict"), ("warn", "w"), ("zero", "z"),
  ("ignore-missing", "ignore-missing")]

def useFault? (asked : Asked) (tagsAlways : Bool) : Option String :=
  let mode := (asked.last? ["b", "t", "tag"]).map (·.1)
  let manner := (asked.last? ["status", "w", "quiet"]).map (·.1)
  let onlyInChecks (option : String) : String :=
    "the --" ++ option ++ " option is meaningful only when verifying checksums"
  if !tagsAlways && asked.has "tag" && mode = some "t" then
    some "--tag does not support --text mode"
  else if asked.has "c" then
    if asked.has "z" then
      some "the --zero option is not supported when verifying checksums"
    else if asked.has "tag" then
      some "the --tag option is meaningless when verifying checksums"
    else if mode.isSome then
      some "the --binary and --text options are meaningless when verifying checksums"
    else none
  else if asked.has "ignore-missing" then some (onlyInChecks "ignore-missing")
  else
    match manner with
    | some "status" => some (onlyInChecks "status")
    | some "w" => some (onlyInChecks "warn")
    | some "quiet" => some (onlyInChecks "quiet")
    | _ => if asked.has "strict" then some (onlyInChecks "strict") else none

def mannerOf (asked : Asked) : Manner :=
  let manner := (asked.last? ["status", "w", "quiet"]).map (·.1)
  ⟨manner = some "status", manner = some "w", manner = some "quiet", asked.has "strict",
    asked.has "ignore-missing"⟩

def showAll (name : Chars) (asked : Asked) (kind : Kind) (size : Nat) (form : Form) : Action Nat :=
  forEach (filesOf asked) fun file => do
    match ← slurp file with
    | .ok text => put (form.line kind size (kind.digest size (Text.octetsOf text)) file)
    | .error errno =>
        complainOfFile name file errno
        pure false

def sizeOf (name : Chars) (asked : Asked) (kind : Kind) : Action Nat :=
  match asked.value? "l" with
  | none => pure kind.size
  | some text => do
      let bits ← amountOf name "" "length" text
      if bits % 8 ≠ 0 then
        complain name ("invalid length: ".toList ++ quoted text)
        giveUp name "length is not a multiple of 8".toList 1
      else if kind.size * 8 < bits then
        complain name ("invalid length: ".toList ++ quoted text)
        giveUp name ("maximum digest length for ".toList ++ quoted kind.label.toList ++
            " is ".toList ++
          natChars (kind.size * 8) ++ " bits".toList) 1
      else pure (if bits = 0 then kind.size else bits / 8)

def tool (kind : Kind) : Tool := withOptions
  { letters := if kind.sized then "bcl:twz" else "bctwz", mixed := true
    words := commonWords ++ (if kind.sized then [("length:", "l")] else []) } 1
  fun name asked => do
    let size ← sizeOf name asked kind
    if let some fault := useFault? asked false then giveUpUse name fault.toList 1
    if asked.has "c" then
      let checker : Checker := ⟨name, mannerOf asked, [kind], some kind, kind.label⟩
      forEach (filesOf asked) checker.check
    else
      let mode := (asked.last? ["b", "t", "tag"]).map (·.1)
      showAll name asked kind size
        ⟨asked.has "tag", mode.any (· ≠ "t"), asked.has "z"⟩

/-! Check sums -/

structure SumForm where
  sum : Octets → Nat
  block : Nat
  width : Nat

def bsdForm : SumForm := ⟨Text.Digest.turnedSum, 1024, 5⟩

def sysvForm : SumForm := ⟨Text.Digest.plainSum, 512, 0⟩

def crcForm : SumForm := ⟨Text.Digest.crc, 1, 0⟩

/-- Shows check sums, and the names of files unless the standard input is read. -/
def sums (name : Chars) (asked : Asked) (form : SumForm) (zero : Bool) : Action Nat :=
  forEach (filesOf asked) fun file => do
    match ← slurp file with
    | .error errno =>
        complainOfFile name file errno
        pure false
    | .ok text =>
        let octets := Text.octetsOf text
        let digits := natChars (form.sum octets)
        put (List.replicate (form.width - digits.length) '0' ++ digits ++ ' ' ::
          padLeft form.width (natChars ((octets.length + form.block - 1) / form.block)) ++
          (if asked.operands.isEmpty then [] else ' ' :: file) ++ [if zero then '\x00' else '\n'])

end Digests

open Digests in
def digestTools : List (String × Tool) := [
  ("b2sum", tool blake), ("md5sum", tool md5), ("sha1sum", tool sha1), ("sha224sum", tool sha224),
  ("sha256sum", tool sha256), ("sha384sum", tool sha384), ("sha512sum", tool sha512)]

def sum : Tool := withOptions
  { letters := "rs", words := [("sysv", "s")], mixed := true } 1
  fun name asked =>
    let sysv := (asked.last? ["r", "s"]).any (·.1 = "s")
    Digests.sums name asked (if sysv then Digests.sysvForm else Digests.bsdForm) false

inductive SumKind where
  | form (form : Digests.SumForm)
  | kind (kind : Digests.Kind)

def SumKind.choices : List (String × SumKind) := [
  ("bsd", .form Digests.bsdForm), ("sysv", .form Digests.sysvForm),
  ("crc", .form Digests.crcForm), ("md5", .kind Digests.md5), ("sha1", .kind Digests.sha1),
  ("sha224", .kind Digests.sha224), ("sha256", .kind Digests.sha256),
  ("sha384", .kind Digests.sha384), ("sha512", .kind Digests.sha512),
  ("blake2b", .kind Digests.blake), ("sm3", .kind Digests.sm3)]

open Digests in
def cksum : Tool := withOptions
  { letters := "a:bcl:twz", mixed := true
    words := commonWords ++ [("algorithm:", "a"), ("debug", "debug"), ("length:", "l"),
      ("untagged", "untagged")] } 1
  fun name asked => do
    let chosen ← match asked.value? "a" with
      | none => pure (.form crcForm)
      | some text =>
          choiceOf name "--algorithm" (SumKind.choices.map fun (word, kind) => ([word], kind)) text
    let isBlake := match chosen with
      | .kind kind => kind.sized
      | .form _ => false
    let size ← if asked.has "l" && !isBlake then
        (if (← sizeOf name asked blake) = blake.size && asked.value? "l" = some ['0'] then pure 0
        else giveUp name "--length is only supported with --algorithm=blake2b".toList 1)
      else match chosen with
        | .kind kind => sizeOf name asked kind
        | .form _ => pure 0
    let isForm := match chosen with
      | .kind _ => false
      | .form _ => true
    if asked.has "c" && isForm && asked.has "a" then
      giveUp name "--check is not supported with --algorithm=\x7bbsd,sysv,crc\x7d".toList 1
    if let some fault := useFault? asked true then giveUpUse name fault.toList 1
    match chosen with
    | .form form =>
        if asked.has "c" then
          let kinds := SumKind.choices.filterMap fun (_, kind) =>
            match kind with
            | .kind kind => some kind
            | .form _ => none
          let checker : Checker := ⟨name, mannerOf asked, kinds, none, "CRC"⟩
          forEach (filesOf asked) checker.check
        else sums name asked form (asked.has "z")
    | .kind kind =>
        if asked.has "c" then
          let checker : Checker := ⟨name, mannerOf asked, [kind], some kind, kind.label⟩
          forEach (filesOf asked) checker.check
        else
          let untagged := (asked.last? ["tag", "untagged"]).any (·.1 = "untagged")
          let binary := (asked.last? ["b", "t"]).any (·.1 = "b")
          showAll name asked kind size ⟨!untagged, binary, asked.has "z"⟩

end BatchLaunch.Tools
