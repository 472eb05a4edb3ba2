import BatchLaunch.Text.Regex.Parse
import BatchLaunch.Tools.Clock
import BatchLaunch.Tools.Order
import BatchLaunch.Tools.Printf
import BatchLaunch.Tools.Removing

/-!
Programs that tell what is known of files.
-/
namespace BatchLaunch.Tools

open Host (Action Call Reply Errno Info)

/-! The people who own files: one user, and the one that the system belongs to. -/

def userNumber : Nat := 65534

def userName : Chars := "nobody".toList

def groupName : Chars := "nogroup".toList

def ownerOf (info : Info) : Nat × Chars :=
  if info.own then (userNumber, userName) else (0, "root".toList)

def groupOf (info : Info) : Nat × Chars :=
  if info.own then (userNumber, groupName) else (0, "root".toList)

def blocksOf (info : Info) : Nat :=
  match info.kind with
  | .file | .directory => (info.size + 4095) / 4096 * 4
  | _ => 0

def humanSize (n : Nat) : Chars :=
  let rec go : Nat → Nat → Chars → Chars
    | _, _, [] => natChars n
    | 0, _, _ => natChars n
    | fuel + 1, unit, letter :: rest =>
        let tenths := (n * 10 + unit - 1) / unit
        if tenths ≤ 99 then
          natChars (tenths / 10) ++ '.' :: natChars (tenths % 10) ++ [letter]
        else
          let whole := (n + unit - 1) / unit
          if whole < 1024 then natChars whole ++ [letter] else go fuel (unit * 1024) rest
  if n < 1024 then natChars n else go 8 1024 "KMGTPEZY".toList

structure Entry where
  name : Chars
  info : Info
  target : Option Chars
  behind : Option Info

def indicator (info : Info) : Chars :=
  match info.kind with
  | .directory => ['/']
  | .link => ['@']
  | .pipe => ['|']
  | .file => if info.mode &&& 0o111 ≠ 0 then ['*'] else []
  | .device => []

inductive Layout where
  | single
  | long
  | commas
  | columns
  | rows
  deriving DecidableEq, Repr

def lsOptions : OptionTable :=
  ⟨"abcdfghiklmnopqrstuvw:xABCDFGHI:LNQRST:UXZ1", [("all", "a"), ("almost-all", "A"),
    ("author", "author"), ("classify::", "F"), ("color::", "color"), ("dereference", "L"),
    ("directory", "d"), ("escape", "b"), ("file-type", "file-type"), ("format:", "format"),
    ("full-time", "full-time"), ("group-directories-first", "dirs-first"), ("hide:", "hide"),
    ("human-readable", "h"), ("ignore:", "I"), ("ignore-backups", "B"), ("inode", "i"),
    ("kibibytes", "k"), ("literal", "N"), ("no-group", "G"), ("numeric-uid-gid", "n"),
    ("quote-name", "Q"), ("recursive", "R"), ("reverse", "r"), ("size", "s"), ("sort:", "sort"),
    ("time:", "time"), ("time-style:", "style"), ("width:", "w"), ("zero", "zero"),
    ("block-size:", "block"), ("dereference-command-line", "H"),
    ("hide-control-chars", "q"), ("indicator-style:", "sign"), ("quoting-style:", "quoting"),
    ("show-control-chars", "plain"), ("si", "si"), ("tabsize:", "T")], true⟩

inductive NameQuoting where
  | literal
  | shell (always : Bool)
  | plainShell (always : Bool)
  | escape
  | marks (always : Bool)
  | typographic
  deriving DecidableEq, Repr

def quotingStyles : List (List String × NameQuoting) := [
  (["literal"], .literal), (["shell"], .plainShell false),
  (["shell-always"], .plainShell true),
  (["shell-escape"], .shell false), (["shell-escape-always"], .shell true), (["c"], .marks true),
  (["c-maybe"], .marks false), (["escape"], .escape), (["locale"], .typographic),
  (["clocale"], .typographic)]

def signStyles : List (List String × String) := [
  (["none"], ""), (["slash"], "p"), (["file-type"], "file-type"), (["classify"], "F")]

def sortWords : List (List String × String) := [
  (["none"], "U"), (["time"], "t"), (["size"], "S"), (["extension"], "X"), (["version"], "v"),
  (["width"], "width")]

def colorWords : List (List String × Unit) := [
  (["always", "yes", "force"], ()), (["never", "no", "none"], ()),
  (["auto", "tty", "if-tty"], ())]

def formatWords : List (List String × Layout) := [
  (["verbose", "long"], .long), (["commas"], .commas), (["horizontal", "across"], .rows),
  (["vertical"], .columns), (["single-column"], .single)]

structure ListingStyle where
  asked : Asked
  layout : Layout
  now : Calendar.Moment
  quoting : NameQuoting
  signs : String
  sortedBy : String
  unit : Nat

namespace ListingStyle

def has (style : ListingStyle) (key : String) : Bool := style.asked.has key

def nameOf (style : ListingStyle) (entry : Entry) : Chars :=
  let name := if style.has "q" then entry.name.map fun c => if isControl c then '?' else c
    else entry.name
  let shown := match style.quoting with
    | .literal => name
    | .shell always => if always then shellQuoted entry.name else shellSafe entry.name
    | .plainShell always =>
        let plain := if always then plainQuoted entry.name else plainSafe entry.name
        if style.has "q" then plain.map fun c => if isControl c then '?' else c else plain
    | .typographic => quoted entry.name
    | .marks always =>
        let inside := name.flatMap fun c =>
          if c = '"' || c = '\\' then ['\\', c] else if isControl c then escaped c else [c]
        if always || inside ≠ name then '"' :: inside ++ ['"'] else name
    | .escape => name.flatMap fun c =>
        if c = '\\' || c = ' ' then ['\\', c] else if isControl c then escaped c else [c]
  let sign (info : Info) : Chars :=
    match style.signs with
    | "F" => indicator info
    | "file-type" => if info.kind = .file then [] else indicator info
    | "p" => if info.kind = .directory then ['/'] else []
    | _ => []
  match entry.target with
  | some target =>
      if style.layout = .long then
        shown ++ " -> ".toList ++ target ++ (entry.behind.elim [] sign)
      else shown ++ sign entry.info
  | none => shown ++ sign entry.info

def sizeText (style : ListingStyle) (n : Nat) : Chars :=
  if style.has "h" then humanSize n else natChars ((n + style.unit - 1) / style.unit)

def blocksText (style : ListingStyle) (blocks : Nat) : Chars :=
  if style.has "h" then humanSize (blocks * 1024)
  else if style.unit = 1 && !style.has "block" then natChars blocks
  else natChars ((blocks * 1024 + style.unit - 1) / style.unit)

/-- A time, exactly or in short: the time of day for the last half year, else the year. -/
def timeText (style : ListingStyle) (info : Info) : Chars :=
  let moment := momentOf info.modified
  let styleName := String.ofList ((style.asked.value? "style").getD [])
  if style.has "full-time" || styleName = "full-iso" then
    moment.shown "%Y-%m-%d %H:%M:%S.%N %z".toList
  else
    let recent := moment.seconds ≤ style.now.seconds &&
      style.now.seconds < moment.seconds + 31556952 / 2
    match styleName with
    | "long-iso" => moment.shown "%Y-%m-%d %H:%M".toList
    | "iso" => moment.shown (if recent then "%m-%d %H:%M" else "%Y-%m-%d ").toList
    | name =>
        match name.toList with
        | '+' :: pattern => moment.shown pattern
        | _ => moment.shown (if recent then "%b %e %H:%M" else "%b %e  %Y").toList

def columnsOf (style : ListingStyle) (entry : Entry) : List (Chars × Bool) :=
  let info := entry.info
  let numbers := style.has "n"
  let person (who : Nat × Chars) : Chars := if numbers then natChars who.1 else who.2
  let front (key : String) (text : Chars) : List (Chars × Bool) :=
    if style.has key then [(text, false)] else []
  front "i" (natChars info.node) ++
    front "s" (style.blocksText (blocksOf info)) ++
    (if style.layout ≠ .long then []
    else
      [(kindLetter info.kind :: Mode.letters info.mode, true), (natChars info.links, false)] ++
        (if style.has "g" then [] else [(person (ownerOf info), !numbers)]) ++
        (if style.has "o" || style.has "G" then [] else [(person (groupOf info), !numbers)]) ++
        (if style.has "author" then [(person (ownerOf info), !numbers)] else []) ++
        [(if info.kind = .device then "1, 3".toList else style.sizeText info.size, false),
          (style.timeText info, true)])

def linesOf (style : ListingStyle) (entries : List Entry) : List Chars :=
  let rows := entries.map style.columnsOf
  let widths := rows.foldl (fun widths row =>
    (List.range row.length).map fun place =>
      max ((widths[place]?).getD 0) ((row[place]?).elim 0 fun cell => cell.1.length)) []
  (rows.zip entries).map fun (row, entry) =>
    ((row.zip widths).flatMap fun ((text, left), width) =>
      (if left then padRight width text else padLeft width text) ++ [' ']) ++ style.nameOf entry

def gapTo : Nat → Nat → Nat → Chars
  | 0, _, _ => []
  | fuel + 1, here, there =>
      if there ≤ here then []
      else if (here + 1) / 8 < there / 8 then '\t' :: gapTo fuel (here / 8 * 8 + 8) there
      else ' ' :: gapTo fuel (here + 1) there

def widthsFor (down : Bool) (count : Nat) (names : List Chars) : List Nat :=
  let height := (names.length + count - 1) / count
  names.zipIdx.foldl (fun widths (name, place) =>
    let column := if down then place / height else place % count
    let width := name.length + (if column + 1 = count then 0 else 2)
    widths.set column (max ((widths[column]?).getD 0) width)) (List.replicate count 3)

def inColumns (down : Bool) (lineWidth : Nat) (names : List Chars) : Chars :=
  let most := max 1 (min names.length (lineWidth / 3))
  let fits (count : Nat) : Bool := (widthsFor down count names).foldl (· + ·) 0 < lineWidth
  let count := (((List.range most).map (most - ·)).find? fits).getD 1
  let widths := widthsFor down count names
  let height := (names.length + count - 1) / count
  let starts := (widths.foldl (fun (found, place) width => (found ++ [place], place + width))
    (([], 0) : List Nat × Nat)).1
  (List.range height).flatMap fun row =>
    let places := if down then (List.range count).map fun column => column * height + row
      else (List.range count).map fun column => row * count + column
    let cells := (places.zip starts).filterMap fun (place, start) =>
      (names[place]?).map fun name => (name, start)
    (cells.foldl (fun (done, column) (name, start) =>
      (done ++ gapTo 200 column start ++ name, start + name.length))
      (([], 0) : Chars × Nat)).1 ++ ['\n']

def withCommas (lineWidth : Nat) (names : List Chars) : Chars :=
  let (text, _) := names.zipIdx.foldl (fun (done, column) (name, place) =>
    let last := place + 1 = names.length
    let width := name.length + (if last then 0 else 2)
    if place = 0 then (name, name.length)
    else if column + 2 + name.length + (if last then 0 else 1) ≤ lineWidth then
      (done ++ ", ".toList ++ name, column + width)
    else (done ++ ",\n".toList ++ name, name.length)) (([], 0) : Chars × Nat)
  if names.isEmpty then [] else text ++ ['\n']

def text (style : ListingStyle) (entries : List Entry) : Chars :=
  let found := style.linesOf entries
  let width := (((style.asked.value? "w").bind natural?).getD 80)
  let ending := if style.has "zero" then '\x00' else '\n'
  match style.layout with
  | .columns | .rows =>
      if width = 0 then join "  ".toList found ++ (if found.isEmpty then [] else ['\n'])
      else inColumns (style.layout = .columns) width found
  | .commas => withCommas (if width = 0 then 1000000 else width) found
  | _ => endEach ending found

def before (style : ListingStyle) (a b : Entry) : Bool :=
  let byName : Ordering := compareTexts a.name b.name
  let order : Ordering := match style.sortedBy with
    | "t" => (compare b.info.modified a.info.modified).then byName
    | "S" => (compare b.info.size a.info.size).then byName
    | "X" =>
        let ending (name : Chars) : Chars :=
          if name.contains '.' then '.' :: (name.reverse.takeWhile (· ≠ '.')).reverse else []
        (compareTexts (ending a.name) (ending b.name)).then byName
    | "width" => (compare a.name.length b.name.length).then byName
    | "v" => (compareAsVersions a.name b.name).then byName
    | _ => byName
  let order := if style.has "r" then order.swap else order
  let isDir (entry : Entry) : Bool :=
    (entry.behind.getD entry.info).kind = .directory
  if style.has "dirs-first" && isDir a ≠ isDir b then isDir a else order ≠ .gt

def isUnordered (style : ListingStyle) : Bool := style.sortedBy = "U" || style.sortedBy = "f"

def arranged (style : ListingStyle) (entries : List Entry) : List Entry :=
  if style.isUnordered then (if style.has "r" then entries.reverse else entries)
  else entries.mergeSort style.before

end ListingStyle

def entryOf (style : ListingStyle) (top : Bool) (file name : Chars) :
    Action (Except Errno Entry) := do
  let always := style.has "L"
  let toDirs := top && !style.has "d" && !style.has "F" && style.layout ≠ .long
  let found : Except Errno Info ← match ← infoAt file false with
    | .error errno => pure (.error errno)
    | .ok info =>
        if info.kind ≠ .link then pure (.ok info)
        else
          match ← infoAt file true with
          | .ok behind =>
              pure (if always || (top && style.has "H") || (toDirs && behind.kind = .directory)
                then .ok behind else .ok info)
          | .error errno => pure (if always && top then .error errno else .ok info)
  match found with
  | .error errno => pure (.error errno)
  | .ok info =>
      if info.kind = .link && style.layout = .long then
        let target ← match ← Action.call (.readLink (path file)) with
          | .octets words => pure (some (Text.charsOf words))
          | _ => pure none
        let behind ← infoAt file true
        pure (.ok ⟨name, info, target, behind.toOption⟩)
      else if info.kind = .link && style.has "dirs-first" then
        let behind ← infoAt file true
        pure (.ok ⟨name, info, none, behind.toOption⟩)
      else pure (.ok ⟨name, info, none, none⟩)

def ListingStyle.needsNames (style : ListingStyle) : Bool :=
  style.layout ≠ .long && !(["s", "i", "R", "L"].any style.has) && style.signs = "" &&
    !(["t", "S"].contains style.sortedBy)

/-- The entries of some names; the answer tells whether all could be looked at. -/
def entriesOf (style : ListingStyle) (complainer : Chars) (top : Bool) (dir : Option Chars) :
    List Chars → Action (Bool × List Entry)
  | [] => pure (true, [])
  | name :: rest => do
      let file := dir.elim name (inside · name)
      match ← entryOf style top file name with
      | .ok entry =>
          let (fine, more) ← entriesOf style complainer top dir rest
          pure (fine, entry :: more)
      | .error .denied =>
          let allowed := style.needsNames && dir.isSome
          if !allowed then
            complain complainer
              ("cannot access ".toList ++ shellQuoted file ++ ": ".toList ++ Errno.denied.text.toList)
          let (fine, more) ← entriesOf style complainer top dir rest
          pure (fine && allowed,
            if allowed then ⟨name, ⟨.file, 0, 0, 0, 1, true, 0⟩, none, none⟩ :: more
            else more)
      | .error errno =>
          complain complainer
            ("cannot access ".toList ++ shellQuoted file ++ ": ".toList ++ errno.text.toList)
          let (_, more) ← entriesOf style complainer top dir rest
          pure (false, more)

def listedNames (style : ListingStyle) (names : List Chars) : List Chars :=
  let all := style.has "a" || style.has "f"
  let hidden := style.asked.values "I" ++
    (if style.has "B" then [['*', '~'], ".*~".toList] else []) ++
    (if all || style.has "A" then [] else style.asked.values "hide")
  let kept := names.filter fun name =>
    (all || style.has "A" || name.head? ≠ some '.') &&
      !hidden.any fun pattern => fitsPattern pattern name
  (if all then [['.'], ['.', '.']] else []) ++ kept

abbrev Listed := Bool × Nat

def listDirs (style : ListingStyle) (complainer : Chars) (headed : Bool) :
    Nat → Bool → Listed → List Chars → Action Listed
  | 0, _, listed, _ => pure listed
  | _, _, listed, [] => pure listed
  | fuel + 1, top, (wrote, status), dir :: rest => do
      match ← namesIn dir with
      | .error errno =>
          complain complainer
            ("cannot open directory ".toList ++ shellQuoted dir ++ ": ".toList ++ errno.text.toList)
          listDirs style complainer headed fuel top
            (wrote, max status (if top then 2 else 1)) rest
      | .ok names =>
          let (fine, found) ← entriesOf style complainer false (some dir) (listedNames style names)
          let entries := style.arranged found
          let heading := if headed then (if wrote then ['\n'] else []) ++ dir ++ ":\n".toList else []
          let total := if style.layout = .long || style.has "s" then
              let sum := (entries.map fun entry => blocksOf entry.info).foldl (· + ·) 0
              "total ".toList ++ style.blocksText sum ++ ['\n']
            else []
          let _ ← put (heading ++ total ++ style.text entries)
          let status := if fine then status else max status 1
          let below := if style.has "R" then
              (entries.filter fun entry => entry.info.kind = .directory && entry.name ≠ ['.'] &&
                entry.name ≠ ['.', '.']).map fun entry => inside dir entry.name
            else []
          let listed ← listDirs style complainer headed fuel false (true, status) below
          listDirs style complainer headed fuel top listed rest

def layoutOf (asked : Asked) (usual : Layout) (format : Option Layout) : Layout :=
  match asked.last? ["l", "g", "n", "o", "m", "C", "x", "1", "format", "full-time"] with
  | some ("m", _) => .commas
  | some ("C", _) => .columns
  | some ("x", _) => .rows
  | some ("1", _) =>
      if ["l", "g", "n", "o", "full-time"].any asked.has then .long else .single
  | some ("format", _) => format.getD usual
  | some _ => .long
  | none => usual

def checkTimeStyle (name : Chars) (word : Option Chars) : Action Unit := do
  match word with
  | none | some ('+' :: _) => pure ()
  | some word =>
      let plain := if "posix-".toList.isPrefixOf word then word.drop 6 else word
      let known := ["full-iso", "long-iso", "iso", "locale"].any fun style => style.toList = plain
      if known then pure ()
      else
        complain name ("invalid argument ".toList ++ quoted word ++ " for ".toList ++
          quoted "time style".toList)
        let _ ← Action.write errors (Text.octetsOf ("Valid arguments are:\n" ++
          "  - [posix-]full-iso\n  - [posix-]long-iso\n  - [posix-]iso\n  - [posix-]locale\n" ++
          "  - +FORMAT (e.g., +%H:%M) for a 'date'-style format\n").toList)
        complainOfHelp name
        Action.exit 2

def listing (usual : Layout) : Tool := withOptions lsOptions 2 fun name asked => do
  let now ← present
  let _ ← ((asked.values "color").filter (!·.isEmpty)).mapM (choiceOf name "--color" colorWords)
  let format ← (asked.value? "format").mapM (choiceOf name "--format" formatWords)
  let quoting ← match asked.last? ["Q", "b", "N", "quoting"] with
    | some ("quoting", word) => choiceOf name "--quoting-style" quotingStyles word
    | some ("Q", _) => pure (.marks true)
    | some ("b", _) => pure .escape
    | _ => pure .literal
  let signs ← match asked.last? ["F", "p", "file-type", "sign"] with
    | some ("sign", word) => choiceOf name "--indicator-style" signStyles word
    | some (key, _) => pure key
    | none => pure ""
  let sortedBy ← match asked.last? ["t", "S", "X", "v", "U", "f", "sort"] with
    | some ("sort", word) => choiceOf name "--sort" sortWords word
    | some (key, _) => pure key
    | none => pure ""
  checkTimeStyle name (asked.value? "style")
  let unit ← match asked.value? "block" with
    | none => pure 1
    | some text =>
        match ← argumentOf name "--block-size" "KkMGTPEZY" 2 text with
        | n + 1 => pure (n + 1)
        | 0 => giveUp name ("invalid --block-size argument '".toList ++ text ++ ['\x27']) 2
  for (key, what) in [("w", "line width"), ("T", "tab size")] do
    for text in (asked.value? key).toList do
      if (natural? text).isNone then
        giveUp name ("invalid ".toList ++ what.toList ++ ": ".toList ++ quoted text) 2
  let style : ListingStyle :=
    ⟨asked, layoutOf asked usual format, now, quoting, signs, sortedBy, unit⟩
  let operands := if asked.operands.isEmpty then [['.']] else asked.operands
  let (fine, found) ← entriesOf style name true none operands
  let entries := style.arranged found
  let status := if fine then 0 else 2
  let isDir (entry : Entry) : Bool := entry.info.kind = .directory && !asked.has "d"
  let plain := entries.filter (!isDir ·)
  if !plain.isEmpty then
    let _ ← put (style.text plain)
  let headed := asked.has "R" || 1 < operands.length
  let (_, status) ← listDirs style name headed 100000 true (!plain.isEmpty, status)
    ((entries.filter isDir).map (·.name))
  pure status

def ls : Tool := listing .single

/-! The state of a file -/

def fieldOf (flags : Chars) (width : Nat) (precision : Option Nat) (isNumber : Bool)
    (text : Chars) : Chars :=
  let text := match precision with
    | some n => if isNumber then List.replicate (n - text.length) '0' ++ text else text.take n
    | none => text
  if flags.contains '-' then padRight width text
  else if flags.contains '0' && isNumber then List.replicate (width - text.length) '0' ++ text
  else padLeft width text

def stampText (info : Info) : Chars :=
  (momentOf info.modified).shown "%Y-%m-%d %H:%M:%S.%N %z".toList

def statePart (file : Chars) (info : Info) (target : Option Chars) (alternate : Bool) :
    Char → Chars × Bool
  | 'a' => ((if alternate then ['0'] else []) ++ Mode.digits info.mode, true)
  | 'A' => (kindLetter info.kind :: Mode.letters info.mode, false)
  | 'b' => (natChars (blocksOf info * 2), true)
  | 'B' => (natChars 512, true)
  | 'd' => (natChars 65024, true)
  | 'D' => ("fe00".toList, true)
  | 'f' =>
      let kind := match info.kind with
        | .file => 0o100000
        | .directory => 0o040000
        | .link => 0o120000
        | .device => 0o020000
        | .pipe => 0o010000
      (Nat.toDigits 16 (kind + info.mode), true)
  | 'F' => (kindWords info, false)
  | 'g' => (natChars (groupOf info).1, true)
  | 'G' => ((groupOf info).2, false)
  | 'h' => (natChars info.links, true)
  | 'i' => (natChars info.node, true)
  | 'm' => (['/'], false)
  | 'n' => (file, false)
  | 'N' => (shellQuoted file ++ target.elim [] fun words => " -> ".toList ++ shellQuoted words, false)
  | 'o' => (natChars 4096, true)
  | 's' => (natChars info.size, true)
  | 't' => ((if info.kind = .device then ['1'] else ['0']), true)
  | 'T' => ((if info.kind = .device then ['3'] else ['0']), true)
  | 'u' => (natChars (ownerOf info).1, true)
  | 'U' => ((ownerOf info).2, false)
  | 'w' => (['-'], false)
  | 'W' => (['0'], true)
  | 'x' | 'y' | 'z' => (stampText info, false)
  | 'X' | 'Y' | 'Z' => (intChars (momentOf info.modified).seconds, true)
  | _ => (['?'], false)

def stateEscape (text : Chars) : Chars × Chars :=
  let code (base : Nat) (digits rest : Chars) : Chars × Chars :=
    ([Char.ofNat ((digitsOf base digits).1 % 256)], rest.drop digits.length)
  match text with
  | [] => (['\\'], [])
  | 'x' :: rest =>
      let digits := (rest.take 2).takeWhile fun c => (digitOf? 16 c).isSome
      if digits.isEmpty then (['\\', 'x'], rest) else code 16 digits rest
  | c :: rest =>
      let digits := ((c :: rest).take 3).takeWhile fun c => (digitOf? 8 c).isSome
      if !digits.isEmpty then code 8 digits (c :: rest)
      else
        match Text.Regex.controlLetter? c with
        | some control => ([control], rest)
        | none =>
            if c = 'b' then (['\x08'], rest) else if c = 'e' then (['\x1b'], rest)
            else if c = '\\' || c = '"' then ([c], rest) else (['\\', c], rest)

/-- A pattern with what is known of a file put in, up to a part of it that means nothing, which is
answered too. -/
def stateText (file : Chars) (info : Info) (target : Option Chars) (escapes : Bool) :
    Nat → Chars → Chars × Option Chars
  | 0, _ => ([], none)
  | _, [] => ([], none)
  | fuel + 1, '%' :: rest =>
      let further (text behind : Chars) : Chars × Option Chars :=
        let (more, fault) := stateText file info target escapes fuel behind
        (text ++ more, fault)
      let flags := rest.takeWhile fun c => "-+ 0#'".toList.contains c
      let behind := rest.drop flags.length
      let width := behind.takeWhile Char.isDigit
      let behind := behind.drop width.length
      let (precision, behind) := match behind with
        | '.' :: more =>
            let digits := more.takeWhile Char.isDigit
            (some ((natural? digits).getD 0), more.drop digits.length)
        | _ => (none, behind)
      let marks := rest.take (rest.length - behind.length)
      match behind with
      | [] => if marks.isEmpty then (['%'], none) else ([], some ('%' :: marks))
      | '%' :: more =>
          if marks.isEmpty then further ['%'] more else ([], some ('%' :: marks ++ ['%']))
      | 'H' :: 'd' :: more => further "254".toList more
      | 'L' :: 'd' :: more => further ['0'] more
      | letter :: more =>
          let (text, isNumber) := statePart file info target (flags.contains '#') letter
          let isTime := "XYZ".toList.contains letter && precision.isSome
          let (text, precision) := if isTime then
              let digits := natChars (momentOf info.modified).nanos
              let places := List.replicate (9 - digits.length) '0' ++ digits
              let count := precision.elim 9 fun n => if n = 0 then 9 else n
              (text ++ '.' :: (places.take count ++ List.replicate (count - 9) '0'), none)
            else (text, precision)
          further (fieldOf flags ((natural? width).getD 0) precision isNumber text) more
  | fuel + 1, c :: rest =>
      let (found, behind) := if escapes && c = '\\' then stateEscape rest else ([c], rest)
      let (more, fault) := stateText file info target escapes fuel behind
      (found ++ more, fault)

def statePattern : String :=
  "  File: %n\n  Size: %-10s\tBlocks: %-10b IO Block: %-6o %F\n" ++
    "Device: %Hd,%Ld\tInode: %-10i  Links: %h\n" ++
    "Access: (%04a/%10.10A)  Uid: (%5u/%8U)   Gid: (%5g/%8G)\n" ++
    "Access: %x\nModify: %y\nChange: %z\n Birth: %w"

def shortPattern : String := "%n %s %b %f %u %g %D %i %h %t %T %X %Y %Z %W %o"

def statOptions : OptionTable :=
  ⟨"c:fLt", [("cached:", "cached"), ("dereference", "L"), ("file-system", "f"), ("format:", "c"),
    ("printf:", "printf"), ("terse", "t")], true⟩

def stat : Tool := withOptions statOptions 1 fun name asked => do
  needOperand name asked 1
  let (pattern, escapes) := match asked.last? ["c", "printf"] with
    | some ("c", text) => (text, false)
    | some (_, text) => (text, true)
    | none => ((if asked.has "t" then shortPattern else statePattern).toList, false)
  forEach asked.operands fun file => do
    let isInput := file = ['-']
    if isInput && asked.has "f" then
      complain name ("using ".toList ++ quoted ['-'] ++
        " to denote standard input does not work in file system mode".toList)
      return false
    match ← infoAt (if isInput then "/dev/stdin".toList else file) (isInput || asked.has "L") with
    | .error errno =>
        let task := if asked.has "f" then "cannot read file system information for "
          else if isInput then "cannot stat standard input" else "cannot statx "
        complain name (task.toList ++ (if isInput then [] else shellQuoted file) ++ ": ".toList ++
          errno.text.toList)
        pure false
    | .ok info =>
        let target ← if info.kind = .link then
            match ← Action.call (.readLink (path file)) with
            | .octets words => pure (some (Text.charsOf words))
            | _ => pure none
          else pure none
        let (text, fault) := stateText file info target escapes (pattern.length + 1) pattern
        let _ ← put (text ++ (if escapes || fault.isSome then [] else ['\n']))
        for wrong in fault.toList do
          giveUp name (quoted wrong ++ ": invalid directive".toList) 1
        pure true

end BatchLaunch.Tools
