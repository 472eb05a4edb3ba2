import BatchLaunch.Tools.Clock
import BatchLaunch.Tools.Pages.Layout
import BatchLaunch.Tools.Printf

/-!
`pr`: files in pages and columns.
-/
namespace BatchLaunch.Tools

open Host (Action Errno)

namespace Pages

structure Request where
  columns : Nat
  explicitColumns : Bool
  across : Bool
  doubled : Bool
  inputTab : Option (Char × Nat)
  outputTab : Option (Char × Nat)
  feeds : Bool
  title : Option Chars
  joins : Bool
  pageLength : Nat
  merges : Bool
  numbers : Option (Char × Nat)
  startNumber : Option Int
  margin : Nat
  quiet : Bool
  separator : Option Chars
  edges : Bool
  keepsBreaks : Bool
  octal : Bool
  carets : Bool
  cuts : Bool
  width : Nat
  datePattern : Chars
  firstPage : Nat
  lastPage : Nat

def lastOfAll : Nat := largestCount

def Request.plan (request : Request) (columns : Nat) (merges : Bool) (date title : Chars) :
    Except Chars Plan :=
  let edges := request.edges && 10 < request.pageLength
  let keepsBreaks := request.keepsBreaks || request.pageLength ≤ 10
  let body := if edges then request.pageLength - 10 else request.pageLength
  let body := if request.doubled then max 1 (body / 2) else body
  let several := 1 < columns
  let separator : Option Chars :=
    if !several then request.separator
    else
      match request.separator with
      | none => some (if request.joins then ['\t'] else [' '])
      | some given => some (if !request.joins && given = ['\t'] then [' '] else given)
  let cuts := (request.cuts || several) && !request.joins
  let untabs := request.inputTab.isSome || (several && separator ≠ some ['\t'])
  let numberWidth := match request.numbers with
    | none => 0
    | some (mark, digits) => if mark = '\t' then digits + (8 - digits % 8) else digits + 1
  let used := (columns - 1) * separator.elim 0 List.length +
    (if merges && request.numbers.isSome then numberWidth else 0)
  let columnWidth := (request.width - used) / max columns 1
  if columnWidth = 0 then .error "page width too narrow".toList
  else .ok {
    body := body, edges := edges, keepsBreaks := keepsBreaks, feeds := request.feeds
    doubled := request.doubled, parallel := merges
    stores := several && !merges && !request.across
    separator := separator, cuts := cuts, untabs := untabs
    tabs := several || request.outputTab.isSome
    inputTab := request.inputTab.getD ('\t', 8), outputTab := request.outputTab.getD ('\t', 8)
    numbers := request.numbers, numberWidth := numberWidth, columnWidth := columnWidth
    margin := request.margin, octal := request.octal, carets := request.carets
    countsPassed := request.startNumber.isNone, lastPage := request.lastPage, date := date
    title := title, width := request.width }

def warnOfPages (name : Chars) (request : Request) (count : Nat) : Action Unit :=
  complain name ("starting page number ".toList ++ natChars request.firstPage ++
    " exceeds page count ".toList ++ natChars count)

def printTexts (name : Chars) (request : Request) (plan : Plan) (inputs : List Chars)
    (sources : List Nat) : Action Unit :=
  match layOut plan inputs sources (request.startNumber.getD 1) request.firstPage with
  | .error count => warnOfPages name request count
  | .ok text => do
      let _ ← put text

def textOf (name : Chars) (request : Request) (file : Chars) : Action (Option Chars) := do
  match ← slurp file with
  | .ok text => pure (some text)
  | .error .isDirectory => giveUp name (nameSafe file ++ ": Is a directory".toList) 1
  | .error errno =>
      if !request.quiet then complainOfFile name file errno
      pure none

def planOrGiveUp (name : Chars) (request : Request) (columns : Nat) (merges : Bool)
    (date title : Chars) : Action Plan :=
  match request.plan columns merges date title with
  | .ok plan => pure plan
  | .error fault => giveUp name fault 1

def dateOfNow (request : Request) : Action Chars := do
  return (← present).shown request.datePattern

def printEach (name : Chars) (request : Request) (files : List Chars) : Action Nat :=
  forEach files fun file => do
    let _ ← planOrGiveUp name request request.columns false [] []
    match ← textOf name request file with
    | none => pure false
    | some text =>
        let date ← if file = ['-'] then dateOfNow request
          else
            match ← infoAt file true with
            | .ok info => pure ((momentOf info.modified).shown request.datePattern)
            | .error _ => dateOfNow request
        let title := request.title.getD (if file = ['-'] then [] else file)
        let plan ← planOrGiveUp name request request.columns false date title
        printTexts name request plan [text] (List.replicate request.columns 0)
        pure true

def printTogether (name : Chars) (request : Request) (files : List Chars) : Action Nat := do
  let date ← dateOfNow request
  let plan ← planOrGiveUp name request files.length true date (request.title.getD [])
  let found ← files.foldlM (fun (found : List (Chars × Chars)) file => do
    if file = ['-'] && found.any (fun entry => entry.1 = file) then pure (found ++ [(file, [])])
    else
      match ← textOf name request file with
      | some text => pure (found ++ [(file, text)])
      | none => pure found) []
  let sources := found.zipIdx.map fun ((file, _), index) =>
    if file = ['-'] then (found.findIdx? fun entry => entry.1 = file).getD index else index
  if !found.isEmpty then printTexts name request plan (found.map (·.2)) sources
  pure (if found.length = files.length then 0 else 1)

/-! Options -/

def boundedNumber (name : Chars) (what : String) (least : Int) (text : Chars) : Action Int := do
  let refuse (fault : Chars) : Action Int :=
    giveUp name (what.toList ++ ": ".toList ++ quoted text ++ fault) 1
  match integer? text with
  | none => refuse []
  | some n => if n < least || 2147483647 < n then refuse rangeText else pure n

def charAndWidth (name : Chars) (letter : Char) (other : Char × Nat) (text : Chars) :
    Action (Char × Nat) := do
  let (mark, digits) := match text with
    | c :: rest => if c.isDigit then (other.1, text) else (c, rest)
    | [] => (other.1, [])
  if digits.isEmpty then pure (mark, other.2)
  else
    match integer? digits with
    | some (.ofNat (n + 1)) => pure (mark, n + 1)
    | _ => giveUpUse name (['\x27', '-', letter] ++
        "' extra characters or invalid number in the argument: ".toList ++ quoted digits) 1

def pagesOf? (text : Chars) : Option (Nat × Nat) :=
  let first := text.takeWhile Char.isDigit
  let rest := text.drop first.length
  match natural? first with
  | none | some 0 => none
  | some n =>
      match rest with
      | [] => some (n, lastOfAll)
      | ':' :: digits => (natural? digits).bind fun last => if last < n then none else some (n, last)
      | _ => none

def columnDigits (given : List (String × Chars)) : Chars :=
  (given.foldl (fun (digits, running) entry =>
    if entry.1 = "columns" then ([], false)
    else
      match entry.1.toList with
      | [d] =>
          if d.isDigit then (if running then (digits ++ [d], true) else ([d], true))
          else (digits, false)
      | _ => (digits, false)) (([], false) : Chars × Bool)).1

def optionTable : OptionTable where
  letters := "0123456789D:FJN:S::TW:abcde::fh:i::l:mn::o:rs::tvw:"
  words := [("pages:", "pages"), ("columns:", "columns"), ("across", "a"),
    ("show-control-chars", "c"), ("double-space", "d"), ("date-format:", "D"),
    ("expand-tabs::", "e"), ("form-feed", "f"), ("header:", "h"), ("output-tabs::", "i"),
    ("join-lines", "J"), ("length:", "l"), ("merge", "m"), ("number-lines::", "n"),
    ("first-line-number:", "N"), ("indent:", "o"), ("no-file-warnings", "r"), ("separator::", "s"),
    ("sep-string::", "S"), ("omit-header", "t"), ("omit-pagination", "T"),
    ("show-nonprinting", "v"), ("width:", "w"), ("page-width:", "W")]
  mixed := true

/-- What options ask for about the width of lines and what is between columns: whether lines are
joined, whether they are cut, the separator and the width. -/
def widthAndGap (name : Chars) (asked : Asked) (several : Bool) :
    Action (Bool × Bool × Option Chars × Nat) := do
  let cuts := asked.has "W"
  let widthKey := if cuts then "W" else "w"
  let width ← match asked.value? widthKey with
    | none => pure 72
    | some text => do
        let what := "'-" ++ widthKey ++ " PAGE_WIDTH' invalid number of characters"
        pure (← boundedNumber name what 1 text).toNat
  let plainWidth := (asked.last? ["w", "W"]).any fun entry => entry.1 = "w"
  let byString := asked.has "S"
  let behind := (asked.given.reverse.takeWhile fun entry => entry.1 ≠ "S").reverse
  let fields := (if byString then behind else asked.given).any fun entry => entry.1 = "s"
  let given := ((asked.given.filter fun entry =>
    entry.1 = (if byString then "S" else "s") && (byString || !entry.2.isEmpty)).getLast?).map (·.2)
  let separator : Option Chars := if byString then some (given.getD []) else none
  let text := given.getD []
  let joins := asked.has "J"
  if !(asked.has "w" || asked.has "s") then pure (joins, cuts, separator, width)
  else if plainWidth then
    if several then
      pure (joins, true, if fields && !byString then some text else separator, width)
    else pure (true, cuts, separator, width)
  else if byString || !fields || !several then pure (joins, cuts, separator, width)
  else if !cuts then
    pure (true, cuts, if text.isEmpty then none else some text, width)
  else pure (joins, cuts, some text, width)

end Pages

open Pages in
def pr : Tool := withOptions optionTable 1 fun name asked => do
  let optional (key : String) (letter : Char) (other : Char × Nat) : Action (Option (Char × Nat)) :=
    match asked.value? key with
    | none => pure none
    | some text => do pure (some (← charAndWidth name letter other text))
  let whole (key what : String) (least other : Int) : Action Int :=
    match asked.value? key with
    | none => pure other
    | some text => boundedNumber name what least text
  let pages ← match asked.value? "pages" with
    | none => pure none
    | some text =>
        match pagesOf? text with
        | some pages => pure (some pages)
        | none =>
            if (text.head?.any Char.isDigit) then
              giveUp name ("invalid page range ".toList ++ quoted text) 1
            else giveUp name ("invalid --pages argument '".toList ++ text ++ ['\x27']) 1
  let (pages, files) ← asked.operands.foldlM (fun (pages, files) (word : Chars) => do
    match pages, word with
    | none, '+' :: text =>
        match pagesOf? text with
        | some found => pure (some found, files)
        | none =>
            if text.head?.any Char.isDigit then pure (none, files ++ [word])
            else giveUp name ("invalid + argument '".toList ++ text ++ ['\x27']) 1
    | _, _ => pure (pages, files ++ [word])) (pages, ([] : List Chars))
  let digits := columnDigits asked.given
  let columns ← match if digits.isEmpty then asked.value? "columns" else some digits with
    | none => pure 1
    | some text => do pure (← boundedNumber name "invalid number of columns" 1 text).toNat
  let explicitColumns := !digits.isEmpty || asked.has "columns"
  let inputTab ← optional "e" 'e' ('\t', 8)
  let outputTab ← optional "i" 'i' ('\t', 8)
  let numbers ← optional "n" 'n' ('\t', 5)
  let pageLength ← whole "l" "'-l PAGE_LENGTH' invalid number of lines" 1 66
  let startNumber ← whole "N" "'-N NUMBER' invalid starting line number" (-2147483648) 1
  let margin ← whole "o" "'-o MARGIN' invalid line offset" 0 0
  let merges := asked.has "m"
  if merges && explicitColumns then
    giveUp name "cannot specify number of columns when printing in parallel".toList 1
  if merges && asked.has "a" then
    giveUp name "cannot specify both printing across and printing in parallel".toList 1
  let (joins, cuts, separator, width) ← widthAndGap name asked (merges || explicitColumns)
  let ends := (asked.last? ["t", "T"]).map (·.1)
  let request : Request := {
    columns := columns, explicitColumns := explicitColumns, across := asked.has "a"
    doubled := asked.has "d", inputTab := inputTab, outputTab := outputTab
    feeds := asked.has "f" || asked.has "F", title := asked.value? "h", joins := joins
    pageLength := pageLength.toNat, merges := merges, numbers := numbers
    startNumber := if asked.has "N" then some startNumber else none, margin := margin.toNat
    quiet := asked.has "r", separator := separator, edges := ends.isNone
    keepsBreaks := ends = some "t", octal := asked.has "v", carets := asked.has "c", cuts := cuts
    width := width, datePattern := (asked.value? "D").getD "%Y-%m-%d %H:%M".toList
    firstPage := (pages.map (·.1)).getD 1, lastPage := (pages.map (·.2)).getD lastOfAll }
  if files.isEmpty then printEach name request [['-']]
  else if merges then printTogether name request files
  else printEach name request files

end BatchLaunch.Tools
