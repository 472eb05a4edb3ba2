import BatchLaunch.Text.Regex.Parse
import BatchLaunch.Tools.Flow
import BatchLaunch.Tools.Names

/-!
`grep`: the lines of files that match a pattern.
-/
namespace BatchLaunch.Tools

open Host (Action Errno)
open Text (Regex RegexMode)

namespace Grep

def table : OptionTable where
  letters := "0123456789A:B:C:D:EFGHILPTUVXabcd:e:f:hilm:noqRrsuvwxyZz"
  mixed := true
  words := [("after-context:", "A"), ("basic-regexp", "G"), ("before-context:", "B"),
    ("binary-files:", "binary"), ("byte-offset", "b"), ("color::", "color"), ("colour::", "color"),
    ("context:", "C"), ("count", "c"), ("devices:", "D"), ("directories:", "d"),
    ("exclude:", "exclude"), ("exclude-dir:", "exclude-dir"), ("extended-regexp", "E"),
    ("file:", "f"), ("files-with-matches", "l"), ("files-without-match", "L"),
    ("fixed-strings", "F"), ("ignore-case", "i"), ("include:", "include"),
    ("initial-tab", "T"), ("invert-match", "v"), ("label:", "label"),
    ("line-buffered", "u"), ("line-number", "n"), ("line-regexp", "x"), ("max-count:", "m"),
    ("no-filename", "h"), ("no-ignore-case", "no-ignore-case"), ("no-messages", "s"),
    ("null", "Z"), ("null-data", "z"), ("only-matching", "o"), ("quiet", "q"),
    ("recursive", "r"), ("regexp:", "e"), ("silent", "q"), ("text", "a"),
    ("with-filename", "H"), ("word-regexp", "w")]

structure Search where
  regex : Regex
  mode : RegexMode
  inverted : Bool
  most : Option Nat
  before : Nat
  after : Nat
  hidden : Nat

def patternOf (asked : Asked) (syntaxKey : String) (pattern : Chars) : Except String Regex := do
  let regex ← if syntaxKey = "F" then pure (Regex.ofList (pattern.map Regex.char))
    else (Regex.parse ⟨syntaxKey = "E", false, false⟩ pattern).map (·.1)
  return if asked.has "x" then .ofList [.anchor .lineStart, regex, .anchor .lineEnd]
    else if asked.has "w" then .ofList [.anchor .noWordBefore, regex, .anchor .noWordBehind]
    else regex

def eitherOf : List Regex → Option Regex
  | [] => none
  | [single] => some single
  | first :: rest => (eitherOf rest).map (.either first)

def allMatches (search : Search) (line : Chars) : Nat → Nat → List (Nat × Nat)
  | 0, _ => []
  | fuel + 1, start =>
      match Regex.find? search.mode search.regex line start with
      | none => []
      | some found =>
          if found.start = found.stop then
            if line.length ≤ found.stop then [] else allMatches search line fuel (found.stop + 1)
          else (found.start, found.stop) :: allMatches search line fuel found.stop

structure Line where
  number : Nat
  offset : Nat
  text : Chars

def lead (asked : Asked) (file : Option Chars) (separator : Char) (number offset : Nat) : Chars :=
  let named := file.elim [] fun file => file ++ [if asked.has "Z" then '\x00' else separator]
  named ++ (if asked.has "n" then natChars number ++ [separator] else []) ++
    (if asked.has "b" then natChars offset ++ [separator] else []) ++
    (if asked.has "T" && (file.isSome || asked.has "n" || asked.has "b") then ['\t'] else [])

inductive Report where
  | found
  | count
  | lines
  | parts
  deriving DecidableEq

structure Showing where
  report : Report
  ending : Char
  line : Line → Char → Chars
  asText : Bool

structure Progress where
  number : Nat
  offset : Nat
  selected : Nat
  before : List Line
  after : Nat
  shown : Nat
  selectedEnd : Nat
  binary : Bool
  isOver : Bool

def Progress.start (search : Search) : Progress :=
  ⟨0, 0, 0, [], 0, 0, 0, false, search.most = some 0⟩

def Progress.show (search : Search) (showing : Showing) (progress : Progress)
    (lines : List (Line × Char)) : Progress × Chars :=
  let context := search.before ≠ 0 || search.after ≠ 0
  let gap := context && progress.shown ≠ 0 &&
    (lines.head?.map fun entry => entry.1.number) ≠ some (progress.shown + 1)
  let text := lines.flatMap fun entry => showing.line entry.1 entry.2
  let last := (lines.getLast?).map fun entry => entry.1.number
  ({ progress with shown := last.getD progress.shown },
    if gap then "--\n".toList ++ text else text)

def Progress.step (search : Search) (showing : Showing) (progress : Progress) (text : Chars) :
    Progress × Chars :=
  let line : Line := ⟨progress.number + 1, progress.offset, text⟩
  let wanted := search.most.all (progress.selected < ·)
  let next := { progress with
    number := line.number, offset := progress.offset + text.length + 1 }
  if wanted && Regex.isMatched search.mode search.regex text ≠ search.inverted then
    let next := { next with
      selected := next.selected + 1, before := [], after := search.after
      selectedEnd := next.offset }
    let enough := search.most.any (· ≤ next.selected)
    match showing.report with
    | .found => ({ next with isOver := true }, [])
    | .count => ({ next with isOver := enough }, [])
    | .parts =>
        let found := if search.inverted then [] else allMatches search text (text.length + 1) 0
        ({ next with isOver := enough || next.binary },
          if next.binary then [] else found.flatMap fun (start, stop) =>
            showing.line { line with
              offset := line.offset + start, text := (text.drop start).take (stop - start) } ':')
    | .lines =>
        if next.binary then ({ next with isOver := true }, [])
        else
          let (next, text) := next.show search showing
            ((progress.before.map fun line => (line, '-')).reverse ++ [(line, ':')])
          ({ next with isOver := enough && search.after = 0 }, text)
  else if 0 < progress.after && showing.report = .lines then
    let (next, text) := { next with after := progress.after - 1 }.show search showing [(line, '-')]
    ({ next with isOver := !wanted && progress.after = 1 }, text)
  else ({ next with before := (line :: progress.before).take search.before }, [])

def Progress.steps (search : Search) (showing : Showing) :
    Progress → List Chars → Progress × List Chars
  | progress, [] => (progress, [])
  | progress, line :: rest =>
      if progress.isOver then (progress, [])
      else
        let (next, text) := progress.step search showing line
        let (last, more) := next.steps search showing rest
        (last, text :: more)

def Progress.piece (search : Search) (showing : Showing) (progress : Progress) (text : Chars) :
    Progress × Chars :=
  let odd := !showing.asText && showing.ending = '\n' && text.contains '\x00'
  let progress := { progress with binary := progress.binary || odd }
  -- zero octets end lines in what is no text
  let text := if progress.binary then text.map fun c => if c = '\x00' then '\n' else c else text
  let (progress, shown) := progress.steps search showing (recordsAt showing.ending text)
  (progress, shown.flatten)

/-- Looks through what can be read, as far as that matters. The number of octets that were read is
answered along with where that led. -/
def Progress.through (search : Search) (showing : Showing) (source : Host.Descriptor) :
    Nat → Nat → Chars → Flow Progress → Action (Except Errno (Nat × Flow Progress))
  | 0, count, _, flow => pure (.ok (count, flow))
  | fuel + 1, count, begun, flow => do
      if flow.state.isOver || flow.refused then pure (.ok (count, flow))
      else
        match ← Action.call (.read source 65536) with
        | .octets [] =>
            pure (.ok (count, flow.take (Progress.piece search showing) begun))
        | .octets octets =>
            let (piece, begun) := atLastEnd showing.ending (begun ++ Text.charsOf octets)
            let flow ← (flow.take (Progress.piece search showing) piece).release
            Progress.through search showing source fuel (count + octets.length) begun flow
        | .refused errno => pure (.error errno)
        | _ => pure (.ok (count, flow))

def showingOf (asked : Asked) (file : Option Chars) : Showing :=
  let ending := endingOf asked
  let report : Report := if asked.has "q" || asked.has "l" || asked.has "L" then .found
    else if asked.has "c" then .count else if asked.has "o" then .parts else .lines
  ⟨report, ending, fun line mark =>
    lead asked file mark line.number line.offset ++ line.text ++ [ending],
    asked.has "a" || (asked.value? "binary") = some "text".toList⟩

def passesBinary (asked : Asked) : Bool :=
  match asked.last? ["I", "binary", "a"] with
  | some ("I", _) => true
  | some ("binary", kind) => kind = "without-match".toList
  | _ => false

/-- Looks through a file that is open. The answer tells whether anything was selected. -/
def text (name : Chars) (asked : Asked) (search : Search) (file : Option Chars) (label : Chars)
    (source : Host.Descriptor) : Action (Except Errno Bool) := do
  let showing := showingOf asked file
  match ← Progress.through search showing source blockLimit 0 [] (.start (.start search)) with
  | .error errno => pure (.error errno)
  | .ok (count, flow) => do
      let flow ← flow.flush
      let progress := flow.state
      -- what lies behind the last line that is wanted is left to others
      if showing.report ≠ .found && search.most.any (· ≤ progress.selected) then
        let _ ← Action.call (.rewind source (count - progress.selectedEnd))
      let ignored := progress.binary && passesBinary asked
      let found := 0 < progress.selected && !ignored
      let mark : Char := if asked.has "Z" then '\x00' else ':'
      let listed := label ++ [if asked.has "Z" then '\x00' else '\n']
      if asked.has "q" then pure ()
      else if asked.has "l" then
        if found then
          let _ ← put listed
      else if asked.has "L" then
        if !found then
          let _ ← put listed
      else if asked.has "c" then
        let named := file.elim [] fun file => file ++ [mark]
        let _ ← put (named ++ natChars (if ignored then 0 else progress.selected) ++ ['\n'])
      else if progress.binary && found then
        complain name (label ++ ": binary file matches".toList)
      pure (.ok found)

/-! Files -/

/-- Whether a name is passed over, after options each with a pattern, of which those with `true` ask
for files and the others shut them out. The last one that fits decides; if none does, files are
passed over if the first one asks for some. -/
def isPassed (options : List (Bool × Chars)) (whole : Bool) (file : Chars) : Bool :=
  let parts := Text.partsAt '/' file
  let endings := (List.range parts.length).map fun count => join ['/'] (parts.drop count)
  let fits (pattern : Chars) : Bool :=
    if whole then fitsPattern pattern file else endings.any (fitsPattern pattern)
  match options.reverse.find? fun option => fits option.2 with
  | some (asks, _) => !asks
  | none => (options.head?.map (·.1)).getD false

def passingOptions (asked : Asked) (isDir : Bool) : List (Bool × Chars) :=
  asked.given.filterMap fun (key, value) =>
    if isDir then (if key = "exclude-dir" then some (false, value) else none)
    else if key = "include" then some (true, value)
    else if key = "exclude" then some (false, value) else none

inductive DirRule where
  | read
  | skip
  | enter
  deriving DecidableEq

def dirRule (asked : Asked) : DirRule :=
  match asked.last? ["r", "R", "d"] with
  | some ("d", action) =>
      if action = "skip".toList then .skip else if action = "recurse".toList then .enter else .read
  | some _ => .enter
  | none => .read

/-- Looks through a file, or through all that is in a directory. The answer tells whether anything
was selected, and whether something went wrong. -/
def file (name : Chars) (asked : Asked) (search : Search) (named : Option Bool) (given : Bool) :
    Nat → Chars → Action (Bool × Bool)
  | 0, _ => pure (false, true)
  | fuel + 1, place => do
      let label := if place = ['-'] && given then
          (asked.value? "label").getD "(standard input)".toList else place.drop search.hidden
      let isDir ← match ← Action.call (.info (path place) (given || asked.has "R")) with
        | .info info =>
            -- links below an operand are not followed
            if info.kind = .link || (!given && info.kind = .pipe) then return (false, false)
            else pure (decide (info.kind = .directory))
        | _ => pure false
      let isInput := given && place = ['-']
      let isDir := isDir && !isInput
      let passed := (if given then place ≠ ['.'] && place ≠ ['-'] else true) &&
        isPassed (passingOptions asked isDir) given place
      if passed || (isDir && dirRule asked = .skip) then pure (false, false)
      else if isDir && dirRule asked = .enter then
        match ← Action.call (.list (path place)) with
        | .names names =>
            names.foldlM (fun (found, failed) entry => do
              let inside := place ++ (if place.getLast? = some '/' then [] else ['/']) ++
                Text.charsOf entry
              let (more, wrong) ← file name asked search (some (named.getD true)) false fuel inside
              pure (found || more, failed || wrong)) (false, false)
        | .refused errno => do
            if !asked.has "s" then
              complain name (place ++ ": ".toList ++ errno.text.toList)
            pure (false, true)
        | _ => pure (false, true)
      else
        match ← (if isInput then pure (.ok 0) else openInput place) with
        | .error errno => do
            if !asked.has "s" then
              complain name (place ++ ": ".toList ++ errno.text.toList)
            pure (false, true)
        | .ok source => do
            let few := ["c", "q", "l", "L"].any asked.has || search.most.any (· ≤ 1)
            let skipped ← if few then pure false else (Option.isSome <$> sizeIfOutput? source)
            let result ← if skipped then do
                if !asked.has "s" then
                  complain name (label ++ ": input file is also the output".toList)
                pure (false, true)
              else do
                match ← Grep.text name asked search (if named.getD false then some label else none)
                  label source with
                | .ok found => pure (found, false)
                | .error errno => do
                    if !asked.has "s" then
                      complain name (label ++ ": ".toList ++ errno.text.toList)
                    pure (false, true)
            if source ≠ 0 then
              let _ ← Action.call (.close source)
            pure result

end Grep

def modernContext (words : List Chars) : List Chars :=
  words.map fun word =>
    match word with
    | '-' :: digits => if (natural? digits).isSome then "-C".toList ++ digits else word
    | word => word

def grepAs (syntaxKey : String) : Tool := fun name words => do
  let usage {α : Type} : Action α := do
    let _ ← Action.write errors (Text.octetsOf ("Usage: ".toList ++ name ++
      " [OPTION]... PATTERNS [FILE]...\n".toList))
    complainOfHelp name
    Action.exit 2
  match Grep.table.read (words.length + 1) (modernContext words) with
  | .error fault =>
      complain name fault
      usage
  | .ok asked =>
      let amount (key : String) (fault : Chars → Chars) : Action (Option Nat) :=
        (asked.value? key).mapM fun text =>
          match natural? text with
          | some n => pure n
          | none => giveUp name (fault text) 2
      let context (text : Chars) : Chars := text ++ ": invalid context length argument".toList
      let most ← amount "m" fun _ => "invalid max count".toList
      let both ← amount "C" context
      let before ← amount "B" context
      let after ← amount "A" context
      let key := ((asked.last? ["E", "F", "G"]).map (·.1)).getD syntaxKey
      let given := asked.has "e" || asked.has "f"
      let inFiles ← (asked.values "f").mapM fun file => do
        let text ← textOrGiveUp name file 2
        pure (recordsAt '\n' text)
      if !given && asked.operands.isEmpty then usage
      else
        let patterns := if given then (asked.values "e").flatMap (Text.partsAt '\n') ++ inFiles.flatten
          else Text.partsAt '\n' (asked.operands.headD [])
        let files := if given then asked.operands else asked.operands.drop 1
        for pattern in patterns do
          if pattern.head? = some '[' && pattern.length > 3 && pattern[1]? = some ':' &&
              pattern.drop (pattern.length - 2) = ":]".toList && key ≠ "F" then
            giveUp name "character class syntax is [[:space:]], not [:space:]".toList 2
        match patterns.mapM (Grep.patternOf asked key) with
        | .error message => giveUp name message.toList 2
        | .ok regexes =>
            let recursive := Grep.dirRule asked = .enter
            let inverted := asked.has "v"
            let foldsCase := (asked.last? ["i", "y", "no-ignore-case"]).any fun found =>
              found.1 ≠ "no-ignore-case"
            let search : Grep.Search := ⟨(Grep.eitherOf regexes).getD (.one false []),
              ⟨foldsCase, false⟩, inverted, most, (before.or both).getD 0, (after.or both).getD 0,
              if recursive && files.isEmpty then 2 else 0⟩
            let files := if files.isEmpty then (if recursive then [['.']] else [['-']]) else files
            let named := match asked.last? ["H", "h"] with
              | some (key, _) => some (key = "H")
              | none => if 1 < files.length then some true else if recursive then none else some false
            if most = some 0 && !asked.has "L" then Action.exit 1
            let (found, failed) ← files.foldlM (fun (found, failed) path => do
              let (more, wrong) ← Grep.file name asked search named true 256 path
              if asked.has "q" && more then Action.exit 0
              pure (found || more, failed || wrong)) (false, false)
            pure (if failed then 2 else if found then 0 else 1)

def grep : Tool := grepAs "G"

end BatchLaunch.Tools
