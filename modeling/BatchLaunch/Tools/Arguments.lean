import BatchLaunch.Tools.Flow
import BatchLaunch.Tools.Starting

/-!
`xargs`: a program is run with words from the standard input, as often as it takes to use them all.
-/
namespace BatchLaunch.Tools

open Host (Action Call Reply Errno Environment)

structure WordReading where
  word : Chars
  inWord : Bool
  /-- Only blanks came since the last word. -/
  skips : Bool
  quote : Option Char
  escaped : Bool
  /-- The words of the line at hand, the last first, and the lines before it. -/
  line : List Chars
  done : List (List Chars)

namespace WordReading

def start : WordReading := ⟨[], false, true, none, false, [], []⟩

def endWord (reading : WordReading) : WordReading :=
  if reading.inWord then
    { reading with word := [], inWord := false, line := reading.word.reverse :: reading.line }
  else reading

def endLine (reading : WordReading) : WordReading :=
  { reading with line := [], done := reading.line.reverse :: reading.done, skips := true }

def add (reading : WordReading) (c : Char) : WordReading :=
  { reading with word := c :: reading.word, inWord := true, skips := false, escaped := false }

def step (whole : Bool) (reading : WordReading) (c : Char) : WordReading :=
  if reading.escaped then reading.add c
  else
    match reading.quote with
    | some quote =>
        if c = quote then { reading with quote := none } else reading.add c
    | none =>
        if reading.skips && isSpaceChar c then reading
        else if c = '\n' then
          let ended := reading.endWord
          if ended.line.isEmpty then { ended with skips := true } else ended.endLine
        else if isBlankChar c && !whole then { reading.endWord with skips := true }
        else if c = '\\' then { reading with escaped := true, skips := false }
        else if c = '"' || c = '\x27' then
          { reading with quote := some c, inWord := true, skips := false }
        else reading.add c

/-- Takes all of a text, up to the end of a line in which a quote is not closed. The answer tells
whether there is such a line. -/
def read (whole : Bool) : WordReading → Chars → WordReading × Bool
  | reading, [] => (reading, false)
  | reading, c :: rest =>
      if reading.quote.isSome && !reading.escaped && c = '\n' then (reading, true)
      else read whole (reading.step whole c) rest

def takeLines (reading : WordReading) : List (List Chars) × WordReading :=
  (reading.done.reverse, { reading with done := [] })

def lastLines (reading : WordReading) : List (List Chars) :=
  let ended := if reading.quote.isSome then reading else reading.endWord
  let ended := if ended.line.isEmpty then ended else ended.endLine
  ended.done.reverse

end WordReading

structure Batching where
  name : Chars
  environment : Environment
  command : List Chars
  tells : Bool

def Batching.run (batching : Batching) (status : Nat) (words : List Chars) : Action Nat := do
  if batching.tells then
    let _ ← Action.write errors (Text.octetsOf (join [' '] (words.map shellSafe) ++ ['\n']))
  match ← runChild batching.environment forgetInput words with
  | .error errno =>
      giveUp batching.name (words.headD [] ++ ": ".toList ++ errno.text.toList)
        (failureStatus errno)
  | .ok (.exited 0) => pure status
  | .ok (.exited 255) =>
      giveUp batching.name (words.headD [] ++ ": exited with status 255; aborting".toList) 124
  | .ok (.exited _) => pure 123
  | .ok (.signalled signal) =>
      giveUp batching.name
        (words.headD [] ++ ": terminated by signal ".toList ++ natChars signal.toNat) 125

def largestCommand : Nat := 131072

def wordsSize (words : List Chars) : Nat := words.foldl (fun n word => n + word.length + 1) 0

def batchesOf (count size : Nat) (words : List Chars) : List (List Chars) :=
  let (groups, last, _) := words.foldl (fun (groups, group, used) word =>
    let next := used + word.length + 1
    if !group.isEmpty && (group.length = count || size < next) then
      (group.reverse :: groups, [word], word.length + 1)
    else (groups, word :: group, next))
    (([], [], 0) : List (List Chars) × List Chars × Nat)
  ((if last.isEmpty then groups else last.reverse :: groups)).reverse

def linesTogether (count : Nat) (lines : List (List Chars)) : List (List Chars) :=
  let (groups, last, _) := lines.foldl (fun (groups, group, used) line =>
    if used + 1 = count then ((group ++ line) :: groups, [], 0)
    else (groups, group ++ line, used + 1))
    (([], [], 0) : List (List Chars) × List Chars × Nat)
  (if last.isEmpty then groups else last :: groups).reverse

inductive Grouping where
  | line
  | lines (count : Nat)
  | words (count size : Nat)

def Grouping.split (grouping : Grouping) (isLast : Bool) (lines : List (List Chars)) :
    List (List Chars) × List (List Chars) :=
  match grouping with
  | .line => (lines, [])
  | .lines count =>
      let ready := if isLast then lines.length else lines.length - lines.length % count
      (linesTogether count (lines.take ready), lines.drop ready)
  | .words count size =>
      let groups := batchesOf count size lines.flatten
      match groups.reverse with
      | last :: before =>
          if isLast || last.length = count then (groups, []) else (before.reverse, [last])
      | [] => ([], [])

def upToWord (word : Option Chars) (lines : List (List Chars)) : List (List Chars) × Bool :=
  match word with
  | none => (lines, false)
  | some word =>
      let before := lines.takeWhile fun line => !line.contains word
      match lines[before.length]? with
      | some line => (before ++ [line.takeWhile (· ≠ word)], true)
      | none => (before, false)

structure WordInput where
  source : Host.Descriptor
  delimiter : Option Char
  whole : Bool
  ending : Option Chars
  grouping : Grouping

structure WordProgress where
  reading : WordReading
  begun : Chars
  waiting : List (List Chars)

/-- Takes a piece of the input, or its end: the groups of words that are ready, whether nothing more
is to be read, and a quote that is not closed. -/
def WordInput.take (input : WordInput) (progress : WordProgress) (piece : Option Chars) :
    List (List Chars) × Bool × Option Char × WordProgress :=
  let (lines, atQuote, progress) := match input.delimiter, piece with
    | some c, some piece =>
        let (text, begun) := atLastEnd c (progress.begun ++ piece)
        ((recordsAt c text).map fun record => [record], false, { progress with begun := begun })
    | some c, none => ((recordsAt c progress.begun).map fun record => [record], false, progress)
    | none, some piece =>
        let (reading, atQuote) := progress.reading.read input.whole piece
        let (lines, reading) := reading.takeLines
        (lines, atQuote, { progress with reading := reading })
    | none, none => ([], false, progress)
  let (found, isEnded) := upToWord input.ending (progress.waiting ++ lines)
  let isLast := isEnded || atQuote || piece.isNone
  let (rest, _) := upToWord input.ending
    (if isEnded || !isLast || input.delimiter.isSome then [] else progress.reading.lastLines)
  let (groups, waiting) := input.grouping.split isLast (found ++ rest)
  let unclosed := if isLast && !isEnded then progress.reading.quote else none
  (groups, isLast, unclosed, { progress with waiting := waiting })

def replaceAll (old new : Chars) : Nat → Chars → Chars
  | 0, text => text
  | _, [] => []
  | fuel + 1, c :: rest =>
      if !old.isEmpty && old.isPrefixOf (c :: rest) then
        new ++ replaceAll old new fuel ((c :: rest).drop old.length)
      else c :: replaceAll old new fuel rest

def xargsOptions : OptionTable :=
  ⟨"0a:E:e::i::I:l::L:n:oprs:txP:d:", [("null", "0"), ("arg-file:", "a"), ("delimiter:", "d"),
    ("eof::", "e"), ("replace::", "i"), ("max-lines::", "l"), ("max-args:", "n"),
    ("max-chars:", "s"), ("max-procs:", "P"), ("interactive", "p"), ("no-run-if-empty", "r"),
    ("open-tty", "o"), ("process-slot-var:", "slot"), ("verbose", "t"), ("exit", "x")], false⟩

def leastNumber (name : Chars) (letter : Char) (least : Nat) (text : Chars) : Action Nat :=
  match natural? text with
  | some n =>
      if n < least then
        giveUpUse name ("value ".toList ++ natChars n ++ " for -".toList ++ letter ::
          " option should be >= ".toList ++ natChars least) 1
      else pure n
  | none =>
      giveUpUse name ("invalid number \"".toList ++ text ++ "\" for -".toList ++ letter ::
        " option".toList) 1

def groupingOptions : List (String × String × String) := [
  ("n", "--max-args", "--max-args/-n"), ("L", "--max-lines", "-L"),
  ("l", "--max-lines", "--max-lines/-l"), ("I", "--replace", "--replace/-I/-i"),
  ("i", "--replace", "--replace/-I/-i")]

/-- Which of these options counts: the last one, but a single word at a time is no more than what is
replaced anyway. -/
def groupingOption (name : Chars) :
    Option (String × Chars) → List (String × Chars) → Action (Option (String × Chars))
  | mode, [] => pure mode
  | mode, option :: rest => do
      match groupingOptions.lookup option.1 with
      | none => groupingOption name mode rest
      | some (kind, word) =>
          let before := mode.bind fun mode => (groupingOptions.lookup mode.1).map (·.1)
          match before with
          | none => groupingOption name (some option) rest
          | some before =>
              if before = kind then groupingOption name (some option) rest
              else if option = ("n", ['1']) && before = "--replace" then
                groupingOption name mode rest
              else
                complain name ("warning: options ".toList ++ before.toList ++ " and ".toList ++
                  word.toList ++ " are mutually exclusive, ignoring previous ".toList ++
                  before.toList ++ " value".toList)
                groupingOption name (some option) rest

def delimiterOf? : Chars → Option Char
  | [c] => some c
  | ['\\', c] => match c with
      | 'n' => some '\n'
      | 't' => some '\t'
      | '0' => some '\x00'
      | '\\' => some '\\'
      | 'a' => some '\x07'
      | 'r' => some '\r'
      | 'f' => some '\x0c'
      | 'v' => some '\x0b'
      | 'b' => some '\x08'
      | _ => none
  | '\\' :: 'x' :: digits =>
      if digits.all fun c => c.isDigit || ('a' ≤ c && c ≤ 'f') then
        some (Char.ofNat (digits.foldl (fun n c =>
          n * 16 + (if c.isDigit then c.toNat - 48 else c.toNat - 87)) 0 % 256))
      else none
  | '\\' :: digits =>
      if digits.all fun c => '0' ≤ c && c ≤ '7' then
        some (Char.ofNat (digits.foldl (fun n c => n * 8 + (c.toNat - 48)) 0 % 256))
      else none
  | _ => none

def xargs : EnvironmentTool := fun environment =>
  withOptions xargsOptions 1 fun name asked => do
    let number (key : String) (letter : Char) (least : Nat) : Action (Option Nat) :=
      match asked.value? key with
      | none => pure none
      | some text => do
          let n ← leastNumber name letter least text
          pure (some n)
    let command := if asked.operands.isEmpty then ["echo".toList] else asked.operands
    let mode ← groupingOption name none asked.given
    let mark : Option Chars := match mode with
      | some ("I", text) => some text
      | some ("i", text) => some (if text.isEmpty then "\x7b\x7d".toList else text)
      | _ => none
    let perLines ← match mode with
      | some ("L", _) => number "L" 'L' 1
      | some ("l", []) => pure (some 1)
      | some ("l", _) => number "l" 'l' 1
      | _ => pure none
    let most ← match mode with
      | some ("n", _) => number "n" 'n' 1
      | _ => pure none
    let size ← number "s" 's' 1
    let size := min (size.getD largestCommand) largestCommand
    let delimiter ← match asked.last? ["0", "d"] with
      | none => pure none
      | some ("0", _) => pure (some '\x00')
      | some (_, text) =>
          match delimiterOf? text with
          | some c => pure (some c)
          | none =>
              giveUp name ("Invalid input delimiter specification ".toList ++ text ++
                (": the delimiter must be either a single character or an" ++
                  " escape sequence starting with \\.").toList) 1
    let source ← match asked.value? "a" with
      | none => pure 0
      | some file => do
          match ← openInput file with
          | .ok source => pure source
          | .error errno =>
              giveUp name ("Cannot open input file ".toList ++ quoted file ++ ": ".toList ++
                errno.text.toList) 1
    let fixed := wordsSize command
    let grouping : Grouping := match mark, perLines with
      | some _, _ => .line
      | none, some count => .lines count
      | none, none => .words (most.getD 1000000) (size - fixed)
    let input : WordInput := {
      source := source, delimiter := delimiter, whole := mark.isSome, grouping := grouping
      ending := (asked.last? ["E", "e"]).bind fun entry =>
        if entry.2.isEmpty || delimiter.isSome then none else some entry.2 }
    let batching : Batching := ⟨name, environment, command, asked.has "t"⟩
    let runOne (status : Nat) (words : List Chars) : Action Nat := do
      match mark with
      | some mark =>
          if words.isEmpty then pure status
          else
            let word := words.headD []
            let put (text : Chars) : Chars := replaceAll mark word (text.length + 1) text
            batching.run status (command.take 1 ++ (command.drop 1).map put)
      | none =>
          if size < fixed + wordsSize words then giveUp name "argument line too long".toList 1
          batching.run status (command ++ words)
    let rec go : Nat → WordProgress → Bool → Nat → Action Nat
      | 0, _, _, status => pure status
      | fuel + 1, progress, ran, status => do
          let piece ← match ← Action.call (.read source 65536) with
            | .octets (octet :: octets) => pure (some (Text.charsOf (octet :: octets)))
            | _ => pure none
          let (groups, isLast, unclosed, progress) := input.take progress piece
          match unclosed with
          | some quote => do
              -- the last words are still used, but nobody waits for that before the complaint
              let status ← groups.dropLast.foldlM runOne status
              complain name ("unmatched ".toList ++
                (if quote = '"' then "double" else "single").toList ++
                (" quote; by default quotes are special to xargs" ++
                  " unless you use the -0 option").toList)
              let _ ← (groups.drop (groups.length - 1)).foldlM runOne status
              pure 1
          | none => do
              let status ← groups.foldlM runOne status
              let ran := ran || !groups.isEmpty
              if !isLast then go fuel progress ran status
              else if ran || mark.isSome || asked.has "r" then pure status
              else runOne status []
    go blockLimit ⟨.start, [], []⟩ false 0

end BatchLaunch.Tools
