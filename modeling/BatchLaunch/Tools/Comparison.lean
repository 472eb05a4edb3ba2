import BatchLaunch.Tools.Clock
import BatchLaunch.Tools.Comparison.Shape
import BatchLaunch.Tools.Names
import BatchLaunch.Tools.Order

/-!
Programs that compare files: by octets, and by lines.
-/
namespace BatchLaunch.Tools

open Host (Action Call Reply Errno Info)

def giveUpUseTwice {α : Type} (name text : Chars) : Action α := do
  complain name text
  complain name ("Try '".toList ++ name ++ " --help' for more information.".toList)
  Action.exit 2

def firstDifference : Nat → Nat → Chars → Chars → Nat × Nat × Option (Option Char × Option Char)
  | place, line, [], [] => (place, line, none)
  | place, line, [], b :: _ => (place, line, some (none, some b))
  | place, line, a :: _, [] => (place, line, some (some a, none))
  | place, line, a :: as, b :: bs =>
      if a = b then firstDifference (place + 1) (if a = '\n' then line + 1 else line) as bs
      else (place, line, some (some a, some b))

def cmpOptions : OptionTable :=
  ⟨"bci:ln:sv", [("print-bytes", "b"), ("print-chars", "c"), ("ignore-initial:", "i"),
    ("verbose", "l"), ("bytes:", "n"), ("quiet", "s"), ("silent", "s")], true⟩

def shownOctet (c : Char) : Chars :=
  let n := c.toNat
  let (mark, n) := if 128 ≤ n then ("M-".toList, n - 128) else ([], n)
  mark ++ (if n < 32 then ['^', Char.ofNat (n + 64)] else if n = 127 then ['^', '?']
    else [Char.ofNat n])

def missingAfter (word : Chars) : Chars := "missing operand after '".toList ++ word ++ ['\x27']

def oneTooMany (word : Chars) : Chars := "extra operand '".toList ++ word ++ ['\x27']

structure Side where
  source : Host.Descriptor
  skip : Nat
  text : Chars
  atEnd : Bool

def Side.fill (limit : Option Nat) (side : Side) : Action (Except Errno Side) := do
  let count := limit.elim 4096 fun limit => min 4096 (side.skip + limit - side.text.length)
  match ← Action.call (.read side.source count) with
  | .octets [] => pure (.ok { side with atEnd := true })
  | .octets octets =>
      let text := side.text ++ (Text.charsOf octets).drop side.skip
      let isFull := limit.any (· ≤ text.length)
      pure (.ok { side with
        skip := side.skip - octets.length
        text := limit.elim text text.take, atEnd := isFull })
  | .refused errno => pure (.error errno)
  | _ => pure (.ok { side with atEnd := true })

/-- Reads two inputs by turns, up to the end of one of them, or as far as they are the same unless
all differences are wanted. -/
def readPair (first second : Side → Action Side) (all : Bool) :
    Nat → Side × Side → Action (Chars × Chars)
  | 0, (one, other) => pure (one.text, other.text)
  | fuel + 1, (one, other) => do
      let lengths := (one.text.length, other.text.length)
      let isOver := (one.atEnd && other.atEnd) || (one.atEnd && lengths.1 < lengths.2) ||
        (other.atEnd && lengths.2 < lengths.1) ||
        (!all && (one.text.zip other.text).any fun (a, b) => a ≠ b)
      if isOver then pure (one.text, other.text)
      else
        let next ← if !one.atEnd && lengths.1 ≤ lengths.2 then first one else pure one
        let after ← if !other.atEnd && lengths.2 ≤ lengths.1 then second other else pure other
        readPair first second all fuel (next, after)

def cmp : Tool := fun name words =>
  match cmpOptions.read (words.length + 1) words with
  | .error fault => giveUpUseTwice name fault
  | .ok asked => do
      let number (option : String) (text : Chars) : Action Nat :=
        match amount? "kKMGTPEZY" text with
        | .ok n => pure n
        | .error _ =>
            giveUpUseTwice name ("invalid --".toList ++ option.toList ++ " value '".toList ++ text ++
              ['\x27'])
      let numbers ← do
        let limit ← (asked.value? "n").mapM (number "bytes")
        match (asked.value? "i").map (Text.partsAt ':') with
        | none => pure (limit, 0, 0)
        | some [one, other] => do
            pure (limit, ← number "ignore-initial" one, ← number "ignore-initial" other)
        | some parts => do
            let n ← number "ignore-initial" (join [':'] parts)
            pure (limit, n, n)
      let first ← match asked.operands with
        | [] => giveUpUseTwice name (missingAfter name)
        | first :: _ => pure first
      let second := (asked.operands[1]?).getD ['-']
      match asked.operands[4]? with
      | some extra => giveUpUseTwice name (oneTooMany extra)
      | none => pure ()
      let limit := numbers.1
      let skip (place : Nat) (otherwise : Nat) : Action Nat :=
        (asked.operands[place]?).elim (pure otherwise) (number "ignore-initial")
      let skips ← do pure (← skip 2 numbers.2.1, ← skip 3 numbers.2.2)
      let silent := asked.has "s"
      let fail {α : Type} (file : Chars) (errno : Errno) : Action α := do
        if silent && errno = .noEntry then Action.exit 2
        else giveUp name (file ++ ": ".toList ++ errno.text.toList) 2
      let opened (file : Chars) (skip : Nat) : Action Side := do
        match ← openInput file with
        | .ok source => pure ⟨source, skip, [], limit = some 0⟩
        | .error errno => fail file errno
      let sides ← do pure (← opened first skips.1, ← opened second skips.2)
      let fill (file : Chars) (side : Side) : Action Side := do
        match ← side.fill limit with
        | .ok side => pure side
        | .error errno => fail file errno
      let (one, other) ← readPair (fill first) (fill second) (asked.has "l") blockLimit sides
      let ended (file : Chars) (place line : Nat) (text : Chars) : Action Nat := do
        if !silent then
          complain name ("EOF on ".toList ++ file ++
            (if text.isEmpty then " which is empty".toList
            else " after byte ".toList ++ natChars place ++
              (if asked.has "l" then []
              else if (text.take place).getLast? = some '\n' then
                ", line ".toList ++ natChars (line - 1)
              else ", in line ".toList ++ natChars line)))
        pure 1
      if asked.has "l" then
        let differing := ((one.zip other).zipIdx.filter fun ((a, b), _) => a ≠ b)
        let width := (natChars (min one.length other.length)).length
        let octal (c : Char) : Chars := padLeft 3 (Nat.toDigits 8 c.toNat)
        let common := min one.length other.length
        let status ← if one.length = other.length then pure (if differing.isEmpty then 0 else 1)
          else if one.length < other.length then ended first common 0 one
          else ended second common 0 other
        if !silent then
          let _ ← put (differing.flatMap fun ((a, b), place) =>
            padLeft width (natChars (place + 1)) ++ ' ' :: octal a ++
              (if asked.has "b" then ' ' :: padRight 4 (shownOctet a) else []) ++ ' ' :: octal b ++
              (if asked.has "b" then ' ' :: shownOctet b else []) ++ ['\n'])
        pure status
      else
        match firstDifference 0 1 one other with
        | (_, _, none) => pure 0
        | (place, line, some (some a, some b)) =>
            if !silent then
              let octets := if asked.has "b" || asked.has "c" then
                  " is ".toList ++ padLeft 3 (Nat.toDigits 8 a.toNat) ++ ' ' :: shownOctet a ++
                    ' ' :: padLeft 3 (Nat.toDigits 8 b.toNat) ++ ' ' :: shownOctet b
                else []
              let _ ← put (first ++ ' ' :: second ++ " differ: byte ".toList ++
                natChars (place + 1) ++ ", line ".toList ++ natChars line ++ octets ++ ['\n'])
            pure 1
        | (place, line, some (none, _)) => ended first place line one
        | (place, line, some (_, none)) => ended second place line other

def diffOptions : OptionTable :=
  ⟨"abBcC:ideElnqrsNtTuU:wW:x:yZ", [("exclude:", "x"), ("text", "a"),
    ("ignore-space-change", "b"), ("ignore-blank-lines", "B"), ("context::", "C"), ("ed", "e"),
    ("rcs", "n"), ("side-by-side", "y"), ("width:", "W"), ("left-column", "left-column"),
    ("suppress-common-lines", "suppress"), ("expand-tabs", "t"), ("brief", "q"),
    ("ignore-case", "i"), ("recursive", "r"), ("report-identical-files", "s"),
    ("new-file", "N"), ("unified::", "U"), ("ignore-all-space", "w"), ("minimal", "d"),
    ("ignore-trailing-space", "Z"), ("normal", "normal"), ("label:", "L")], true⟩

def sameLine (asked : Asked) (a b : Chars) : Bool :=
  let squeeze (line : Chars) : Chars :=
    line.foldr (fun c rest =>
      if isSpaceChar c then
        match rest with
        | d :: _ => if d = ' ' then rest else ' ' :: rest
        | [] => []
      else c :: rest) []
  let view (line : Chars) : Chars :=
    let line := if asked.has "i" then line.map Char.toLower else line
    if asked.has "w" then line.filter (!isSpaceChar ·)
    else if asked.has "b" then squeeze line
    else if asked.has "Z" then (line.reverse.dropWhile isSpaceChar).reverse
    else line
  a = b || ((asked.has "i" || asked.has "w" || asked.has "b" || asked.has "Z") && view a = view b)

def wordsApart : List Chars → List Chars → List Chars
  | word :: words, operand :: operands =>
      if word = operand then wordsApart words operands
      else word :: wordsApart words (operand :: operands)
  | words, _ => words

def writtenOptions (words operands : List Chars) : Chars :=
  (wordsApart words.reverse operands.reverse).reverse.flatMap fun word => ' ' :: shellSafe word

namespace Comparing

def heading (mark : String) (label : Option Chars) (file : Chars) (info : Option Info) : Chars :=
  let time := info.elim (Calendar.Moment.mk 0 0) fun info => momentOf info.modified
  mark.toList ++ label.getD
    (file ++ '\t' :: time.shown "%Y-%m-%d %H:%M:%S.%N %z".toList) ++ ['\n']

inductive Form where
  | plain
  | unified
  | context
  | editor
  | numbered
  | columns
  deriving DecidableEq, Repr

def formsOf (asked : Asked) : List Form :=
  let wanted (form : Form) (keys : List String) : List Form :=
    if keys.any asked.has then [form] else []
  wanted .unified ["u", "U"] ++ wanted .context ["c", "C"] ++ wanted .editor ["e"] ++
    wanted .numbered ["n"] ++ wanted .columns ["y"] ++ wanted .plain ["normal"]

def contextOf (asked : Asked) : Nat :=
  max (((asked.value? "U").bind natural?).getD (if asked.has "U" || asked.has "C" then 0 else 3))
    (((asked.value? "C").bind natural?).getD 0)

def halvesOf (asked : Asked) : Halves :=
  .ofWidth (((asked.value? "W").bind natural?).getD 130) (!asked.has "t")

def sharedOf (asked : Asked) : Shared :=
  if asked.has "suppress" then .none else if asked.has "left-column" then .left else .both

def shown (asked : Asked) (form : Form) (files : Chars × Chars) (infos : Option Info × Option Info)
    (old new : List Chars) (hunks : List Hunk) : Chars :=
  let context := contextOf asked
  let labels := asked.values "L"
  match form with
  | .plain => hunks.flatMap plainHunk
  | .unified => heading "--- " labels[0]? files.1 infos.1 ++
      heading "+++ " labels[1]? files.2 infos.2 ++
      (groupHunks context hunks).flatMap (unifiedGroup context old)
  | .context => heading "*** " labels[0]? files.1 infos.1 ++
      heading "--- " labels[1]? files.2 infos.2 ++
      (groupHunks context hunks).flatMap (contextGroup context old new)
  | .editor => hunks.reverse.flatMap editorHunk
  | .numbered => hunks.flatMap numberedHunk
  | .columns => (halvesOf asked).texts (sharedOf asked) old new hunks

def texts (name : Chars) (asked : Asked) (before : Chars) (first second : Chars)
    (infos : Option Info × Option Info) (one other : Chars) : Action Nat := do
  let form := (formsOf asked).headD .plain
  let isBinary (text : Chars) : Bool := (text.take 4096).contains '\x00' && !asked.has "a"
  if one = other then
    if asked.has "s" then
      let _ ← put ("Files ".toList ++ first ++ " and ".toList ++ second ++
        " are identical\n".toList)
    if form = .columns then
      let _ ← put (shown asked form (first, second) infos (fullLines one) (fullLines other) [])
    pure 0
  else if isBinary one || isBinary other then
    let _ ← put ((if asked.has "q" then "Files " else "Binary files ").toList ++ first ++
      " and ".toList ++ second ++ " differ\n".toList)
    pure (if asked.has "q" then 1 else 2)
  else
    let old := fullLines one
    let hunks := (hunksBetween (sameLine asked) old (fullLines other)).filter fun hunk =>
      !(asked.has "B" && (hunk.oldLines ++ hunk.newLines).all fun line => line = ['\n'])
    if hunks.isEmpty then
      if form = .columns then
        let _ ← put (shown asked form (first, second) infos old (fullLines other) [])
      pure 0
    else if asked.has "q" then
      let _ ← put ("Files ".toList ++ first ++ " and ".toList ++ second ++ " differ\n".toList)
      pure 1
    else
      let body := shown asked form (first, second) infos old (fullLines other) hunks
      let _ ← put (before ++ body)
      if form = .editor then
        let unended (text : Chars) : Bool := !text.isEmpty && text.getLast? ≠ some '\n'
        let bare := [(first, one), (second, other)].filter fun (_, text) => unended text
        let _ ← bare.foldlM (fun _ (file, _) =>
          complain name (file ++ ": No newline at end of file\n".toList)) ()
        pure (if bare.isEmpty then 1 else 2)
      else pure 1

def readFile (name file : Chars) (absent : Bool) : Action (Option Chars) := do
  if absent then pure (some [])
  else
    match ← slurp file with
    | .ok text => pure (some text)
    | .error errno =>
        complainOf name file errno
        pure none

def paths (name : Chars) (asked : Asked) (written : Chars) :
    Nat → Bool → Chars → Chars → Action Nat
  | 0, _, _, _ => pure 2
  | fuel + 1, top, first, second => do
      let lookAt (file : Chars) : Action (Except Errno (Option Info)) := do
        if file = ['-'] then pure (.ok none)
        else
          match ← infoAt file true with
          | .ok info => pure (.ok (some info))
          | .error errno => pure (.error errno)
      let isDir (info : Option Info) : Bool := info.any (·.kind = .directory)
      match ← lookAt first, ← lookAt second with
      | .ok one, .ok other =>
          if isDir one && isDir other then
            if top || asked.has "r" then dirs fuel first second
            else
              let _ ← put ("Common subdirectories: ".toList ++ first ++ " and ".toList ++ second ++
                ['\n'])
              pure 0
          else if isDir one && top then
            paths name asked written fuel false (inside first (baseOf second)) second
          else if isDir other && top then
            paths name asked written fuel false first (inside second (baseOf first))
          else if isDir one || isDir other then
            let kind (info : Option Info) : Chars :=
              (if isDir info then "directory" else "regular file").toList
            let _ ← put ("File ".toList ++ first ++ " is a ".toList ++ kind one ++
              " while file ".toList ++ second ++ " is a ".toList ++ kind other ++ ['\n'])
            pure 1
          else files top first second (one, other) (false, false)
      | one, other =>
          let missing (found : Except Errno (Option Info)) : Bool :=
            match found with
            | .error .noEntry => true
            | _ => false
          if asked.has "N" && missing one ≠ missing other then
            files top first second (one.toOption.join, other.toOption.join)
              (missing one, missing other)
          else
            match one with
            | .error errno => complainOf name first errno
            | .ok _ => pure ()
            match other with
            | .error errno => complainOf name second errno
            | .ok _ => pure ()
            pure 2
where
  files (top : Bool) (first second : Chars) (infos : Option Info × Option Info)
      (absent : Bool × Bool) : Action Nat := do
    match ← readFile name first absent.1, ← readFile name second absent.2 with
    | some one, some other =>
        let before := if top then []
          else "diff".toList ++ written ++ ' ' :: first ++ ' ' :: second ++ ['\n']
        texts name asked before first second infos one other
    | _, _ => pure 2
  dirs (fuel : Nat) (first second : Chars) : Action Nat := do
    match ← namesIn first, ← namesIn second with
    | .ok ones, .ok others =>
        let names := sortedNames (ones ++ others.filter fun name => !ones.contains name)
        let names := names.filter fun name =>
          !(asked.values "x").any fun pattern => fitsPattern pattern name
        names.foldlM (fun status entry => do
          let both := ones.contains entry && others.contains entry
          let here ← if both || asked.has "N" then
              paths name asked written fuel false (inside first entry) (inside second entry)
            else do
              let dir := if ones.contains entry then first else second
              let _ ← put ("Only in ".toList ++ dir ++ ": ".toList ++ entry ++ ['\n'])
              pure 1
          pure (max status here)) 0
    | one, other =>
        match one with
        | .error errno => complainOf name first errno
        | .ok _ => pure ()
        match other with
        | .error errno => complainOf name second errno
        | .ok _ => pure ()
        pure 2

/-- One of two operands is the standard input, and that is the same file as the other one, so that
neither has to be read. -/
def isInput (first second : Chars) : Action Bool := do
  let about (file : Chars) : Action (Except Errno Info) :=
    infoAt (if file = ['-'] then "/dev/stdin".toList else file) true
  if first ≠ ['-'] && second ≠ ['-'] then pure false
  else
    match ← about first, ← about second with
    | .ok one, .ok other => pure (one.kind = .file && one.node = other.node)
    | _, _ => pure false

end Comparing

def numericOptions : List (String × String) :=
  [("C", "context length"), ("U", "context length"), ("W", "width")]

def diff : Tool := fun name words =>
  match diffOptions.read (words.length + 1) words with
  | .error fault => giveUpUseTwice name fault
  | .ok asked => do
      for (key, what) in numericOptions do
        let wrong := (asked.values key).find? fun value =>
          !value.isEmpty && (natural? value).isNone
        match wrong with
        | some value =>
            giveUpUseTwice name ("invalid ".toList ++ what.toList ++ " '".toList ++ value ++ ['\x27'])
        | none => pure ()
      if 1 < (Comparing.formsOf asked).length then
        giveUpUseTwice name "conflicting output style options".toList
      match asked.operands with
      | [first, second] => do
          let same ← if first = second || asked.has "s" || asked.has "y" then pure false
            else Comparing.isInput first second
          let options := writtenOptions words asked.operands
          if same then pure 0 else Comparing.paths name asked options deepest true first second
      | [] => giveUpUseTwice name (missingAfter name)
      | [single] => giveUpUseTwice name (missingAfter single)
      | _ :: _ :: extra :: _ => giveUpUseTwice name (oneTooMany extra)

end BatchLaunch.Tools
