import BatchLaunch.Tools.Order

/-!
Programs about ordered lines: sorting them, and what equal lines of one or two files have in common.
-/
namespace BatchLaunch.Tools

open Host (Action)

/-! Keys -/

structure SortKey where
  startField : Nat
  startChar : Nat
  endField : Option Nat
  endChar : Nat
  skipsStart : Bool
  skipsEnd : Bool
  letters : Chars

def orderLetters : Chars := "bdfghiMnRrV".toList

/-- What is left of a line behind so many fields. Fields start with blanks, or a character stands
between them. -/
def behindFields (tab : Option Char) (keepsLast : Bool) : Nat → Chars → Chars
  | 0, line => line
  | count + 1, line =>
      if line.isEmpty then []
      else
        match tab with
        | some tab =>
            let rest := line.dropWhile (· ≠ tab)
            behindFields (some tab) keepsLast count
              (if keepsLast && count = 0 then rest else rest.drop 1)
        | none =>
            behindFields none keepsLast count
              ((line.dropWhile isBlankChar).dropWhile fun c => !isBlankChar c)

def SortKey.part (tab : Option Char) (key : SortKey) (line : Chars) : Chars :=
  let behind := behindFields tab false key.startField line
  let behind := (if key.skipsStart then behind.dropWhile isBlankChar else behind).drop key.startChar
  match key.endField with
  | none => behind
  | some field =>
      let after := if key.endChar = 0 then behindFields tab true (field + 1) line
        else
          let inside := behindFields tab false field line
          (if key.skipsEnd then inside.dropWhile isBlankChar else inside).drop key.endChar
      behind.take (behind.length - after.length)

def compareParts (letters : Chars) (a b : Chars) : Ordering :=
  let has (letter : Char) : Bool := letters.contains letter
  let found :=
    if has 'n' then compareNumeric a b
    else if has 'g' then compareGeneral a b
    else if has 'h' then compareHuman a b
    else if has 'M' then compare (monthOf a) (monthOf b)
    else
      let admitted (text : Chars) : Chars :=
        if has 'd' then text.filter fun c => isBlankChar c || c.isAlphanum
        else if has 'i' then text.filter fun c => 32 ≤ c.toNat && c.toNat < 127
        else text
      let folded (text : Chars) : Chars :=
        if has 'f' then (admitted text).map Char.toUpper else admitted text
      if has 'V' then compareAsVersions (folded a) (folded b)
      else compareTexts (folded a) (folded b)
  if has 'r' then found.swap else found

def keyNumber (message : String) (text : Chars) : Except Chars (Nat × Chars) :=
  let digits := text.takeWhile Char.isDigit
  match natural? digits with
  | some n => .ok (n, text.drop digits.length)
  | none => .error (message.toList ++ ": invalid count at start of ".toList ++ quoted text)

def sortKey? (text : Chars) : Except Chars SortKey := do
  let refuse (message : String) : Except Chars SortKey :=
    .error (message.toList ++ ": invalid field specification ".toList ++ quoted text)
  let isLetter (c : Char) : Bool := orderLetters.contains c
  let bound (message : String) (text : Chars) : Except Chars (Nat × Option Nat × Chars × Chars) := do
    let (field, rest) ← keyNumber message text
    let (char, rest) ← match rest with
      | '.' :: rest => do
          let (n, rest) ← keyNumber "invalid number after '.'" rest
          pure (some n, rest)
      | rest => pure (none, rest)
    let letters := rest.takeWhile isLetter
    return (field, char, letters, rest.drop letters.length)
  let (startField, startChar, letters, rest) ← bound "invalid number at field start" text
  if startField = 0 then refuse "field number is zero"
  else if startChar = some 0 then refuse "character offset is zero"
  else
    let key : SortKey := ⟨startField - 1, startChar.getD 1 - 1, none, 0, letters.contains 'b', false,
      letters⟩
    match rest with
    | [] => return key
    | ',' :: rest =>
        let (endField, endChar, more, rest) ← bound "invalid number after ','" rest
        if endField = 0 then refuse "field number is zero"
        else if !rest.isEmpty then refuse "stray character in field spec"
        else
          return { key with
            endField := some (endField - 1), endChar := endChar.getD 0
            skipsEnd := more.contains 'b', letters := letters ++ more }
    | _ => refuse "stray character in field spec"

/-! Sorting -/

structure Sorting where
  tab : Option Char
  keys : List SortKey
  letters : Chars
  isStable : Bool

def Sorting.ofKeys (tab : Option Char) (keys : List SortKey) (letters : Chars) (isStable : Bool) :
    Sorting :=
  let whole : SortKey := ⟨0, 0, none, 0, letters.contains 'b', false, letters⟩
  let keys := keys.map fun key =>
    if key.letters.isEmpty then
      { key with
        letters := letters
        skipsStart := letters.contains 'b', skipsEnd := letters.contains 'b' }
    else key
  let keys := if keys.isEmpty && letters.any (· ≠ 'r') then [whole] else keys
  ⟨tab, keys, letters, isStable⟩

def Sorting.compareKeys (sorting : Sorting) (a b : Chars) : Ordering :=
  sorting.keys.foldl (fun found key =>
    found.then (compareParts key.letters (key.part sorting.tab a) (key.part sorting.tab b))) .eq

def Sorting.compareLines (sorting : Sorting) (a b : Chars) : Ordering :=
  let byKeys := sorting.compareKeys a b
  let whole := compareTexts a b
  if sorting.keys.isEmpty || (byKeys = .eq && !sorting.isStable) then
    byKeys.then (if sorting.letters.contains 'r' then whole.swap else whole)
  else byKeys

def dropEqual (same : Chars → Chars → Bool) (lines : List Chars) : List Chars :=
  (lines.foldl (fun done line =>
    if done.head?.any (same line) then done else line :: done) []).reverse

def disorder? (misplaced : Chars → Chars → Bool) (lines : List Chars) : Option (Nat × Chars) :=
  (((lines.zip (lines.drop 1)).zipIdx 2).find? fun entry =>
    misplaced entry.1.1 entry.1.2).map fun entry => (entry.2, entry.1.2)

/-- All lines of some files; the first one that cannot be read ends the program. -/
def sortInputs (name : Chars) (ending : Char) (files : List Chars) : Action (List Chars) :=
  files.foldlM (fun done file => do
    match ← slurp file with
    | .ok text => pure (done ++ recordsAt ending text)
    | .error errno =>
        let what := if errno = .isDirectory then "read failed: " else "cannot read: "
        giveUp name (what.toList ++ nameSafe file ++ ": ".toList ++ errno.text.toList) 2) []

def deliver (name : Chars) (file : Option Chars) (text : Chars) (what : String) (status : Nat) :
    Action Unit := do
  match file with
  | none =>
      let _ ← put text
  | some file =>
      match ← Action.call (.open (path file) .write) with
      | .done descriptor =>
          let _ ← Action.write descriptor (Text.octetsOf text)
          let _ ← Action.call (.close descriptor)
      | .refused errno =>
          giveUp name (what.toList ++ nameSafe file ++ ": ".toList ++ errno.text.toList) status
      | _ => pure ()

def sort : Tool := withOptions
  { letters := "bcCdfghik:mMno:rRsS:t:T:uVz", mixed := true
    words := [("ignore-leading-blanks", "b"), ("check::", "check"), ("dictionary-order", "d"),
      ("ignore-case", "f"), ("general-numeric-sort", "g"), ("human-numeric-sort", "h"),
      ("ignore-nonprinting", "i"), ("key:", "k"), ("merge", "m"), ("month-sort", "M"),
      ("numeric-sort", "n"), ("output:", "o"), ("reverse", "r"), ("random-sort", "R"),
      ("stable", "s"), ("buffer-size:", "S"), ("field-separator:", "t"),
      ("temporary-directory:", "T"), ("unique", "u"), ("version-sort", "V"), ("parallel:", "p"),
      ("batch-size:", "batch"),
      ("zero-terminated", "z")] } 2
  fun name asked => do
    let letters := orderLetters.filter fun letter => asked.has letter.toString
    let tab ← match asked.value? "t" with
      | none => pure none
      | some [] => giveUp name "empty tab".toList 2
      | some [c] => pure (some c)
      | some ['\\', '0'] => pure (some '\x00')
      | some text => giveUp name ("multi-character tab ".toList ++ quoted text) 2
    let keys ← (asked.values "k").mapM fun text =>
      match sortKey? text with
      | .ok key => pure key
      | .error fault => giveUp name fault 2
    for (key, option) in [("S", "-S"), ("p", "--parallel"), ("batch", "--batch-size")] do
      for text in (asked.value? key).toList do
        let percent := key = "S" && text.getLast? = some '%'
        let _ ← argumentOf name option "bKkMGTPEZY" 2 (if percent then text.dropLast else text)
    let ending := endingOf asked
    let unique := asked.has "u"
    let sorting := Sorting.ofKeys tab keys letters (asked.has "s" || unique)
    let same (a b : Chars) : Bool :=
      (if sorting.keys.isEmpty then compareTexts a b else sorting.compareKeys a b) = .eq
    let quiet := asked.has "C" || ["quiet", "silent"].any fun word =>
      asked.value? "check" = some word.toList
    if quiet || asked.has "c" || asked.has "check" then
      if let extra :: _ := asked.operands.drop 1 then
        giveUp name ("extra operand ".toList ++ shellQuoted extra ++
          " not allowed with -c".toList) 2
      let file := asked.operands.headD ['-']
      let lines ← sortInputs name ending [file]
      let misplaced (a b : Chars) : Bool :=
        let found := sorting.compareLines a b
        found = .gt || (unique && found = .eq)
      match disorder? misplaced lines with
      | none => pure 0
      | some (number, line) =>
          if !quiet then
            complain name (file ++ ':' :: natChars number ++ ": disorder: ".toList ++ line)
          pure 1
    else
      let lines ← sortInputs name ending (filesOf asked)
      let sorted := lines.mergeSort fun a b => sorting.compareLines a b ≠ .gt
      let kept := if unique then dropEqual same sorted else sorted
      deliver name (asked.value? "o") (endEach ending kept)
        "open failed: " 2
      pure 0

/-! Equal lines -/

def groupsOf (same : Chars → Chars → Bool) (lines : List Chars) : List (List Chars) :=
  (lines.foldl (fun groups line =>
    match groups with
    | group :: rest =>
        if group.getLast?.any (same · line) then (line :: group) :: rest else [line] :: group :: rest
    | [] => [[line]]) []).reverse.map List.reverse

def dropFields : Nat → Chars → Chars
  | 0, line => line
  | count + 1, line =>
      dropFields count ((line.dropWhile isBlankChar).dropWhile fun c => !isBlankChar c)

/-- Old ways to write how much of a line is skipped: `-1` fields and `+1` characters. -/
def modernSkips (words : List Chars) : List Chars :=
  words.map fun word =>
    match word with
    | '-' :: digits => if (natural? digits).isSome then "-f".toList ++ digits else word
    | '+' :: digits => if (natural? digits).isSome then "-s".toList ++ digits else word
    | word => word

def methodOf (name : Chars) (option : String) (methods : List String) (text : Chars) :
    Action String :=
  choiceOf name option (methods.map fun method => ([method], method)) text

def uniq : Tool := fun name words =>
  withOptions
    { letters := "cdDf:is:uw:z", mixed := true
      words := [("count", "c"), ("repeated", "d"), ("all-repeated::", "D"), ("group::", "group"),
        ("skip-fields:", "f"), ("ignore-case", "i"), ("skip-chars:", "s"), ("unique", "u"),
        ("check-chars:", "w"), ("zero-terminated", "z")] } 1
    (fun name asked => do
      let amount (key what : String) (otherwise : Nat) : Action Nat :=
        match asked.value? key with
        | none => pure otherwise
        | some text =>
            match natural? text with
            | some n => pure n
            | none => giveUp name (text ++ ": invalid number of ".toList ++ what.toList) 1
      let fields ← amount "f" "fields to skip" 0
      let skipped ← amount "s" "bytes to skip" 0
      let width ← (asked.value? "w").mapM fun _ => amount "w" "bytes to compare" 0
      let method ← match asked.value? "D" with
        | some [] | none => pure "none"
        | some text => methodOf name "--all-repeated" ["none", "prepend", "separate"] text
      let grouping ← match asked.value? "group" with
        | some [] => pure "separate"
        | some text => methodOf name "--group" ["prepend", "append", "separate", "both"] text
        | none => pure ""
      refuseExtra name asked 2 1 quoted
      if asked.has "group" && (["c", "d", "D", "u"].any asked.has) then
        giveUpUse name "--group is mutually exclusive with -c/-d/-D/-u".toList 1
      if asked.has "c" && asked.has "D" then
        giveUpUse name "printing all duplicated lines and repeat counts is meaningless".toList 1
      let ending := endingOf asked
      let text ← textOrGiveUp name (asked.operands.headD ['-']) 1
      let part (line : Chars) : Chars :=
        let rest := (dropFields fields line).drop skipped
        let rest := width.elim rest rest.take
        if asked.has "i" then rest.map Char.toUpper else rest
      let groups := groupsOf (fun a b => part a = part b) (recordsAt ending text)
      let kept := groups.filter fun group =>
        if 1 < group.length then !asked.has "u" else !(asked.has "d" || asked.has "D")
      let shown (place : Nat) (group : List Chars) : Chars :=
        if asked.has "D" || grouping ≠ "" then
          (if method = "prepend" || (method = "separate" && 0 < place) ||
              grouping = "prepend" || grouping = "both" || (grouping = "separate" && 0 < place)
            then [ending] else []) ++ endEach ending group ++
            (if grouping = "append" || (grouping = "both" && place + 1 = kept.length) then [ending]
              else [])
        else
          (if asked.has "c" then padLeft 7 (natChars group.length) ++ [' '] else []) ++
            group.headD [] ++ [ending]
      deliver name (((asked.operands[1]?).filter (· ≠ ['-'])))
        (kept.zipIdx.flatMap fun (group, place) => shown place group) "" 1
      pure 0) name (modernSkips words)

/-! Two files -/

def twoOperands (name : Chars) (asked : Asked) : Action (Chars × Chars) := do
  needOperand name asked 1
  match asked.operands with
  | [first, second] => pure (first, second)
  | [single] => giveUpUse name ("missing operand after ".toList ++ quoted single) 1
  | _ =>
      refuseExtra name asked 2 1 quoted
      Action.exit 1

def complainOfOrder (name : Chars) (strict : Bool) (unsorted : List Nat) : Action Nat := do
  for number in unsorted do
    complain name ("file ".toList ++ natChars number ++ " is not in sorted order".toList)
    if strict then Action.exit 1
  if unsorted.isEmpty then pure 0
  else
    complain name "input is not in sorted order".toList
    pure 1

/-- Lines of two files, each with the columns that it belongs to: the first file, the second one, or
both. -/
def mergeLines : Nat → List Chars → List Chars → List (Nat × Chars)
  | 0, _, _ => []
  | _, [], second => second.map ((2, ·))
  | _, first, [] => first.map ((1, ·))
  | fuel + 1, a :: as, b :: bs =>
      match compareTexts a b with
      | .lt => (1, a) :: mergeLines fuel as (b :: bs)
      | .gt => (2, b) :: mergeLines fuel (a :: as) bs
      | .eq => (3, a) :: mergeLines fuel as bs

def comm : Tool := withOptions
  { letters := "123z", mixed := true
    words := [("check-order", "check"), ("nocheck-order", "nocheck"),
      ("output-delimiter:", "output-delimiter"), ("total", "total"), ("zero-terminated", "z")] } 1
  fun name asked => do
    let (first, second) ← twoOperands name asked
    let ending := endingOf asked
    let a := recordsAt ending (← textOrGiveUp name first 1)
    let b := recordsAt ending (← textOrGiveUp name second 1)
    let between := ((asked.value? "output-delimiter").filter (!·.isEmpty)).getD
      (if asked.has "output-delimiter" then ['\x00'] else ['\t'])
    let hides (column : Nat) : Bool := asked.has (toString column)
    let lead (column : Nat) : Chars :=
      (if 1 < column && !hides 1 then between else []) ++
        (if 2 < column && !hides 2 then between else [])
    let merged := mergeLines (a.length + b.length + 1) a b
    let count (column : Nat) : Nat := merged.countP fun entry => entry.1 = column
    let _ ← put (merged.flatMap fun (column, line) =>
      if hides column then [] else lead column ++ line ++ [ending])
    if asked.has "total" then
      let _ ← put (join between ([1, 2, 3].map fun column => natChars (count column)) ++ between ++
        "total".toList ++ [ending])
    let misplaced (a b : Chars) : Bool := compareTexts a b = .gt
    let watched := !asked.has "nocheck" && (asked.has "check" || count 1 + count 2 ≠ 0)
    let unsorted := if !watched then []
      else [(1, a), (2, b)].filterMap fun (number, lines) =>
        (disorder? misplaced lines).map fun _ => number
    complainOfOrder name (asked.has "check") unsorted

/-! Joining -/

def fieldsAt (tab : Option Char) (line : Chars) : List Chars :=
  match tab with
  | some tab => Text.partsAt tab line
  | none => (Text.partsAt ' ' (line.map fun c => if isBlankChar c then ' ' else c)).filter
      (!·.isEmpty)

abbrev JoinField := Option (Nat × Nat)

def joinField? (text : Chars) : Option JoinField :=
  match text with
  | ['0'] => some none
  | file :: '.' :: digits =>
      if file = '1' || file = '2' then
        ((natural? digits).filter (0 < ·)).map fun field => some (file.toNat - '0'.toNat, field)
      else none
  | _ => none

structure Joining where
  tab : Option Char
  fields : Nat × Nat
  foldsCase : Bool
  layout : Option (List JoinField)
  filler : Chars

namespace Joining

def key (joining : Joining) (number : Nat) (shown : List Chars) : Chars :=
  let field := if number = 1 then joining.fields.1 else joining.fields.2
  let found := (shown[field - 1]?).getD []
  if joining.foldsCase then found.map Char.toUpper else found

def line (joining : Joining) (first second : Option (List Chars)) : Chars :=
  let field (number place : Nat) : Chars :=
    let line := if number = 1 then first else second
    let found := ((line.getD [])[place - 1]?).getD []
    if found.isEmpty then joining.filler else found
  let common := if first.isSome then field 1 joining.fields.1 else field 2 joining.fields.2
  let others (number : Nat) (line : Option (List Chars)) : List Chars :=
    ((line.getD []).zipIdx 1).filterMap fun (text, place) =>
      if place = (if number = 1 then joining.fields.1 else joining.fields.2) then none
      else some (if text.isEmpty then joining.filler else text)
  let shown := match joining.layout with
    | none => common :: others 1 first ++ others 2 second
    | some layout => layout.map fun found => found.elim common fun (number, place) =>
        field number place
  join [joining.tab.getD ' '] shown ++ ['\n']

def run (joining : Joining) (alone : Nat → Bool) (pairs : Bool) :
    Nat → List (List Chars) → List (List Chars) → List Chars
  | 0, _, _ => []
  | _, [], second => if alone 2 then second.map fun b => joining.line none (some b) else []
  | _, first, [] => if alone 1 then first.map fun a => joining.line (some a) none else []
  | fuel + 1, a :: as, b :: bs =>
      let key := joining.key 1 a
      match compareTexts key (joining.key 2 b) with
      | .lt => (if alone 1 then [joining.line (some a) none] else []) ++
          joining.run alone pairs fuel as (b :: bs)
      | .gt => (if alone 2 then [joining.line none (some b)] else []) ++
          joining.run alone pairs fuel (a :: as) bs
      | .eq =>
          let mine := (a :: as).takeWhile fun line => joining.key 1 line = key
          let others := (b :: bs).takeWhile fun line => joining.key 2 line = key
          (if pairs then mine.flatMap fun a => others.map fun b => joining.line (some a) (some b)
            else []) ++
            joining.run alone pairs fuel ((a :: as).drop mine.length) ((b :: bs).drop others.length)

end Joining

def joinFiles : Tool := withOptions
  { letters := "a:e:i1:2:j:o:t:v:z", mixed := true
    words := [("ignore-case", "i"), ("check-order", "check"), ("nocheck-order", "nocheck"),
      ("header", "header"), ("zero-terminated", "z")] } 1
  fun name asked => do
    let number (text : Chars) : Action Nat :=
      match (natural? text).filter (0 < ·) with
      | some n => pure n
      | none => giveUp name ("invalid field number: ".toList ++ quoted text) 1
    let both ← (asked.value? "j").mapM number
    let first ← (asked.value? "1").mapM number
    let second ← (asked.value? "2").mapM number
    for text in asked.values "a" ++ asked.values "v" do
      if text ≠ ['1'] && text ≠ ['2'] then
        giveUp name ("invalid file number: ".toList ++ quoted text) 1
    let tab ← match asked.value? "t" with
      | none => pure none
      | some [] => pure (some '\n')
      | some [c] => pure (some c)
      | some ['\\', '0'] => pure (some '\x00')
      | some text => giveUp name ("multi-character tab ".toList ++ quoted text) 1
    let layoutWords := (asked.values "o").flatMap fun text =>
      (Text.partsAt ',' (text.map fun c => if isBlankChar c then ',' else c)).filter (!·.isEmpty)
    let automatic := asked.value? "o" = some "auto".toList
    let layout ← if automatic || layoutWords.isEmpty then pure none
      else some <$> layoutWords.mapM fun text =>
        match joinField? text with
        | some found => pure found
        | none => giveUp name ("invalid field specifier: ".toList ++ quoted text) 1
    let (firstFile, secondFile) ← twoOperands name asked
    let ending := endingOf asked
    let a := (recordsAt ending (← textOrGiveUp name firstFile 1)).map (fieldsAt tab)
    let b := (recordsAt ending (← textOrGiveUp name secondFile 1)).map (fieldsAt tab)
    let fields := (first.getD (both.getD 1), second.getD (both.getD 1))
    let complete (number : Nat) (lines : List (List Chars)) : List JoinField :=
      ((List.range (lines.headD []).length).map (· + 1)).filterMap fun place =>
        if place = (if number = 1 then fields.1 else fields.2) then none
        else some (some (number, place))
    let layout := if automatic then some (none :: complete 1 a ++ complete 2 b) else layout
    let joining : Joining := ⟨tab, fields, asked.has "i", layout, (asked.value? "e").getD []⟩
    let alone (number : Nat) : Bool :=
      (asked.values "a" ++ asked.values "v").contains (natChars number)
    let headed := asked.has "header"
    if headed then
      let _ ← put (joining.line a.head? b.head?)
    let a := if headed then a.drop 1 else a
    let b := if headed then b.drop 1 else b
    let found := joining.run alone (!asked.has "v") (a.length + b.length + 1) a b
    let _ ← put found.flatten
    pure 0

end BatchLaunch.Tools
