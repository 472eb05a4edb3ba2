import BatchLaunch.Tools.Comparison.Hunk
import BatchLaunch.Tools.Inputs

/-!
The forms in which the differences between two texts are shown.
-/
namespace BatchLaunch.Tools

def markedLines (mark : String) (lines : List Chars) : Chars :=
  lines.flatMap fun line => mark.toList ++ line ++
    (if line.getLast? = some '\n' then [] else "\n\\ No newline at end of file\n".toList)

def lineRange (start count : Nat) : Chars :=
  if count = 0 then natChars start
  else if count = 1 then natChars (start + 1)
  else natChars (start + 1) ++ ',' :: natChars (start + count)

def plainHunk (hunk : Hunk) : Chars :=
  let letter := if hunk.oldLines.isEmpty then 'a' else if hunk.newLines.isEmpty then 'd' else 'c'
  lineRange hunk.oldStart hunk.oldLines.length ++ letter ::
    lineRange hunk.newStart hunk.newLines.length ++ ['\n'] ++ markedLines "< " hunk.oldLines ++
    (if letter = 'c' then "---\n".toList else []) ++ markedLines "> " hunk.newLines

def groupHunks (context : Nat) : List Hunk → List (List Hunk)
  | [] => []
  | hunk :: rest =>
      match groupHunks context rest with
      | (next :: more) :: groups =>
          if next.oldStart ≤ hunk.oldStart + hunk.oldLines.length + 2 * context then
            (hunk :: next :: more) :: groups
          else [hunk] :: (next :: more) :: groups
      | groups => [hunk] :: groups

def unifiedRange (start count : Nat) : Chars :=
  if count = 1 then natChars (start + 1)
  else natChars (if count = 0 then start else start + 1) ++ ',' :: natChars count

def unifiedGroup (context : Nat) (old : List Chars) (group : List Hunk) : Chars :=
  match group, group.getLast? with
  | first :: _, some last =>
      let start := first.oldStart - context
      let stop := min old.length (last.oldStart + last.oldLines.length + context)
      let newStart := first.newStart - (first.oldStart - start)
      let growth : Int := group.foldl (fun n hunk =>
        n + hunk.newLines.length - hunk.oldLines.length) 0
      let oldCount := stop - start
      let newCount := ((oldCount : Int) + growth).toNat
      let (body, place) := group.foldl (fun (done, place) hunk =>
        (done ++ markedLines " " ((old.drop place).take (hunk.oldStart - place)) ++
          markedLines "-" hunk.oldLines ++ markedLines "+" hunk.newLines,
          hunk.oldStart + hunk.oldLines.length)) (([], start) : Chars × Nat)
      "@@ -".toList ++ unifiedRange start oldCount ++ " +".toList ++
        unifiedRange newStart newCount ++ " @@\n".toList ++ body ++
        markedLines " " ((old.drop place).take (stop - place))
  | _, _ => []

/-! The lines around, old and new apart -/

/-- The numbers of a stretch where the old lines and the new ones stand apart. -/
def contextRange (start count : Nat) : Chars :=
  if count < 2 then natChars (start + count)
  else natChars (start + 1) ++ ',' :: natChars (start + count)

def contextSide (lines : List Chars) (stop : Nat) (mark : Char) (side : Hunk → Nat × List Chars)
    (group : List Hunk) (start : Nat) : Chars :=
  let (body, place) := group.foldl (fun (done, place) hunk =>
    let (here, changed) := side hunk
    let letter := if hunk.oldLines.isEmpty || hunk.newLines.isEmpty then mark else '!'
    (done ++ markedLines "  " ((lines.drop place).take (here - place)) ++
      markedLines (String.ofList [letter, ' ']) changed, here + changed.length))
    (([], start) : Chars × Nat)
  body ++ markedLines "  " ((lines.drop place).take (stop - place))

def contextGroup (context : Nat) (old new : List Chars) (group : List Hunk) : Chars :=
  match group, group.getLast? with
  | first :: _, some last =>
      let before := min context first.oldStart
      let start := first.oldStart - before
      let newStart := first.newStart - before
      let stop := min old.length (last.oldStart + last.oldLines.length + context)
      let newStop := min new.length (last.newStart + last.newLines.length + context)
      let side (mark : String) (ending : String) (start stop : Nat) : Chars :=
        mark.toList ++ contextRange start (stop - start) ++ ending.toList
      "***************\n".toList ++ side "*** " " ****\n" start stop ++
        (if group.all (·.oldLines.isEmpty) then []
          else contextSide old stop '-' (fun hunk => (hunk.oldStart, hunk.oldLines)) group start) ++
        side "--- " " ----\n" newStart newStop ++
        (if group.all (·.newLines.isEmpty) then []
          else contextSide new newStop '+' (fun hunk => (hunk.newStart, hunk.newLines)) group
            newStart)
  | _, _ => []

/-! Commands that make the new text of the old one -/

/-- New lines as an editor takes them, up to a line that is a point. A line that would be one has
two, and one of them is taken back. -/
def editedLines : Bool → List Chars → Chars
  | isOpen, [] => if isOpen then ".\n".toList else []
  | isOpen, line :: rest =>
      (if isOpen then [] else "a\n".toList) ++
        (if line = ".\n".toList then "..\n.\ns/.//\n".toList ++ editedLines false rest
          else line ++ (if line.getLast? = some '\n' then [] else ['\n']) ++ editedLines true rest)

def editorHunk (hunk : Hunk) : Chars :=
  let letter := if hunk.oldLines.isEmpty then 'a' else if hunk.newLines.isEmpty then 'd' else 'c'
  lineRange hunk.oldStart hunk.oldLines.length ++ [letter, '\n'] ++
    (if hunk.newLines.isEmpty then [] else editedLines true hunk.newLines)

def numberedHunk (hunk : Hunk) : Chars :=
  let command (letter : Char) (start count : Nat) : Chars :=
    if count = 0 then [] else letter :: natChars start ++ ' ' :: natChars count ++ ['\n']
  command 'd' (hunk.oldStart + 1) hunk.oldLines.length ++
    command 'a' (hunk.oldStart + hunk.oldLines.length) hunk.newLines.length ++
    hunk.newLines.flatten

/-! Two columns -/

/-- How two columns are laid out: where the first one ends, where the second one begins, and
whether tabs may fill what is between. -/
structure Halves where
  width : Nat
  second : Nat
  useTabs : Bool

def Halves.ofWidth (width : Nat) (useTabs : Bool) : Halves :=
  let tab := if useTabs then 8 else 1
  let offset := (width + tab + 3) / (2 * tab) * tab
  let half := min (offset - 3) (width - offset)
  ⟨half, if half = 0 then width else offset, useTabs⟩

def Halves.blanks (halves : Halves) (start stop : Nat) : Chars :=
  let tabs := if halves.useTabs then stop / 8 - start / 8 else 0
  let reached := if tabs = 0 then start else stop / 8 * 8
  List.replicate tabs '\t' ++ List.replicate (stop - reached) ' '

/-- As much of a line as fits into a column, and where it ends. A tab is kept where nothing was
left out before it and it ends inside of the column. -/
def Halves.half (halves : Halves) : Chars → Nat → Nat → Chars × Nat
  | [], _, shownUpTo => ([], shownUpTo)
  | c :: rest, place, shownUpTo =>
      if c = '\n' then ([], shownUpTo)
      else
        let next := if c = '\t' then place + 8 - place % 8 else place + 1
        let stop := if c = '\t' && !halves.useTabs then min next halves.width else next
        let fits := if c = '\t' then place = shownUpTo && (!halves.useTabs || next < halves.width)
          else next ≤ halves.width
        if fits then
          let (shown, last) := halves.half rest next stop
          ((if c = '\t' && !halves.useTabs then List.replicate (stop - place) ' ' else [c]) ++ shown,
            last)
        else halves.half rest next shownUpTo

def Halves.line (halves : Halves) (left right : Option Chars) (mark : Char) : Chars :=
  let (first, place) := left.elim ([], 0) fun line => halves.half line 0 0
  let ended (line : Option Chars) : Bool := line.any fun line => line.getLast? = some '\n'
  let middle := (halves.width + halves.second - 1) / 2
  let mark := if mark = '|' && ended left ≠ ended right then
      if ended left then '/' else '\\'
    else mark
  let (marked, place) := if mark = ' ' then ([], place)
    else (halves.blanks place middle ++ [mark], middle + 1)
  let second := match right with
    | none => []
    | some line => if line.head? = some '\n' then []
        else halves.blanks place halves.second ++ (halves.half line 0 0).1
  first ++ marked ++ second ++ (if ended left || ended right then ['\n'] else [])

inductive Shared where
  | both
  | left
  | none
  deriving DecidableEq, Repr

def Halves.hunk (halves : Halves) : List Chars → List Chars → Chars
  | a :: as, b :: bs => halves.line (some a) (some b) '|' ++ halves.hunk as bs
  | as, [] => as.flatMap fun line => halves.line (some line) none '<'
  | [], bs => bs.flatMap fun line => halves.line none (some line) '>'

def Halves.texts (halves : Halves) (shared : Shared) (old new : List Chars) (hunks : List Hunk) :
    Chars :=
  let same (pairs : List (Chars × Chars)) : Chars := match shared with
    | .both => pairs.flatMap fun (a, b) => halves.line (some a) (some b) ' '
    | .left => pairs.flatMap fun (a, _) => halves.line (some a) none '('
    | .none => []
  let (body, place, newPlace) := hunks.foldl (fun (done, place, newPlace) hunk =>
    (done ++ same (((old.drop place).take (hunk.oldStart - place)).zip (new.drop newPlace)) ++
      halves.hunk hunk.oldLines hunk.newLines,
      hunk.oldStart + hunk.oldLines.length, hunk.newStart + hunk.newLines.length))
    (([], 0, 0) : Chars × Nat × Nat)
  body ++ same ((old.drop place).zip (new.drop newPlace))

end BatchLaunch.Tools
