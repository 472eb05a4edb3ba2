import BatchLaunch.Text.Parts
import BatchLaunch.Tools.Awk.Matcher

/-!
Cutting records into fields, and replacing what fits an expression.
-/
namespace BatchLaunch.Tools.Awk

open Text (Regex Found)

inductive Separator where
  | blanks
  | nothing
  | only (c : Char)
  | fits (regex : Regex)

def separatorOf (text : Chars) : Except Fault Separator :=
  match text with
  | [] => .ok .nothing
  | [' '] => .ok .blanks
  | [c] => .ok (.only c)
  | text => (regexOf text).map .fits

def isBlank (c : Char) : Bool := " \t\n\x0b\x0c\r".toList.contains c

def splitBlanks : Nat → Chars → List Chars
  | 0, _ => []
  | fuel + 1, text =>
      let start := text.dropWhile isBlank
      if start.isEmpty then []
      else
        let word := start.takeWhile fun c => !isBlank c
        word :: splitBlanks fuel (start.drop word.length)

def findSome? (regex : Regex) (text : Chars) : Nat → Nat → Option Found
  | 0, _ => none
  | fuel + 1, start =>
      match Regex.find? mode regex text start with
      | none => none
      | some found =>
          if found.start < found.stop then some found
          else if text.length ≤ found.start then none
          else findSome? regex text fuel (found.start + 1)

def splitFits (regex : Regex) (text : Chars) : Nat → Nat → Chars → List Chars
  | 0, _, rest => [rest]
  | fuel + 1, start, rest =>
      match findSome? regex text (text.length + 1) start with
      | none => [rest]
      | some found =>
          rest.take (found.start - start) ::
            splitFits regex text fuel found.stop (rest.drop (found.stop - start))

def split (separator : Separator) (byLines : Bool) (text : Chars) : List Chars :=
  if text.isEmpty then []
  else
    match separator with
    | .blanks => splitBlanks (text.length + 1) text
    | .nothing => text.map ([·])
    | .only c =>
        if byLines then Text.partsAt c (text.map fun d => if d = '\n' then c else d)
        else Text.partsAt c text
    | .fits regex =>
        let regex := if byLines then .either regex (.char '\n') else regex
        splitFits regex text (text.length + 1) 0 text

/-! Replacing -/

def replacement (found : Chars) : Chars → Chars
  | [] => []
  | '\\' :: '\\' :: '&' :: rest => '\\' :: found ++ replacement found rest
  | '\\' :: '&' :: rest => '&' :: replacement found rest
  | '&' :: rest => found ++ replacement found rest
  | c :: rest => c :: replacement found rest

/-- Replaces matches from a place on, and counts them. `last` is where the one before ended; an
empty match there does not count. -/
def replaceFrom (regex : Regex) (text put : Chars) (all : Bool) :
    Nat → Nat → Option Nat → Chars → Chars × Nat
  | 0, _, _, rest => (rest, 0)
  | fuel + 1, start, last, rest =>
      match Regex.find? mode regex text start with
      | none => (rest, 0)
      | some found =>
          let before := rest.take (found.start - start)
          let behind := rest.drop (found.start - start)
          let length := found.stop - found.start
          let step (lead : Chars) : Chars × Nat :=
            match behind with
            | [] => (before ++ lead, 0)
            | c :: more =>
                let (done, count) := replaceFrom regex text put all fuel (found.start + 1) none more
                (before ++ lead ++ c :: done, count)
          if length = 0 && last = some found.start then step []
          else
            let change := replacement (behind.take length) put
            if !all then (before ++ change ++ behind.drop length, 1)
            else if length = 0 then
              let (done, count) := step change
              (done, count + 1)
            else
              let (done, count) := replaceFrom regex text put all fuel found.stop (some found.stop)
                (behind.drop length)
              (before ++ change ++ done, count + 1)

def replaced (regex : Regex) (put : Chars) (all : Bool) (text : Chars) : Chars × Nat :=
  replaceFrom regex text put all (2 * text.length + 3) 0 none text

/-! Records -/

inductive RecordEnd where
  | char (c : Char)
  | emptyLines
  | fits (regex : Regex)

def recordEndOf (text : Chars) : Except Fault RecordEnd :=
  match text with
  | [] => .ok .emptyLines
  | [c] => .ok (.char c)
  | text => (regexOf text).map .fits

def paragraph : Chars → Chars × Chars
  | [] => ([], [])
  | ['\n'] => ([], [])
  | '\n' :: '\n' :: rest => ([], rest.dropWhile (· = '\n'))
  | c :: rest =>
      let (found, behind) := paragraph rest
      (c :: found, behind)

def firstRecord (ends : RecordEnd) (text : Chars) : Option (Chars × Chars) :=
  match ends with
  | .char c =>
      if text.isEmpty then none
      else
        let record := text.takeWhile (· ≠ c)
        some (record, (text.drop record.length).drop 1)
  | .emptyLines =>
      let start := text.dropWhile (· = '\n')
      if start.isEmpty then none else some (paragraph start)
  | .fits regex =>
      if text.isEmpty then none
      else
        match findSome? regex text (text.length + 1) 0 with
        | none => some (text, [])
        | some found => some (text.take found.start, text.drop found.stop)

end BatchLaunch.Tools.Awk
