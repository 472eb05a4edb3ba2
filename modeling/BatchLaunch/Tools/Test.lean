import BatchLaunch.Tools.Condition

/-!
`test` as a program of its own. How many words there are decides how they are read.
-/
namespace BatchLaunch.Tools.Test

open Host (Action)

abbrev Judge := StateT (List Chars) (ExceptT Chars Action)

def refuse {α : Type} (text : Chars) : Judge α := fun _ => throw text

def beyond {α : Type} (all : List Chars) : Judge α :=
  refuse ("missing argument after ".toList ++ quoted (all.getLast?.getD []))

def pass : Judge Unit := modify (List.drop 1)

def need (all : List Chars) : Judge Unit := do
  pass
  if (← get).isEmpty then beyond all

def integer (word : Chars) : Judge Int :=
  match wholeNumber? word with
  | some n => pure n
  | none => refuse ("invalid integer ".toList ++ quoted word)

def isBinary (word : Chars) : Bool :=
  ["=", "!=", "==", "<", ">", "-nt", "-ot", "-ef", "-eq", "-ne", "-lt", "-le", "-gt", "-ge"].contains
    (String.ofList word)

def isSwitch (word : Chars) : Bool := word.length = 2 && word.head? = some '-'

def binary : Judge Bool := do
  match ← get with
  | a :: operator :: b :: rest =>
      set rest
      let name := String.ofList operator
      match relation? name, ofFiles? true name with
      | some holds, _ => return holds (← integer a) (← integer b)
      | none, some holds =>
          let first ← (infoOf true a : Action _)
          let second ← (infoOf true b : Action _)
          return holds first second
      | none, none =>
          match name with
          | "!=" => return a ≠ b
          | "<" => return precedes a b
          | ">" => return precedes b a
          | _ => return a = b
  | _ => return false

def switch (all : List Chars) : Judge Bool := do
  match ← get with
  | operator :: _ =>
      let name := String.ofList operator
      if name = "-t" then
        need all
        let word := (← get).headD []
        pass
        let _ ← integer word
        return false
      else if (unary? name []).isNone && name ≠ "-a" && name ≠ "-N" then
        refuse (quoted operator ++ ": unary operator expected".toList)
      else
        need all
        let word := (← get).headD []
        pass
        match unary? (if name = "-a" then "-e" else name) word with
        | some holds => return (← (holds : Action Bool))
        | none => return false
  | [] => beyond all

def one : Judge Bool := do
  let word := (← get).headD []
  pass
  return !word.isEmpty

def two (all : List Chars) : Judge Bool := do
  match ← get with
  | first :: _ =>
      if first = ['!'] then
        pass
        return !(← one)
      else if isSwitch first then switch all
      else beyond all
  | [] => beyond all

def bySize (whole : Judge Bool) (all : List Chars) (size : Nat) : Judge Bool := do
  let three : Judge Bool := do
    match ← get with
    | first :: second :: third :: _ =>
        if isBinary second then binary
        else if first = ['!'] then
          need all
          return !(← two all)
        else if first = ['('] && third = [')'] then
          pass
          let holds ← one
          pass
          return holds
        else if second = ['-', 'a'] || second = ['-', 'o'] then whole
        else refuse (quoted second ++ ": binary operator expected".toList)
    | _ => whole
  match size, ← get with
  | 1, _ => one
  | 2, _ => two all
  | 3, _ => three
  | 4, ['!'] :: _ => do
      need all
      return !(← three)
  | 4, words => do
      if words.head? = some ['('] && words[3]? = some [')'] then
        pass
        let holds ← two all
        pass
        return holds
      else whole
  | _, _ => whole

def insideSize (words : List Chars) : Nat :=
  let inside := (words.drop 1).takeWhile (· ≠ [')'])
  if 4 ≤ inside.length then words.length else inside.length + 1

def term (whole : Judge Bool) (all : List Chars) : Nat → Judge Bool
  | 0 => beyond all
  | fuel + 1 => do
      match ← get with
      | [] => beyond all
      | first :: rest =>
          if first = ['!'] then
            need all
            return !(← term whole all fuel)
          else if first = ['('] then
            need all
            let holds ← bySize whole all (insideSize rest)
            match ← get with
            | [] => refuse (quoted [')'] ++ " expected".toList)
            | word :: _ =>
                if word = [')'] then
                  pass
                  return holds
                else refuse (quoted [')'] ++ " expected, found ".toList ++ quoted word)
          else if 2 ≤ rest.length && rest.head?.any isBinary then binary
          else if isSwitch first then switch all
          else one

def joined (operator : Chars) (meet : Bool → Bool → Bool) (part : Judge Bool) :
    Nat → Bool → Judge Bool
  | 0, held => return held
  | fuel + 1, held => do
      let held := meet held (← part)
      if (← get).head? = some operator then
        pass
        joined operator meet part fuel held
      else return held

def condition (all : List Chars) : Nat → Judge Bool
  | 0 => beyond all
  | fuel + 1 => do
      if (← get).isEmpty then beyond all
      else
        let bound := all.length + 1
        let single := term (condition all fuel) all bound
        joined ['-', 'o'] (· || ·) (joined ['-', 'a'] (· && ·) single bound true) bound false

def judge (words : List Chars) : Judge Bool := do
  if words.isEmpty then return false
  else
    let holds ← bySize (condition words (words.length + 1)) words words.length
    match ← get with
    | [] => return holds
    | extra :: _ => refuse ("extra argument ".toList ++ quoted extra)

end Test

open Host (Action)

def test : Tool := fun name words => do
  match ← (Test.judge words words).run with
  | .ok (true, _) => pure 0
  | .ok (false, _) => pure 1
  | .error fault =>
      complain name fault
      pure 2

def bracket : Tool := fun name words => do
  match inBrackets words with
  | some inside => test name inside
  | none =>
      complain name ("missing ".toList ++ quoted [']'])
      pure 2

end BatchLaunch.Tools
