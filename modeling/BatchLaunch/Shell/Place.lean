import BatchLaunch.Shell.Syntax

/-!
Places in a script, and what reading there is made of: characters, blanks, operators, the texts that
aliases stand for, and faults.
-/
namespace BatchLaunch.Shell

structure Replacement where
  name : Chars
  left : Nat
  endsInBlank : Bool

def Replacement.behindLess (count after : Nat) (found : Replacement) : Replacement :=
  if found.left ≤ after then found else { found with left := found.left - count }

structure Gap where
  left : Nat
  lines : Nat

def Gap.behindLess (count after : Nat) (gap : Gap) : Gap :=
  if gap.left ≤ after then gap else { gap with left := gap.left - count }

structure Place where
  rest : Chars
  line : Nat
  gaps : List Gap
  depth : Option Nat
  aliases : List (Chars × Chars)
  replaced : List Replacement

namespace Place

def start (script : Chars) (line : Nat) (aliases : List (Chars × Chars)) : Place :=
  ⟨script, line, [], none, aliases, []⟩

def advance (place : Place) (count : Nat) : Place :=
  let breaks := (place.rest.take count).count '\n'
  let rest := place.rest.drop count
  if breaks = 0 then { place with rest := rest }
  else
    let left := if place.gaps.isEmpty then 0 else rest.length
    let passed := place.gaps.filter fun gap => left < gap.left
    { place with
      rest := rest
      line := passed.foldl (fun line gap => line + gap.lines) (place.line + breaks)
      gaps := place.gaps.filter fun gap => gap.left ≤ left }

end Place

structure SyntaxFault where
  line : Nat
  message : String
  deriving DecidableEq, Repr

abbrev Read := StateT Place (Except SyntaxFault)

def keywords : List String :=
  ["if", "then", "else", "elif", "fi", "do", "done", "case", "esac", "while", "until", "for", "in",
    "\x7b", "\x7d", "!"]

namespace Read

def fail {α : Type} (message : String) : Read α := fun place => .error ⟨place.line, message⟩

def rest : Read Chars := do return (← get).rest

def pass (count : Nat) : Read Unit := modify fun place => place.advance count

def passUncounted : Read Unit := modify fun place => { place with rest := place.rest.drop 1 }

def moveTo (rest : Chars) : Read Unit :=
  modify fun place => place.advance (place.rest.length - rest.length)

def failAtEnd {α : Type} (message : String) : Read α := do
  pass (← rest).length
  fail message

/-! Characters and blanks -/

def isBlank (c : Char) : Bool := c = ' ' || c = '\t'

def isMeta (c : Char) : Bool := " \t\n;&|<>()".toList.contains c

def dropJoins : Chars → Chars
  | '\\' :: '\n' :: rest => dropJoins rest
  | text => text

def next? : Read (Option Char) := do
  let behind := dropJoins (← rest)
  moveTo behind
  return behind.head?

def nextAll (admits : Char → Bool) : Nat → Read Chars
  | 0 => return []
  | fuel + 1 => do
      match ← next? with
      | some c =>
          if admits c then
            pass 1
            return c :: (← nextAll admits fuel)
          else return []
      | none => return []

def allOf (admits : Char → Bool) : Read Chars := do nextAll admits (← rest).length

def dropBlanks : Chars → Chars
  | '\\' :: '\n' :: rest => dropBlanks rest
  | c :: rest => if isBlank c then dropBlanks rest else c :: rest
  | [] => []

def skipBlanks : Read Unit := do
  let behind := dropBlanks (← rest)
  moveTo (if behind.head? = some '#' then behind.dropWhile (· ≠ '\n') else behind)

def skipLines : Nat → Read Unit
  | 0 => pure ()
  | fuel + 1 => do
      skipBlanks
      if (← rest).head? = some '\n' then
        pass 1
        skipLines fuel

def skipAllLines : Read Unit := do skipLines ((← rest).length + 1)

/-! Tokens -/

def operators : List String := ["&&", "||", ";;", "&", "|", ";", "(", ")"]

def operator? : Read (Option String) := do
  let rest ← rest
  return operators.find? fun operator => operator.toList.isPrefixOf rest

def isArrow (c : Char) : Bool := c = '<' || c = '>'

def atRedirect : Read Bool := do
  match ← rest with
  | c :: rest => return isArrow c || (c.isDigit && (dropJoins rest).head?.any isArrow)
  | [] => return false

def joinedWord : Chars → Chars × Chars
  | '\\' :: '\n' :: rest => joinedWord rest
  | c :: rest =>
      if isMeta c then ([], c :: rest)
      else
        let (word, behind) := joinedWord rest
        (c :: word, behind)
  | [] => ([], [])

/-- The characters that come next up to the end of a word, as they are written; those of a keyword
are put together first if lines are joined within it. -/
def spelling : Read String := do
  let rest ← rest
  let word := rest.takeWhile fun c => !isMeta c
  if word.getLast? = some '\\' then
    let (joined, behind) := joinedWord rest
    if keywords.contains (String.ofList joined) then
      modify fun place =>
        { place.advance (rest.length - behind.length) with rest := joined ++ behind }
      return String.ofList joined
    else return String.ofList word
  else return String.ofList word

def inQuotes (text : String) : String := "\"" ++ text ++ "\""

def describe (knowsKeywords : Bool) : Read String := do
  match ← rest with
  | [] => return "end of file"
  | '\n' :: _ => return "newline"
  | _ =>
      if ← atRedirect then return "redirection"
      else
        match ← operator? with
        | some operator => return inQuotes operator
        | none =>
            let word ← spelling
            return if knowsKeywords && keywords.contains word then inQuotes word else "word"

def unexpected {α : Type} (knowsKeywords : Bool) (expecting : Option String) : Read α := do
  skipBlanks
  let found ← describe knowsKeywords
  if found = "newline" then pass 1
  fail ("Syntax error: " ++ found ++ " unexpected" ++
    (expecting.elim "" fun wanted => " (expecting " ++ wanted ++ ")"))

/-- Passes a parenthesis that closes. Nothing but an operator or a keyword can stand in its
place. -/
def close : Read Unit := do
  skipBlanks
  if (← operator?) = some ")" then pass 1 else unexpected true (some (inQuotes ")"))

/-! Aliases -/

/-- Leaves the texts of aliases that are passed. The answer tells whether one ended in a blank. -/
def leaveReplaced : Read Bool := do
  let place ← get
  if place.replaced.isEmpty then return false
  else
    let length := place.rest.length
    set { place with replaced := place.replaced.filter fun found => found.left < length }
    return place.replaced.any fun found => length ≤ found.left && found.endsInBlank

/-- Puts the texts of aliases in the place of the word that comes next, if it is wanted or follows
such a text that ends in a blank. No alias is used within its own text. -/
def replaceAliases (wanted atCommand overLines : Bool) : Nat → Read Unit
  | 0 => pure ()
  | fuel + 1 => do
      if overLines then skipAllLines else skipBlanks
      let wanted := (← leaveReplaced) || wanted
      let place ← get
      if wanted && !place.aliases.isEmpty then
        let word ← spelling
        let name := word.toList
        if !(atCommand && keywords.contains word) && !place.replaced.any (·.name = name) then
          match place.aliases.lookup name with
          | none => pure ()
          | some text =>
              let behind := place.rest.drop name.length
              set { place with
                rest := text ++ behind
                replaced := ⟨name, behind.length, text.getLast?.any isBlank⟩ :: place.replaced }
              replaceAliases wanted atCommand overLines fuel

def aliasLimit : Nat := 1000

def toCommand (overLines : Bool) : Read Unit := replaceAliases true true overLines aliasLimit

def toWord (wanted : Bool) : Read Unit := replaceAliases wanted false false aliasLimit

end Read
end BatchLaunch.Shell
