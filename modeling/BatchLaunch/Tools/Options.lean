import BatchLaunch.Tools.Basic

/-!
Options among the words that a program is called with: letters behind a hyphen, or words behind two,
which may be cut short as long as it is clear what they mean.
-/
namespace BatchLaunch.Tools

open Host (Action)

structure OptionTable where
  /-- Letters. A colon behind one says that it takes a value, two that a value may be attached. -/
  letters : String
  words : List (String × String)
  mixed : Bool

structure Asked where
  given : List (String × Chars)
  operands : List Chars

inductive ValueRule where
  | never
  | always
  | attached
  deriving DecidableEq, Repr

namespace OptionTable

def ruleOf : Chars → ValueRule
  | ':' :: ':' :: _ => .attached
  | ':' :: _ => .always
  | _ => .never

def letterRule? (table : OptionTable) (letter : Char) : Option ValueRule :=
  match table.letters.toList.dropWhile (· ≠ letter) with
  | [] => none
  | c :: rest => if c = ':' then none else some (ruleOf rest)

def bare (word : String) : Chars := word.toList.takeWhile (· ≠ ':')

def word? (table : OptionTable) (name : Chars) : Except Chars (String × String) :=
  let fitting := table.words.filter fun entry => name.isPrefixOf (bare entry.1)
  match fitting.find? fun entry => bare entry.1 = name, fitting with
  | some entry, _ => .ok entry
  | none, [] => .error "unrecognized option '--".toList
  | none, first :: rest =>
      if rest.all fun entry => entry.2 = first.2 then .ok first
      else .error "option '--".toList

def ambiguous (table : OptionTable) (written name : Chars) : Chars :=
  let fitting := table.words.filter fun entry => name.isPrefixOf (bare entry.1)
  "option '--".toList ++ written ++ "' is ambiguous; possibilities:".toList ++
    fitting.flatMap fun entry => " '--".toList ++ bare entry.1 ++ ['\x27']

/-- The option that a word behind two hyphens is, the value that it takes from the next word, if it
needs that, and how many words it is. -/
def longOption (table : OptionTable) (written : Chars) (next : Option Chars) :
    Except Chars ((String × Chars) × Nat) :=
  let name := written.takeWhile (· ≠ '=')
  let value := (written.drop name.length).drop 1
  let complete (entry : String × String) (text : String) : Chars :=
    "option '--".toList ++ bare entry.1 ++ text.toList
  match table.word? name with
  | .error start =>
      if start.take 1 = ['u'] then .error (start ++ written ++ ['\x27'])
      else .error (table.ambiguous written name)
  | .ok entry =>
      let rule := ruleOf (entry.1.toList.dropWhile (· ≠ ':'))
      if name.length < written.length then
        if rule = .never then .error (complete entry "' doesn't allow an argument")
        else .ok ((entry.2, value), 1)
      else
        match rule, next with
        | .always, some next => .ok ((entry.2, next), 2)
        | .always, none => .error (complete entry "' requires an argument")
        | _, _ => .ok ((entry.2, []), 1)

/-- The options that letters behind a hyphen are, and how many words they are with the value that
the last one may take from the next word. -/
def cluster (table : OptionTable) (next : Option Chars) :
    Chars → Except Chars (List (String × Chars) × Nat)
  | [] => .ok ([], 1)
  | letter :: more =>
      let key := letter.toString
      match table.letterRule? letter, more, next with
      | none, _, _ => .error ("invalid option -- '".toList ++ [letter, '\x27'])
      | some .never, _, _ =>
          (cluster table next more).map fun (found, words) => ((key, []) :: found, words)
      | some .attached, _, _ => .ok ([(key, more)], 1)
      | some .always, _ :: _, _ => .ok ([(key, more)], 1)
      | some .always, [], some next => .ok ([(key, next)], 2)
      | some .always, [], none =>
          .error ("option requires an argument -- '".toList ++ [letter, '\x27'])

/-- Reads options and operands up to two hyphens or the first fault. -/
def read (table : OptionTable) : Nat → List Chars → Except Chars Asked
  | 0, words => .ok ⟨[], words⟩
  | _, [] => .ok ⟨[], []⟩
  | fuel + 1, word :: rest =>
      let behind (found : List (String × Chars)) (count : Nat) : Except Chars Asked :=
        (table.read fuel ((word :: rest).drop count)).map fun asked =>
          { asked with given := found ++ asked.given }
      match word with
      | ['-', '-'] => .ok ⟨[], rest⟩
      | '-' :: '-' :: written => do
          let (found, count) ← table.longOption written rest.head?
          behind [found] count
      | '-' :: letter :: letters => do
          let (found, count) ← table.cluster rest.head? (letter :: letters)
          behind found count
      | _ =>
          if table.mixed then
            (table.read fuel rest).map fun asked =>
              { asked with operands := word :: asked.operands }
          else .ok ⟨[], word :: rest⟩

end OptionTable

namespace Asked

def has (asked : Asked) (key : String) : Bool := asked.given.any (·.1 = key)

def value? (asked : Asked) (key : String) : Option Chars :=
  (asked.given.reverse.find? (·.1 = key)).map (·.2)

def values (asked : Asked) (key : String) : List Chars :=
  (asked.given.filter (·.1 = key)).map (·.2)

def last? (asked : Asked) (keys : List String) : Option (String × Chars) :=
  asked.given.reverse.find? fun entry => keys.contains entry.1

end Asked

def giveUp {α : Type} (name text : Chars) (status : Nat) : Action α := do
  complain name text
  Action.exit status

def giveUpUse {α : Type} (name text : Chars) (status : Nat) : Action α := do
  complainOfUse name text
  Action.exit status

/-- A program with such options. Its status tells if they are not known. -/
def withOptions (table : OptionTable) (status : Nat) (use : Chars → Asked → Action Nat) : Tool :=
  fun name words =>
    match table.read (words.length + 1) words with
    | .ok asked => use name asked
    | .error fault => giveUpUse name fault status

def needOperand (name : Chars) (asked : Asked) (status : Nat) : Action Unit :=
  if asked.operands.isEmpty then giveUpUse name "missing operand".toList status else pure ()

def refuseExtra (name : Chars) (asked : Asked) (count status : Nat) (quote : Chars → Chars) :
    Action Unit :=
  match asked.operands[count]? with
  | some extra => giveUpUse name ("extra operand ".toList ++ quote extra) status
  | none => pure ()

/-! Numbers -/

def powerLetters : Chars := "KMGTPEZY".toList

def multiplier? (admitted : String) (text : Chars) : Option Nat :=
  match text with
  | [] => some 1
  | letter :: rest =>
      if !admitted.toList.contains letter then none
      else
        let large := letter.toUpper
        match powerLetters.findIdx? (· = large) with
        | some place =>
            let power := place + 1
            if rest.isEmpty || rest = "iB".toList then some (Nat.pow 1024 power)
            else if rest = ['B'] then some (Nat.pow 1000 power)
            else none
        | none =>
            if !rest.isEmpty then none
            else
              match letter with
              | 'b' => some 512
              | 'c' => some 1
              | 'w' => some 2
              | 'B' => some 1024
              | _ => none

def amountLetters : String := "bkKmMGTPEZYRQ"

def largestCount : Nat := 18446744073709551615

/-- A number, perhaps with letters behind it. The answer is what is wrong with it, if that is more
than that it is none. -/
def amount? (admitted : String) (text : Chars) : Except Chars Nat :=
  let text := text.dropWhile fun c => " \t\n\x0b\x0c\r".toList.contains c
  let text := if text.head? = some '+' then text.drop 1 else text
  let digits := text.takeWhile Char.isDigit
  let behind := text.drop digits.length
  let number := if digits.isEmpty && multiplier? admitted behind ≠ some 1 then some 1
    else natural? digits
  match number, multiplier? admitted behind with
  | some n, some times =>
      if largestCount < n * times then .error ": Value too large for defined data type".toList
      else .ok (n * times)
  | _, _ => .error []

end BatchLaunch.Tools
