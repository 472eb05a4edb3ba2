import BatchLaunch.Tools.Order
import BatchLaunch.Tools.Printf

/-!
Conditions on texts, numbers and files, and how the shell judges them.
-/
namespace BatchLaunch.Tools

open Host (Action)

def infoOf (follow : Bool) (word : Chars) : Action (Option Host.Info) := do
  match ← Action.call (.info (path word) follow) with
  | .info info => pure (some info)
  | _ => pure none

def ofFile? (letter : Char) : Option (Host.Info → Bool) :=
  match letter with
  | 'e' => some fun _ => true
  | 'f' => some fun info => info.kind = .file
  | 'd' => some fun info => info.kind = .directory
  | 'c' => some fun info => info.kind = .device
  | 'p' => some fun info => info.kind = .pipe
  | 'b' | 'S' => some fun _ => false
  | 'r' => some (Host.Info.grants · 4)
  | 'w' => some (Host.Info.grants · 2)
  | 'x' => some (Host.Info.grants · 1)
  | 's' => some fun info => 0 < info.size
  | 'u' => some fun info => info.mode &&& 0o4000 ≠ 0
  | 'g' => some fun info => info.mode &&& 0o2000 ≠ 0
  | 'k' => some fun info => info.mode &&& 0o1000 ≠ 0
  | 'O' | 'G' => some Host.Info.own
  | _ => none

def unary? (operator : String) (word : Chars) : Option (Action Bool) :=
  match operator.toList with
  | ['-', 'n'] => some (pure !word.isEmpty)
  | ['-', 'z'] => some (pure word.isEmpty)
  | ['-', 'h'] | ['-', 'L'] => some do pure ((← infoOf false word).any fun info => info.kind = .link)
  | ['-', letter] => (ofFile? letter).map fun holds => do pure ((← infoOf true word).any holds)
  | _ => none

inductive ConditionFault where
  | notNumber (word : Chars)
  | extra (last : Chars)
  | noOperand (operator : Chars)
  | unclosed

def ConditionFault.text : ConditionFault → Chars
  | notNumber word => "Illegal number: ".toList ++ word
  | extra last => last ++ ": unexpected operator".toList
  | noOperand operator => operator ++ ": argument expected".toList
  | unclosed => "closing paren expected".toList

def wholeNumber? (word : Chars) : Option Int :=
  let behind := word.dropWhile Text.BinaryReal.isSpace
  let trimmed := (behind.reverse.dropWhile Text.BinaryReal.isSpace).reverse
  integer? trimmed

def number (word : Chars) : Except ConditionFault Int :=
  match (wholeNumber? word).filter fun n => least64 ≤ n && n ≤ largest64 with
  | some n => .ok n
  | none => .error (.notNumber word)

def relation? (operator : String) : Option (Int → Int → Bool) :=
  match operator with
  | "-eq" => some fun m n => m = n
  | "-ne" => some fun m n => m ≠ n
  | "-lt" => some fun m n => m < n
  | "-le" => some fun m n => m ≤ n
  | "-gt" => some fun m n => m > n
  | "-ge" => some fun m n => m ≥ n
  | _ => none

/-- A relation between two files, of which either may be missing. A file that is there may count as
newer than one that is not. -/
def ofFiles? (missingIsOlder : Bool) (operator : String) :
    Option (Option Host.Info → Option Host.Info → Bool) :=
  let newer (a b : Option Host.Info) : Bool :=
    match a, b with
    | some a, some b => b.modified < a.modified
    | some _, none => missingIsOlder
    | none, _ => false
  match operator with
  | "-nt" => some newer
  | "-ot" => some fun a b => newer b a
  | "-ef" => some fun a b =>
      match a, b with
      | some a, some b => a.node = b.node
      | _, _ => false
  | _ => none

abbrev Judging := ExceptT ConditionFault Action

/-- A condition on two words; what is no operator does not hold. -/
def binary (operator : String) (a b : Chars) : Judging Bool := do
  match relation? operator, ofFiles? false operator, operator with
  | some holds, _, _ => return holds (← number a) (← number b)
  | none, some holds, _ => return holds (← infoOf true a) (← infoOf true b)
  | none, none, "=" => return a = b
  | none, none, "!=" => return a ≠ b
  | none, none, "<" => return precedes a b
  | none, none, ">" => return precedes b a
  | none, none, _ => return false

def text (word : Chars) : String := String.ofList word

inductive Token where
  | finish
  | operand
  | unary (operator : String)
  | binary (operator : String)
  | disjunction
  | conjunction
  | negation
  | opening
  | closing
  deriving DecidableEq, Repr

def unaryOperators : List String :=
  ["-r", "-w", "-x", "-e", "-f", "-d", "-c", "-b", "-p", "-u", "-g", "-k", "-s", "-t", "-z", "-n",
    "-h", "-O", "-G", "-L", "-S"]

def binaryOperators : List String :=
  ["=", "!=", "<", ">", "-eq", "-ne", "-ge", "-gt", "-le", "-lt", "-nt", "-ot", "-ef"]

def isBinary (word : Chars) : Bool := binaryOperators.contains (text word)

/-- The first of some words. An operator before too few words, or before an operator on two, is an
operand. -/
def token : List Chars → Token
  | [] => .finish
  | word :: rest =>
      match text word with
      | "-o" => .disjunction
      | "-a" => .conjunction
      | "!" => .negation
      | "(" => if rest.isEmpty then .operand else .opening
      | ")" => .closing
      | operator =>
          if isBinary word then .binary operator
          else if unaryOperators.contains operator then
            match rest with
            | [] => .operand
            | [_] => .unary operator
            | next :: _ :: _ => if isBinary next then .operand else .unary operator
          else .operand

/-- A condition without `-o` and `-a`. With what it comes to it gives the words from the last one
that belongs to it. `again` judges what a parenthesis opens. -/
def single (again : List Chars → Judging (Bool × List Chars)) (first : Token)
    (words : List Chars) : Judging (Bool × List Chars) := do
  match first with
  | .finish => return (false, words)
  | .opening =>
      if token (words.drop 1) = .closing then return (false, words.drop 1)
      else
        let (holds, last) ← again (words.drop 1)
        if token (last.drop 1) = .closing then return (holds, last.drop 1)
        else throw .unclosed
  | .unary operator =>
      match words.drop 1 with
      | [] => throw (.noOperand operator.toList)
      | operand :: rest =>
          if operator = "-t" then
            let _ ← (number operand : Except ConditionFault Int)
            return (false, operand :: rest)
          match unary? operator operand with
          | some judge => return (← (judge : Action Bool), operand :: rest)
          | none => return (false, operand :: rest)
  | _ =>
      match token (words.drop 1), words, words.drop 2 with
      | .binary operator, _, [] => throw (.noOperand operator.toList)
      | .binary operator, a :: _, b :: rest =>
          return (← binary operator a b, b :: rest)
      | _, a :: rest, _ => return (!a.isEmpty, a :: rest)
      | _, [], _ => return (false, [])

def negated (again : List Chars → Judging (Bool × List Chars)) :
    Nat → Token → List Chars → Judging (Bool × List Chars)
  | 0, _, words => return (false, words)
  | fuel + 1, first, words => do
      if first = .negation then
        let next := token (words.drop 1)
        let (holds, last) ← negated again fuel next
          (if next = .finish then words else words.drop 1)
        return (!holds, last)
      else single again first words

def joined (separator : Token) (meet : Bool → Bool → Bool)
    (tighter : Token → List Chars → Judging (Bool × List Chars)) :
    Nat → Bool → Token → List Chars → Judging (Bool × List Chars)
  | 0, held, _, words => return (held, words)
  | fuel + 1, held, first, words => do
      let (holds, last) ← tighter first words
      let held := meet held holds
      if token (last.drop 1) = separator then
        joined separator meet tighter fuel held (token (last.drop 2)) (last.drop 2)
      else return (held, last)

def condition : Nat → Token → List Chars → Judging (Bool × List Chars)
  | 0, _, words => return (false, words)
  | fuel + 1, first, words =>
      let again (words : List Chars) := condition fuel (token words) words
      let bound := words.length + 1
      let conjunction (first : Token) (words : List Chars) :=
        joined .conjunction (· && ·) (negated again bound) bound true first words
      joined .disjunction (· || ·) conjunction bound false first words

/-- Judges all words as one condition. No words are false. Of three words of which the middle one is
an operator the others are operands; else a negation or a parenthesis around up to four words is
dealt with first. -/
def judge : List Chars → Judging Bool
  | [] => return false
  | words => do
      let whole (first : Token) (words : List Chars) : Judging Bool := do
        match ← condition (words.length + 1) first words with
        | (_, last :: _ :: _) => throw (.extra last)
        | (holds, _) => return holds
      let outer (first : Chars) (rest : List Chars) (again : List Chars → Judging Bool) :
          Judging Bool := do
        if first = ['('] && rest.getLast? = some [')'] then
          whole (token rest.dropLast) rest.dropLast
        else if first = ['!'] then return !(← again rest)
        else whole (token (first :: rest)) (first :: rest)
      match words with
      | [a, b, c] => three outer whole a b c
      | [a, b, c, d] =>
          outer a [b, c, d] fun
            | [a, b, c] => three outer whole a b c
            | rest => whole (token rest) rest
      | words => whole (token words) words
where
  three (outer : Chars → List Chars → (List Chars → Judging Bool) → Judging Bool)
      (whole : Token → List Chars → Judging Bool) (a b c : Chars) : Judging Bool :=
    if isBinary b then whole .operand [a, b, c]
    else outer a [b, c] fun rest => whole (token rest) rest

def inBrackets (words : List Chars) : Option (List Chars) :=
  match words.reverse with
  | [']'] :: rest => some rest.reverse
  | _ => none

def statusOf (complain : ConditionFault → Action Unit) (words : List Chars) : Action Nat := do
  match ← (judge words).run with
  | .ok true => pure 0
  | .ok false => pure 1
  | .error fault =>
      complain fault
      pure 2

end BatchLaunch.Tools
