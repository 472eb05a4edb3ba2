import BatchLaunch.Shell.Syntax

/-!
Arithmetic on integers of 64 bits, as scripts write it. A text is evaluated while it is read, so a
fault of evaluation is met before a fault of what is written behind it. Where a value is not needed
operands are passed over without evaluating them.
-/
namespace BatchLaunch.Shell.Arithmetic

inductive Operator where
  | mul | div | mod
  | add | sub
  | shiftLeft | shiftRight
  | less | lessEqual | greater | greaterEqual
  | equal | unequal
  | bitAnd | bitXor | bitOr
  deriving DecidableEq, Repr

inductive Lexeme where
  | number (value : Int)
  | name (name : Chars)
  | operator (operator : Operator)
  | assign (operator : Option Operator)
  | both | either
  | not | complement
  | opening | closing
  | question | colon
  | finish
  | bad
  deriving DecidableEq, Repr

def wrap (n : Int) : Int := (n + Nat.pow 2 63) % UInt64.size - Nat.pow 2 63

def largest : Int := Nat.pow 2 63 - 1

def least : Int := -Nat.pow 2 63

def isTrue (n : Int) : Bool := n ≠ 0

def ofBool (b : Bool) : Int := if b then 1 else 0

def bits (n : Int) : Nat := (n % UInt64.size).toNat

def Operator.apply (operator : Operator) (a b : Int) : Option Int :=
  match operator with
  | mul => some (wrap (a * b))
  | div => if b = 0 then none else some (wrap (Int.tdiv a b))
  | mod => if b = 0 then none else some (Int.tmod a b)
  | add => some (wrap (a + b))
  | sub => some (wrap (a - b))
  | shiftLeft => some (wrap (a * Nat.pow 2 (bits b % 64)))
  | shiftRight => some (a / Nat.pow 2 (bits b % 64))
  | less => some (ofBool (a < b))
  | lessEqual => some (ofBool (a ≤ b))
  | greater => some (ofBool (a > b))
  | greaterEqual => some (ofBool (a ≥ b))
  | equal => some (ofBool (a = b))
  | unequal => some (ofBool (a ≠ b))
  | bitAnd => some (wrap (bits a &&& bits b : Nat))
  | bitXor => some (wrap (bits a ^^^ bits b : Nat))
  | bitOr => some (wrap (bits a ||| bits b : Nat))

def Operator.looseness : Operator → Nat
  | mul | div | mod => 0
  | add | sub => 1
  | shiftLeft | shiftRight => 2
  | less | lessEqual | greater | greaterEqual => 3
  | equal | unequal => 4
  | bitAnd => 5
  | bitXor => 6
  | bitOr => 7

def loosest : Nat := 8

def isSpace (c : Char) : Bool := " \t\n\x0b\x0c\r".toList.contains c

def digits (base : Nat) (isDigit : Char → Bool) (text : Chars) : Nat × Chars :=
  let found := text.takeWhile isDigit
  (found.foldl (fun n c => n * base + (if c.isDigit then c.toNat - '0'.toNat
    else (c.toLower.toNat - 'a'.toNat) + 10)) 0, text.drop found.length)

/-- The number without a sign at the start of a text, in octal after a zero and in base sixteen
after `0x`, and what follows it. -/
def unsigned? (text : Chars) : Option (Nat × Chars) :=
  let isHex (c : Char) : Bool := c.isDigit || ('a' ≤ c.toLower && c.toLower ≤ 'f')
  match text with
  | '0' :: x :: rest =>
      if (x = 'x' || x = 'X') && rest.head?.any isHex then some (digits 16 isHex rest)
      else some (digits 8 (fun c => '0' ≤ c && c ≤ '7') ('0' :: x :: rest))
  | c :: rest => if c.isDigit then some (digits 10 Char.isDigit (c :: rest)) else none
  | [] => none

def saturate (n : Nat) : Int := min (n : Int) largest

def valueOf? (text : Chars) : Option Int :=
  let start := text.dropWhile isSpace
  let negative := start.head? = some '-'
  let body := if negative || start.head? = some '+' then start.drop 1 else start
  match unsigned? body with
  | some (n, rest) =>
      let value : Int := if negative then -n else n
      if rest.all isSpace && least ≤ value && value ≤ largest then some value else none
  | none => if text.all isSpace then some 0 else none

def assigning : List (String × Operator) := [
  ("<<", .shiftLeft), (">>", .shiftRight), ("*", .mul), ("/", .div), ("%", .mod), ("+", .add),
  ("-", .sub), ("&", .bitAnd), ("^", .bitXor), ("|", .bitOr)]

def marks : List (String × Lexeme) := [
  ("||", .either), ("&&", .both), ("<=", .operator .lessEqual), (">=", .operator .greaterEqual),
  ("==", .operator .equal), ("!=", .operator .unequal), ("=", .assign none), ("!", .not),
  ("~", .complement), ("(", .opening), (")", .closing), ("?", .question), (":", .colon)]

def lexeme (text : Chars) : Lexeme × Chars :=
  let start := text.dropWhile fun c => c = ' ' || c = '\t' || c = '\n'
  let mark? {α : Type} (list : List (String × α)) : Option (α × Chars) :=
    list.findSome? fun (spelling, found) =>
      if spelling.toList.isPrefixOf start then some (found, start.drop spelling.length) else none
  match start with
  | [] => (.finish, [])
  | c :: rest =>
      if isNameStart c then (.name (c :: rest.takeWhile isNameChar), rest.dropWhile isNameChar)
      else
        match unsigned? start with
        | some (n, rest) => (.number (saturate n), rest)
        | none =>
            if "||".toList.isPrefixOf start || "&&".toList.isPrefixOf start then
              (mark? marks).getD (.bad, start)
            else
              match mark? assigning, mark? marks with
              | some (operator, '=' :: rest), _ => (.assign (some operator), rest)
              | some (operator, rest), _ => (.operator operator, rest)
              | none, some found => found
              | none, none =>
                  if c = '<' then (.operator .less, rest)
                  else if c = '>' then (.operator .greater, rest)
                  else (.bad, start)

inductive Fault where
  | malformed (message : String)
  | notNumber (value : Chars)
  | readOnly (name : Chars)

structure Reading where
  last : Lexeme
  rest : Chars
  set : List (Chars × Int)

abbrev Evaluating := StateT Reading (Except Fault)

structure Variables where
  value? : Chars → Option Chars
  isReadOnly : Chars → Bool

def fail {α : Type} (message : String) : Evaluating α := fun _ => .error (.malformed message)

def next : Evaluating Lexeme := fun reading =>
  let (found, rest) := lexeme reading.rest
  .ok (found, { reading with last := found, rest := rest })

def last : Evaluating Lexeme := fun reading => .ok (reading.last, reading)

def keep (found : Lexeme) : Evaluating Unit := fun reading =>
  .ok ((), { reading with last := found })

def lookup (known : Variables) (name : Chars) : Evaluating Int := fun reading =>
  match reading.set.lookup name with
  | some value => .ok (value, reading)
  | none =>
      let text := (known.value? name).getD []
      match valueOf? text with
      | some value => .ok (value, reading)
      | none => .error (.notNumber text)

def assign (known : Variables) (name : Chars) (value : Int) : Evaluating Int := fun reading =>
  if known.isReadOnly name then .error (.readOnly name)
  else .ok (value, { reading with set := (name, value) :: reading.set })

def combine (operator : Operator) (a b : Int) : Evaluating Int :=
  match operator.apply a b with
  | some n => pure n
  | none => fail "division by zero"

mutual

def assignment (known : Variables) (skips : Bool) : Nat → Lexeme → Evaluating Int
  | 0, _ => fail "expecting primary"
  | fuel + 1, first => do
      let second ← next
      match first, second with
      | .name name, .assign operator =>
          let result ← assignment known skips fuel (← next)
          if skips then return result
          else
            match operator with
            | none => assign known name result
            | some operator =>
                assign known name (← combine operator (← lookup known name) result)
      | first, second => choice known skips fuel first second

def choice (known : Variables) (skips : Bool) : Nat → Lexeme → Lexeme → Evaluating Int
  | 0, _, _ => fail "expecting primary"
  | fuel + 1, first, second => do
      let a ← disjunction known skips fuel first second
      if (← last) ≠ .question then return a
      else
        let b ← assignment known (skips || !isTrue a) fuel (← next)
        if (← last) ≠ .colon then fail "expecting ':'"
        else
          let third ← next
          let c ← choice known (skips || isTrue a) fuel third (← next)
          return if isTrue a then b else c

def disjunction (known : Variables) (skips : Bool) :
    Nat → Lexeme → Lexeme → Evaluating Int
  | 0, _, _ => fail "expecting primary"
  | fuel + 1, first, second => do
      let a ← conjunction known skips fuel first second
      if (← last) ≠ .either then return a
      else
        let third ← next
        let b ← disjunction known (skips || isTrue a) fuel third (← next)
        return ofBool (isTrue a || isTrue b)

def conjunction (known : Variables) (skips : Bool) :
    Nat → Lexeme → Lexeme → Evaluating Int
  | 0, _, _ => fail "expecting primary"
  | fuel + 1, first, second => do
      let a ← operation known skips fuel first second
      if (← last) ≠ .both then return a
      else
        let third ← next
        let b ← conjunction known (skips || !isTrue a) fuel third (← next)
        return ofBool (isTrue a && isTrue b)

def operation (known : Variables) (skips : Bool) : Nat → Lexeme → Lexeme → Evaluating Int
  | 0, _, _ => fail "expecting primary"
  | fuel + 1, first, second => do
      let a ← operand known skips fuel first second
      match ← last with
      | .operator operator => operations known skips fuel a operator loosest
      | _ => return a

def operations (known : Variables) (skips : Bool) :
    Nat → Int → Operator → Nat → Evaluating Int
  | 0, _, _, _ => fail "expecting primary"
  | fuel + 1, a, operator, bound => do
      let first ← next
      let found ← operand known skips fuel first (← next)
      let b ← match ← last with
        | .operator tighter =>
            if tighter.looseness < operator.looseness then
              operations known skips fuel found tighter operator.looseness
            else pure found
        | _ => pure found
      let a ← if skips then pure b else combine operator a b
      match ← last with
      | .operator following =>
          if following.looseness < bound then operations known skips fuel a following bound
          else return a
      | _ => return a

def operand (known : Variables) (skips : Bool) : Nat → Lexeme → Lexeme → Evaluating Int
  | 0, _, _ => fail "expecting primary"
  | fuel + 1, first, second => do
      match first with
      | .opening =>
          let inside ← assignment known skips fuel second
          if (← last) ≠ .closing then fail "expecting ')'"
          else
            let _ ← next
            return inside
      | .number value =>
          keep second
          return value
      | .name name =>
          keep second
          if skips then return 0 else lookup known name
      | .operator .add => operand known skips fuel second (← next)
      | .operator .sub => return wrap (-(← operand known skips fuel second (← next)))
      | .not => return ofBool (!isTrue (← operand known skips fuel second (← next)))
      | .complement => return -(← operand known skips fuel second (← next)) - 1
      | _ => fail "expecting primary"

end

def evaluate (known : Variables) (text : Chars) : Except Fault (Int × List (Chars × Int)) :=
  let whole : Evaluating Int := do
    let value ← assignment known false (20 * text.length + 20) (← next)
    if (← last) ≠ .finish then fail "expecting EOF" else return value
  (whole ⟨.finish, text, []⟩).map fun (value, reading) => (value, reading.set)

end BatchLaunch.Shell.Arithmetic
