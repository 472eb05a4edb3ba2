import BatchLaunch.Tools.Awk.Script
import BatchLaunch.Tools.Awk.Token

/-!
From tokens to scripts. What binds tightest is read first: fields and counters, then powers, reading
from commands, signs, products, sums, texts side by side, comparisons, and so on to assignments.
-/
namespace BatchLaunch.Tools.Awk

inductive Surrounding where
  | special
  | plain
  | function
  deriving DecidableEq, Repr

structure Calling where
  name : Name
  args : Nat
  line : Nat

structure Reading where
  rest : List Placed
  last : Nat
  blocks : Nat
  parens : Nat
  surrounding : Surrounding
  loops : Nat
  calls : List Calling

abbrev Reader := StateT Reading (Except Chars)

def peek : Reader (Option Token) := do return (← get).rest.head?.map (·.1)

def upcoming : Reader (List Token) := do return ((← get).rest.take 5).map (·.1)

def advance : Reader Unit := modify fun reading => { reading with rest := reading.rest.drop 1 }

def lineHere : Reader Nat := do
  let reading ← get
  return (reading.rest.head?.map (·.2)).getD reading.last

def refuse {α : Type} (text : Chars) : Reader α := do
  let line ← lineHere
  throw (faultAt line text)

def unexpected {α : Type} : Reader α := do
  let reading ← get
  match reading.rest.head? with
  | none =>
      refuse (if 0 < reading.blocks then "missing \x7d near end of file".toList
        else "syntax error at or near end of file".toList)
  | some (.sign "\x7d", _) =>
      if 0 < reading.parens then refuse "missing ) near \x7d".toList
      else if reading.blocks = 0 then refuse "extra '\x7d'".toList
      else refuse "syntax error at or near \x7d".toList
  | some (token, _) => refuse ("syntax error at or near ".toList ++ token.shown)

def isNext (sign : String) : Reader Bool := do return (← peek) = some (.sign sign)

def accept (sign : String) : Reader Bool := do
  if ← isNext sign then
    advance
    return true
  else return false

def expect (sign : String) : Reader Unit := do
  if !(← accept sign) then unexpected

def skipLines : Reader Unit := modify fun reading => { reading with
  rest := reading.rest.dropWhile fun placed => placed.1 = .newline }

def parenthesized {α : Type} (inside : Reader α) : Reader α := do
  expect "("
  modify fun reading => { reading with parens := reading.parens + 1 }
  let value ← inside
  expect ")"
  modify fun reading => { reading with parens := reading.parens - 1 }
  return value

def assignment? : Token → Option (Option Operation)
  | .sign "=" => some none
  | .sign "+=" => some (some .add)
  | .sign "-=" => some (some .subtract)
  | .sign "*=" => some (some .multiply)
  | .sign "/=" => some (some .divide)
  | .sign "%=" => some (some .remainder)
  | .sign "^=" => some (some .power)
  | _ => none

def operator? (level : Nat) (printing : Bool) (token : Token) : Option (Expr → Expr → Expr) :=
  match level, token with
  | 0, .sign "||" => some .either
  | 1, .sign "&&" => some .both
  | 3, .sign "~" => some (.fits false)
  | 3, .sign "!~" => some (.fits true)
  | 4, .sign "<" => some (.relate .less)
  | 4, .sign "<=" => some (.relate .atMost)
  | 4, .sign "==" => some (.relate .same)
  | 4, .sign "!=" => some (.relate .different)
  | 4, .sign ">=" => some (.relate .atLeast)
  | 4, .sign ">" => if printing then none else some (.relate .greater)
  | 6, .sign "+" => some (.operate .add)
  | 6, .sign "-" => some (.operate .subtract)
  | 7, .sign "*" => some (.operate .multiply)
  | 7, .sign "/" => some (.operate .divide)
  | 7, .sign "%" => some (.operate .remainder)
  | _, _ => none

def joiningLevel : Nat := 5

def topLevel : Nat := 8

def startsOperand : Token → Bool
  | .number _ _ | .text _ | .regex _ | .name _ | .called _ | .builtin _ => true
  | .word word => word = "getline"
  | .sign sign => ["(", "$", "!", "-", "+", "++", "--"].contains sign
  | .newline => false

def argumentBounds (name : Name) : Nat × Nat :=
  if ["atan2", "index"].contains name then (2, 2)
  else if name = "rand" then (0, 0)
  else if name = "srand" || name = "fflush" then (0, 1)
  else if ["split", "sub", "gsub", "substr"].contains name then (2, 3)
  else if name = "match" then (2, 2)
  else if name = "sprintf" then (1, 255)
  else (1, 1)

def noteCall (name : Name) (args line : Nat) : Reader Unit :=
  modify fun reading => { reading with calls := ⟨name, args, line⟩ :: reading.calls }

/-! Expressions -/

mutual

/-- A whole expression. While something is printed, an arrow is none of its signs. -/
def expression : Nat → Bool → Reader Expr
  | 0, _ => refuse "program too large".toList
  | fuel + 1, printing => do
      let condition ← level fuel 0 printing
      if ← accept "?" then
        let yes ← expression fuel printing
        expect ":"
        let no ← expression fuel printing
        return .choose condition yes no
      else return condition

def level : Nat → Nat → Bool → Reader Expr
  | 0, _, _ => refuse "program too large".toList
  | fuel + 1, depth, printing => do
      if topLevel ≤ depth then signed fuel
      else
        let first ← level fuel (depth + 1) printing
        match first, (← peek).bind assignment? with
        | .place place, some operation =>
            if depth = joiningLevel then
              advance
              return .assign place operation (← expression fuel printing)
            else levelRest fuel depth printing first
        | _, _ => levelRest fuel depth printing first

def levelRest : Nat → Nat → Bool → Expr → Reader Expr
  | 0, _, _, _ => refuse "program too large".toList
  | fuel + 1, depth, printing, first => do
      match ← peek with
      | none => return first
      | some token =>
          if depth = joiningLevel then
            if startsOperand token then
              let second ← level fuel (depth + 1) printing
              levelRest fuel depth printing (.concat first second)
            else return first
          else if depth = 2 && token = .word "in" then
            advance
            match ← peek with
            | some (.name array) =>
                advance
                levelRest fuel depth printing (.within [first] array)
            | _ => unexpected
          else
            match operator? depth printing token with
            | none => return first
            | some combine =>
                advance
                if depth ≤ 1 then skipLines
                let second ← level fuel (depth + 1) printing
                levelRest fuel depth printing (combine first second)

def signed : Nat → Reader Expr
  | 0 => refuse "program too large".toList
  | fuel + 1 => do
      if ← accept "!" then return .not (← signed fuel)
      else if ← accept "-" then return .minus (← signed fuel)
      else if ← accept "+" then return .plus (← signed fuel)
      else
        let first ← powered fuel
        piped fuel first

def piped : Nat → Expr → Reader Expr
  | 0, _ => refuse "program too large".toList
  | fuel + 1, command => do
      match ← upcoming with
      | .sign "|" :: .word "getline" :: _ =>
          advance
          advance
          let target ← target? fuel
          piped fuel (.readCommand command target)
      | _ => return command

def powered : Nat → Reader Expr
  | 0 => refuse "program too large".toList
  | fuel + 1 => do
      let base ← counted fuel
      if ← accept "^" then return .operate .power base (← exponent fuel)
      else return base

def exponent : Nat → Reader Expr
  | 0 => refuse "program too large".toList
  | fuel + 1 => do
      if ← accept "!" then return .not (← exponent fuel)
      else if ← accept "-" then return .minus (← exponent fuel)
      else if ← accept "+" then return .plus (← exponent fuel)
      else powered fuel

def counted : Nat → Reader Expr
  | 0 => refuse "program too large".toList
  | fuel + 1 => do
      match ← primary fuel with
      | .place place =>
          if ← accept "++" then return .step place true false
          else if ← accept "--" then return .step place false false
          else return .place place
      | expr => return expr

def target? : Nat → Reader (Option Place)
  | 0 => refuse "program too large".toList
  | fuel + 1 => do
      let names := match ← peek with
        | some (.name _) | some (.sign "$") => true
        | _ => false
      if !names then return none
      else
        match ← primary fuel with
        | .place place => return some place
        | _ => unexpected

def fieldNumber : Nat → Reader Expr
  | 0 => refuse "program too large".toList
  | fuel + 1 => do
      if ← accept "!" then return .not (← fieldNumber fuel)
      else if ← accept "-" then return .minus (← fieldNumber fuel)
      else if ← accept "+" then return .plus (← fieldNumber fuel)
      else primary fuel

def list : Nat → Bool → Reader (List Expr)
  | 0, _ => refuse "program too large".toList
  | fuel + 1, printing => do
      let first ← expression fuel printing
      if ← accept "," then
        skipLines
        return first :: (← list fuel printing)
      else return [first]

def arguments : Nat → Reader (List Expr)
  | 0 => refuse "program too large".toList
  | fuel + 1 => parenthesized do
      if ← isNext ")" then return [] else list fuel false

def primary : Nat → Reader Expr
  | 0 => refuse "program too large".toList
  | fuel + 1 => do
      let line ← lineHere
      match ← peek with
      | some (.number value _) =>
          advance
          return .number value
      | some (.text text) =>
          advance
          return .text text
      | some (.regex text) =>
          match regexOf text with
          | .ok regex =>
              advance
              return .regex regex
          | .error fault =>
              refuse ("regular expression compile failed (".toList ++ fault.toList ++ ")\n".toList ++
                text)
      | some (.name name) =>
          advance
          if ← accept "[" then
            let key ← list fuel false
            expect "]"
            return .place (.element name key)
          else return .place (.named name)
      | some (.called name) =>
          advance
          let args ← arguments fuel
          noteCall name args.length line
          return .call name args
      | some (.builtin name) =>
          advance
          if name = "length" && !(← isNext "(") then return .builtin name []
          else
            let args ← arguments fuel
            let (least, most) := argumentBounds name
            if name = "length" && args.isEmpty then return .builtin name []
            else if args.length < least || most < args.length then
              refuse ("wrong number of arguments in call to ".toList ++ name.toList)
            else return .builtin name args
      | some (.sign "$") =>
          advance
          return .place (.field (← fieldNumber fuel))
      | some (.sign "(") =>
          let inside ← parenthesized (list fuel false)
          match inside with
          | [.place (.field number)] => return .place (.field number)
          | [single] => return .grouped single
          | key =>
              match ← upcoming with
              | .word "in" :: .name array :: _ =>
                  advance
                  advance
                  return .within key array
              | _ => unexpected
      | some (.sign sign) =>
          if sign = "++" || sign = "--" then
            advance
            match ← primary fuel with
            | .place place => return .step place (sign = "++") true
            | _ => unexpected
          else unexpected
      | some (.word "getline") =>
          advance
          let target ← target? fuel
          if ← accept "<" then return .readFile (← exponent fuel) target
          else return .readMain target
      | _ => unexpected

end

/-! Statements -/

def isEnd : Option Token → Bool
  | none | some .newline | some (.sign ";") | some (.sign "\x7d") => true
  | _ => false

def endStatement : Reader Unit := do
  match ← peek with
  | some (.sign ";") =>
      advance
      skipLines
  | some .newline => skipLines
  | some (.sign "|") =>
      advance
      unexpected
  | some (.sign "\x7d") => if (← get).parens = 0 && 0 < (← get).blocks then pure () else unexpected
  | _ => unexpected

def printed (fuel : Nat) : Reader (List Expr × Option (SinkKind × Expr)) := do
  let start ← get
  let isStop (token : Option Token) : Bool :=
    isEnd token || [some (.sign ">"), some (.sign ">>"), some (.sign "|")].contains token
  let args ← if isStop (start.rest.head?.map (·.1)) then pure []
    else if ← isNext "(" then do
      let inside ← arguments fuel
      if isStop (← peek) then pure inside
      else
        set start
        list fuel true
    else list fuel true
  if ← accept ">" then return (args, some (.file, ← expression fuel false))
  else if ← accept ">>" then return (args, some (.append, ← expression fuel false))
  else if ← accept "|" then return (args, some (.command, ← expression fuel false))
  else return (args, none)

def exprBefore (fuel : Nat) (sign : String) : Reader (Option Expr) := do
  if ← isNext sign then return none else return some (← expression fuel false)

def optional (fuel : Nat) : Reader (Option Expr) := do
  if isEnd (← peek) then return none else return some (← expression fuel false)

mutual

def block : Nat → Reader (List Statement)
  | 0 => refuse "program too large".toList
  | fuel + 1 => do
      expect "\x7b"
      modify fun reading => { reading with blocks := reading.blocks + 1 }
      skipLines
      let body ← statements fuel
      expect "\x7d"
      modify fun reading => { reading with blocks := reading.blocks - 1 }
      return body

def statements : Nat → Reader (List Statement)
  | 0 => refuse "program too large".toList
  | fuel + 1 => do
      if ← isNext "\x7d" then return []
      else
        let first ← statement fuel
        return first :: (← statements fuel)

def body : Nat → Bool → Reader Statement
  | 0, _ => refuse "program too large".toList
  | fuel + 1, loops => do
      skipLines
      let before := (← get).loops
      modify fun reading => { reading with loops := if loops then before + 1 else before }
      let found ← statement fuel
      modify fun reading => { reading with loops := before }
      return found

def statement : Nat → Reader Statement
  | 0 => refuse "program too large".toList
  | fuel + 1 => do
      let plain (found : Statement) : Reader Statement := do
        endStatement
        return found
      let jump (allowed : Bool) (fault : String) (found : Statement) : Reader Statement := do
        if !allowed then refuse fault.toList
        else
          advance
          plain found
      let reading ← get
      match ← peek with
      | some (.sign "\x7b") =>
          let inside ← block fuel
          if ← accept ";" then pure ()
          skipLines
          return .block inside
      | some (.sign ";") | some .newline =>
          endStatement
          return .block []
      | some (.word word) =>
          match word with
          | "if" =>
              advance
              let condition ← parenthesized (expression fuel false)
              let yes ← body fuel false
              skipLines
              if (← peek) = some (.word "else") then
                advance
                let no ← body fuel false
                return .branch condition yes (some no)
              else return .branch condition yes none
          | "while" =>
              advance
              let condition ← parenthesized (expression fuel false)
              return .whileDo condition (← body fuel true)
          | "do" =>
              advance
              let inside ← body fuel true
              skipLines
              if (← peek) ≠ some (.word "while") then unexpected
              advance
              let condition ← parenthesized (expression fuel false)
              plain (.doWhile inside condition)
          | "for" =>
              advance
              match ← upcoming with
              | .sign "(" :: .name name :: .word "in" :: .name array :: .sign ")" :: _ =>
                  modify fun reading => { reading with rest := reading.rest.drop 5 }
                  return .forEach name array (← body fuel true)
              | _ =>
                  let (first, condition, step) ← parenthesized do
                    let first ← exprBefore fuel ";"
                    expect ";"
                    skipLines
                    let condition ← exprBefore fuel ";"
                    expect ";"
                    skipLines
                    let step ← exprBefore fuel ")"
                    pure (first, condition, step)
                  return .forDo first condition step (← body fuel true)
          | "print" =>
              advance
              let (args, sink) ← printed fuel
              plain (.print args sink)
          | "printf" =>
              advance
              let (args, sink) ← printed fuel
              if args.isEmpty then refuse "no arguments in call to printf".toList
              else plain (.printf args sink)
          | "next" => jump (reading.surrounding = .plain) "improper use of next" .next
          | "nextfile" => jump (reading.surrounding = .plain) "improper use of nextfile" .nextFile
          | "break" => jump (0 < reading.loops) "break statement outside of loop" .leave
          | "continue" => jump (0 < reading.loops) "continue statement outside of loop" .again
          | "exit" =>
              advance
              plain (.exit (← optional fuel))
          | "return" =>
              if reading.surrounding ≠ .function then refuse "return outside function body".toList
              else
                advance
                plain (.giveBack (← optional fuel))
          | "delete" =>
              advance
              match ← peek with
              | some (.name array) =>
                  advance
                  if ← accept "[" then
                    let key ← list fuel false
                    expect "]"
                    plain (.delete array (some key))
                  else plain (.delete array none)
              | _ => unexpected
          | "getline" => plain (.simple (← expression fuel false))
          | _ => unexpected
      | _ => plain (.simple (← expression fuel false))

end

/-! Scripts -/

def params : Nat → List Name → Reader (List Name)
  | 0, _ => refuse "program too large".toList
  | fuel + 1, known => do
      match ← peek with
      | some (.name name) =>
          if known.contains name then
            refuse (name.toList ++ " is duplicated in argument list".toList)
          else
            advance
            if ← accept "," then
              skipLines
              return name :: (← params fuel (name :: known))
            else return [name]
      | _ => if known.isEmpty then return [] else unexpected

def function (fuel : Nat) : Reader Function := do
  match ← peek with
  | some (.called name) | some (.name name) =>
      advance
      let names ← parenthesized (params fuel [])
      skipLines
      modify fun reading => { reading with surrounding := .function }
      let inside ← block fuel
      return ⟨name, names, inside⟩
  | _ => unexpected

def plainRule (fuel : Nat) : Reader Rule := do
  modify fun reading => { reading with surrounding := .plain }
  if ← isNext "\x7b" then return ⟨.always, some (← block fuel)⟩
  else
    let first ← expression fuel false
    let pattern ← if ← accept "," then do
        skipLines
        pure (Pattern.between first (← expression fuel false))
      else pure (.when first)
    if ← isNext "\x7b" then return ⟨pattern, some (← block fuel)⟩
    else
      match ← peek with
      | none | some .newline | some (.sign ";") => return ⟨pattern, none⟩
      | _ => unexpected

def skipBetween : Reader Unit := modify fun reading => { reading with
  rest := reading.rest.dropWhile fun placed => placed.1 = .newline || placed.1 = .sign ";" }

def special (fuel : Nat) (pattern : Pattern) : Reader Rule := do
  advance
  modify fun reading => { reading with surrounding := .special }
  return ⟨pattern, some (← block fuel)⟩

def items (fuel : Nat) : Nat → Script → Reader Script
  | 0, script => return script
  | count + 1, script => do
      skipBetween
      match ← peek with
      | none => return ⟨script.rules.reverse, script.functions.reverse⟩
      | some (.word "function") =>
          advance
          let found ← function fuel
          items fuel count { script with functions := found :: script.functions }
      | some (.word "BEGIN") =>
          let rule ← special fuel .atStart
          items fuel count { script with rules := rule :: script.rules }
      | some (.word "END") =>
          let rule ← special fuel .atEnd
          items fuel count { script with rules := rule :: script.rules }
      | _ =>
          let rule ← plainRule fuel
          items fuel count { script with rules := rule :: script.rules }

def callFault? (script : Script) (last : Nat) : List Calling → Option Chars
  | [] => none
  | calling :: rest =>
      match script.functions.find? (·.name = calling.name) with
      | none => some (faultAt last
          ("function ".toList ++ calling.name.toList ++ " never defined".toList))
      | some function =>
          if function.params.length < calling.args then
            some (faultAt calling.line
              ("too many arguments in call to ".toList ++ calling.name.toList))
          else callFault? script last rest

def readScript (text : Chars) : Except Chars Script := do
  let found ← tokens (text.length + 1) none 1 text
  let last := (text.filter (· = '\n')).length + 2
  let fuel := 60 * (found.length + 4)
  let start : Reading := ⟨found, last, 0, 0, .plain, 0, []⟩
  let (script, reading) ← items fuel (found.length + 1) ⟨[], []⟩ start
  match callFault? script last reading.calls.reverse with
  | some fault => .error fault
  | none => .ok script

end BatchLaunch.Tools.Awk
