import BatchLaunch.Shell.Words

/-!
Reading scripts. A script is read one complete command at a time, so what stands before a fault of
syntax is run, and an alias holds from the next line on.
-/
namespace BatchLaunch.Shell.Read

/-! Redirects -/

def redirectKinds : List (String × RedirectKind × Nat) := [
  ("<<-", .hereText, 0), ("<<", .hereText, 0), ("<&", .duplicate, 0), ("<>", .readWrite, 0),
  ("<", .input, 0), (">>", .append, 1), (">&", .duplicate, 1), (">|", .clobber, 1),
  (">", .output, 1)]

def digitValue (c : Char) : Nat := c.toNat - '0'.toNat

def redirect? (nested : Nested) : Read (Option Redirect) := do
  if !(← atRedirect) then return none
  else
    let digit := (← rest).head?.filter Char.isDigit
    if digit.isSome then pass 1
    let _ ← next?
    let here ← rest
    match redirectKinds.find? fun (mark, _) => mark.toList.isPrefixOf here with
    | none => return none
    | some (mark, kind, standard) =>
        pass mark.length
        let descriptor := digit.elim standard digitValue
        if kind = .hereText then
          return some (.mk descriptor kind (← hereText nested (mark = "<<-")))
        else
          toWord false
          if ← atRedirect then unexpectedNext nested true none
          else
            let target ← word nested
            if target.isEmpty then unexpectedNext nested true none
            else return some (.mk descriptor kind target)

def redirects (nested : Nested) : Nat → Read (List Redirect)
  | 0 => return []
  | fuel + 1 => do
      skipBlanks
      match ← redirect? nested with
      | none => return []
      | some first => return first :: (← redirects nested fuel)

def allRedirects (nested : Nested) : Read (List Redirect) := do
  redirects nested ((← rest).length + 1)

/-! Simple commands -/

def assignment? (word : Word) : Option (Chars × Word) :=
  let name := word.takeWhile fun piece => plain? piece ≠ some '='
  match word.dropWhile fun piece => plain? piece ≠ some '=' with
  | [] => none
  | _ :: value => (literal? name).bind fun name => if isName name then some (name, value) else none

structure Draft where
  line : Option Nat
  assignments : List (Chars × Word)
  words : List Word
  redirects : List Redirect

def simpleParts (nested : Nested) : Nat → Draft → Read Draft
  | 0, draft => return draft
  | fuel + 1, draft => do
      toWord draft.words.isEmpty
      let before := (← get).line
      match ← redirect? nested with
      | some redirect =>
          simpleParts nested fuel { draft with
            line := draft.line.or (some before), redirects := draft.redirects ++ [redirect] }
      | none =>
          match (← rest).head? with
          | none => return draft
          | some c =>
              if isMeta c then return draft
              else
                let found ← word nested
                let draft := { draft with line := draft.line.or (some (← get).line) }
                match if draft.words.isEmpty then assignment? found else none with
                | some assignment =>
                    simpleParts nested fuel
                      { draft with assignments := draft.assignments ++ [assignment] }
                | none => simpleParts nested fuel { draft with words := draft.words ++ [found] }

def specialNames : List String :=
  [":", ".", "break", "continue", "eval", "exec", "exit", "export", "local", "readonly", "return",
    "set", "shift", "times", "trap", "unset"]

/-- A simple command, or the definition of a function. Behind anything but a name alone, a
parenthesis belongs to what follows. -/
def simple (nested : Nested) (body : Read Command) : Read Command := do
  let draft ← simpleParts nested ((← rest).length + 1) ⟨none, [], [], []⟩
  let opens := (← rest).head? = some '('
  match draft.line with
  | none => unexpectedNext nested true none
  | some line =>
      if !opens then return .simple line draft.assignments draft.words draft.redirects
      else
        match draft.assignments, draft.words, draft.redirects with
        | [], [name], [] =>
            pass 1
            closePlain nested
            match (literal? name).filter fun name =>
                isName name && !specialNames.contains (String.ofList name) with
            | some name =>
                toCommand true
                return .define name (← body)
            | none => fail "Syntax error: Bad function name"
        | _, _, _ => return .simple line draft.assignments draft.words draft.redirects

/-! Compound commands -/

def Nested.some (nested : Nested) : Read Command := do
  match ← nested.commands with
  | .sequence [] =>
      skipAllLines
      if (← rest).isEmpty then return .nothing else unexpectedNext nested true none
  | found => return found

def wordList (nested : Nested) : Nat → Read (List Word)
  | 0 => return []
  | fuel + 1 => do
      toWord false
      match (← rest).head? with
      | none => return []
      | some c =>
          if isMeta c || (← atRedirect) then return []
          else
            let first ← word nested
            return first :: (← wordList nested fuel)

def pattern (nested : Nested) : Read Word := do
  skipBlanks
  if ← atRedirect then
    if (← rest).head?.any Char.isDigit then pass 1
    let here ← rest
    pass ((redirectKinds.find? fun (mark, _) => mark.toList.isPrefixOf here).elim 1 (·.1.length))
    return []
  else
    match ← operator?, (← rest).head? with
    | some operator, _ =>
        pass operator.length
        return []
    | none, some '\n' =>
        pass 1
        return []
    | none, _ => word nested

def patterns (nested : Nested) : Nat → Read (List Word)
  | 0 => return []
  | fuel + 1 => do
      let first ← pattern nested
      skipBlanks
      if (← operator?) = some "|" then
        pass 1
        return first :: (← patterns nested fuel)
      else return [first]

def arms (nested : Nested) : Nat → Read (List Arm)
  | 0 => return []
  | fuel + 1 => do
      skipAllLines
      if (← spelling) = "esac" then
        pass 4
        return []
      else
        if (← operator?) = some "(" then pass 1
        let found ← patterns nested ((← rest).length + 1)
        closePlain nested
        let body ← nested.commands
        skipAllLines
        if (← operator?) = some ";;" then
          pass 2
          return .mk found body :: (← arms nested fuel)
        else if (← spelling) = "esac" then
          pass 4
          return [.mk found body]
        else unexpectedNext nested true (some (inQuotes ";;"))

def selection (nested : Nested) (line : Nat) : Read Command := do
  toWord false
  let subject ← word nested
  if subject.isEmpty then unexpectedNext nested true (some "word")
  else
    toCommand true
    expect nested "in"
    return .select line subject (← arms nested ((← rest).length + 1))

def branches (nested : Nested) : Nat → Read Command
  | 0 => unexpectedNext nested true (some (inQuotes "fi"))
  | fuel + 1 => do
      let condition ← nested.some
      expect nested "then"
      let yes ← nested.some
      skipBlanks
      match ← spelling with
      | "elif" =>
          pass 4
          return .branch condition yes (← branches nested fuel)
      | "else" =>
          pass 4
          let no ← nested.some
          expect nested "fi"
          return .branch condition yes no
      | _ =>
          expect nested "fi"
          return .branch condition yes .nothing

def loopBody (nested : Nested) : Read Command := do
  expect nested "do"
  let body ← nested.some
  expect nested "done"
  return body

def eachLoop (nested : Nested) (line : Nat) : Read Command := do
  toWord false
  let name ← spelling
  if !isName name.toList then
    match (← rest).head? with
    | some '\n' => pass 1
    | some c => if !isMeta c then
        let _ ← word nested
    | none => pure ()
    fail "Syntax error: Bad for loop variable"
  else
    pass name.length
    toCommand true
    let words ← if (← spelling) = "in" then do
        pass 2
        let words ← wordList nested ((← rest).length + 1)
        match ← operator?, (← rest).head? with
        | some ";", _ => pass 1
        | none, some '\n' => pass 0
        | _, _ => unexpectedNext nested true none
        pure (some words)
      else do
        if (← operator?) = some ";" then pass 1
        pure none
    toCommand true
    return .each line name.toList words (← loopBody nested)

def command (nested : Nested) : Nat → Read Command
  | 0 => unexpectedNext nested true none
  | fuel + 1 => do
      toCommand false
      let line := (← get).line
      let compound (body : Read Command) : Read Command := do
        let made ← body
        match made, ← allRedirects nested with
        | .subshell line body [], found => return .subshell line body found
        | made, [] => return made
        | made, found => return .redirected line made found
      match ← spelling with
      | "if" =>
          pass 2
          compound do branches nested ((← rest).length + 1)
      | "while" =>
          pass 5
          compound do return .loop false (← nested.some) (← loopBody nested)
      | "until" =>
          pass 5
          compound do return .loop true (← nested.some) (← loopBody nested)
      | "for" =>
          pass 3
          compound (eachLoop nested line)
      | "case" =>
          pass 4
          compound (selection nested line)
      | "\x7b" =>
          pass 1
          compound do
            let body ← nested.some
            expect nested "\x7d"
            return body
      | "" =>
          if (← operator?) = some "(" then
            pass 1
            compound do
              modify fun place => { place with depth := place.depth.map (· + 1) }
              let body ← nested.some
              close
              modify fun place => { place with depth := place.depth.map (· - 1) }
              return .subshell line body []
          else simple nested (command nested fuel)
      | found =>
          if keywords.contains found then unexpectedNext nested true none
          else simple nested (command nested fuel)

/-! Lists -/

def pipelineParts (nested : Nested) : Nat → Read (List Command)
  | 0 => return []
  | fuel + 1 => do
      let first ← command nested ((← rest).length + 1)
      skipBlanks
      if (← operator?) = some "|" then
        pass 1
        toCommand true
        return first :: (← pipelineParts nested fuel)
      else return [first]

def pipeline (nested : Nested) : Read Command := do
  toCommand false
  let negated := (← spelling) = "!"
  if negated then pass 1
  let made ← match ← pipelineParts nested ((← rest).length + 1) with
    | [single] => pure single
    | parts => pure (.pipeline parts)
  return if negated then .negate made else made

def chain (nested : Nested) : Nat → Command → Read Command
  | 0, first => return first
  | fuel + 1, first => do
      skipBlanks
      match ← operator? with
      | some "&&" =>
          pass 2
          toCommand true
          chain nested fuel (.both first (← pipeline nested))
      | some "||" =>
          pass 2
          toCommand true
          chain nested fuel (.either first (← pipeline nested))
      | _ => return first

def andOr (nested : Nested) : Read Command := do
  let first ← pipeline nested
  chain nested ((← rest).length + 1) first

def closers : List String := ["then", "else", "elif", "fi", "do", "done", "esac", "\x7d"]

def atListEnd : Read Bool := do
  match ← rest with
  | [] => return true
  | _ =>
      match ← operator? with
      | some ")" | some ";;" => return true
      | _ => return closers.contains (← spelling)

def inBackground : Command → Command
  | .redirected _ body redirects => .background body redirects
  | body => .background body []

def list (nested : Nested) (oneLine : Bool) : Nat → Read (List Command)
  | 0 => return []
  | fuel + 1 => do
      toCommand !oneLine
      if (← atListEnd) || (oneLine && (← rest).head? = some '\n') then return []
      else
        let first ← andOr nested
        skipBlanks
        match ← operator? with
        | some ";" =>
            pass 1
            return first :: (← list nested oneLine fuel)
        | some "&" =>
            pass 1
            return inBackground first :: (← list nested oneLine fuel)
        | _ =>
            if !oneLine && (← rest).head? = some '\n' then
              return first :: (← list nested oneLine fuel)
            else return [first]

def leading (nested : Nested) : Read Command := do
  return .sequence (← list nested false ((← rest).length + 1))

def nestedTo : Nat → Nested
  | 0 => ⟨fail "Syntax error: Out of space", fail "Syntax error: Out of space"⟩
  | depth + 1 => ⟨leading (nestedTo depth), leading (nestedTo depth)⟩

def depthLimit : Nat := 64

structure Complete where
  command : Command
  isLast : Bool

/-- The next complete command of a script: those of one line, or as many lines as they need. There
is none at the end. -/
def next : Read (Option Complete) := do
  skipAllLines
  if (← rest).isEmpty then return none
  else
    let parts ← list (nestedTo depthLimit) true ((← rest).length + 1)
    skipBlanks
    match ← rest with
    | [] => return some ⟨.sequence parts, true⟩
    | '\n' :: _ =>
        pass 1
        return some ⟨.sequence parts, false⟩
    | _ => unexpectedNext (nestedTo depthLimit) true none

end BatchLaunch.Shell.Read
