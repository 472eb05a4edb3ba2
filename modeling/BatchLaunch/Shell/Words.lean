import BatchLaunch.Shell.Place

/-!
Reading words in pieces: quotes, expansions, and the texts that follow redirects.
-/
namespace BatchLaunch.Shell.Read

inductive Surroundings where
  | bare
  | delimiter
  | inQuotes
  | inBraces (quoted inner : Bool)
  | hereText
  | inArithmetic (depth : Nat)
  deriving DecidableEq, Repr

def Surroundings.quotes : Surroundings → Bool
  | bare | delimiter => false
  | inBraces quoted inner => quoted || inner
  | _ => true

def Surroundings.hasSingleQuotes : Surroundings → Bool
  | bare | delimiter => true
  | inBraces quoted inner => !quoted && !inner
  | _ => false

structure Nested where
  commands : Read Command
  script : Read Command

def backquoted (quoted : Bool) : Chars → Option (Chars × Chars)
  | [] => none
  | '\x60' :: rest => some ([], rest)
  | '\\' :: '\n' :: rest => backquoted quoted rest
  | '\\' :: c :: rest =>
      let found := backquoted quoted rest
      if c = '\x60' || c = '\\' || c = '$' || (quoted && c = '"') then
        found.map fun (text, rest) => (c :: text, rest)
      else found.map fun (text, rest) => ('\\' :: c :: text, rest)
  | c :: rest => (backquoted quoted rest).map fun (text, rest) => (c :: text, rest)

def isSpecialParameter (c : Char) : Bool := "@*#?-$!".toList.contains c

def useOf : Char → Option (Bool → Use)
  | '-' => some .default
  | '=' => some .assign
  | '?' => some .require
  | '+' => some .alternative
  | _ => none

/-- What is done with the parameter whose name was read. A mark that means nothing is passed. -/
def use : Read Use := do
  match ← next? with
  | none => return .invalid
  | some '\x7d' => return .value
  | some ':' =>
      pass 1
      match ← next? with
      | none => return .invalid
      | some '\x7d' => return .value
      | some c =>
          passUncounted
          return (useOf c).elim .invalid (· true)
  | some c =>
      passUncounted
      if c = '%' || c = '#' then
        let longest := (← next?) = some c
        if longest then pass 1
        return if c = '%' then .dropEnd longest else .dropStart longest
      else return (useOf c).elim .invalid (· false)

def plainName : Read Chars := do
  if (← next?).any Char.isDigit then allOf Char.isDigit else allOf isNameChar

def parameterHead : Read (Chars × Use) := do
  match ← next? with
  | none | some '\x7d' => return ([], .invalid)
  | some c =>
      if isNameChar c then
        let name ← plainName
        return (name, ← use)
      else
        passUncounted
        if c = '#' then length
        else if isSpecialParameter c then return ([c], ← use)
        else return ([], .invalid)
where
  /-- Behind a number sign, which is the parameter itself unless a name follows. -/
  length : Read (Chars × Use) := do
    match ← next? with
    | none => return (['#'], .invalid)
    | some c =>
        if isNameChar c then
          let name ← plainName
          return (name, if (← next?) = some '\x7d' then .length else .invalid)
        else
          let behind := dropJoins ((← rest).drop 1)
          if c = '\x7d' || behind.head? ≠ some '\x7d' then return (['#'], ← use)
          else
            pass 1
            return if isSpecialParameter c then ([c], .length) else ([], .invalid)

def dollar (nested : Nested) (inside : Surroundings → Read Word) (quoted : Bool) : Read Piece := do
  match ← next? with
  | some '(' =>
      pass 1
      if (← next?) = some '(' then
        pass 1
        let word ← inside (.inArithmetic 0)
        pass 1
        let _ ← next?
        pass 1
        return .arithmetic word quoted
      else
        let around := (← get).depth
        modify fun place => { place with depth := some 0 }
        let body ← nested.commands
        close
        modify fun place => { place with depth := around }
        return .substitution body quoted
  | some '\x7b' =>
      pass 1
      let (name, use) ← parameterHead
      let word ← match use with
        | .value => pure []
        | .dropEnd _ | .dropStart _ => inside (.inBraces false false)
        | _ => inside (.inBraces quoted false)
      pass 1
      return .parameter name use word quoted
  | some c =>
      if c.isDigit || isSpecialParameter c then
        pass 1
        return .parameter [c] .value [] quoted
      else if isNameStart c then return .parameter (← allOf isNameChar) .value [] quoted
      else return literal
  | none => return literal
where
  literal : Piece := if quoted then .quoted '$' else .plain '$'

def keepsBackslash (around : Surroundings) (isHere : Bool) (next : Char) : Bool :=
  let inBraces := around matches .inBraces _ _
  around.quotes && !("$\x60\\".toList.contains next || (next = '"' && (inBraces || !isHere)) ||
    (next = '\x7d' && inBraces))

def endOf (around : Surroundings) (isHere : Bool) : Read Word :=
  match around with
  | .bare | .delimiter | .hereText => return []
  | .inQuotes => fail "Syntax error: Unterminated quoted string"
  | .inArithmetic _ => fail "Syntax error: Missing '))'"
  | .inBraces _ _ =>
      if around.quotes && !isHere then fail "Syntax error: Unterminated quoted string"
      else fail "Syntax error: Missing '\x7d'"

def endsAt (around : Surroundings) (c : Char) (after : Chars) : Bool :=
  match around with
  | .bare | .delimiter => isMeta c
  | .inQuotes => c = '"'
  | .inBraces _ inner => c = '\x7d' && !inner
  | .hereText => false
  | .inArithmetic depth => c = ')' && depth = 0 && (dropJoins after).head? = some ')'

/-- The pieces up to what ends them, which is left in place. `isHere` tells whether they stand in a
text that follows a redirect. -/
def pieces (nested : Nested) (isHere : Bool) : Nat → Surroundings → Read Word
  | 0, _ => fail "Syntax error: Out of space"
  | fuel + 1, around => do
      let further (first : Word) (around : Surroundings) : Read Word := do
        return first ++ (← pieces nested isHere fuel around)
      let own (c : Char) : Piece := if around.quotes then .quoted c else .plain c
      let literal (c : Char) : Read Word := do
        pass 1
        further [own c] around
      let _ ← next?
      match ← rest with
      | [] => endOf around isHere
      | c :: after =>
          if endsAt around c after then return []
          else
            match c with
            | '\\' =>
                pass 1
                match after with
                | [] => further [.quoted '\\'] around
                | next :: _ =>
                    pass 1
                    further ((if keepsBackslash around isHere next then [.quoted '\\'] else []) ++
                      [.quoted next]) around
            | '\x27' =>
                if !around.hasSingleQuotes then literal c
                else
                  let text := after.takeWhile (· ≠ '\x27')
                  match after.dropWhile (· ≠ '\x27') with
                  | [] =>
                      failAtEnd (if isHere then "Syntax error: Missing '\x7d'"
                        else "Syntax error: Unterminated quoted string")
                  | _ :: tail =>
                      moveTo tail
                      further (.quotes :: text.map .quoted) around
            | '"' =>
                match around with
                | .bare | .delimiter => do
                    pass 1
                    let found ← pieces nested isHere fuel .inQuotes
                    pass 1
                    let only := found matches [.parameter ['@'] .value [] true]
                    further (if only then found else .quotes :: found) around
                | .inBraces quoted inner => do
                    pass 1
                    further [.quotes] (.inBraces quoted !inner)
                | _ => literal c
            | '\x60' =>
                if around = .delimiter then literal c
                else
                  match backquoted around.quotes after with
                  | none => failAtEnd "Syntax error: EOF in backquote substitution"
                  | some (text, tail) =>
                      let place ← get
                      moveTo tail
                      -- lines are counted anew in such a text
                      let inner := Place.start text 1 place.aliases
                      let body ← (fun here => (nested.script inner).map fun found =>
                        (found.1, here) : Read Command)
                      further [.substitution body around.quotes] around
            | '$' =>
                if around = .delimiter then literal c
                else
                  pass 1
                  let piece ← dollar nested (pieces nested isHere fuel) around.quotes
                  further [piece] around
            | '(' =>
                match around with
                | .inArithmetic depth => do
                    pass 1
                    further [.quoted c] (.inArithmetic (depth + 1))
                | _ => literal c
            | ')' =>
                match around with
                | .inArithmetic depth => do
                    pass 1
                    further [.quoted c] (.inArithmetic (depth - 1))
                | _ => literal c
            | _ => literal c

def word (nested : Nested) : Read Word := do
  pieces nested false ((← rest).length + 1) .bare

/-! Texts that follow -/

def delimiterOf (pieces : Word) : Chars × Bool :=
  let char? : Piece → Option Char
    | .plain c | .quoted c => some c
    | _ => none
  (pieces.filterMap char?, pieces.any fun piece => (plain? piece).isNone)

def isJoined (line : Chars) : Bool := (line.reverse.takeWhile (· = '\\')).length % 2 = 1

/-- A text up to its delimiter, the rest behind that, and whether it was there. Where lines are
joined only the first of them can be the delimiter. -/
def hereLines (delimiter : Chars) (stripTabs joins : Bool) :
    Bool → Nat → Chars → Chars × Chars × Bool
  | _, 0, text => ([], text, false)
  | goesOn, fuel + 1, text =>
      if text.isEmpty then ([], [], false)
      else
        let line := text.takeWhile (· ≠ '\n')
        let behind := text.dropWhile (· ≠ '\n')
        let line := if stripTabs && !goesOn then line.dropWhile (· = '\t') else line
        if line = delimiter && !goesOn then ([], behind.drop 1, true)
        else
          let (more, rest, found) :=
            hereLines delimiter stripTabs joins (joins && isJoined line) fuel (behind.drop 1)
          (line ++ behind.take 1 ++ more, rest, found)

/-- Goes to the end of the line, over everything that is quoted. There is none where the script or
the substitution ends before. -/
def toLineEnd (nested : Nested) : Nat → Option Nat → Read Bool
  | 0, _ => return false
  | fuel + 1, depth => do
      skipBlanks
      match (← rest).head?, ← operator? with
      | none, _ => return false
      | some '\n', _ => return true
      | _, some "(" =>
          pass 1
          toLineEnd nested fuel (depth.map (· + 1))
      | _, some ")" =>
          if depth = some 0 then return false
          else
            pass 1
            toLineEnd nested fuel (depth.map (· - 1))
      | _, some operator =>
          pass operator.length
          toLineEnd nested fuel depth
      | some c, none =>
          if isArrow c then pass 1
          else
            let _ ← word nested
          toLineEnd nested fuel depth

def lineEnd (nested : Nested) : Read (Option Place) := fun place =>
  match toLineEnd nested (place.rest.length + 1) place.depth place with
  | .ok (true, last) => .ok (some last, place)
  | _ => .ok (none, place)

/-- Takes the text that belongs to a redirect out of the lines that follow. Without an end of the
line there is no such text. -/
def hereText (nested : Nested) (stripTabs : Bool) : Read Word := do
  toWord false
  let found ← pieces nested false ((← rest).length + 1) .delimiter
  if found.isEmpty then unexpected false none
  else
    let (ending, quoted) := delimiterOf found
    match ← lineEnd nested with
    | none => return [.quotes]
    | some last =>
        let place ← get
        let later := last.rest.drop 1
        let (text, after, ended) := hereLines ending stripTabs (!quoted) false (later.length + 1) later
        let gone := later.length - after.length
        let lines := (later.take gone).count '\n'
        let before := (last.gaps.filter (·.left = last.rest.length)).foldl (· + ·.lines) 0
        set ({ place with
          rest := place.rest.take (place.rest.length - last.rest.length) ++ '\n' :: after
          gaps := ⟨after.length + 1, lines⟩ :: place.gaps.map (Gap.behindLess gone after.length)
          replaced := place.replaced.map (Replacement.behindLess gone after.length) } : Place)
        if quoted then return .quotes :: text.map .quoted
        else
          let inside := Place.start text (last.line + 1 + before) place.aliases
          match pieces nested true (text.length + 1) .hereText inside with
          | .ok (found, _) => return .quotes :: found
          | .error fault => throw ⟨fault.line + (if ended then 1 else 0), fault.message⟩

/-! What is not expected -/

/-- Fails at what comes next. A word is read before, since faults in it count first. -/
def unexpectedNext {α : Type} (nested : Nested) (knowsKeywords : Bool)
    (expecting : Option String) : Read α := do
  skipBlanks
  let here ← get
  let isWord := here.rest.head?.any (!isMeta ·) && !(← atRedirect)
  if isWord then
    let _ ← word nested
    let line := (← get).line
    set { here with line := line }
  unexpected knowsKeywords expecting

def expect (nested : Nested) (word : String) : Read Unit := do
  skipBlanks
  if (← spelling) = word then pass word.length else unexpectedNext nested true (some (inQuotes word))

def closePlain (nested : Nested) : Read Unit := do
  skipBlanks
  if (← operator?) = some ")" then pass 1
  else unexpectedNext nested false (some (inQuotes ")"))

end BatchLaunch.Shell.Read
