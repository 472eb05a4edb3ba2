import BatchLaunch.Text.Regex.Parse
import BatchLaunch.Tools.Inputs

/-!
Scripts that edit a stream of lines: a flat list of commands, each for the lines that its addresses
select, with jumps to others by their place.
-/
namespace BatchLaunch.Tools.Sed

open Text (Regex RegexMode)

structure Matcher where
  regex : Regex
  mode : RegexMode

/-- Where a command applies; an empty expression is the one that was used last. -/
inductive Address where
  | line (number : Nat)
  | last
  | fits (matcher : Option Matcher)
  | every (first step : Nat)

inductive RangeEnd where
  | at (address : Address)
  | after (count : Nat)
  | multiple (of : Nat)

inductive Piece where
  | text (text : Chars)
  | group (number : Nat)
  /-- Letters change from here on: `U` and `L` for all, `u` and `l` for the next, `E` not at all. -/
  | case (letter : Char)

structure Substitution where
  matcher : Option Matcher
  pieces : List Piece
  all : Bool
  number : Nat
  prints : Bool
  target : Option Chars

inductive Deed where
  | block (stop : Nat)
  | nothing
  | jump (target : Nat)
  | jumpIfChanged (target : Nat)
  | jumpUnlessChanged (target : Nat)
  | append (text : Chars)
  | insert (text : Chars)
  | change (text : Chars)
  | substitute (substitution : Substitution)
  | transliterate (pairs : List (Char × Char))
  | quit (code : Nat) (silent : Bool)
  | reveal (width : Option Nat)
  | readFile (file : Chars)
  | readLine (file : Chars)
  | writeFile (file : Chars)
  | writeFirst (file : Chars)
  | letter (c : Char)

structure Command where
  first : Option Address
  stop : Option RangeEnd
  negated : Bool
  deed : Deed

structure Source where
  rest : Chars
  place : Nat
  extended : Bool
  done : List Command
  blocks : List Nat
  labels : List (Chars × Nat)
  jumps : List (Nat × Chars)

abbrev Fault := Nat × Chars

abbrev Reader := StateT Source (Except Fault)

def refuse {α : Type} (text : String) : Reader α := fun source =>
  .error (source.place, text.toList)

def next : Reader (Option Char) := fun source =>
  match source.rest with
  | c :: rest => .ok (some c, { source with rest := rest, place := source.place + 1 })
  | [] => .ok (none, source)

def back : Option Char → Reader Unit
  | some c => modify fun source =>
      { source with rest := c :: source.rest, place := source.place - 1 }
  | none => pure ()

def nextVisible : Nat → Reader (Option Char)
  | 0 => next
  | fuel + 1 => do
      let c ← next
      if c.any isBlankChar then nextVisible fuel else pure c

def bound : Reader Nat := do return (← get).rest.length + 1

def visible : Reader (Option Char) := do nextVisible (← bound)

def takeAll (holds : Char → Bool) : Reader Chars := fun source =>
  let found := source.rest.takeWhile holds
  .ok (found, { source with
    rest := source.rest.drop found.length, place := source.place + found.length })

def numberFrom (first : Char) : Reader Nat := do
  let digits ← takeAll Char.isDigit
  pure ((natural? (first :: digits)).getD 0)

/-! Escapes -/

def controlOf? : Char → Option Char
  | 'a' => some '\x07'
  | 'f' => some '\x0c'
  | 'n' => some '\n'
  | 'r' => some '\r'
  | 't' => some '\t'
  | 'v' => some '\x0b'
  | _ => none

def digitValue? (base : Nat) (c : Char) : Option Nat :=
  let value := if c.isDigit then c.toNat - '0'.toNat
    else if 'a' ≤ c && c ≤ 'f' then c.toNat - 'a'.toNat + 10
    else if 'A' ≤ c && c ≤ 'F' then c.toNat - 'A'.toNat + 10
    else 99
  if value < base then some value else none

def numbered? (text : Chars) : Option (Char × Chars) :=
  let read (base count : Nat) (rest : Chars) : Option (Char × Chars) :=
    let digits := (rest.take count).takeWhile fun c => (digitValue? base c).isSome
    if digits.isEmpty then none
    else some (Char.ofNat (digits.foldl (fun n c => n * base + (digitValue? base c).getD 0) 0 % 256),
      rest.drop digits.length)
  match text with
  | 'd' :: rest => read 10 3 rest
  | 'o' :: rest => read 8 3 rest
  | 'x' :: rest => read 16 2 rest
  | 'c' :: c :: rest => some (Char.ofNat (c.toUpper.toNat ^^^ 64), rest)
  | _ => none

/-- An expression in which characters by number are themselves, and mean nothing else. -/
def plainNumbers : Nat → Chars → Chars
  | 0, text => text
  | _, [] => []
  | fuel + 1, '\\' :: rest =>
      match numbered? rest with
      | some (c, behind) =>
          (if "*.[]^$\\/+?()\x7b\x7d|".toList.contains c then ['\\', c] else [c]) ++
            plainNumbers fuel behind
      | none =>
          match rest with
          | c :: behind => '\\' :: c :: plainNumbers fuel behind
          | [] => ['\\']
  | fuel + 1, c :: rest => c :: plainNumbers fuel rest

def resolved : Nat → Chars → Chars
  | 0, text => text
  | _, [] => []
  | fuel + 1, '\\' :: rest =>
      match numbered? rest, rest with
      | some (c, behind), _ => c :: resolved fuel behind
      | none, c :: behind => (controlOf? c).getD c :: resolved fuel behind
      | none, [] => []
  | fuel + 1, c :: rest => c :: resolved fuel rest

/-! Parts of commands -/

inductive InChoice where
  | outside
  | start
  | inside
  | name (mark : Char)
  deriving DecidableEq, Repr

def InChoice.step (place : InChoice) (c : Char) (after : Option Char) (before : Option Char) :
    InChoice :=
  match place with
  | .outside => if c = '[' then .start else .outside
  | .start => if c = '^' && before = some '[' then .start else .inside
  | .inside =>
      if c = ']' then .outside
      else if c = '[' && after.any fun d => d = ':' || d = '.' || d = '=' then
        .name (after.getD ':')
      else .inside
  | .name mark => if c = ']' && before = some mark then .inside else .name mark

def delimited (mark : Char) (isRegex : Bool) (place : InChoice) (before : Option Char) :
    Nat → Reader (Option Chars)
  | 0 => pure none
  | fuel + 1 => do
      let more (place : InChoice) (text : Chars) : Reader (Option Chars) := do
        return (← delimited mark isRegex place text.getLast? fuel).map (text ++ ·)
      match ← next with
      | none => pure none
      | some '\n' =>
          if mark = '\n' then pure (some [])
          else
            back (some '\n')
            pure none
      | some c =>
          if c = mark && place = .outside then pure (some [])
          else if c ≠ '\\' then
            let after := (← get).rest.head?
            more (if isRegex then place.step c after before else .outside) [c]
          else
            let behind := if place = .outside then place else .inside
            match ← next with
            | none => pure none
            | some 'n' => if isRegex then more behind ['\n'] else more behind "\\n".toList
            | some c =>
                if place ≠ .outside then
                  back (some c)
                  more behind ['\\']
                else if c = '\n' then (if isRegex then more .outside [c] else more .outside ['\\', c])
                else if c = mark && !(!isRegex && c = '&') then more .outside [c]
                else more .outside ['\\', c]

def withFlags (extended foldsCase byLines : Bool) (text : Chars) : Except String (Matcher × Nat) :=
  (Regex.parse ⟨extended, true, extended⟩ (plainNumbers (text.length + 1) text)).map
    fun (regex, groups) => (⟨regex, ⟨foldsCase, byLines⟩⟩, groups)

def matcherOf (text : Chars) (foldsCase byLines : Bool) : Reader (Option Matcher × Nat) := do
  if text.isEmpty then
    if foldsCase || byLines then refuse "cannot specify modifiers on empty regexp"
    else pure (none, 9)
  else
    match withFlags (← get).extended foldsCase byLines text with
    | .ok (matcher, groups) => pure (some matcher, groups)
    | .error message => refuse message

def addressFlags : Nat → Bool → Bool → Reader (Bool × Bool)
  | 0, foldsCase, byLines => pure (foldsCase, byLines)
  | fuel + 1, foldsCase, byLines => do
      match ← visible with
      | some 'I' => addressFlags fuel true byLines
      | some 'M' => addressFlags fuel foldsCase true
      | c =>
          back c
          pure (foldsCase, byLines)

def patternAddress (mark : Option Char) : Reader Address := do
  let found ← match mark with
    | some mark => delimited mark true .outside none (← bound)
    | none => pure none
  match found with
  | none => refuse "unterminated address regex"
  | some text =>
      let (foldsCase, byLines) ← addressFlags (← bound) false false
      let (matcher, _) ← matcherOf text foldsCase byLines
      pure (.fits matcher)

def addressAt (c : Option Char) : Reader (Option RangeEnd) := do
  let counted : Reader Nat := do
    match ← visible with
    | some c => if c.isDigit then numberFrom c else do
        back (some c)
        pure 0
    | none => pure 0
  match c with
  | some '/' => do
      let address ← patternAddress (some '/')
      return some (.at address)
  | some '\\' => do
      let mark ← next
      let address ← patternAddress mark
      return some (.at address)
  | some '$' => pure (some (.at .last))
  | some '+' => do
      let count ← counted
      return some (.after count)
  | some '~' => do
      let count ← counted
      return some (if count = 0 then .at (.line 0) else .multiple count)
  | some c =>
      if !c.isDigit then pure none
      else
        let number ← numberFrom c
        match ← visible with
        | some '~' => do
            let step ← counted
            return some (.at (if step = 0 then .line number else .every number step))
        | c =>
            back c
            pure (some (.at (.line number)))
  | none => pure none

def addresses (c : Option Char) : Reader (Option Address × Option RangeEnd × Option Char) := do
  match ← addressAt c with
  | none => pure (none, none, c)
  | some (.after _) | some (.multiple _) =>
      refuse "invalid usage of +N or ~N as first address"
  | some (.at first) => do
      let (stop, behind) ← match ← visible with
        | some ',' => do
            match ← addressAt (← visible) with
            | none => refuse "unexpected `,'"
            | some stop => do
                let behind ← visible
                pure (some stop, behind)
        | behind => pure (none, behind)
      let zero := match first with
        | .line 0 => true
        | _ => false
      let byPattern := match stop with
        | some (.at (.fits _)) => true
        | _ => false
      if zero && !byPattern then refuse "invalid usage of line address 0"
      pure (some first, stop, behind)

def endOfCommand : Reader Unit := do
  match ← visible with
  | some c =>
      if c = '\x7d' || c = '#' then back (some c)
      else if c ≠ '\n' && c ≠ ';' then refuse "extra characters after command"
      else pure ()
  | none => pure ()

def fileName : Reader Chars := do
  back (← visible)
  let name ← takeAll (· ≠ '\n')
  let _ ← next
  if name.isEmpty then refuse "missing filename in r/R/w/W commands"
  pure name

def label : Reader Chars := do
  let c ← visible
  back c
  takeAll fun c => !isSpaceChar c && c ≠ ';'

def jumpLabel : Reader Chars := do
  let c ← visible
  back c
  takeAll fun c => !isSpaceChar c && c ≠ ';' && c ≠ '\x7d'

def textLines : Nat → Reader Chars
  | 0 => pure []
  | fuel + 1 => do
      match ← next with
      | none | some '\n' => pure []
      | some '\\' =>
          match ← next with
          | none => pure []
          | some c => return '\\' :: c :: (← textLines fuel)
      | some c => return c :: (← textLines fuel)

def addedText : Reader Chars := do
  match ← visible with
  | none => refuse "expected \\ after `a', `c' or `i'"
  | some '\\' => do
      let c ← next
      match c with
      | none => pure []
      | some '\n' =>
          if (← get).rest.isEmpty then pure []
          else
            let text ← textLines (← bound)
            pure (resolved (text.length + 1) text ++ ['\n'])
      | c => do
          back c
          let blanks ← takeAll isBlankChar
          if (← get).rest.head? = some '\n' then
            let _ ← next
            let text ← textLines (← bound)
            pure (resolved (text.length + 1) text ++ ['\n'])
          else
            let text ← textLines (← bound)
            pure (blanks ++ resolved (text.length + 1) text ++ ['\n'])
  | some '\n' => refuse "expected \\ after `a', `c' or `i'"
  | c => do
      back c
      let text ← textLines (← bound)
      pure (resolved (text.length + 1) text ++ ['\n'])

def piecesOf : Nat → Chars → List Piece
  | 0, _ => []
  | _, [] => []
  | fuel + 1, '&' :: rest => .group 0 :: piecesOf fuel rest
  | fuel + 1, '\\' :: rest =>
      match numbered? rest, rest with
      | some (c, behind), _ => .text [c] :: piecesOf fuel behind
      | none, c :: behind =>
          if c.isDigit then .group (c.toNat - '0'.toNat) :: piecesOf fuel behind
          else if "ULulE".toList.contains c then .case c :: piecesOf fuel behind
          else .text [(controlOf? c).getD c] :: piecesOf fuel behind
      | none, [] => [.text ['\\']]
  | fuel + 1, c :: rest => .text [c] :: piecesOf fuel rest

structure Flags where
  foldsCase : Bool
  byLines : Bool
  all : Bool
  prints : Bool
  number : Option Nat
  target : Option Chars

def substitutionFlags : Nat → Flags → Reader Flags
  | 0, flags => pure flags
  | fuel + 1, flags => do
      match ← next with
      | none | some '\n' | some ';' => pure flags
      | some c =>
          match c with
          | 'i' | 'I' => substitutionFlags fuel { flags with foldsCase := true }
          | 'm' | 'M' => substitutionFlags fuel { flags with byLines := true }
          | 'e' | ' ' | '\t' | '\r' => substitutionFlags fuel flags
          | 'p' =>
              if flags.prints then refuse "multiple `p' options to `s' command"
              else substitutionFlags fuel { flags with prints := true }
          | 'g' =>
              if flags.all then refuse "multiple `g' options to `s' command"
              else substitutionFlags fuel { flags with all := true }
          | 'w' => do
              let name ← fileName
              pure { flags with target := some name }
          | '\x7d' | '#' => do
              back (some c)
              pure flags
          | c =>
              if !c.isDigit then refuse "unknown option to `s'"
              else if flags.number.isSome then
                refuse "multiple number options to `s' command"
              else
                let number ← numberFrom c
                if number = 0 then refuse "number option to `s' command may not be zero"
                else substitutionFlags fuel { flags with number := some number }

def substitution : Reader Substitution := do
  let part (mark : Option Char) (isRegex : Bool) : Reader Chars := do
    let found ← match mark with
      | some mark => if mark = '\n' || mark = '\\' then pure none else
          delimited mark isRegex .outside none (← bound)
      | none => pure none
    match found with
    | some text => pure text
    | none => refuse "unterminated `s' command"
  let mark ← next
  let pattern ← part mark true
  let replacement ← part mark false
  let flags ← substitutionFlags (← bound) ⟨false, false, false, false, none, none⟩
  let pieces := piecesOf (replacement.length + 1) replacement
  let (matcher, groups) ← matcherOf pattern flags.foldsCase flags.byLines
  for piece in pieces do
    match piece with
    | .group n =>
        if groups < n then
          refuse ("invalid reference \\" ++ toString n ++ " on `s' command's RHS")
    | _ => pure ()
  pure ⟨matcher, pieces, flags.all, flags.number.getD 1, flags.prints, flags.target⟩

def singles : Nat → Chars → Chars
  | 0, _ => []
  | _, [] => []
  | fuel + 1, '\\' :: rest =>
      match numbered? rest, rest with
      | some (c, behind), _ => c :: singles fuel behind
      | none, c :: behind =>
          match controlOf? c with
          | some control => control :: singles fuel behind
          | none =>
              if c = '\\' || c = '\n' then c :: singles fuel behind
              else '\\' :: c :: singles fuel behind
      | none, [] => ['\\']
  | fuel + 1, c :: rest => c :: singles fuel rest

def transliteration : Reader (List (Char × Char)) := do
  let part (mark : Option Char) : Reader Chars := do
    let found ← match mark with
      | some mark => delimited mark false .outside none (← bound)
      | none => pure none
    match found with
    | some text => pure (singles (text.length + 1) text)
    | none => refuse "unterminated `y' command"
  let mark ← next
  let source ← part mark
  let target ← part mark
  if source.length ≠ target.length then refuse "strings for `y' command are different lengths"
  endOfCommand
  pure (source.zip target)

def optionalNumber : Reader (Option Nat) := do
  match ← visible with
  | some c =>
      if c.isDigit then
        let n ← numberFrom c
        endOfCommand
        pure (some n)
      else
        back (some c)
        endOfCommand
        pure none
  | none => pure none

def jumpTo (make : Nat → Deed) : Reader Deed := do
  let name ← jumpLabel
  endOfCommand
  modify fun source => { source with jumps := (source.done.length, name) :: source.jumps }
  pure (make 0)

def deedOf (c : Option Char) (first : Option Address) (stop : Option RangeEnd) : Reader Deed := do
  match c with
  | none => refuse "missing command"
  | some c =>
      match c with
      | '#' =>
          if first.isSome then refuse "comments don't accept any addresses"
          else
            let _ ← takeAll (· ≠ '\n')
            pure .nothing
      | '\x7b' => do
          modify fun source => { source with blocks := source.done.length :: source.blocks }
          pure (.block 0)
      | '\x7d' => do
          match (← get).blocks with
          | [] => refuse "unexpected `\x7d'"
          | place :: blocks =>
              if first.isSome then refuse "\x7d doesn't want any addresses"
              else
                endOfCommand
                modify fun source => { source with
                  blocks := blocks
                  done := (source.done.reverse.modify place fun command =>
                    { command with deed := .block source.done.length }).reverse }
                pure .nothing
      | ':' =>
          if first.isSome then refuse ": doesn't want any addresses"
          else
            let name ← label
            if name.isEmpty then refuse "\":\" lacks a label"
            else
              modify fun source => { source with labels := (name, source.done.length) :: source.labels }
              pure .nothing
      | 'b' => jumpTo .jump
      | 't' => jumpTo .jumpIfChanged
      | 'T' => jumpTo .jumpUnlessChanged
      | 'a' => return .append (← addedText)
      | 'i' => return .insert (← addedText)
      | 'c' => return .change (← addedText)
      | 's' => return .substitute (← substitution)
      | 'y' => return .transliterate (← transliteration)
      | 'q' | 'Q' =>
          if stop.isSome then refuse "command only uses one address"
          else
            let code ← optionalNumber
            pure (.quit (code.getD 0) (c = 'Q'))
      | 'l' => return .reveal (← optionalNumber)
      | 'r' => return .readFile (← fileName)
      | 'R' => return .readLine (← fileName)
      | 'w' => return .writeFile (← fileName)
      | 'W' => return .writeFirst (← fileName)
      | 'v' => do
          let _ ← label
          endOfCommand
          pure .nothing
      | c =>
          if "=dDFgGhHnNpPxz".toList.contains c then
            endOfCommand
            pure (.letter c)
          else refuse ("unknown command: `" ++ c.toString ++ "'")

def command : Reader Unit := do
  let (first, stop, behind) ← addresses (← next)
  let (negated, c) ← match behind with
    | some '!' => do
        match ← visible with
        | some '!' => refuse "multiple `!'s"
        | c => pure (true, c)
    | c => pure (false, c)
  let deed ← deedOf c first stop
  modify fun source => { source with done := ⟨first, stop, negated, deed⟩ :: source.done }

def commands : Nat → Reader Unit
  | 0 => pure ()
  | fuel + 1 => do
      let _ ← takeAll fun c => isSpaceChar c || c = ';'
      if (← get).rest.isEmpty then pure ()
      else
        command
        commands fuel

inductive Outcome where
  | script (commands : Array Command)
  | fault (fault : Fault)
  | noLabel (name : Chars)

def withTarget (target : Nat) : Deed → Deed
  | .jump _ => .jump target
  | .jumpIfChanged _ => .jumpIfChanged target
  | .jumpUnlessChanged _ => .jumpUnlessChanged target
  | deed => deed

def resolveJumps (labels : List (Chars × Nat)) :
    List (Nat × Chars) → Array Command → Except Chars (Array Command)
  | [], script => .ok script
  | (place, name) :: rest, script =>
      match if name.isEmpty then some script.size else labels.lookup name with
      | some target => resolveJumps labels rest (script.modify place fun command =>
          { command with deed := withTarget target command.deed })
      | none => .error name

def read (extended : Bool) (text : Chars) : Outcome :=
  match (commands (text.length + 1)).run ⟨text, 0, extended, [], [], [], []⟩ with
  | .error fault => .fault fault
  | .ok (_, source) =>
      if !source.blocks.isEmpty then .fault (0, "unmatched `\x7b'".toList)
      else
        match resolveJumps source.labels source.jumps source.done.reverse.toArray with
        | .ok script => .script script
        | .error name => .noLabel name

end BatchLaunch.Tools.Sed
