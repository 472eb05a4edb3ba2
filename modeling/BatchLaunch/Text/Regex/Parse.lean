import BatchLaunch.Text.Regex

/-!
Reading regular expressions as they are written, in two ways: a basic one, in which some marks mean
something only behind a backslash, and an extended one, in which they do without.
-/
namespace BatchLaunch.Text.Regex

structure Writing where
  isExtended : Bool
  hasEscapes : Bool
  isStrict : Bool
  deriving DecidableEq, Repr

inductive Mark where
  | literal (c : Char)
  | special (c : Char)
  | class (c : Char)
  | same (number : Nat)
  | bracket
  deriving DecidableEq, Repr

structure Reading where
  rest : Chars
  groups : Nat

abbrev Reader := StateT Reading (Except String)

def refuse {α : Type} (message : String) : Reader α := fun _ => .error message

def controlLetter? : Char → Option Char
  | 'a' => some '\x07'
  | 'f' => some '\x0c'
  | 'n' => some '\n'
  | 'r' => some '\r'
  | 't' => some '\t'
  | 'v' => some '\x0b'
  | _ => none

def mark? (writing : Writing) (text : Chars) : Except String (Option (Mark × Chars)) :=
  let basicMarks := "()\x7b|+?".toList
  match text with
  | [] => .ok none
  | ['\\'] => .error "Trailing backslash"
  | '\\' :: c :: rest =>
      let found : Mark :=
        if "wWsSbB<>`'".toList.contains c then .class c
        else if c.isDigit && c ≠ '0' then .same (c.toNat - '0'.toNat)
        else if !writing.isExtended && (c = '}' || basicMarks.contains c) then .special c
        else
          match if writing.hasEscapes then controlLetter? c else none with
          | some control => .literal control
          | none => .literal c
      .ok (some (found, rest))
  | '[' :: rest => .ok (some (.bracket, rest))
  | c :: rest =>
      let special := "*^$.".toList.contains c || (writing.isExtended && basicMarks.contains c)
      .ok (some (if special then .special c else .literal c, rest))

def peek (writing : Writing) : Reader (Option Mark) := fun reading =>
  (mark? writing reading.rest).map fun found => (found.map (·.1), reading)

def pass (writing : Writing) : Reader Unit := fun reading =>
  (mark? writing reading.rest).map fun found =>
    ((), { reading with rest := found.elim [] (·.2) })

/-! Sets -/

def classRanges? : String → Option (List (Char × Char))
  | "alpha" => some [('a', 'z'), ('A', 'Z')]
  | "digit" => some [('0', '9')]
  | "alnum" => some [('a', 'z'), ('A', 'Z'), ('0', '9')]
  | "lower" => some [('a', 'z')]
  | "upper" => some [('A', 'Z')]
  | "space" => some [(' ', ' '), ('\t', '\r')]
  | "blank" => some [(' ', ' '), ('\t', '\t')]
  | "punct" => some [('!', '/'), (':', '@'), ('[', '\x60'), ('\x7b', '~')]
  | "print" => some [(' ', '~')]
  | "graph" => some [('!', '~')]
  | "cntrl" => some [('\x00', '\x1f'), ('\x7f', '\x7f')]
  | "xdigit" => some [('0', '9'), ('a', 'f'), ('A', 'F')]
  | _ => none

def unmatchedBracket : String := "Unmatched [, [^, [:, [., or [="

def bracketName? (mark : Char) : Chars → Option (Chars × Chars)
  | [] => none
  | c :: rest =>
      if c = mark && rest.head? = some ']' then some ([], rest.drop 1)
      else (bracketName? mark rest).map fun (name, behind) => (c :: name, behind)

def rangeEnd? (hasEscapes : Bool) (text : Chars) : Option (Char × Chars) :=
  match text with
  | '[' :: mark :: rest =>
      if mark = '.' || mark = '=' then
        match bracketName? mark rest with
        | some ([c], behind) => some (c, behind)
        | _ => none
      else some ('[', mark :: rest)
  | '\\' :: c :: rest =>
      match if hasEscapes then (if c = '\\' then some '\\' else controlLetter? c) else none with
      | some control => some (control, rest)
      | none => some ('\\', c :: rest)
  | c :: rest => some (c, rest)
  | [] => none

def rangeEndFault (text : Chars) : String :=
  match text with
  | '[' :: mark :: rest =>
      if (bracketName? mark rest).isNone then unmatchedBracket else "Invalid collation character"
  | _ => unmatchedBracket

def ranges (hasEscapes : Bool) : Nat → Bool → Chars →
    Except String (List (Char × Char) × Chars)
  | 0, _, _ => .error unmatchedBracket
  | fuel + 1, first, text =>
      match text with
      | [] => .error unmatchedBracket
      | ']' :: rest =>
          if first then item fuel (']' :: rest) else .ok ([], rest)
      | '[' :: ':' :: rest =>
          match bracketName? ':' rest with
          | none => .error unmatchedBracket
          | some (name, behind) =>
              match classRanges? (String.ofList name) with
              | none => .error "Invalid character class name"
              | some found =>
                  (ranges hasEscapes fuel false behind).map fun (more, rest) =>
                    (found ++ more, rest)
      | text => item fuel text
where
  item (fuel : Nat) (text : Chars) : Except String (List (Char × Char) × Chars) :=
    match rangeEnd? hasEscapes text with
    | none => .error (rangeEndFault text)
    | some (low, '-' :: next :: behind) =>
        if next = ']' then
          (ranges hasEscapes fuel false ('-' :: next :: behind)).map fun (more, rest) =>
            ((low, low) :: more, rest)
        else
          match rangeEnd? hasEscapes (next :: behind) with
          | none => .error (rangeEndFault (next :: behind))
          | some (high, rest) =>
              if high < low then .error "Invalid range end"
              else (ranges hasEscapes fuel false rest).map fun (more, rest) =>
                ((low, high) :: more, rest)
    | some (c, rest) =>
        (ranges hasEscapes fuel false rest).map fun (more, rest) => ((c, c) :: more, rest)

def bracket (hasEscapes : Bool) : Reader Regex := do
  let text := (← get).rest
  let negated := text.head? = some '^'
  let inside := if negated then text.drop 1 else text
  if inside.isEmpty then refuse "Invalid regular expression"
  let (found, rest) ← ranges hasEscapes (inside.length + 2) true inside
  modify fun reading => { reading with rest := rest }
  return .one negated found

/-! Expressions -/

def classOf (letter : Char) : Regex :=
  let word := ('_', '_') :: (classRanges? "alnum").getD []
  let space := (classRanges? "space").getD []
  match letter with
  | 'w' => .one false word
  | 'W' => .one true word
  | 's' => .one false space
  | 'S' => .one true space
  | 'b' => .anchor .wordEdge
  | 'B' => .anchor .noWordEdge
  | '<' => .anchor .wordStart
  | '>' => .anchor .wordEnd
  | '\x60' => .anchor .textStart
  | _ => .anchor .textEnd

def number? (digits : Chars) : Option Nat :=
  if digits.isEmpty then none
  else some (digits.foldl (fun n c => n * 10 + (c.toNat - '0'.toNat)) 0)

def bounds (writing : Writing) : Reader (Nat × Option Nat) := do
  let text := (← get).rest
  let closing := if writing.isExtended then ['\x7d'] else ['\\', '\x7d']
  let low := text.takeWhile Char.isDigit
  let behind := text.drop low.length
  let (high, behind) := match behind with
    | ',' :: rest => (some (rest.takeWhile Char.isDigit), rest.dropWhile Char.isDigit)
    | rest => (none, rest)
  if !closing.isPrefixOf behind then
    let isClosed := (List.range behind.length).any fun place => closing.isPrefixOf (behind.drop place)
    refuse (if isClosed then "Invalid content of \\\x7b\\\x7d" else "Unmatched \\\x7b")
  else
    modify fun reading => { reading with rest := behind.drop closing.length }
    let least := (number? low).getD 0
    let most := match high with
      | none => some least
      | some digits => number? digits
    if most.any (· < least) || (low.isEmpty && high.isNone) then
      refuse "Invalid content of \\\x7b\\\x7d"
    else if 32767 < max least (most.getD 0) then refuse "Regular expression too big"
    else return (least, most)

def startsBounds (writing : Writing) : Reader Bool := do
  if !writing.isExtended || writing.isStrict then return true
  else
    let inside := (← get).rest.drop 1
    let digits := inside.dropWhile Char.isDigit
    let behind := if digits.head? = some ',' then (digits.drop 1).dropWhile Char.isDigit else digits
    return behind.head? = some '\x7d' && behind.length < inside.length

def repeated (writing : Writing) : Nat → Regex → Reader Regex
  | 0, regex => return regex
  | fuel + 1, regex => do
      match ← peek writing with
      | some (.special '*') =>
          pass writing
          repeated writing fuel (.times 0 none regex)
      | some (.special '+') =>
          pass writing
          repeated writing fuel (.times 1 none regex)
      | some (.special '?') =>
          pass writing
          repeated writing fuel (.times 0 (some 1) regex)
      | some (.special '\x7b') => do
          if ← startsBounds writing then
            pass writing
            let (least, most) ← bounds writing
            repeated writing fuel (.times least most regex)
          else return regex
      | _ => return regex

def endsHere (writing : Writing) : Reader Bool := do
  if writing.isExtended then return true
  else
    match ← peek writing with
    | none | some (.special ')') | some (.special '|') => return true
    | _ => return false

def alternatives (writing : Writing) : Nat → Nat → Reader Regex
  | 0, _ => refuse "Regular expression too big"
  | fuel + 1, depth => do
      let first ← sequence fuel depth true []
      match ← peek writing with
      | some (.special '|') =>
          pass writing
          return .either first (← alternatives writing fuel depth)
      | _ => return first
where
  sequence : Nat → Nat → Bool → List Regex → Reader Regex
    | 0, _, _, _ => refuse "Regular expression too big"
    | fuel + 1, depth, atStart, done => do
        let go (regex : Regex) : Reader Regex := do
          let whole ← repeated writing ((← get).rest.length + 1) regex
          sequence fuel depth false (whole :: done)
        match ← peek writing with
        | none | some (.special '|') => return .ofList done.reverse
        | some (.special ')') =>
            if depth = 0 then refuse "Unmatched ) or \\)" else return .ofList done.reverse
        | some found =>
            pass writing
            match found with
            | .literal c => go (.char c)
            | .class c => go (classOf c)
            | .same number =>
                if (← get).groups < number then refuse "Invalid back reference"
                else go (.same number)
            | .bracket => do go (← bracket writing.hasEscapes)
            | .special '.' => go .any
            | .special '^' =>
                if writing.isExtended || atStart then
                  sequence fuel depth true (.anchor .lineStart :: done)
                else go (.char '^')
            | .special '$' => do
                if ← endsHere writing then go (.anchor .lineEnd) else go (.char '$')
            | .special '(' => do
                let number := (← get).groups + 1
                modify fun reading => { reading with groups := number }
                let inside ← alternatives writing fuel (depth + 1)
                match ← peek writing with
                | some (.special ')') =>
                    pass writing
                    go (.group number inside)
                | _ => refuse "Unmatched ( or \\("
            | .special c =>
                if writing.isExtended && writing.isStrict then
                  refuse "Invalid preceding regular expression"
                else if writing.isExtended && c ≠ '\x7b' then sequence fuel depth true done
                else if !writing.isExtended && c ≠ '*' then
                  refuse "Invalid preceding regular expression"
                else go (.char c)

def parse (writing : Writing) (text : Chars) : Except String (Regex × Nat) :=
  match alternatives writing (4 * text.length + 8) 0 ⟨text, 0⟩ with
  | .ok (regex, reading) =>
      if reading.rest.isEmpty then .ok (regex, reading.groups) else .error "Unmatched ) or \\)"
  | .error message => .error message

end BatchLaunch.Text.Regex
