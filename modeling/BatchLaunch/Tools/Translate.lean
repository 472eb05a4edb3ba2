import BatchLaunch.Tools.Echo
import BatchLaunch.Tools.Flow

/-!
`tr`: characters of one set are turned into those of another, taken out, or made single.
-/
namespace BatchLaunch.Tools

open Host (Action)

def classChars? (name : String) : Option Chars :=
  let within (admits : Char → Bool) : Option Chars :=
    some (((List.range 128).map Char.ofNat).filter admits)
  let isGraphic (c : Char) : Bool := 32 < c.toNat && c.toNat < 127
  match name with
  | "alpha" => within Char.isAlpha
  | "digit" => within Char.isDigit
  | "alnum" => within Char.isAlphanum
  | "lower" => within Char.isLower
  | "upper" => within Char.isUpper
  | "space" => within isSpaceChar
  | "blank" => within isBlankChar
  | "punct" => within fun c => isGraphic c && !c.isAlphanum
  | "print" => within fun c => c = ' ' || isGraphic c
  | "graph" => within isGraphic
  | "cntrl" => within isControl
  | "xdigit" => within fun c => isHexDigit c
  | _ => none

inductive SetPart where
  | chars (found : Chars)
  | named (name : String) (found : Chars)
  | filling (c : Char)

def SetPart.texts : SetPart → Chars
  | chars found | named _ found => found
  | filling _ => []

def unescapedSet : Nat → Chars → List (Char × Bool)
  | 0, _ => []
  | _, [] => []
  | _, ['\\'] => [('\\', false)]
  | fuel + 1, '\\' :: c :: rest =>
      if isOctal c then
        let digits := ((c :: rest).take 3).takeWhile isOctal
        let digits := if octalValue digits < 256 then digits else digits.take 2
        (Char.ofNat (octalValue digits), true) ::
          unescapedSet fuel ((c :: rest).drop digits.length)
      else
        let found := if c = 'e' then c else (escapeLetter? c).getD c
        (found, true) :: unescapedSet fuel rest
  | fuel + 1, c :: rest => (c, false) :: unescapedSet fuel rest

def shownChar (c : Char) : Chars :=
  if isControl c || 127 < c.toNat then escaped c else if c = '\\' then "\\\\".toList else [c]

def bracketed? (mark : Char) (items : List (Char × Bool)) :
    Option (Chars × List (Char × Bool)) :=
  let rec go : List (Char × Bool) → Chars → Option (Chars × List (Char × Bool))
    | (c, escaped) :: (']', false) :: rest, found =>
        if c = mark && !escaped then some (found.reverse, rest)
        else go ((']', false) :: rest) (c :: found)
    | (c, _) :: rest, found => go rest (c :: found)
    | [], _ => none
  go items []

def repeated? (items : List (Char × Bool)) : Option (SetPart × List (Char × Bool)) :=
  match items with
  | (c, _) :: ('*', false) :: rest =>
      let digits := (rest.takeWhile fun item => item.1 ≠ ']').map (·.1)
      match rest.drop digits.length with
      | (']', false) :: rest =>
          if digits.isEmpty then some (.filling c, rest)
          else
            let value := if digits.head? = some '0' then
                (if digits.all isOctal then some (octalValue digits) else none)
              else natural? digits
            value.map fun n =>
              (if n = 0 then .filling c else .chars (List.replicate n c), rest)
      | _ => none
  | _ => none

def setParts : Nat → List (Char × Bool) → Except Chars (List SetPart)
  | 0, _ => .ok []
  | fuel + 1, items =>
      let plain (c : Char) (rest : List (Char × Bool)) : Except Chars (List SetPart) :=
        (setParts fuel rest).map (.chars [c] :: ·)
      let rangeOr (items : List (Char × Bool)) : Except Chars (List SetPart) :=
        match items with
        | (low, _) :: ('-', false) :: (high, _) :: rest =>
            if high.toNat < low.toNat then
              .error ("range-endpoints of '".toList ++ shownChar low ++ '-' :: shownChar high ++
                "' are in reverse collating sequence order".toList)
            else
              (setParts fuel rest).map (.chars ((List.range (high.toNat + 1 - low.toNat)).map
                fun n => Char.ofNat (low.toNat + n)) :: ·)
        | (c, _) :: rest => plain c rest
        | [] => .ok []
      let repeatedOr (items inside : List (Char × Bool)) : Except Chars (List SetPart) :=
        match repeated? inside with
        | some (part, rest) => (setParts fuel rest).map (part :: ·)
        | none => rangeOr items
      match items with
      | ('[', false) :: (':', false) :: inside =>
          match bracketed? ':' inside with
          | none => repeatedOr items ((':', false) :: inside)
          | some ([], _) => .error "missing character class name '[::]'".toList
          | some (name, rest) =>
              match classChars? (String.ofList name) with
              | some found =>
                  (setParts fuel rest).map (.named (String.ofList name) found :: ·)
              | none => .error ("invalid character class ".toList ++ quoted name)
      | ('[', false) :: ('=', false) :: inside =>
          match bracketed? '=' inside with
          | none => repeatedOr items (('=', false) :: inside)
          | some ([], _) => .error "missing equivalence class character '[==]'".toList
          | some ([c], rest) => plain c rest
          | some (name, _) => .error (name ++
              ": equivalence class operand must be a single character".toList)
      | ('[', false) :: inside =>
          if inside.length < 2 then rangeOr items else repeatedOr items inside
      | items => rangeOr items

def setOf (text : Chars) : Except Chars (List SetPart) :=
  setParts (text.length + 1) (unescapedSet (text.length + 1) text)

def setChars (parts : List SetPart) (wanted : Nat) : Chars :=
  let known := (parts.map fun part => part.texts.length).foldl (· + ·) 0
  parts.flatMap fun part =>
    match part with
    | .filling c => List.replicate (wanted - known) c
    | part => part.texts

/-- What a character of the first set becomes: its partner in the second, or the last there. The
last place in the first set counts. -/
def partner (source target : Chars) (c : Char) : Char :=
  match source.reverse.findIdx? (· = c) with
  | none => c
  | some place => (target[source.length - 1 - place]?).getD (target.getLast?.getD c)

/-- Runs of one character of a set become a single one, also with the last one before the text. The
last character is answered along with the text. -/
def squeeze (set : Chars) (last : Option Char) (text : Chars) : Option Char × Chars :=
  let (last, done) := text.foldl (fun (last, done) c =>
    (some c, if last = some c && set.contains c then done else c :: done)) (last, [])
  (last, done.reverse)

def complementOf (set : Chars) : Chars :=
  ((List.range 256).map Char.ofNat).filter fun c => !set.contains c

def translateFault? (first second : List SetPart) (source : Chars) (truncates : Bool) :
    Option String :=
  let isFilling (part : SetPart) : Bool := part matches .filling _
  if first.any isFilling then some "the [c*] repeat construct may not appear in string1"
  else if 1 < second.countP isFilling then
    some "only one [c*] repeat construct may appear in string2"
  else if second.any fun part =>
      match part with
      | .named name _ => name ≠ "upper" && name ≠ "lower"
      | _ => false then
    some ("when translating, the only character classes that may appear in\n" ++
      "string2 are 'upper' and 'lower'")
  else
    let target := setChars second source.length
    if truncates then none
    else if target.isEmpty && !source.isEmpty then
      some "when not truncating set1, string2 must be non-empty"
    else if target.length < source.length &&
        second.getLast?.any fun part => part matches .named _ _ then
      some ("when translating with string1 longer than string2,\n" ++
        "the latter string must not end with a character class")
    else none

def tr : Tool := withOptions
  { letters := "cCdst", mixed := false
    words := [("complement", "c"), ("delete", "d"), ("squeeze-repeats", "s"),
      ("truncate-set1", "t")] } 1
  fun name asked => do
    let deletes := asked.has "d"
    let squeezes := asked.has "s"
    let count := asked.operands.length
    let least := if deletes = squeezes then 2 else 1
    let most := if deletes && !squeezes then 1 else 2
    needOperand name asked 1
    if count < least then
      giveUpUse name ("missing operand after ".toList ++
        quoted (asked.operands.getLastD []) ++ (if squeezes then
          "\nTwo strings must be given when both deleting and squeezing repeats."
        else "\nTwo strings must be given when translating.").toList) 1
    if most < count then
      giveUpUse name ("extra operand ".toList ++ quoted ((asked.operands[most]?).getD []) ++
        (if count = 2 then
          "\nOnly one string may be given when deleting without squeezing repeats."
        else "").toList) 1
    let set (text : Chars) : Action (List SetPart) :=
      match setOf text with
      | .ok parts => pure parts
      | .error fault => giveUp name fault 1
    let first ← set (asked.operands.headD [])
    let second ← (asked.operands[1]?).mapM set
    let base := setChars first 0
    let source := if asked.has "c" || asked.has "C" then complementOf base else base
    let translates := count = 2 && !deletes
    if translates then
      for fault in (translateFault? first (second.getD []) source (asked.has "t")).toList do
        giveUp name fault.toList 1
    let target := setChars (second.getD []) source.length
    let source := if asked.has "t" && translates then source.take target.length else source
    let table := (Array.range 256).map fun n => partner source target (Char.ofNat n)
    let gone := (Array.range 256).map fun n => source.contains (Char.ofNat n)
    let change (text : Chars) : Chars :=
      if translates then text.map fun c => (table[c.toNat]?).getD c
      else if deletes then text.filter fun c => (gone[c.toNat]?) ≠ some true
      else text
    let step (last : Option Char) (text : Chars) : Option Char × Chars :=
      let changed := change text
      if squeezes then squeeze (if count = 2 then target else source) last changed
      else (none, changed)
    let (fault, flow) ← (Flow.start none).through 0 none step blockLimit []
    let _ ← flow.flush
    match fault with
    | some errno => giveUp name ("read error: ".toList ++ errno.text.toList) 1
    | none => pure 0

end BatchLaunch.Tools
