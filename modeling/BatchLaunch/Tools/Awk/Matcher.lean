import BatchLaunch.Text.Regex.Parse

/-!
Regular expressions as scripts write them: extended ones without bounds, in which a backslash also
works between brackets, and every octet is a character of its own.
-/
namespace BatchLaunch.Tools.Awk

open Text (Regex RegexMode)

abbrev Fault := String

def escaped (text : Chars) : Char × Chars :=
  match text with
  | [] => ('\\', [])
  | 'n' :: rest => ('\n', rest)
  | 't' :: rest => ('\t', rest)
  | 'r' :: rest => ('\r', rest)
  | 'f' :: rest => ('\x0c', rest)
  | 'v' :: rest => ('\x0b', rest)
  | 'a' :: rest => ('\x07', rest)
  | 'b' :: rest => ('\x08', rest)
  | c :: rest =>
      let isOctal (c : Char) : Bool := '0' ≤ c && c ≤ '7'
      let digits := ((c :: rest).take 3).takeWhile isOctal
      if digits.isEmpty then (c, rest)
      else
        (Char.ofNat (digits.foldl (fun n d => 8 * n + (d.toNat - '0'.toNat)) 0 % 256),
          (c :: rest).drop digits.length)

def outside (ranges : List (Char × Char)) : List (Char × Char) :=
  ((List.range 256).map Char.ofNat).filterMap fun c =>
    if ranges.any fun (low, high) => low ≤ c && c ≤ high then none else some (c, c)

def anyOctet : Regex := .one false [('\x00', 'ÿ')]

def brokenSet : Fault := "bad class -- [], [^] or ["

def setRanges : Nat → Bool → Chars → Except Fault (List (Char × Char) × Chars)
  | 0, _, _ => .error brokenSet
  | fuel + 1, first, text =>
      match text with
      | [] => .error brokenSet
      | ']' :: rest => if first then member fuel ']' rest else .ok ([], rest)
      | '[' :: ':' :: rest =>
          match Regex.bracketName? ':' rest with
          | some (name, behind) =>
              match Regex.classRanges? (String.ofList name) with
              | some found => (setRanges fuel false behind).map fun (more, rest) =>
                  (found ++ more, rest)
              | none => member fuel '[' (':' :: rest)
          | none => member fuel '[' (':' :: rest)
      | '\\' :: rest => do
          let (c, behind) := escaped rest
          member fuel c behind
      | c :: rest => member fuel c rest
where
  member (fuel : Nat) (low : Char) (rest : Chars) : Except Fault (List (Char × Char) × Chars) :=
    match rest with
    | '-' :: next :: behind =>
        if next = ']' then
          (setRanges fuel false rest).map fun (more, rest) => ((low, low) :: more, rest)
        else
          let (high, behind) := if next = '\\' then escaped behind else (next, behind)
          (setRanges fuel false behind).map fun (more, rest) =>
            (if high < low then more else (low, high) :: more, rest)
    | _ => (setRanges fuel false rest).map fun (more, rest) => ((low, low) :: more, rest)

def repeated (regex : Regex) : Chars → Regex × Chars
  | '*' :: rest => repeated (.times 0 none regex) rest
  | '+' :: rest => repeated (.times 1 none regex) rest
  | '?' :: rest => repeated (.times 0 (some 1) regex) rest
  | rest => (regex, rest)

def alternatives : Nat → Nat → Chars → Except Fault (Regex × Chars)
  | 0, _, _ => .error "resource exhaustion -- regular expression too large"
  | fuel + 1, depth, text => do
      let (first, rest) ← sequence fuel depth [] text
      match rest with
      | '|' :: rest => do
          let (second, rest) ← alternatives fuel depth rest
          pure (.either first second, rest)
      | rest => pure (first, rest)
where
  sequence : Nat → Nat → List Regex → Chars → Except Fault (Regex × Chars)
    | 0, _, _, _ => .error "resource exhaustion -- regular expression too large"
    | fuel + 1, depth, done, text =>
        let go (regex : Regex) (rest : Chars) : Except Fault (Regex × Chars) :=
          let (whole, rest) := repeated regex rest
          sequence fuel depth (whole :: done) rest
        let stop : Except Fault (Regex × Chars) :=
          if done.isEmpty then .error "missing operand" else .ok (.ofList done.reverse, text)
        match text with
        | [] => if 0 < depth then .error "missing ')'" else stop
        | '|' :: _ => stop
        | ')' :: _ => if depth = 0 then .error "missing '('" else stop
        | '(' :: rest =>
            match alternatives fuel (depth + 1) rest with
            | .ok (inside, ')' :: behind) => go inside behind
            | .ok _ => .error "missing ')'"
            | .error fault => .error fault
        | '*' :: _ | '+' :: _ | '?' :: _ => .error "missing operand"
        | '^' :: rest => go (.anchor .textStart) rest
        | '$' :: rest => go (.anchor .textEnd) rest
        | '.' :: rest => go anyOctet rest
        | '[' :: rest => do
            let negated := rest.head? = some '^'
            let inside := if negated then rest.drop 1 else rest
            let (ranges, behind) ← setRanges (inside.length + 2) true inside
            go (.one false (if negated then outside ranges else ranges)) behind
        | '\\' :: rest =>
            let (c, behind) := escaped rest
            go (.char c) behind
        | c :: rest => go (.char c) rest

def regexOf (text : Chars) : Except Fault Regex :=
  if text.isEmpty then .ok .empty
  else (alternatives (4 * text.length + 8) 0 text).map (·.1)

def mode : RegexMode := ⟨false, false⟩

def isFound (regex : Regex) (text : Chars) : Bool := Regex.isMatched mode regex text

end BatchLaunch.Tools.Awk
