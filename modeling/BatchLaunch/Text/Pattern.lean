import BatchLaunch.Text.OctetChars

/-!
Patterns, which texts are matched against: a star is any text, a question mark any character, and
brackets hold a choice of characters. A quoted character is only itself.
-/
namespace BatchLaunch.Text

abbrev Marked := Char × Bool

namespace Pattern

inductive Choice where
  | range (low high : Char)
  | named (name : String)
  deriving DecidableEq, Repr

inductive Element where
  | one
  | any
  | char (c : Char)
  | choice (negated : Bool) (choices : List Choice)
  deriving DecidableEq, Repr

def inClass (name : String) (c : Char) : Bool :=
  match name with
  | "alpha" => c.isAlpha
  | "digit" => c.isDigit
  | "alnum" => c.isAlphanum
  | "lower" => c.isLower
  | "upper" => c.isUpper
  | "space" => "\t\n\x0b\x0c\r ".toList.contains c
  | "blank" => c = ' ' || c = '\t'
  | "cntrl" => c.toNat < 32 || c.toNat = 127
  | "graph" => 33 ≤ c.toNat && c.toNat ≤ 126
  | "print" => 32 ≤ c.toNat && c.toNat ≤ 126
  | "punct" => 33 ≤ c.toNat && c.toNat ≤ 126 && !c.isAlphanum
  | "xdigit" => c.isDigit || ('a' ≤ c && c ≤ 'f') || ('A' ≤ c && c ≤ 'F')
  | _ => false

def Choice.admits (c : Char) : Choice → Bool
  | range low high => low.toNat ≤ c.toNat && c.toNat ≤ high.toNat
  | named name => inClass name c

def classNames : List String :=
  ["alnum", "alpha", "blank", "cntrl", "digit", "graph", "lower", "print", "punct", "space",
    "upper", "xdigit"]

def class? (text : List Marked) : Option (String × List Marked) :=
  classNames.findSome? fun name =>
    let spelling := (":" ++ name ++ ":]").toList
    if spelling = (text.take spelling.length).map (·.1) then
      some (name, text.drop spelling.length)
    else none

def choices : Nat → Bool → List Marked → Option (List Choice × List Marked)
  | 0, _, _ => none
  | fuel + 1, first, text =>
      match text with
      | [] => none
      | (c, marked) :: rest =>
          if c = ']' && !marked && !first then some ([], rest)
          else
            match if c = '[' && !marked then class? rest else none with
            | some (name, rest) =>
                (choices fuel false rest).map fun (more, rest) => (.named name :: more, rest)
            | none =>
                let single := (choices fuel false rest).map fun (more, rest) =>
                  (.range c c :: more, rest)
                match rest with
                | ('-', false) :: (high, highMarked) :: after =>
                    if high = ']' && !highMarked then single
                    else (choices fuel false after).map fun (more, rest) =>
                      (.range c high :: more, rest)
                | _ => single

/-- A backslash that is not quoted, which only an expansion can give, quotes what follows it. -/
def unescaped : List Marked → List Marked
  | ('\\', false) :: (c, _) :: rest => (c, true) :: unescaped rest
  | first :: rest => first :: unescaped rest
  | [] => []

def compile : Nat → List Marked → List Element
  | 0, _ => []
  | fuel + 1, text =>
      match text with
      | [] => []
      | ('*', false) :: rest => .any :: compile fuel rest
      | ('?', false) :: rest => .one :: compile fuel rest
      | ('[', false) :: rest =>
          let (negated, inside) := match rest with
            | ('!', false) :: inside => (true, inside)
            | inside => (false, inside)
          match choices (inside.length + 1) true inside with
          | some (found, after) => .choice negated found :: compile fuel after
          | none => .char '[' :: compile fuel rest
      | (c, _) :: rest => .char c :: compile fuel rest

def ofMarked (text : List Marked) : List Element := compile (text.length + 1) (unescaped text)

def isLiteral (pattern : List Element) : Bool :=
  pattern.all fun element => element matches .char _

def matchesAll : List Element → Chars → Bool
  | [], text => text.isEmpty
  | .any :: rest, text => (List.range (text.length + 1)).any fun n => matchesAll rest (text.drop n)
  | .one :: rest, _ :: text => matchesAll rest text
  | .char c :: rest, found :: text => c = found && matchesAll rest text
  | .choice negated choices :: rest, found :: text =>
      (choices.any (Choice.admits found)) ≠ negated && matchesAll rest text
  | _ :: _, [] => false

def dropStart (pattern : List Element) (longest : Bool) (text : Chars) : Chars :=
  let lengths := List.range (text.length + 1)
  match (if longest then lengths.reverse else lengths).find? fun n =>
      matchesAll pattern (text.take n) with
  | some n => text.drop n
  | none => text

def dropEnd (pattern : List Element) (longest : Bool) (text : Chars) : Chars :=
  let lengths := List.range (text.length + 1)
  match (if longest then lengths else lengths.reverse).find? fun n =>
      matchesAll pattern (text.drop n) with
  | some n => text.take n
  | none => text

end Pattern
end BatchLaunch.Text
