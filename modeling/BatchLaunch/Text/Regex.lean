import BatchLaunch.Text.OctetChars

/-!
Regular expressions: which texts they match from a place on. Of several matches the longest one
counts, and of several equally long ones the one in which earlier parts take more.
-/
namespace BatchLaunch.Text

inductive Anchor where
  | lineStart
  | lineEnd
  | textStart
  | textEnd
  | wordStart
  | wordEnd
  | wordEdge
  | noWordEdge
  | noWordBefore
  | noWordBehind
  deriving DecidableEq, Repr

inductive Regex where
  | empty
  | any
  | one (negated : Bool) (ranges : List (Char × Char))
  | anchor (place : Anchor)
  | group (number : Nat) (inside : Regex)
  | same (number : Nat)
  | seq (first second : Regex)
  | either (first second : Regex)
  | times (least : Nat) (most : Option Nat) (inside : Regex)
  deriving Repr

structure RegexMode where
  foldsCase : Bool
  byLines : Bool
  deriving DecidableEq, Repr

structure Spot where
  rest : Chars
  before : Option Char
  offset : Nat
  groups : List (Nat × Nat × Nat)

structure Found where
  start : Nat
  stop : Nat
  groups : List (Nat × Nat × Nat)
  deriving DecidableEq, Repr

namespace Regex

def size : Regex → Nat
  | group _ inside => inside.size + 1
  | seq first second | either first second => first.size + second.size + 1
  | times least _ inside => inside.size + least + 1
  | _ => 1

def char (c : Char) : Regex := one false [(c, c)]

def ofList : List Regex → Regex
  | [] => empty
  | [single] => single
  | first :: rest => seq first (ofList rest)

def charLength (text : Chars) : Nat :=
  match text with
  | [] => 0
  | c :: rest =>
      let more := if 0xc2 ≤ c.toNat && c.toNat < 0xe0 then 1
        else if 0xe0 ≤ c.toNat && c.toNat < 0xf0 then 2
        else if 0xf0 ≤ c.toNat && c.toNat < 0xf5 then 3 else 0
      let behind := rest.take more
      if behind.length = more && behind.all fun c => 0x80 ≤ c.toNat && c.toNat < 0xc0 then more + 1
      else 1

def isWord (c : Char) : Bool := c.isAlphanum || c = '_'

def within (foldsCase : Bool) (ranges : List (Char × Char)) (c : Char) : Bool :=
  let inside (c : Char) : Bool := ranges.any fun (low, high) => low ≤ c && c ≤ high
  inside c || (foldsCase && (inside c.toLower || inside c.toUpper))

def holds (mode : RegexMode) (place : Anchor) (spot : Spot) : Bool :=
  let wordBefore := spot.before.any isWord
  let wordBehind := spot.rest.head?.any isWord
  match place with
  | .textStart => spot.before.isNone
  | .textEnd => spot.rest.isEmpty
  | .lineStart => spot.before.isNone || (mode.byLines && spot.before = some '\n')
  | .lineEnd => spot.rest.isEmpty || (mode.byLines && spot.rest.head? = some '\n')
  | .wordStart => !wordBefore && wordBehind
  | .wordEnd => wordBefore && !wordBehind
  | .wordEdge => wordBefore ≠ wordBehind
  | .noWordEdge => wordBefore = wordBehind
  | .noWordBefore => !wordBefore
  | .noWordBehind => !wordBehind

def advance (spot : Spot) (count : Nat) : Spot :=
  if count = 0 then spot
  else { spot with
    rest := spot.rest.drop count, before := (spot.rest.take count).getLast?
    offset := spot.offset + count }

def longer (first : Option Spot) (second : Unit → Option Spot) : Option Spot :=
  match first with
  | none => second ()
  | some spot =>
      if spot.rest.isEmpty then some spot
      else
        match second () with
        | some other => if spot.offset < other.offset then some other else some spot
        | none => some spot

def run (mode : RegexMode) (text : Chars) :
    Nat → Regex → Spot → (Spot → Option Spot) → Option Spot
  | 0, _, _, _ => none
  | fuel + 1, regex, spot, next =>
      match regex with
      | empty => next spot
      | any => if spot.rest.isEmpty then none else next (advance spot (charLength spot.rest))
      | one negated ranges =>
          match spot.rest with
          | [] => none
          | c :: _ =>
              if within mode.foldsCase ranges c = negated then none
              else next (advance spot (if negated then charLength spot.rest else 1))
      | anchor place => if holds mode place spot then next spot else none
      | group number inside =>
          run mode text fuel inside spot fun behind =>
            next { behind with
              groups := (number, spot.offset, behind.offset) ::
                behind.groups.filter (·.1 ≠ number) }
      | same number =>
          match spot.groups.lookup number with
          | none => none
          | some (start, stop) =>
              let wanted := (text.drop start).take (stop - start)
              let found := spot.rest.take wanted.length
              let fold (text : Chars) : Chars :=
                if mode.foldsCase then text.map Char.toLower else text
              if fold found = fold wanted then next (advance spot wanted.length) else none
      | seq first second =>
          run mode text fuel first spot fun behind => run mode text fuel second behind next
      | either first second =>
          longer (run mode text fuel first spot next) fun _ => run mode text fuel second spot next
      | times least most inside =>
          let stop : Unit → Option Spot := fun _ => if least = 0 then next spot else none
          if most = some 0 then stop ()
          else
            longer (run mode text fuel inside spot fun behind =>
              if behind.offset = spot.offset && least = 0 then none
              else run mode text fuel (times (least - 1) (most.map (· - 1)) inside) behind next) stop

def matchAt? (mode : RegexMode) (regex : Regex) (text : Chars) (spot : Spot) : Option Found :=
  (run mode text ((text.length + 2) * (regex.size + 2)) regex spot some).map fun behind =>
    ⟨spot.offset, behind.offset, behind.groups⟩

def search (mode : RegexMode) (regex : Regex) (text : Chars) : Nat → Spot → Option Found
  | 0, _ => none
  | fuel + 1, spot =>
      match matchAt? mode regex text spot with
      | some found => some found
      | none =>
          if spot.rest.isEmpty then none
          else search mode regex text fuel (advance spot (charLength spot.rest))

def find? (mode : RegexMode) (regex : Regex) (text : Chars) (start : Nat) : Option Found :=
  search mode regex text (text.length + 1) (advance ⟨text, none, 0, []⟩ start)

def isMatched (mode : RegexMode) (regex : Regex) (text : Chars) : Bool :=
  (find? mode regex text 0).isSome

end Regex

def Found.group (found : Found) (text : Chars) (number : Nat) : Chars :=
  let bounds := if number = 0 then some (found.start, found.stop) else found.groups.lookup number
  bounds.elim [] fun (start, stop) => (text.drop start).take (stop - start)

end BatchLaunch.Text
