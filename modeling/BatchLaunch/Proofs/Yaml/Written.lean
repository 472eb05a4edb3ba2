import BatchLaunch.Yaml.Document

/-!
Documents as one would write them on one line: words that stand bare, quoted texts, and sequences
and mappings of these in brackets. In a quoted text only ASCII letters and digits stand for
themselves.
-/
namespace BatchLaunch.Yaml

def isBare (c : Char) : Bool := c.isAlphanum || c = '_'

/-- A word that may stand bare, and is short enough for a key. -/
structure Word where
  text : String
  nonempty : text.toList ≠ []
  bare : ∀ c ∈ text.toList, isBare c = true
  short : text.toList.length ≤ 1024

namespace Written

/-- The last so many digits of a number in base sixteen. -/
def hexDigits : Nat → Nat → List Char
  | 0, _ => []
  | count + 1, n => hexDigits count (n / 16) ++ [Nat.digitChar (n % 16)]

def escape (c : Char) : List Char :=
  if c.isAlphanum then [c] else '\\' :: 'U' :: hexDigits 8 c.toNat

inductive Bracket where
  | square
  | brace
  deriving DecidableEq, Repr

namespace Bracket

def opening : Bracket → Char
  | square => '['
  | brace => '\x7b'

def closing : Bracket → Char
  | square => ']'
  | brace => '\x7d'

def startToken : Bracket → Token
  | square => .flowSequenceStart
  | brace => .flowMappingStart

def endToken : Bracket → Token
  | square => .flowSequenceEnd
  | brace => .flowMappingEnd

def startEvent : Bracket → Event
  | square => .sequenceStart .none
  | brace => .mappingStart .none

def endEvent : Bracket → Event
  | square => .sequenceEnd
  | brace => .mappingEnd

def startItem : Bracket → Item
  | square => .sequenceStart none
  | brace => .mappingStart none

def endItem : Bracket → Item
  | square => .sequenceEnd
  | brace => .mappingEnd

end Bracket

/-- What a document consists of. Behind a comma and behind the colon of a key there is a space. -/
inductive Lexeme where
  | opens (bracket : Bracket)
  | closes (bracket : Bracket)
  | comma
  | key (name : Word)
  | word (text : Word)
  | quoted (text : String)

namespace Lexeme

def chars : Lexeme → List Char
  | opens bracket => [bracket.opening]
  | closes bracket => [bracket.closing]
  | comma => [',', ' ']
  | key name => name.text.toList ++ [':', ' ']
  | word text => text.text.toList
  | quoted text => '"' :: text.toList.flatMap escape ++ ['"']

def tokens : Lexeme → List Token
  | opens bracket => [bracket.startToken]
  | closes bracket => [bracket.endToken]
  | comma => [.flowEntry]
  | key name => [.key, .scalar name.text .plain, .value]
  | word text => [.scalar text.text .plain]
  | quoted text => [.scalar text .quoted]

def events : Lexeme → List Event
  | opens bracket => [bracket.startEvent]
  | closes bracket => [bracket.endEvent]
  | comma => []
  | key text | word text => [.scalar .none text.text .plain]
  | quoted text => [.scalar .none text .quoted]

def items : Lexeme → List Item
  | opens bracket => [bracket.startItem]
  | closes bracket => [bracket.endItem]
  | comma => []
  | key text | word text => [.scalar none text.text .plain]
  | quoted text => [.scalar none text .quoted]

def endsWord : Lexeme → Bool
  | closes _ | comma => true
  | _ => false

end Lexeme

/-- Lexemes that can be told apart when they are read, up to the last bracket. `depth` is how many
brackets are open, and `fresh` tells that an entry starts, where a key may stand. -/
inductive Sound : Nat → Bool → List Lexeme → Prop
  | done {fresh : Bool} : Sound 0 fresh []
  | opens {depth : Nat} {fresh : Bool} {bracket : Bracket} {rest : List Lexeme}
      (inside : Sound (depth + 1) true rest) : Sound depth fresh (.opens bracket :: rest)
  | closes {depth : Nat} {fresh : Bool} {bracket : Bracket} {rest : List Lexeme}
      (outside : Sound depth false rest) : Sound (depth + 1) fresh (.closes bracket :: rest)
  | comma {depth : Nat} {fresh : Bool} {rest : List Lexeme} (later : Sound (depth + 1) true rest) :
      Sound (depth + 1) fresh (.comma :: rest)
  | key {depth : Nat} {name : Word} {rest : List Lexeme} (later : Sound (depth + 1) false rest) :
      Sound (depth + 1) true (.key name :: rest)
  | word {depth : Nat} {fresh : Bool} {text : Word} {rest : List Lexeme}
      (ends : rest.head?.any Lexeme.endsWord = true) (later : Sound (depth + 1) false rest) :
      Sound (depth + 1) fresh (.word text :: rest)
  | quoted {depth : Nat} {fresh : Bool} {text : String} {rest : List Lexeme}
      (later : Sound (depth + 1) false rest) : Sound (depth + 1) fresh (.quoted text :: rest)

end Written

/-- A node written on one line. -/
inductive Flow where
  | word (text : Word)
  | quoted (text : String)
  | sequence (entries : List Flow)
  | mapping (pairs : List (Word × Flow))

namespace Flow

open Written

/-- The comma before every entry but the first. -/
def comma : Bool → List Lexeme
  | true => []
  | false => [.comma]

mutual

def lexemes : Flow → List Lexeme
  | word text => [.word text]
  | quoted text => [.quoted text]
  | sequence entries => .opens .square :: entryLexemes true entries ++ [.closes .square]
  | mapping pairs => .opens .brace :: pairLexemes true pairs ++ [.closes .brace]

def entryLexemes (first : Bool) : List Flow → List Lexeme
  | [] => []
  | entry :: rest => comma first ++ entry.lexemes ++ entryLexemes false rest

def pairLexemes (first : Bool) : List (Word × Flow) → List Lexeme
  | [] => []
  | (name, value) :: rest => comma first ++ .key name :: value.lexemes ++ pairLexemes false rest

end

def text (flow : Flow) : String := String.ofList (flow.lexemes.flatMap Lexeme.chars)

def items (flow : Flow) : List Item := flow.lexemes.flatMap Lexeme.items

/-! The items of what is written. -/

theorem items_entries (first : Bool) (entries : List Flow) :
    (entryLexemes first entries).flatMap Lexeme.items = entries.flatMap items := by
  induction entries generalizing first with
  | nil => rfl
  | cons entry entries ih =>
      have comma : (comma first).flatMap Lexeme.items = [] := by cases first <;> rfl
      rw [entryLexemes, List.flatMap_append, List.flatMap_append, comma, ih, List.flatMap_cons]
      rfl

theorem items_sequence (entries : List Flow) :
    (sequence entries).items =
      .sequenceStart none :: (entries.flatMap items ++ [.sequenceEnd]) := by
  rw [items, lexemes, List.flatMap_append, List.flatMap_cons, items_entries]
  rfl

theorem items_ne_nil (flow : Flow) : flow.items ≠ [] := by
  cases flow <;> simp [items, lexemes, Lexeme.items]

def pairItems (pair : Word × Flow) : List Item := .scalar none pair.1.text .plain :: pair.2.items

theorem pairItems_ne_nil (pair : Word × Flow) : pairItems pair ≠ [] := List.cons_ne_nil _ _

theorem items_pairs (first : Bool) (pairs : List (Word × Flow)) :
    (pairLexemes first pairs).flatMap Lexeme.items = pairs.flatMap pairItems := by
  induction pairs generalizing first with
  | nil => rfl
  | cons pair pairs ih =>
      have comma : (comma first).flatMap Lexeme.items = [] := by cases first <;> rfl
      rw [pairLexemes, List.flatMap_append, List.flatMap_append, comma, ih, List.flatMap_cons,
        List.flatMap_cons]
      rfl

theorem items_mapping (pairs : List (Word × Flow)) :
    (mapping pairs).items =
      .mappingStart none :: (pairs.flatMap pairItems ++ [.mappingEnd]) := by
  rw [items, lexemes, List.flatMap_append, List.flatMap_cons, items_pairs]
  rfl

/-! What is written can be told apart. -/

section Sound

variable {depth : Nat} {first : Bool} {rest : List Lexeme}

theorem entries_end (entries : List Flow) (ends : rest.head?.any Lexeme.endsWord = true) :
    (entryLexemes false entries ++ rest).head?.any Lexeme.endsWord = true := by
  cases entries with
  | nil => exact ends
  | cons entry others => rfl

theorem pairs_end (pairs : List (Word × Flow)) (ends : rest.head?.any Lexeme.endsWord = true) :
    (pairLexemes false pairs ++ rest).head?.any Lexeme.endsWord = true := by
  cases pairs with
  | nil => exact ends
  | cons pair others => rfl

theorem sound_comma (later : Sound (depth + 1) true rest) :
    Sound (depth + 1) first (comma first ++ rest) := by
  cases first with
  | true => exact later
  | false => exact .comma later

mutual

theorem sound_append : ∀ (flow : Flow) {depth : Nat} {fresh : Bool} {rest : List Lexeme},
    rest.head?.any Lexeme.endsWord = true → Sound (depth + 1) false rest →
    Sound (depth + 1) fresh (flow.lexemes ++ rest)
  | word _, _, _, _, ends, later => .word ends later
  | quoted _, _, _, _, _, later => .quoted later
  | sequence entries, _, _, _, _, later => by
      rw [lexemes, List.append_assoc, List.cons_append]
      exact .opens (entries_sound true entries rfl fun _ => .closes later)
  | mapping pairs, _, _, _, _, later => by
      rw [lexemes, List.append_assoc, List.cons_append]
      exact .opens (pairs_sound true pairs rfl fun _ => .closes later)

theorem entries_sound : ∀ (first : Bool) (entries : List Flow) {depth : Nat} {rest : List Lexeme},
    rest.head?.any Lexeme.endsWord = true → (∀ fresh, Sound (depth + 1) fresh rest) →
    Sound (depth + 1) first (entryLexemes first entries ++ rest)
  | first, [], _, _, _, later => later first
  | first, entry :: entries, _, _, ends, later => by
      have others := entries_sound false entries ends later
      rw [entryLexemes, List.append_assoc, List.append_assoc]
      exact sound_comma (entry.sound_append (entries_end entries ends) others)

theorem pairs_sound : ∀ (first : Bool) (pairs : List (Word × Flow)) {depth : Nat}
    {rest : List Lexeme}, rest.head?.any Lexeme.endsWord = true →
    (∀ fresh, Sound (depth + 1) fresh rest) →
    Sound (depth + 1) first (pairLexemes first pairs ++ rest)
  | first, [], _, _, _, later => later first
  | first, (name, value) :: pairs, _, _, ends, later => by
      have others := pairs_sound false pairs ends later
      rw [pairLexemes, List.append_assoc, List.append_assoc]
      exact sound_comma (.key (value.sound_append (pairs_end pairs ends) others))

end

theorem sound_mapping (pairs : List (Word × Flow)) : Sound 0 true (mapping pairs).lexemes := by
  rw [lexemes]
  exact .opens (pairs_sound true pairs rfl fun _ => .closes .done)

end Sound

end Flow
end BatchLaunch.Yaml
