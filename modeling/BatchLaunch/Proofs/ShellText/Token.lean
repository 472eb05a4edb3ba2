import BatchLaunch.Invocation

/-!
POSIX shell text cut into tokens, one character after the other: words, operators, and numbers
before a redirection. A word keeps the quotes it is written with, so that what they protect is
still known when they are removed. Expansions and here-documents need more than rules for tokens,
and text that holds one is refused, as is a quote without an end.
-/
namespace BatchLaunch.ShellText

/-- What a character is in a word for. -/
inductive Role where
  | bare
  | quoted
  | quoting
  deriving DecidableEq, Repr

abbrev Word := List (Char × Role)

namespace Word

def spelling (marks : Word) : List Char := marks.map Prod.fst

/-- The word after its quotes are removed. -/
def value (marks : Word) : List Char :=
  (marks.filter fun mark => mark.2 ≠ .quoting).map Prod.fst

@[simp] theorem value_nil : value [] = [] := rfl

@[simp] theorem value_bare (c : Char) (marks : Word) :
    value ((c, .bare) :: marks) = c :: value marks := rfl

@[simp] theorem value_quoted (c : Char) (marks : Word) :
    value ((c, .quoted) :: marks) = c :: value marks := rfl

@[simp] theorem value_quoting (c : Char) (marks : Word) :
    value ((c, .quoting) :: marks) = value marks := rfl

@[simp] theorem value_append (front back : Word) :
    value (front ++ back) = value front ++ value back := by
  simp [value]

end Word

inductive Token where
  | word (marks : Word)
  | operator (text : List Char)
  | number (digits : List Char)
  deriving DecidableEq, Repr

def operators : List (List Char) :=
  [['&'], ['&', '&'], ['('], [')'], [';'], [';', ';'], ['\n'], ['|'], ['|', '|'], ['<'], ['>'],
    ['>', '|'], ['<', '<'], ['>', '>'], ['<', '&'], ['>', '&'], ['<', '<', '-'], ['<', '>']]

def isBlank (c : Char) : Bool := c = ' ' || c = '\t'

/-- Starts an expansion, in double quotes as well. -/
def expands (c : Char) : Bool := c = '$' || c = '\x60'

/-- Where in the text the reading is. A word without characters is none yet. -/
inductive Place where
  | word (marks : Word)
  | operator (text : List Char)
  | single (marks : Word)
  | double (marks : Word)
  | doubleEscape (marks : Word)
  | escape (before : Place)
  | comment
  deriving DecidableEq, Repr

/-- The token that a word is when it ends, which depends on what it ends at. -/
def tokensOf (marks : Word) (next : Option Char) : List Token :=
  if marks = [] then []
  else if (marks.all fun mark => mark.2 = .bare && mark.1.isDigit) &&
      (next = some '<' || next = some '>') then [.number marks.spelling]
  else [.word marks]

/-- The tokens that end before a character that is protected by a backslash, and the word that it
goes on with. -/
def Place.pending : Place → List Token × Word
  | .word marks => ([], marks)
  | .operator text => ([.operator text], [])
  | _ => ([], [])

/-- Reads a character outside quotes, after the start of a word or where one may start. -/
def inWord (marks : Word) (c : Char) : Option (List Token × Place) :=
  if c = '\\' then some ([], .escape (.word marks))
  else if c = '\x27' then some ([], .single (marks ++ [(c, .quoting)]))
  else if c = '\x22' then some ([], .double (marks ++ [(c, .quoting)]))
  else if expands c then none
  else if isBlank c then some (tokensOf marks (some c), .word [])
  else if operators.contains [c] then some (tokensOf marks (some c), .operator [c])
  else if c = '#' ∧ marks = [] then some ([], .comment)
  else some ([], .word (marks ++ [(c, .bare)]))

def step : Place → Char → Option (List Token × Place)
  | .word marks, c => inWord marks c
  | .operator text, c =>
      if text ++ [c] = ['<', '<'] then none
      else if operators.contains (text ++ [c]) then some ([], .operator (text ++ [c]))
      else if c = '\\' then some ([], .escape (.operator text))
      else (inWord [] c).map fun next => (.operator text :: next.1, next.2)
  | .single marks, c =>
      if c = '\x27' then some ([], .word (marks ++ [(c, .quoting)]))
      else some ([], .single (marks ++ [(c, .quoted)]))
  | .double marks, c =>
      if c = '\x22' then some ([], .word (marks ++ [(c, .quoting)]))
      else if c = '\\' then some ([], .doubleEscape marks)
      else if expands c then none
      else some ([], .double (marks ++ [(c, .quoted)]))
  | .doubleEscape marks, c =>
      if c = '\n' then some ([], .double marks)
      else if expands c ∨ c = '\x22' ∨ c = '\\' then
        some ([], .double (marks ++ [('\\', .quoting), (c, .quoted)]))
      else some ([], .double (marks ++ [('\\', .quoted), (c, .quoted)]))
  | .escape before, c =>
      if c = '\n' then some ([], before)
      else some (before.pending.1, .word (before.pending.2 ++ [('\\', .quoting), (c, .quoted)]))
  | .comment, c => if c = '\n' then some ([], .operator [c]) else some ([], .comment)

def Place.finish : Place → Option (List Token)
  | .word marks => some (tokensOf marks none)
  | .operator text => some [.operator text]
  | .comment => some []
  | _ => none

def scan : Place → List Char → Option (List Token)
  | place, [] => place.finish
  | place, c :: rest =>
      (step place c).bind fun taken => (scan taken.2 rest).map (taken.1 ++ ·)

def tokens (text : String) : Option (List Token) := scan (.word []) text.toList

/-- A token as the shell takes it once it is cut: what a word stands for, and no longer how it is
written. -/
inductive Lexeme where
  | word (text : String)
  | operator (text : String)
  | number (digits : String)
  deriving DecidableEq, Repr

def Token.lexeme : Token → Lexeme
  | .word marks => .word (String.ofList marks.value)
  | .operator text => .operator (String.ofList text)
  | .number digits => .number (String.ofList digits)

/-- Characters that mean something to the shell where nothing protects them: they end words, are
operators, quote, expand, stand for other characters, or start a comment. -/
def specials : List Char :=
  [' ', '\t', '\n', '|', '&', ';', '<', '>', '(', ')', '$', '\x60', '\\', '\x22', '\x27', '*', '?',
    '[', ']', '#', '~', '!', '\x7b', '\x7d']

theorem scan_cons {place next : Place} {c : Char} {ended : List Token}
    (taken : step place c = some (ended, next)) (rest : List Char) :
    scan place (c :: rest) = (scan next rest).map (ended ++ ·) := by
  rw [scan, taken]
  rfl

theorem scan_on {place next : Place} {c : Char} (taken : step place c = some ([], next))
    (rest : List Char) : scan place (c :: rest) = scan next rest := by
  rw [scan_cons taken]
  simp

theorem inWord_ordinary {c : Char} (ordinary : c ∉ specials) (marks : Word) :
    inWord marks c = some ([], .word (marks ++ [(c, .bare)])) := by
  simp only [specials, List.mem_cons, List.not_mem_nil, or_false, not_or] at ordinary
  simp [inWord, expands, isBlank, operators, ordinary]

theorem scan_blank (marks : Word) (rest : List Char) :
    scan (.word marks) (' ' :: rest) =
      (scan (.word []) rest).map (tokensOf marks (some ' ') ++ ·) :=
  scan_cons (by simp [step, inWord, expands, isBlank]) rest

theorem scan_word_blank {marks : Word} (present : marks ≠ []) (rest : List Char) :
    scan (.word marks) (' ' :: rest) = (scan (.word []) rest).map (.word marks :: ·) := by
  rw [scan_blank]
  simp [tokensOf, present]

theorem scan_operator {text : List Char} {c : Char} (last : text ++ [c] ∉ operators)
    (unprotected : c ≠ '\\') (rest : List Char) :
    scan (.operator text) (c :: rest) =
      (scan (.word []) (c :: rest)).map (.operator text :: ·) := by
  have document : text ++ [c] ≠ ['<', '<'] := by
    intro same
    exact last (by simp [same, operators])
  have other : ¬ operators.contains (text ++ [c]) = true := by simpa using last
  have taken : step (.operator text) c =
      (inWord [] c).map fun next => (.operator text :: next.1, next.2) := by
    rw [step, if_neg document, if_neg other, if_neg unprotected]
  rw [scan, scan, taken, step]
  cases inWord [] c with
  | none => rfl
  | some next => simp [Function.comp_def]

end BatchLaunch.ShellText
