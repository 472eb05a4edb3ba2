import BatchLaunch.Shell.Search

/-!
What the shell's own commands have in common: options, numbers, output, and texts in quotes.
-/
namespace BatchLaunch.Shell.Builtin

abbrev Routine := List Chars → Act Nat

/-- Writes the output of a command, and fails if that is not possible. -/
def emit (text : Chars) : Act Nat := do
  if text.isEmpty then return 0
  else if ← Act.write 1 text then return 0
  else
    let name := (← Act.get).doing.getD []
    Act.complain (name ++ ": I/O error".toList)
    return 1

def tell (text : Chars) : Act Unit := do
  let _ ← Act.write 2 (text ++ ['\n'])

inductive LetterFault where
  | unknown (letter : Char)
  | noValue (letter : Char)

def LetterFault.text : LetterFault → Chars
  | unknown letter => "Illegal option -".toList ++ [letter]
  | noValue letter => "No arg for -".toList ++ letter :: " option".toList

def clusterOf (plain valued : List Char) :
    Chars → Except LetterFault (List (Char × Chars) × Option Char)
  | [] => .ok ([], none)
  | c :: more =>
      if valued.contains c then .ok (if more.isEmpty then ([], some c) else ([(c, more)], none))
      else if plain.contains c then
        (clusterOf plain valued more).map fun (found, waiting) => ((c, []) :: found, waiting)
      else .error (.unknown c)

def optionsOf (plain valued : List Char) :
    List Chars → Except LetterFault (List (Char × Chars) × List Chars)
  | ['-', '-'] :: rest => .ok ([], rest)
  | ('-' :: letter :: letters) :: rest =>
      match clusterOf plain valued (letter :: letters), rest with
      | .error fault, _ => .error fault
      | .ok (found, none), rest =>
          (optionsOf plain valued rest).map fun (more, words) => (found ++ more, words)
      | .ok (found, some c), value :: rest =>
          (optionsOf plain valued rest).map fun (more, words) =>
            (found ++ (c, value) :: more, words)
      | .ok (_, some c), [] => .error (.noValue c)
  | words => .ok ([], words)

def withOptions (plain valued : String) (use : List (Char × Chars) → List Chars → Act Nat) :
    Routine := fun words =>
  match optionsOf plain.toList valued.toList words with
  | .ok (found, words) => use found words
  | .error fault => Act.fault fault.text

def number (word : Chars) : Act Nat :=
  match (Tools.natural? word).filter (· ≤ largest) with
  | some n => pure n
  | none => Act.fault ("Illegal number: ".toList ++ word)

def numberOr (otherwise : Nat) : List Chars → Act Nat
  | [] => pure otherwise
  | word :: _ => number word

def runs : Chars → List Chars
  | [] => []
  | c :: rest =>
      match runs rest with
      | [] => [[c]]
      | first :: others =>
          if (first.head? = some '\x27') = (c = '\x27') then (c :: first) :: others
          else [c] :: first :: others

def singleQuoted (text : Chars) : Chars :=
  match runs text with
  | [] => "''".toList
  | first :: rest =>
      let quote (run : Chars) : Chars :=
        if run.head? = some '\x27' then '"' :: run ++ ['"'] else '\x27' :: run ++ ['\x27']
      (if first.head? = some '\x27' then "''".toList else []) ++ (first :: rest).flatMap quote

/-- Does something for each word; the status is the last one that is not zero. -/
def forAll (words : List Chars) (act : Chars → Act Nat) : Act Nat :=
  words.foldlM (fun status word => do
    let next ← act word
    return if next = 0 then status else next) 0

end BatchLaunch.Shell.Builtin
