import BatchLaunch.Config.Table
import BatchLaunch.Proofs.ShellText.Quoting

/-!
Which word of a command a shell takes for its name. Words that assign to a variable come before the
name, and a reserved word in its place starts another kind of command; both are told by how the
word is written. A written command is taken for what it is unless its program reads as one of these
where it stands without quotes.
-/
namespace BatchLaunch.ShellText

open ShellWord (isPlain)

def startsName (c : Char) : Bool := c.isAlpha || c = '_'

def inName (c : Char) : Bool := c.isAlphanum || c = '_'

def namesOn (mark : Char × Role) : Bool := mark.2 = .bare && inName mark.1

/-- A name and an equals sign in front, none of them quoted. -/
def Word.isAssignment (marks : Word) : Bool :=
  (marks.takeWhile namesOn).head?.any (fun mark => startsName mark.1) &&
    (marks.dropWhile namesOn).head? = some ('=', .bare)

def keywords : List String :=
  ["if", "then", "else", "elif", "fi", "do", "done", "case", "esac", "while", "until", "for", "in"]

def reservedWords : List String := keywords ++ ["\x7b", "\x7d", "!"]

/-- No quote is left out of a spelling, so a quoted word is none of them. -/
def Word.isReserved (marks : Word) : Bool := reservedWords.contains (String.ofList marks.spelling)

def redirections : List (List Char) :=
  [['<'], ['>'], ['>', '|'], ['>', '>'], ['<', '&'], ['>', '&'], ['<', '>']]

/-- The assignments in front of a command and the word that names it. Redirections may stand
between them. -/
def nameOf : List Token → List Word × Option Word
  | .word marks :: rest =>
      if marks.isAssignment then (marks :: (nameOf rest).1, (nameOf rest).2)
      else ([], some marks)
  | .number _ :: rest => nameOf rest
  | .operator text :: .word _ :: rest =>
      if redirections.contains text then nameOf rest else ([], none)
  | _ => ([], none)

/-- The start of a simple command; a reserved word starts none. -/
def simpleCommand : List Token → Option (List Word × Option Word)
  | .word marks :: rest => if marks.isReserved then none else some (nameOf (.word marks :: rest))
  | tokens => some (nameOf tokens)

/-- A shell takes a program for the name of the command on a line. -/
def NamesCommand (line program : String) : Prop :=
  ∃ (first : Word) (rest : List Token),
    tokens line = some (.word first :: rest) ∧
    first.isAssignment = false ∧ first.isReserved = false ∧
    simpleCommand (.word first :: rest) = some ([], some first) ∧
    String.ofList first.value = program

/-- A word that assigns where it is written without quotes, and that is written so. -/
def Assigns (word : List Char) : Prop :=
  ∃ name value : List Char, word = name ++ '=' :: value ∧
    name.head?.any startsName = true ∧ name.all inName = true ∧ value.all isPlain = true

theorem plain_inName {c : Char} (named : inName c = true) : isPlain c = true := by
  simp only [inName, Bool.or_eq_true, decide_eq_true_eq] at named
  rcases named with letter | rfl
  · simp [isPlain, letter]
  · decide

theorem Assigns.plain {word : List Char} (assigns : Assigns word) :
    word ≠ [] ∧ word.all isPlain = true := by
  obtain ⟨name, value, rfl, -, named, plain⟩ := assigns
  constructor
  · simp
  · have front : name.all isPlain = true := by
      rw [List.all_eq_true] at named ⊢
      intro c member
      exact plain_inName (named c member)
    have equals : isPlain '=' = true := by decide
    simp [front, equals, plain]

/-- The longest name in front is the only one that an equals sign can follow. -/
theorem assigns_iff {word : List Char} (plain : word.all isPlain = true) :
    Assigns word ↔ (word.takeWhile inName).head?.any startsName = true ∧
      (word.dropWhile inName).head? = some '=' := by
  constructor
  · rintro ⟨name, value, rfl, starts, named, -⟩
    have stops : inName '=' = false := by decide
    rw [List.takeWhile_append_of_pos (List.all_eq_true.mp named),
      List.dropWhile_append_of_pos (List.all_eq_true.mp named)]
    simpa [stops] using starts
  · rintro ⟨starts, follows⟩
    have parts := List.takeWhile_append_dropWhile (p := inName) (l := word)
    obtain ⟨value, rest⟩ := List.head?_eq_some_iff.mp follows
    rw [rest] at parts
    rw [← parts, List.all_append, Bool.and_eq_true, List.all_cons, Bool.and_eq_true] at plain
    exact ⟨_, value, parts.symm, starts, List.all_takeWhile, plain.2.2⟩

theorem isAssignment_marksOf (word : List Char) :
    (marksOf word).isAssignment = true ↔ Assigns word := by
  by_cases plain : word ≠ [] ∧ word.all isPlain = true
  · have bare : namesOn ∘ (fun c => (c, Role.bare)) = inName := by
      funext c
      simp [namesOn]
    rw [assigns_iff plain.2, marksOf, if_pos plain, Word.isAssignment, List.takeWhile_map,
      List.dropWhile_map, bare]
    simp [Option.any_map]
  · have quoted : namesOn ('\x27', .quoting) = false := by decide
    rw [marksOf, if_neg plain, Word.isAssignment]
    constructor
    · intro assigns
      simp [quoted] at assigns
    · intro assigns
      exact absurd assigns.plain plain

theorem spelling_plain (word : List Char) :
    Word.spelling (word.map fun c => (c, .bare)) = word := by
  simp [Word.spelling, Function.comp_def]

theorem keyword_plain {word : String} (keyword : word ∈ keywords) :
    word.toList ≠ [] ∧ word.toList.all isPlain = true := by
  have all : ∀ word ∈ keywords, word.toList ≠ [] ∧ word.toList.all isPlain = true := by decide
  exact all word keyword

theorem reserved_plain {word : String} (plain : word.toList.all isPlain = true) :
    word ∈ reservedWords ↔ word ∈ keywords := by
  rw [reservedWords, List.mem_append]
  constructor
  · rintro (keyword | other)
    · exact keyword
    · have quoted : ∀ word ∈ ["\x7b", "\x7d", "!"], word.toList.all isPlain = false := by decide
      rw [quoted word other] at plain
      contradiction
  · exact .inl

theorem isReserved_marksOf (word : String) :
    (marksOf word.toList).isReserved = true ↔ word ∈ keywords := by
  rw [Word.isReserved, List.contains_iff_mem]
  by_cases plain : word.toList ≠ [] ∧ word.toList.all isPlain = true
  · rw [marksOf, if_pos plain, spelling_plain, String.ofList_toList, reserved_plain plain.2]
  · rw [marksOf, if_neg plain]
    constructor
    · intro reserved
      have unquoted : ∀ word ∈ reservedWords, word.toList.head? ≠ some '\x27' := by decide
      exact absurd (by simp [Word.spelling]) (unquoted _ reserved)
    · intro keyword
      exact absurd (keyword_plain keyword) plain

theorem tokens_line (command : Invocation) :
    tokens command.line = some (written command.program ::
      (command.args.map written ++ [.operator ['>'], written command.logPath, .number ['2'],
        .operator ['>', '&'], .word [('1', .bare)], .operator ['&']])) := by
  have read := scan_command command []
  rw [List.append_nil] at read
  rw [tokens, read]
  simp [scan, Place.finish, commandTokens]

theorem simpleCommand_word (marks : Word) (rest : List Token) :
    simpleCommand (.word marks :: rest) = some ([], some marks) ↔
      marks.isAssignment = false ∧ marks.isReserved = false := by
  rw [simpleCommand, nameOf]
  cases marks.isReserved with
  | true => simp
  | false =>
      cases marks.isAssignment with
      | true => simp
      | false => simp

theorem NamesCommand.first {command : Invocation} {program : String}
    (named : NamesCommand command.line program) :
    (marksOf command.program.toList).isAssignment = false ∧
      (marksOf command.program.toList).isReserved = false := by
  obtain ⟨first, rest, read, assignment, reserved, -, -⟩ := named
  rw [tokens_line, Option.some.injEq, List.cons.injEq, written, Token.word.injEq] at read
  rw [read.1]
  exact ⟨assignment, reserved⟩

/-- The command of a written line is the program it was written for, unless the program is written
without quotes and is either a keyword of the shell or begins as an assignment does. -/
theorem namesCommand_line_iff (command : Invocation) :
    NamesCommand command.line command.program ↔
      ¬ Assigns command.program.toList ∧ command.program ∉ keywords := by
  rw [← isAssignment_marksOf, ← isReserved_marksOf, Bool.not_eq_true, Bool.not_eq_true]
  constructor
  · exact NamesCommand.first
  · rintro ⟨assignment, reserved⟩
    refine ⟨_, _, tokens_line command, assignment, reserved,
      (simpleCommand_word _ _).mpr ⟨assignment, reserved⟩, ?_⟩
    rw [value_marksOf, String.ofList_toList]

/-- A launcher that looks like an assignment is none of its command's words, and one that is a
keyword does not let it be a simple command. -/
theorem launcher_misread :
    let job := Table.job .tvb ⟨2, 6, 200⟩
    ¬ NamesCommand (Invocation.ofJob ⟨"a=b", "-n", "python", "bulk_test.py"⟩ job).line "a=b" ∧
      ¬ NamesCommand (Invocation.ofJob ⟨"if", "-n", "python", "bulk_test.py"⟩ job).line "if" := by
  have assignment : (marksOf "a=b".toList).isAssignment = true := by decide
  have reserved : (marksOf "if".toList).isReserved = true := by decide
  constructor
  · intro named
    exact Bool.noConfusion (assignment.symm.trans named.first.1)
  · intro named
    exact Bool.noConfusion (reserved.symm.trans named.first.2)

end BatchLaunch.ShellText
