import BatchLaunch.Invocation
import BatchLaunch.Proofs.ShellText.Token

/-!
How written words and commands are read back. A written word is one word of the shell wherever it
stands, its value is the word itself, and whatever is bare in it means nothing to the shell; so a
written command is cut at its own blanks and operators and nowhere else.
-/
namespace BatchLaunch.ShellText

open ShellWord (isPlain escape quoteChars)

/-- The inside of a single-quoted word, as it is read. -/
def protect : List Char → Word
  | [] => []
  | c :: rest =>
      if c = '\x27' then
        [(c, .quoting), ('\\', .quoting), (c, .quoted), (c, .quoting)] ++ protect rest
      else (c, .quoted) :: protect rest

def marksOf (word : List Char) : Word :=
  if word ≠ [] ∧ word.all isPlain then word.map fun c => (c, .bare)
  else ('\x27', .quoting) :: protect word ++ [('\x27', .quoting)]

theorem plain_ordinary {c : Char} (plain : isPlain c = true) : c ∉ specials := by
  have none_plain : (specials.all fun special => !isPlain special) = true := by decide
  intro present
  have quoted := List.all_eq_true.mp none_plain c present
  rw [plain] at quoted
  contradiction

theorem scan_plain (word : List Char) (plain : word.all isPlain = true) (marks : Word)
    (rest : List Char) :
    scan (.word marks) (word ++ rest) =
      scan (.word (marks ++ word.map fun c => (c, .bare))) rest := by
  induction word generalizing marks with
  | nil => simp
  | cons c word ih =>
      simp only [List.all_cons, Bool.and_eq_true] at plain
      have taken : step (.word marks) c = some ([], .word (marks ++ [(c, .bare)])) :=
        inWord_ordinary (plain_ordinary plain.1) marks
      rw [List.cons_append, scan_on taken, ih plain.2, List.map_cons, List.append_assoc]
      rfl

theorem scan_single (marks : Word) (c : Char) (rest : List Char) (inside : c ≠ '\x27') :
    scan (.single marks) (c :: rest) = scan (.single (marks ++ [(c, .quoted)])) rest :=
  scan_on (by rw [step, if_neg inside]) rest

theorem scan_close (marks : Word) (rest : List Char) :
    scan (.single marks) ('\x27' :: rest) = scan (.word (marks ++ [('\x27', .quoting)])) rest :=
  scan_on (by rw [step, if_pos rfl]) rest

theorem scan_open (marks : Word) (rest : List Char) :
    scan (.word marks) ('\x27' :: rest) = scan (.single (marks ++ [('\x27', .quoting)])) rest :=
  scan_on (by simp [step, inWord]) rest

theorem scan_escaped_quote (marks : Word) (rest : List Char) :
    scan (.word marks) ('\\' :: '\x27' :: rest) =
      scan (.word (marks ++ [('\\', .quoting), ('\x27', .quoted)])) rest := by
  have protecting : step (.word marks) '\\' = some ([], .escape (.word marks)) := by
    simp [step, inWord]
  rw [scan_on protecting]
  exact scan_on (by simp [step, Place.pending]) rest

theorem scan_escape (word : List Char) (marks : Word) (rest : List Char) :
    scan (.single marks) (escape word ++ rest) = scan (.single (marks ++ protect word)) rest := by
  -- An escaped quote leaves the word in single quotes again, with four more marks behind it.
  induction word generalizing marks with
  | nil => simp [escape, protect]
  | cons c word ih =>
      by_cases isQuote : c = '\x27'
      · subst isQuote
        have written : escape ('\x27' :: word) = '\x27' :: '\\' :: '\x27' :: '\x27' :: escape word := by
          simp [escape]
        rw [written]
        simp only [List.cons_append]
        rw [scan_close, scan_escaped_quote, scan_open, ih]
        simp [protect]
      · rw [escape, if_neg isQuote, List.cons_append, scan_single _ _ _ isQuote, ih, protect,
          if_neg isQuote, List.append_assoc]
        rfl

theorem scan_quote (word : List Char) (marks : Word) (rest : List Char) :
    scan (.word marks) (quoteChars word ++ rest) = scan (.word (marks ++ marksOf word)) rest := by
  rw [quoteChars, marksOf]
  split
  · next plain => exact scan_plain word plain.2 marks rest
  · simp only [List.cons_append, List.append_assoc]
    rw [scan_open, scan_escape]
    rw [List.nil_append, scan_close]
    simp only [List.append_assoc, List.cons_append, List.nil_append]

theorem quoteChars_cons (word : List Char) :
    ∃ c rest, quoteChars word = c :: rest ∧ c ≠ '\\' := by
  rw [quoteChars]
  split
  · next plain =>
      obtain ⟨c, rest, rfl⟩ := List.exists_cons_of_ne_nil plain.1
      refine ⟨c, rest, rfl, ?_⟩
      rintro rfl
      have ordinary := plain_ordinary (List.all_eq_true.mp plain.2 '\\' (by simp))
      exact ordinary (by decide)
  · exact ⟨_, _, rfl, by decide⟩

theorem marksOf_ne_nil (word : List Char) : marksOf word ≠ [] := by
  rw [marksOf]
  split
  · next plain => simpa using plain.1
  · simp

theorem value_plain (word : List Char) : Word.value (word.map fun c => (c, .bare)) = word := by
  induction word with
  | nil => rfl
  | cons c word ih => rw [List.map_cons, Word.value_bare, ih]

@[simp] theorem value_protect (word : List Char) : Word.value (protect word) = word := by
  induction word with
  | nil => rfl
  | cons c word ih =>
      by_cases isQuote : c = '\x27'
      · simp [protect, isQuote, ih]
      · simp [protect, isQuote, ih]

@[simp] theorem value_marksOf (word : List Char) : Word.value (marksOf word) = word := by
  rw [marksOf]
  split
  · exact value_plain word
  · simp

theorem bare_not_protect (word : List Char) (c : Char) : (c, Role.bare) ∉ protect word := by
  induction word with
  | nil => simp [protect]
  | cons first word ih =>
      by_cases isQuote : first = '\x27'
      · simp [protect, isQuote, ih]
      · simp [protect, isQuote, ih]

theorem bare_ordinary {word : List Char} {c : Char} (bare : (c, Role.bare) ∈ marksOf word) :
    c ∉ specials := by
  rw [marksOf] at bare
  split at bare
  · next plain =>
      obtain ⟨same, member, equal⟩ := List.mem_map.mp bare
      simp only [Prod.mk.injEq, and_true] at equal
      subst equal
      exact plain_ordinary (List.all_eq_true.mp plain.2 same member)
  · have inside := bare_not_protect word c
    simp [inside] at bare

/-! Commands -/

/-- A written word as a token. -/
def written (word : String) : Token := .word (marksOf word.toList)

def commandTokens (command : Invocation) : List Token :=
  (command.program :: command.args).map written ++
    [.operator ['>'], written command.logPath, .number ['2'], .operator ['>', '&'],
      .word [('1', .bare)]]

theorem toList_quote (word : String) : (ShellWord.quote word).toList = quoteChars word.toList := by
  rw [ShellWord.quote, String.toList_ofList]

theorem scan_written (word : String) (rest : List Char) :
    scan (.word []) ((ShellWord.quote word).toList ++ ' ' :: rest) =
      (scan (.word []) rest).map (written word :: ·) := by
  rw [toList_quote, scan_quote, List.nil_append, scan_word_blank (marksOf_ne_nil _)]
  rfl

theorem scan_words (words : List String) (rest : List Char) :
    scan (.word []) ((" ".intercalate (words.map ShellWord.quote)).toList ++ ' ' :: rest) =
      (scan (.word []) rest).map (words.map written ++ ·) := by
  rw [String.toList_intercalate]
  induction words with
  | nil =>
      have nothing := scan_blank [] rest
      simpa [tokensOf] using nothing
  | cons word words ih =>
      cases words with
      | nil =>
          have alone := scan_written word rest
          simpa [List.intercalate] using alone
      | cons next words =>
          have parted : [' '].intercalate (((word :: next :: words).map ShellWord.quote).map
              String.toList) = (ShellWord.quote word).toList ++ ' ' ::
                [' '].intercalate (((next :: words).map ShellWord.quote).map String.toList) := by
            simp [List.intercalate]
          rw [show " ".toList = [' '] by rfl, parted, List.append_assoc, List.cons_append,
            scan_written]
          rw [show " ".toList = [' '] by rfl] at ih
          rw [ih, Option.map_map]
          rfl

theorem scan_ending (rest : List Char) :
    scan (.word []) ("2>&1 &".toList ++ rest) =
      (scan (.operator ['&']) rest).map
        ([.number ['2'], .operator ['>', '&'], .word [('1', .bare)]] ++ ·) := by
  have descriptor : step (.word []) '2' = some ([], .word [('2', .bare)]) := by decide
  have redirection : step (.word [('2', .bare)]) '>' = some ([.number ['2']], .operator ['>']) := by
    decide
  have joined : step (.operator ['>']) '&' = some ([], .operator ['>', '&']) := by decide
  have target : step (.operator ['>', '&']) '1' =
      some ([.operator ['>', '&']], .word [('1', .bare)]) := by decide
  have present : [('1', Role.bare)] ≠ [] := by simp
  have background : step (.word []) '&' = some ([], .operator ['&']) := by decide
  have text : "2>&1 &".toList = ['2', '>', '&', '1', ' ', '&'] := by rfl
  simp only [text, List.cons_append, List.nil_append]
  rw [scan_on descriptor, scan_cons redirection, scan_on joined, scan_cons target,
    scan_word_blank present, scan_on background]
  simp [Function.comp_def]

theorem scan_command (command : Invocation) (rest : List Char) :
    scan (.word []) (command.line.toList ++ rest) =
      (scan (.operator ['&']) rest).map (commandTokens command ++ ·) := by
  have parted : command.line.toList ++ rest =
      (ShellWord.quote command.program).toList ++ ' ' ::
        ((" ".intercalate (command.args.map ShellWord.quote)).toList ++ ' ' ::
          ('>' :: ' ' :: ((ShellWord.quote command.logPath).toList ++ ' ' ::
            ("2>&1 &".toList ++ rest)))) := by
    simp [Invocation.line, Invocation.pieces]
  have output : step (.word []) '>' = some ([], .operator ['>']) := by decide
  have apart : step (.operator ['>']) ' ' = some ([.operator ['>']], .word []) := by decide
  rw [parted, scan_written, scan_words, scan_on output, scan_cons apart, scan_written, scan_ending]
  simp [Function.comp_def, commandTokens]

end BatchLaunch.ShellText
