import BatchLaunch.Proofs.DryRun.Output
import BatchLaunch.Proofs.ShellText.Quoting

/-!
How a shell reads what a dry run writes: one command per job, each with the program, the arguments
and the log of the attempt that a launch makes for that job.
-/
namespace BatchLaunch.DryRun

open ShellText

def lexemes (command : Invocation) : List Lexeme :=
  (command.program :: command.args).map .word ++
    [.operator ">", .word command.logPath, .number "2", .operator ">&", .word "1", .operator "&",
      .operator "\n"]

def lineTokens (command : Invocation) : List Token :=
  commandTokens command ++ [.operator ['&'], .operator ['\n']]

theorem scan_newline (command : Invocation) (rest : List Char) :
    scan (.operator ['\n']) (command.line.toList ++ rest) =
      (scan (.word []) (command.line.toList ++ rest)).map (.operator ['\n'] :: ·) := by
  obtain ⟨c, after, starts, unprotected⟩ := quoteChars_cons command.program.toList
  have first : ∃ after', command.line.toList ++ rest = c :: after' := by
    refine ⟨after ++ (command.pieces.tail.flatMap String.toList ++ rest), ?_⟩
    simp [Invocation.line, Invocation.pieces, toList_quote, starts]
  obtain ⟨after', same⟩ := first
  rw [same]
  exact scan_operator (by simp [operators]) unprotected after'

theorem scan_lines (commands : List Invocation) :
    scan (.word []) (commands.flatMap fun command => command.line.toList ++ ['\n']) =
      some (commands.flatMap lineTokens) := by
  induction commands with
  | nil => rfl
  | cons command commands ih =>
      have ended : step (.operator ['&']) '\n' = some ([.operator ['&']], .operator ['\n']) := by
        decide
      rw [List.flatMap_cons, List.append_assoc, scan_command, List.cons_append, List.nil_append,
        scan_cons ended]
      -- The newline is a token only once it is seen what follows it.
      cases commands with
      | nil => simp [scan, Place.finish, lineTokens]
      | cons next commands =>
          rw [List.flatMap_cons, List.append_assoc] at ih ⊢
          rw [scan_newline, ih]
          simp [lineTokens]

theorem tokens_text (settings : Settings) (dir : String) (jobs : List Job) :
    tokens (text settings dir jobs) =
      some ((jobs.map (.ofBatch settings dir)).flatMap lineTokens) := by
  have lines := scan_lines (jobs.map (.ofBatch settings dir))
  rw [← lines, tokens, text, String.toList_join]
  simp [List.flatMap_map]

theorem lexeme_written (word : String) : (written word).lexeme = .word word := by
  rw [written, Token.lexeme, value_marksOf, String.ofList_toList]

theorem lexemes_line (command : Invocation) :
    (lineTokens command).map Token.lexeme = lexemes command := by
  have words : ∀ words : List String, (words.map written).map Token.lexeme = words.map .word := by
    intro words
    rw [List.map_map]
    exact List.map_congr_left fun word _ => lexeme_written word
  rw [lineTokens, commandTokens, lexemes, List.map_append, List.map_append, words]
  simp only [List.map_cons, List.map_nil, lexeme_written, List.append_assoc]
  rfl

theorem word_of_line {command : Invocation} {marks : Word}
    (present : .word marks ∈ lineTokens command) :
    (∃ word : String, marks = marksOf word.toList) ∨ marks = [('1', .bare)] := by
  simp only [lineTokens, commandTokens, List.mem_append, List.mem_map, List.mem_cons, reduceCtorEq,
    List.not_mem_nil, or_false, false_or] at present
  rcases present with ⟨word, -, same⟩ | same | same
  · exact .inl ⟨word, (Token.word.inj same).symm⟩
  · exact .inl ⟨command.logPath, Token.word.inj same⟩
  · exact .inr (Token.word.inj same)

/-- A shell that reads a dry run takes from it, in order and with nothing left, one command per
job, which is the attempt that a launch makes for the job on any machine. Nothing that means
something to the shell stands bare in a word. -/
theorem shell_reads_launch (settings : Settings) (dir : String) (jobs : List Job) :
    ∃ (text : String) (tokens : List Token) (command : Job → Invocation),
      Text.Utf8.decode? (execute settings dir jobs .unbounded).1.taken = some text ∧
      ShellText.tokens text = some tokens ∧
      tokens.map Token.lexeme = jobs.flatMap (fun job => lexemes (command job)) ∧
      (∀ marks, .word marks ∈ tokens → ∀ c, (c, Role.bare) ∈ marks → c ∉ specials) ∧
      ∀ job, (command job).args.length = 10 ∧
        ∀ (World Log Child : Type) (machine : Machine World Log Child) (world : World),
          let done := Detached.spawn machine settings dir job world
          Launch.Tried machine (command job) world done.value done.world := by
  refine ⟨text settings dir jobs, _, .ofBatch settings dir, ?_, tokens_text settings dir jobs,
    ?_, ?_, ?_⟩
  · rw [execute_unbounded, Text.Utf8.decode?_encode]
  · rw [List.map_flatMap, List.flatMap_map]
    simp only [lexemes_line]
  · intro marks present c bare
    obtain ⟨command, -, inLine⟩ := List.mem_flatMap.mp present
    rcases word_of_line inLine with ⟨word, rfl⟩ | rfl
    · exact bare_ordinary bare
    · simp only [List.mem_singleton, Prod.mk.injEq, and_true] at bare
      subst bare
      decide
  · intro job
    exact ⟨rfl, fun World Log Child machine world =>
      Launch.spawn_tried machine settings dir job world⟩

end BatchLaunch.DryRun
