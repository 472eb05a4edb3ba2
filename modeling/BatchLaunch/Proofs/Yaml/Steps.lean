import BatchLaunch.Proofs.Yaml.Scalars

/-!
What a scanner does in front of something that is written on one line: it passes spaces, gives up
keys that can no longer come, and reads one lexeme.
-/
namespace BatchLaunch.Yaml

open Written

namespace Scanner

variable {scanner here further : Scanner} {depth count : Nat} {fresh : Bool} {c : Char}
  {text rest : List Char} {keys keys' : List (Option KeyPlace)} {place : KeyPlace}
  {position : Position}

/-! Possible keys. -/

/-- Some possible keys are given up, but not the innermost one as long as it may still come. -/
structure Kept (position : Position) (keys keys' : List (Option KeyPlace)) : Prop where
  length : keys'.length = keys.length
  sub : ∀ place, some place ∈ keys' → some place ∈ keys
  head : ∀ place, keys.head? = some (some place) → KeyPlace.isStale place position = false →
    keys'.head? = some (some place)

theorem Kept.refl (position : Position) (keys : List (Option KeyPlace)) : Kept position keys keys :=
  ⟨rfl, fun _ member => member, fun _ first _ => first⟩

def Optional (keys : List (Option KeyPlace)) : Prop :=
  ∀ place, some place ∈ keys → place.required = false

theorem mapM_eq_some {α β : Type} {f : α → Option β} {g : α → β} {list : List α}
    (each : ∀ value ∈ list, f value = some (g value)) : list.mapM f = some (list.map g) := by
  induction list with
  | nil => rfl
  | cons value list ih =>
      rw [List.mapM_cons, each value List.mem_cons_self,
        ih fun other member => each other (List.mem_cons_of_mem value member)]
      rfl

theorem dropStale_eq (scanner : Scanner) (optional : Optional scanner.keys) :
    ∃ keys, scanner.dropStale = some { scanner with keys := keys } ∧
      Kept scanner.position scanner.keys keys := by
  refine ⟨scanner.keys.map (·.filter fun place => !KeyPlace.isStale place scanner.position), ?_, ?_⟩
  · rw [dropStale, mapM_eq_some]
    · rfl
    · intro key member
      cases key with
      | none => rfl
      | some place =>
          have free := optional place member
          cases stale : KeyPlace.isStale place scanner.position <;>
            simp [stale, free, Option.filter]
  · constructor
    case length => exact List.length_map _
    case sub =>
      intro place member
      obtain ⟨key, listed, same⟩ := List.mem_map.mp member
      rw [Option.filter_eq_some_iff] at same
      rw [← same.1]
      exact listed
    case head =>
      intro place first current
      rw [List.head?_map, first]
      simp [Option.filter, current]

theorem dropKey_eq (optional : Optional scanner.keys) (nonempty : scanner.keys ≠ []) :
    scanner.dropKey = some { scanner with keys := none :: scanner.keys.drop 1 } := by
  rw [dropKey]
  split
  · rename_i place keys listed
    have free := optional place (by rw [listed]; exact List.mem_cons_self)
    rw [free, if_neg (by decide), listed]
    rfl
  · rename_i others
    cases listed : scanner.keys with
    | nil => exact absurd listed nonempty
    | cons key keys =>
        cases key with
        | none => rw [List.drop_succ_cons, List.drop_zero, ← listed]
        | some place => exact absurd listed (others place keys)

/-! White space. -/

/-- A lexeme may start with this character. -/
structure Starts (c : Char) : Prop where
  gap : isGap c = false
  lineEnd : isBreak c = false
  comment : c ≠ '#'
  mark : c ≠ '\ufeff'

theorem starts_of_isBare (bare : isBare c = true) : Starts c := by
  have inert := inert_of_isBare bare
  refine ⟨inert.gap, inert.lineEnd, inert.ne _ (by decide), ?_⟩
  rintro rfl
  cases bare

theorem passGaps_spaces (fuel : Nat) {gaps : Nat}
    (spaced : scanner.cursor.rest = List.replicate gaps ' ' ++ text)
    (starts : ∀ c, text.head? = some c → Starts c) :
    ∃ cursor, scanner.passGaps (fuel + 1) = { scanner with cursor := cursor } ∧
      cursor.rest = text ∧ (gaps = 0 → cursor = scanner.cursor) := by
  have unmarked : scanner.cursor.rest.head? ≠ some '\ufeff' := by
    rw [spaced]
    cases gaps with
    | zero =>
        intro first
        exact (starts _ first).mark rfl
    | succ gaps => simp [List.replicate_succ]
  have passed (tabs : Bool) :
      scanner.cursor.rest.dropWhile (fun c => c = ' ' || (tabs && c = '\t')) = text := by
    rw [spaced, List.dropWhile_append_of_pos (by simp)]
    cases text with
    | nil => rfl
    | cons c text =>
        have start := starts c rfl
        have gap := start.gap
        simp only [isGap, Bool.or_eq_false_iff, decide_eq_false_iff_not] at gap
        rw [List.dropWhile_cons_of_neg (by simp [gap])]
  have comment : text.head? ≠ some '#' := fun first => (starts _ first).comment rfl
  have lineEnd : text.head?.any isBreak = false := by
    cases text with
    | nil => rfl
    | cons c text => exact (starts c rfl).lineEnd
  rw [passGaps]
  simp only [unmarked, Bool.and_false, decide_false, Bool.false_eq_true, if_false, Cursor.passWhile,
    Cursor.moveTo, passed, comment, lineEnd]
  refine ⟨_, rfl, rfl, ?_⟩
  rintro rfl
  rw [List.replicate_zero, List.nil_append] at spaced
  rw [← spaced, Nat.sub_self]
  rfl

/-- The scanner is in front of a text, perhaps behind spaces, with brackets open around it. `fresh`
tells that a key may start there. -/
structure At (scanner : Scanner) (depth : Nat) (fresh : Bool) (text : List Char) : Prop where
  indent : scanner.indent = -1
  outer : scanner.outer = []
  brackets : scanner.depth = depth
  allowed : fresh = true → scanner.keyAllowed = true
  keys : scanner.keys.length = depth + 1
  optional : Optional scanner.keys
  waiting : .streamEnd ∉ scanner.queue
  rest : ∃ gaps, scanner.cursor.rest = List.replicate gaps ' ' ++ text

theorem At.closeBlocks (stands : At scanner depth fresh text) (column : Int) :
    scanner.closeBlocks column = scanner := by
  have innermost : closeBlocksFrom column scanner.indent scanner.outer =
      (scanner.indent, scanner.outer, []) := by
    rw [stands.outer, closeBlocksFrom]
  rw [Scanner.closeBlocks, innermost]
  simp only [List.append_nil]
  split <;> rfl

/-- The next token of a scanner is read in front of a text. -/
structure Arrives (scanner here : Scanner) (depth : Nat) (fresh : Bool) (text : List Char) :
    Prop where
  reached : (scanner.passGaps (scanner.cursor.rest.length + 1)).dropStale = some here
  stands : At here depth fresh text
  rest : here.cursor.rest = text
  queue : here.queue = scanner.queue
  handed : here.handed = scanner.handed
  shorter : text.length ≤ scanner.cursor.rest.length
  still : scanner.cursor.rest = text →
    here.cursor = scanner.cursor ∧ Kept scanner.position scanner.keys here.keys

theorem At.arrives (stands : At scanner depth fresh text)
    (starts : ∀ c, text.head? = some c → Starts c) :
    ∃ here, Arrives scanner here depth fresh text := by
  obtain ⟨gaps, spaced⟩ := stands.rest
  have lengths := congrArg List.length spaced
  rw [List.length_append, List.length_replicate] at lengths
  obtain ⟨cursor, passed, behind, same⟩ :=
    passGaps_spaces scanner.cursor.rest.length spaced starts
  obtain ⟨keys, dropped, kept⟩ := dropStale_eq { scanner with cursor := cursor } stands.optional
  refine ⟨{ scanner with cursor := cursor, keys := keys }, ?_⟩
  constructor
  case reached => rw [passed, dropped]
  case stands =>
    exact {
      indent := stands.indent
      outer := stands.outer
      brackets := stands.brackets
      allowed := stands.allowed
      keys := kept.length.trans stands.keys
      optional := fun place member => stands.optional place (kept.sub place member)
      waiting := stands.waiting
      rest := ⟨0, behind⟩ }
  case rest => exact behind
  case queue => rfl
  case handed => rfl
  case shorter => omega
  case still =>
    intro together
    rw [together] at lengths
    have still := same (by omega)
    subst still
    exact ⟨rfl, kept⟩

/-! Which token comes is told by its first character. -/

section Next

variable {bracket : Bracket}

theorem next_opens (arrives : Arrives scanner here depth fresh (bracket.opening :: text)) :
    scanner.next = here.openFlow bracket.startToken := by
  rw [next, arrives.reached]
  cases bracket <;>
    simp [arrives.stands.closeBlocks, arrives.rest, Bracket.opening, Bracket.startToken, atMarker]

theorem next_closes (arrives : Arrives scanner here depth fresh (bracket.closing :: text)) :
    scanner.next = here.closeFlow bracket.endToken := by
  rw [next, arrives.reached]
  cases bracket <;>
    simp [arrives.stands.closeBlocks, arrives.rest, Bracket.closing, Bracket.endToken, atMarker]

theorem next_comma (arrives : Arrives scanner here depth fresh (',' :: text)) :
    scanner.next = here.flowEntry := by
  rw [next, arrives.reached]
  simp [arrives.stands.closeBlocks, arrives.rest, atMarker]

theorem next_colon (arrives : Arrives scanner here depth fresh (':' :: ' ' :: text)) :
    scanner.next = here.value := by
  rw [next, arrives.reached]
  simp [arrives.stands.closeBlocks, arrives.rest, atMarker, atEdge, isGap]

theorem next_quote (arrives : Arrives scanner here depth fresh ('"' :: text)) :
    scanner.next = here.property (quoted Scalar.doubleQuoted) := by
  rw [next, arrives.reached]
  simp [arrives.stands.closeBlocks, arrives.rest, atMarker]

theorem next_word (arrives : Arrives scanner here depth fresh (c :: text))
    (bare : isBare c = true) : scanner.next = here.plain := by
  have inert := inert_of_isBare bare
  have special := inert.indicator
  have indicators : "-?:,[]\x7b\x7d#&*!|>\x27\"%@\x60".toList =
      ['-', '?', ':', ',', '[', ']', '\x7b', '\x7d', '#', '&', '*', '!', '|', '>', '\x27', '"', '%',
        '@', '\x60'] := by
    decide
  simp only [isIndicator, indicators, List.contains_cons, List.contains_nil, Bool.or_eq_false_iff,
    beq_eq_false_iff_ne, ne_eq] at special
  rw [next, arrives.reached]
  simp [arrives.stands.closeBlocks, arrives.rest, inert.not_atMarker, special, startsPlain,
    inert.gap, inert.lineEnd, inert.indicator]

theorem next_end (arrives : Arrives scanner here depth fresh []) :
    scanner.next = here.endStream := by
  rw [next, arrives.reached]
  simp [arrives.stands.closeBlocks, arrives.rest]

end Next

/-! What reading a token leaves behind. -/

theorem At.keys_ne_nil (stands : At scanner depth fresh text) : scanner.keys ≠ [] := by
  intro none
  have length := stands.keys
  rw [none] at length
  cases length

theorem At.dropKey (stands : At scanner depth fresh text) :
    scanner.dropKey = some { scanner with keys := none :: scanner.keys.drop 1 } :=
  dropKey_eq stands.optional stands.keys_ne_nil

theorem At.length_drop (stands : At scanner depth fresh text) :
    (scanner.keys.drop 1).length = depth := by
  rw [List.length_drop, stands.keys, Nat.add_sub_cancel]

theorem Optional.drop (optional : Optional keys) (count : Nat) : Optional (keys.drop count) :=
  fun place member => optional place (List.mem_of_mem_drop member)

theorem Optional.cons (optional : Optional keys) {key : Option KeyPlace}
    (free : ∀ place, key = some place → place.required = false) : Optional (key :: keys) := by
  intro place member
  rcases List.mem_cons.mp member with same | listed
  · exact free place same.symm
  · exact optional place listed

theorem Optional.cons_none (optional : Optional keys) : Optional (none :: keys) :=
  optional.cons nofun

theorem At.noteKey (stands : At scanner depth fresh text) :
    ∃ keys, scanner.noteKey = some { scanner with keys := keys } ∧ keys.length = depth + 1 ∧
      Optional keys ∧ (fresh = true → keys.head? =
        some (some ⟨false, scanner.handed + scanner.queue.length, scanner.position⟩)) := by
  rw [Scanner.noteKey]
  by_cases allowed : scanner.keyAllowed = true
  · have free : (!scanner.inFlow && decide (scanner.indent = scanner.column)) = false := by
      have outside : scanner.indent ≠ scanner.column := by
        rw [stands.indent]
        omega
      simp [outside]
    rw [if_pos allowed, stands.dropKey]
    simp only [Option.bind_eq_bind, Option.bind_some, free, List.drop_succ_cons, List.drop_zero]
    refine ⟨_, rfl, ?_, (stands.optional.drop 1).cons ?_, fun _ => rfl⟩
    · rw [List.length_cons, stands.length_drop]
    · rintro place ⟨⟩
      rfl
  · exact ⟨scanner.keys, if_neg allowed, stands.keys, stands.optional,
      fun start => absurd (stands.allowed start) allowed⟩

def Steps (scanner : Scanner) (tokens : List Token) (depth : Nat) (fresh : Bool)
    (text : List Char) : Prop :=
  ∃ further, scanner.next = some further ∧ At further depth fresh text ∧
    further.queue = scanner.queue ++ tokens ∧
      further.cursor.rest.length < scanner.cursor.rest.length

theorem streamEnd_not_mem_tokens (lexeme : Lexeme) : .streamEnd ∉ lexeme.tokens := by
  rcases lexeme with (_ | _) | (_ | _) | _ | _ | _ | _ <;>
    simp [Lexeme.tokens, Bracket.startToken, Bracket.endToken]

theorem Arrives.leaves {depth' : Nat} {fresh' : Bool} {front : List Char}
    (arrives : Arrives scanner here depth fresh front) (indent : further.indent = here.indent)
    (outer : further.outer = here.outer) (brackets : further.depth = depth')
    (allowed : fresh' = true → further.keyAllowed = true)
    (keys : further.keys.length = depth' + 1) (optional : Optional further.keys)
    (waiting : .streamEnd ∉ further.queue) (gaps : Nat)
    (rest : further.cursor.rest = List.replicate gaps ' ' ++ text) :
    At further depth' fresh' text where
  indent := indent.trans arrives.stands.indent
  outer := outer.trans arrives.stands.outer
  brackets := brackets
  allowed := allowed
  keys := keys
  optional := optional
  waiting := waiting
  rest := ⟨gaps, rest⟩

theorem Arrives.steps {depth' : Nat} {fresh' : Bool} {front : List Char} {lexeme : Lexeme}
    (arrives : Arrives scanner here depth fresh front) (next : scanner.next = some further)
    (indent : further.indent = here.indent) (outer : further.outer = here.outer)
    (brackets : further.depth = depth') (allowed : fresh' = true → further.keyAllowed = true)
    (keys : further.keys.length = depth' + 1) (optional : Optional further.keys)
    (queue : further.queue = here.queue ++ lexeme.tokens) (gaps : Nat)
    (rest : further.cursor.rest = List.replicate gaps ' ' ++ text)
    (shorter : gaps + text.length < front.length) :
    Steps scanner lexeme.tokens depth' fresh' text := by
  have length := congrArg List.length rest
  rw [List.length_append, List.length_replicate] at length
  have bound := arrives.shorter
  have waiting : .streamEnd ∉ further.queue := by
    rw [queue, List.mem_append, not_or]
    exact ⟨arrives.stands.waiting, streamEnd_not_mem_tokens lexeme⟩
  exact ⟨further, next,
    arrives.leaves indent outer brackets allowed keys optional waiting gaps rest,
    by rw [queue, arrives.queue], by omega⟩

theorem starts_of_isFlowIndicator (flow : Scalar.isFlowIndicator c = true) : Starts c := by
  simp only [Scalar.isFlowIndicator, Bool.or_eq_true, decide_eq_true_eq] at flow
  rcases flow with (((rfl | rfl) | rfl) | rfl) | rfl
  all_goals exact ⟨by decide, by decide, by decide, by decide⟩

theorem starts_cons (start : Starts c) :
    ∀ first, (c :: text).head? = some first → Starts first := by
  rintro first ⟨⟩
  exact start

theorem along_one {cursor : Cursor} (rest : cursor.rest = c :: text) :
    (cursor.along 1).rest = text := by
  rw [Cursor.along, rest, List.drop_succ_cons, List.drop_zero]

theorem steps_opens {bracket : Bracket}
    (stands : At scanner depth fresh ((Lexeme.opens bracket).chars ++ text)) :
    Steps scanner (Lexeme.opens bracket).tokens (depth + 1) true text := by
  have start : Starts bracket.opening := by
    cases bracket <;> exact starts_of_isFlowIndicator (by decide)
  obtain ⟨here, arrives⟩ := stands.arrives (starts_cons start)
  obtain ⟨keys, noted, length, optional, -⟩ := arrives.stands.noteKey
  have next := next_opens arrives
  rw [openFlow, noted] at next
  exact arrives.steps next rfl rfl (congrArg (· + 1) arrives.stands.brackets) (fun _ => rfl)
    (congrArg (· + 1) length) optional.cons_none rfl 0
    (along_one arrives.rest) (by simp [Lexeme.chars])

theorem steps_closes {bracket : Bracket}
    (stands : At scanner (depth + 1) fresh ((Lexeme.closes bracket).chars ++ text)) :
    Steps scanner (Lexeme.closes bracket).tokens depth false text := by
  have start : Starts bracket.closing := by
    cases bracket <;> exact starts_of_isFlowIndicator (by decide)
  obtain ⟨here, arrives⟩ := stands.arrives (starts_cons start)
  have next := next_closes arrives
  have inFlow : ({ here with keys := none :: here.keys.drop 1 } : Scanner).inFlow = true := by
    rw [Scanner.inFlow, arrives.stands.brackets]
    exact decide_eq_true (Nat.succ_pos depth)
  rw [closeFlow, arrives.stands.dropKey] at next
  simp only [Option.bind_eq_bind, Option.bind_some, inFlow, if_true, List.drop_succ_cons,
    List.drop_zero] at next
  exact arrives.steps next rfl rfl (congrArg (· - 1) arrives.stands.brackets)
    (absurd · Bool.false_ne_true) arrives.stands.length_drop (arrives.stands.optional.drop 1) rfl 0
    (along_one arrives.rest) (by simp [Lexeme.chars])

theorem steps_comma (stands : At scanner depth fresh (Lexeme.comma.chars ++ text)) :
    Steps scanner Lexeme.comma.tokens depth true text := by
  obtain ⟨here, arrives⟩ := stands.arrives (starts_cons (starts_of_isFlowIndicator (by decide)))
  have next := next_comma arrives
  rw [flowEntry, arrives.stands.dropKey] at next
  exact arrives.steps next rfl rfl arrives.stands.brackets (fun _ => rfl)
    (congrArg (· + 1) arrives.stands.length_drop)
    (arrives.stands.optional.drop 1).cons_none rfl 1
    (along_one arrives.rest) (by simp [Lexeme.chars]; omega)

theorem steps_quoted {words : String}
    (stands : At scanner depth fresh ((Lexeme.quoted words).chars ++ text)) :
    Steps scanner (Lexeme.quoted words).tokens depth false text := by
  have start : Starts '"' := ⟨by decide, by decide, by decide, by decide⟩
  obtain ⟨here, arrives⟩ := stands.arrives (starts_cons start)
  obtain ⟨keys, noted, length, optional, -⟩ := arrives.stands.noteKey
  obtain ⟨cursor, read, behind⟩ :=
    Scalar.doubleQuoted_text words.toList text (here.cursor.position.along 1)
  have rest : here.cursor.rest.drop 1 = words.toList.flatMap escape ++ '"' :: text := by
    rw [arrives.rest, Lexeme.chars, List.append_assoc]
    rfl
  have found : quoted Scalar.doubleQuoted here.cursor = some (.scalar words .quoted, cursor) := by
    rw [quoted, rest, read]
    simp only [Option.bind_eq_bind, Option.bind_some, String.ofList_toList]
  have next := next_quote arrives
  rw [property, noted] at next
  simp only [Option.bind_eq_bind, Option.bind_some, found] at next
  exact arrives.steps next rfl rfl arrives.stands.brackets (absurd · Bool.false_ne_true) length
    optional rfl 0 behind (by simp [Lexeme.chars]; omega)

theorem Arrives.word {word : Word}
    (arrives : Arrives scanner here (depth + 1) fresh (word.text.toList ++ text))
    (stops : Scalar.Stops text) :
    ∃ keys, keys.length = depth + 2 ∧ Optional keys ∧
      (fresh = true → keys.head? =
        some (some ⟨false, here.handed + here.queue.length, here.position⟩)) ∧
      scanner.next = some
        { (({ here with keys := keys }.allowKey false).emit (.scalar word.text .plain)) with
          cursor := ⟨word.text.toList.foldl .behind here.position, text⟩ } := by
  obtain ⟨c, letters, spelled⟩ := List.exists_cons_of_ne_nil word.nonempty
  obtain ⟨keys, noted, length, optional, first⟩ := arrives.stands.noteKey
  have bare : isBare c = true := word.bare c (by rw [spelled]; exact List.mem_cons_self)
  have next : scanner.next = here.plain := by
    rw [spelled] at arrives
    exact next_word arrives bare
  have inFlow : ({ here with keys := keys } : Scanner).inFlow = true := by
    rw [Scanner.inFlow, arrives.stands.brackets]
    exact decide_eq_true (Nat.succ_pos depth)
  refine ⟨keys, length, optional, first, ?_⟩
  rw [next, plain, noted]
  simp only [Option.bind_eq_bind, Option.bind_some, inFlow, arrives.rest,
    Scalar.plain_word word.bare stops, String.ofList_toList]
  rfl

theorem Word.starts (word : Word) : ∀ c, (word.text.toList ++ text).head? = some c → Starts c := by
  obtain ⟨c, letters, spelled⟩ := List.exists_cons_of_ne_nil word.nonempty
  have bare : isBare c = true := word.bare c (by rw [spelled]; exact List.mem_cons_self)
  rw [spelled]
  exact starts_cons (starts_of_isBare bare)

theorem steps_word {word : Word}
    (stands : At scanner (depth + 1) fresh ((Lexeme.word word).chars ++ text))
    (stops : Scalar.Stops text) :
    Steps scanner (Lexeme.word word).tokens (depth + 1) false text := by
  obtain ⟨here, arrives⟩ := stands.arrives (Word.starts word)
  obtain ⟨keys, length, optional, -, next⟩ := arrives.word stops
  have long := List.length_pos_iff.mpr word.nonempty
  exact arrives.steps next rfl rfl arrives.stands.brackets (absurd · Bool.false_ne_true) length
    optional rfl 0 rfl (by simp only [Lexeme.chars, List.length_append]; omega)

end Scanner
end BatchLaunch.Yaml
