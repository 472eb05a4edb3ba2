import BatchLaunch.Proofs.Yaml.Steps

/-!
The tokens of what is written on one line. A lexeme is read in one step, and a key in two: its word
first, and the token before that word only at the colon.
-/
namespace BatchLaunch.Yaml

open Written

namespace Scanner

variable {scanner here further : Scanner} {depth count : Nat} {fresh : Bool} {c : Char}
  {text rest : List Char} {place : KeyPlace}

/-! What is handed on. -/

theorem foldl_min_le (numbers : List Nat) (start : Nat) :
    numbers.foldl min start ≤ start ∧ ∀ n ∈ numbers, numbers.foldl min start ≤ n := by
  induction numbers generalizing start with
  | nil => exact ⟨Nat.le_refl start, nofun⟩
  | cons first numbers ih =>
      obtain ⟨least, each⟩ := ih (min start first)
      rw [List.foldl_cons]
      refine ⟨by omega, fun n member => ?_⟩
      rcases List.mem_cons.mp member with rfl | later
      · omega
      · exact each n later

theorem ready_le_of_mem (noted : some place ∈ scanner.keys) :
    scanner.ready ≤ place.number - scanner.handed :=
  (foldl_min_le _ _).2 _ (List.mem_filterMap.mpr ⟨some place, noted, rfl⟩)

theorem ready_of_no_key (none : ∀ place, some place ∉ scanner.keys) :
    scanner.ready = scanner.queue.length := by
  have blocked : (scanner.keys.filterMap fun key =>
      key.map fun place => place.number - scanner.handed) = [] := by
    rw [List.filterMap_eq_nil_iff]
    intro key member
    cases key with
    | none => rfl
    | some place => exact absurd member (none place)
  rw [ready, blocked]
  rfl

/-- What is ready is handed on, and the scanner goes on without it. -/
structure HandsOn (scanner waiting : Scanner) (count : Nat) : Prop where
  cursor : waiting.cursor = scanner.cursor
  queue : waiting.queue = scanner.queue.drop count
  handed : waiting.handed = scanner.handed + count
  key : ∀ place, scanner.keys.head? = some (some place) →
    KeyPlace.isStale place scanner.position = false →
      waiting.keys.head? = some (some place) ∧ count ≤ place.number - scanner.handed
  read : ∀ fuel further, waiting.next = some further →
    Token.read false (fuel + 1) scanner =
      ⟨scanner.queue.take count ++ (Token.read false fuel further).parts,
        (Token.read false fuel further).complete⟩

theorem At.handsOn (stands : At scanner depth fresh text) :
    ∃ waiting count, At waiting depth fresh text ∧ HandsOn scanner waiting count := by
  have dropped : ∃ keys, (if scanner.queue.isEmpty then some scanner else scanner.dropStale) =
      some { scanner with keys := keys } ∧ Kept scanner.position scanner.keys keys := by
    split
    · exact ⟨scanner.keys, rfl, .refl ..⟩
    · exact dropStale_eq scanner stands.optional
  obtain ⟨keys, dropped, kept⟩ := dropped
  have ends (count : Nat) : (scanner.queue.take count).contains .streamEnd = false := by
    rw [List.contains_eq_mem, decide_eq_false_iff_not]
    exact fun member => stands.waiting (List.mem_of_mem_take member)
  have some_ready : ∃ count, ({ scanner with keys := keys } : Scanner).ready = count := ⟨_, rfl⟩
  obtain ⟨count, ready⟩ := some_ready
  refine ⟨{ scanner with
    keys := keys
    queue := scanner.queue.drop count
    handed := scanner.handed + count }, count, ?_, ?_⟩
  · exact {
      indent := stands.indent
      outer := stands.outer
      brackets := stands.brackets
      allowed := stands.allowed
      keys := kept.length.trans stands.keys
      optional := fun place member => stands.optional place (kept.sub place member)
      waiting := fun member => stands.waiting (List.mem_of_mem_drop member)
      rest := stands.rest }
  · constructor
    case cursor => rfl
    case queue => rfl
    case handed => rfl
    case key =>
      intro place first current
      have first' := kept.head place first current
      refine ⟨first', ?_⟩
      rw [← ready]
      exact ready_le_of_mem (List.mem_of_head? first')
    case read =>
      intro fuel further next
      rw [Token.read, dropped]
      simp only [ready, ends, Bool.false_eq_true, if_false, next, Bool.false_and]

def Reads (scanner : Scanner) (output : List Token) : Prop :=
  ∀ fuel, scanner.cursor.rest.length + 2 ≤ fuel → Token.read false fuel scanner = ⟨output, true⟩

theorem HandsOn.reads {waiting : Scanner} {output : List Token}
    (handsOn : HandsOn scanner waiting count) (next : waiting.next = some further)
    (shorter : further.cursor.rest.length < waiting.cursor.rest.length)
    (later : Reads further output) : Reads scanner (scanner.queue.take count ++ output) := by
  intro fuel enough
  rw [handsOn.cursor] at shorter
  obtain ⟨fuel, rfl⟩ : ∃ less, fuel = less + 1 := ⟨fuel - 1, by omega⟩
  rw [handsOn.read fuel further next, later fuel (by omega)]

theorem reads_of_steps {depth' : Nat} {fresh' : Bool} {text' : List Char}
    {tokens output : List Token}
    (stands : At scanner depth fresh text)
    (steps : ∀ waiting, At waiting depth fresh text → Steps waiting tokens depth' fresh' text')
    (later : ∀ further, At further depth' fresh' text' → Reads further (further.queue ++ output)) :
    Reads scanner (scanner.queue ++ (tokens ++ output)) := by
  obtain ⟨waiting, count, stands', handsOn⟩ := stands.handsOn
  obtain ⟨further, next, behind, queue, shorter⟩ := steps waiting stands'
  have reads := handsOn.reads next shorter (later further behind)
  rw [queue, handsOn.queue, List.append_assoc, ← List.append_assoc, List.take_append_drop] at reads
  exact reads

theorem foldl_behind {word : List Char} (bare : ∀ c ∈ word, isBare c = true) (position : Position) :
    (word.foldl .behind position).line = position.line ∧
      (word.foldl .behind position).index = position.index + word.length := by
  induction word generalizing position with
  | nil => exact ⟨rfl, rfl⟩
  | cons c word ih =>
      obtain ⟨line, index⟩ := ih (fun c member => bare c (List.mem_cons_of_mem _ member))
        (position.behind c)
      have size := (inert_of_isBare (bare c List.mem_cons_self)).size
      have one : (position.behind c).index = position.index + 1 := congrArg (_ + ·) size
      rw [List.foldl_cons, List.length_cons]
      exact ⟨line, by omega⟩

/-- The scanner is in front of a colon, and has read the word before it as its last token. The place
of that token is noted as that of a possible key. -/
structure Pending (scanner : Scanner) (depth : Nat) (before : List Token) (word : Token)
    (text : List Char) : Prop where
  stands : At scanner (depth + 1) false (':' :: ' ' :: text)
  together : scanner.cursor.rest = ':' :: ' ' :: text
  queue : scanner.queue = before ++ [word]
  noted : ∃ place, scanner.keys.head? = some (some place) ∧
    KeyPlace.isStale place scanner.position = false ∧
      place.number = scanner.handed + before.length

variable {before output : List Token} {word : Token}

theorem At.key {name : Word}
    (stands : At scanner (depth + 1) true ((Lexeme.key name).chars ++ text)) :
    ∃ further, scanner.next = some further ∧
      Pending further depth scanner.queue (.scalar name.text .plain) text ∧
        further.cursor.rest.length < scanner.cursor.rest.length := by
  have spelled : (Lexeme.key name).chars ++ text = name.text.toList ++ ':' :: ' ' :: text := by
    rw [Lexeme.chars, List.append_assoc]
    rfl
  rw [spelled] at stands
  obtain ⟨here, arrives⟩ := stands.arrives (Word.starts name)
  obtain ⟨keys, length, optional, noted, next⟩ := arrives.word (Scalar.stops_colon text)
  have long := List.length_pos_iff.mpr name.nonempty
  have short := name.short
  have bound := arrives.shorter
  obtain ⟨line, index⟩ := foldl_behind name.bare here.position
  rw [List.length_append] at bound
  refine ⟨_, next, ?_, ?_⟩
  · constructor
    case stands =>
      refine arrives.leaves rfl rfl arrives.stands.brackets (absurd · Bool.false_ne_true) length
        optional ?_ 0 rfl
      simpa [emit, allowKey] using arrives.stands.waiting
    case together => rfl
    case queue => exact congrArg (· ++ _) arrives.queue
    case noted =>
      refine ⟨_, noted rfl, ?_, congrArg (_ + List.length ·) arrives.queue⟩
      rw [KeyPlace.isStale, Bool.or_eq_false_iff]
      exact ⟨decide_eq_false (Nat.not_lt_of_le (Nat.le_of_eq line)), decide_eq_false
        (Nat.not_lt_of_le (Nat.le_trans (Nat.le_of_eq index) (Nat.add_le_add_left short _)))⟩
  · simp only
    omega

theorem Pending.handsOn (pending : Pending scanner depth before word text) :
    ∃ waiting count, Pending waiting depth (before.drop count) word text ∧
      HandsOn scanner waiting count ∧ count ≤ before.length := by
  obtain ⟨waiting, count, stands, handsOn⟩ := pending.stands.handsOn
  obtain ⟨place, first, current, number⟩ := pending.noted
  obtain ⟨first', bound⟩ := handsOn.key place first current
  rw [number, Nat.add_sub_cancel_left] at bound
  refine ⟨waiting, count, ?_, handsOn, bound⟩
  constructor
  case stands => exact stands
  case together => exact (congrArg Cursor.rest handsOn.cursor).trans pending.together
  case queue => rw [handsOn.queue, pending.queue, List.drop_append_of_le_length bound]
  case noted =>
    refine ⟨place, first', ?_, ?_⟩
    · rw [position, handsOn.cursor]
      exact current
    · rw [number, handsOn.handed, List.length_drop]
      omega

theorem Pending.colon (pending : Pending scanner depth before word text) :
    ∃ further, scanner.next = some further ∧ At further (depth + 1) false text ∧
      further.queue = before ++ [.key, word, .value] ∧
        further.cursor.rest.length < scanner.cursor.rest.length := by
  have start : Starts ':' := ⟨by decide, by decide, by decide, by decide⟩
  obtain ⟨place, first, current, number⟩ := pending.noted
  obtain ⟨here, arrives⟩ := pending.stands.arrives (starts_cons start)
  obtain ⟨still, kept⟩ := arrives.still pending.together
  obtain ⟨keys, listed⟩ := List.head?_eq_some_iff.mp (kept.head place first current)
  have length := arrives.stands.keys
  have optional := arrives.stands.optional.drop 1
  rw [listed, List.length_cons] at length
  rw [listed, List.drop_succ_cons, List.drop_zero] at optional
  have inFlow (tokens : List Token) :
      ({ here with keys := none :: keys, queue := tokens } : Scanner).inFlow = true := by
    rw [Scanner.inFlow, arrives.stands.brackets]
    exact decide_eq_true (Nat.succ_pos depth)
  have last : place.number - here.handed = before.length := by
    rw [number, arrives.handed, Nat.add_sub_cancel_left]
  have waiting : .streamEnd ∉ before ++ [.key, word, .value] := by
    have outside := pending.stands.waiting
    rw [pending.queue] at outside
    simpa using outside
  have next := next_colon arrives
  rw [value, listed] at next
  simp only [emitAt, openBlock, inFlow, Bool.not_true, Bool.false_and, Bool.false_eq_true, if_false,
    last, arrives.queue, pending.queue, List.take_left, List.drop_left] at next
  refine ⟨_, next, ?_, ?_, ?_⟩
  · refine arrives.leaves rfl rfl arrives.stands.brackets (absurd · Bool.false_ne_true) length
      optional.cons_none ?_ 1 (along_one arrives.rest)
    simpa [emitChar, emit, allowKey] using waiting
  · simp [emitChar, emit, allowKey]
  · have behind : (here.cursor.along 1).rest = ' ' :: text := along_one arrives.rest
    rw [pending.together, List.length_cons, ← behind]
    exact Nat.lt_succ_self _

theorem Pending.reads (pending : Pending scanner depth before word text)
    (later : ∀ further, At further (depth + 1) false text →
      Reads further (further.queue ++ output)) :
    Reads scanner (before ++ ([.key, word, .value] ++ output)) := by
  obtain ⟨waiting, count, pending', handsOn, bound⟩ := pending.handsOn
  obtain ⟨further, next, stands, queue, shorter⟩ := pending'.colon
  have reads := handsOn.reads next shorter (later further stands)
  rw [queue, pending.queue, List.take_append_of_le_length bound, List.append_assoc,
    ← List.append_assoc, List.take_append_drop] at reads
  exact reads

theorem reads_key {name : Word}
    (stands : At scanner (depth + 1) true ((Lexeme.key name).chars ++ text))
    (later : ∀ further, At further (depth + 1) false text →
      Reads further (further.queue ++ output)) :
    Reads scanner (scanner.queue ++ ((Lexeme.key name).tokens ++ output)) := by
  obtain ⟨waiting, count, stands', handsOn⟩ := stands.handsOn
  obtain ⟨further, next, pending, shorter⟩ := stands'.key
  have reads := handsOn.reads next shorter (pending.reads later)
  rw [handsOn.queue, ← List.append_assoc, List.take_append_drop] at reads
  exact reads

theorem read_last (none : ∀ place, some place ∉ scanner.keys)
    (ended : .streamEnd ∈ scanner.queue) (fuel : Nat) :
    Token.read false (fuel + 1) scanner = ⟨scanner.queue, true⟩ := by
  obtain ⟨keys, dropped, kept⟩ := dropStale_eq scanner fun place member =>
    absurd member (none place)
  have waiting : scanner.queue.isEmpty = false :=
    List.isEmpty_eq_false_iff_exists_mem.mpr ⟨_, ended⟩
  have ready : ({ scanner with keys := keys } : Scanner).ready = scanner.queue.length :=
    ready_of_no_key fun place member => none place (kept.sub place member)
  have ends : scanner.queue.contains .streamEnd = true := List.contains_iff_mem.mpr ended
  rw [Token.read, waiting, if_neg Bool.false_ne_true, dropped]
  simp only [ready, List.take_length, ends, if_true]

theorem reads_end (stands : At scanner 0 fresh []) :
    Reads scanner (scanner.queue ++ [.streamEnd]) := by
  obtain ⟨waiting, count, stands', handsOn⟩ := stands.handsOn
  obtain ⟨here, arrives⟩ := stands'.arrives nofun
  have noKey : here.keys.drop 1 = [] := List.eq_nil_of_length_eq_zero arrives.stands.length_drop
  have next := next_end arrives
  rw [endStream, arrives.stands.closeBlocks, arrives.stands.dropKey, noKey] at next
  simp only [Option.bind_eq_bind, Option.bind_some] at next
  obtain ⟨last, queue, keys, next⟩ : ∃ last : Scanner, last.queue = waiting.queue ++ [.streamEnd] ∧
      last.keys = [none] ∧ waiting.next = some last :=
    ⟨_, congrArg (· ++ _) arrives.queue, rfl, next⟩
  have ended : .streamEnd ∈ last.queue := by
    rw [queue]
    exact List.mem_append_right _ (List.mem_singleton_self _)
  intro fuel enough
  obtain ⟨fuel, rfl⟩ : ∃ less, fuel = less + 2 := ⟨fuel - 2, by omega⟩
  rw [handsOn.read _ last next, read_last (by rw [keys]; simp) ended, queue, handsOn.queue,
    ← List.append_assoc, List.take_append_drop]

theorem stops_of_endsWord {lexemes : List Lexeme}
    (ends : lexemes.head?.any Lexeme.endsWord = true) :
    Scalar.Stops (lexemes.flatMap Lexeme.chars) := by
  cases lexemes with
  | nil => cases ends
  | cons lexeme lexemes =>
      cases lexeme with
      | closes bracket =>
          exact Scalar.stops_of_isFlowIndicator (by cases bracket <;> decide) _
      | comma => exact Scalar.stops_of_isFlowIndicator (by decide) _
      | _ => cases ends

theorem reads_sound {lexemes : List Lexeme} (sound : Sound depth fresh lexemes) :
    ∀ scanner, At scanner depth fresh (lexemes.flatMap Lexeme.chars) →
      Reads scanner (scanner.queue ++ (lexemes.flatMap Lexeme.tokens ++ [.streamEnd])) := by
  induction sound with
  | done => exact fun scanner stands => reads_end stands
  | opens inside ih =>
      intro scanner stands
      rw [List.flatMap_cons, List.append_assoc]
      exact reads_of_steps stands (fun waiting => steps_opens) ih
  | closes outside ih =>
      intro scanner stands
      rw [List.flatMap_cons, List.append_assoc]
      exact reads_of_steps stands (fun waiting => steps_closes) ih
  | comma later ih =>
      intro scanner stands
      rw [List.flatMap_cons, List.append_assoc]
      exact reads_of_steps stands (fun waiting => steps_comma) ih
  | key later ih =>
      intro scanner stands
      rw [List.flatMap_cons, List.append_assoc]
      exact reads_key stands ih
  | word ends later ih =>
      intro scanner stands
      rw [List.flatMap_cons, List.append_assoc]
      have stops := stops_of_endsWord ends
      exact reads_of_steps stands (fun waiting stands => steps_word stands stops) ih
  | quoted later ih =>
      intro scanner stands
      rw [List.flatMap_cons, List.append_assoc]
      exact reads_of_steps stands (fun waiting => steps_quoted) ih

theorem at_start (text : List Char) : At (start text) 0 true text where
  indent := rfl
  outer := rfl
  brackets := rfl
  allowed := fun _ => rfl
  keys := rfl
  optional := by
    intro place member
    simp [start] at member
  waiting := by simp [start]
  rest := ⟨0, rfl⟩

end Scanner

namespace Token

theorem flatten_blocks (room : Nat) (text : List Char) : (blocks room text).flatten = text := by
  fun_induction blocks room text with
  | case1 => rfl
  | case2 room c rest fits cut ih | case4 room c rest fits cut ih =>
      rw [cut] at ih
      rw [← ih]
      rfl
  | case3 room c rest fits first later cut ih | case5 room c rest fits first later cut ih =>
      rw [cut] at ih
      rw [← ih]
      rfl

theorem readable_eq {text : List Char} (allowed : ∀ c ∈ text, isAllowed c = true) :
    readable text = text := by
  have sound : ∀ block ∈ blocks blockSize text, block.all isAllowed = true := by
    intro block listed
    rw [List.all_eq_true]
    intro c member
    refine allowed c ?_
    rw [← flatten_blocks blockSize text]
    exact List.mem_flatten.mpr ⟨block, listed, member⟩
  have whole : (blocks blockSize text).takeWhile (fun block => block.all isAllowed) =
      blocks blockSize text := by
    have front : (blocks blockSize text ++ []).takeWhile (fun block => block.all isAllowed) =
        blocks blockSize text ++ [].takeWhile _ := List.takeWhile_append_of_pos sound
    rwa [List.append_nil, List.takeWhile_nil, List.append_nil] at front
  rw [readable, whole, flatten_blocks]

end Token

theorem isAllowed_of_isBare {c : Char} (bare : isBare c = true) : isAllowed c = true :=
  (inert_of_isBare bare).allowed

theorem isAllowed_hexDigits {count n : Nat} {c : Char} (member : c ∈ hexDigits count n) :
    isAllowed c = true := by
  induction count generalizing n with
  | zero => cases member
  | succ count ih =>
      rw [hexDigits, List.mem_append, List.mem_singleton] at member
      rcases member with before | rfl
      · exact ih before
      · exact (by decide : ∀ digit < 16, isAllowed (Nat.digitChar digit) = true) _
          (Nat.mod_lt n (by decide))

theorem isAllowed_chars {lexeme : Lexeme} {c : Char} (member : c ∈ lexeme.chars) :
    isAllowed c = true := by
  cases lexeme with
  | opens bracket =>
      obtain rfl := List.mem_singleton.mp member
      cases bracket <;> decide
  | closes bracket =>
      obtain rfl := List.mem_singleton.mp member
      cases bracket <;> decide
  | comma => exact (by simp [isAllowed] : ∀ c ∈ [',', ' '], isAllowed c = true) c member
  | key name =>
      rcases List.mem_append.mp member with letter | colon
      · exact isAllowed_of_isBare (name.bare c letter)
      · exact (by simp [isAllowed] : ∀ c ∈ [':', ' '], isAllowed c = true) c colon
  | word text => exact isAllowed_of_isBare (text.bare c member)
  | quoted text =>
      simp only [Lexeme.chars, List.mem_append, List.mem_cons, List.not_mem_nil, or_false,
        List.mem_flatMap] at member
      rcases member with (rfl | ⟨letter, -, escaped⟩) | rfl
      · decide
      · rw [escape] at escaped
        split at escaped
        · rename_i alphanum
          rw [List.mem_singleton] at escaped
          exact isAllowed_of_isBare (isBare_of_isAlphanum (escaped ▸ alphanum))
        · rcases List.mem_cons.mp escaped with rfl | escaped
          · decide
          · rcases List.mem_cons.mp escaped with rfl | digit
            · decide
            · exact isAllowed_hexDigits digit
      · decide

theorem Token.ofText_lexemes {lexemes : List Lexeme} (sound : Sound 0 true lexemes) :
    Token.ofText (String.ofList (lexemes.flatMap Lexeme.chars)) =
      ⟨.streamStart :: (lexemes.flatMap Lexeme.tokens ++ [.streamEnd]), true⟩ := by
  have allowed : ∀ c ∈ lexemes.flatMap Lexeme.chars, isAllowed c = true := by
    intro c member
    obtain ⟨lexeme, -, inside⟩ := List.mem_flatMap.mp member
    exact isAllowed_chars inside
  have uncut : decide ((lexemes.flatMap Lexeme.chars).length <
      (lexemes.flatMap Lexeme.chars).length) = false := decide_eq_false (Nat.lt_irrefl _)
  rw [Token.ofText, String.toList_ofList]
  simp only [Token.readable_eq allowed, uncut]
  exact Scanner.reads_sound sound _ (Scanner.at_start _) _ (Nat.le_succ _)

end BatchLaunch.Yaml
