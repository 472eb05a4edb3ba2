import BatchLaunch.Proofs.CommandLine.Occurrence

/-!
Reading a list of arguments takes in one option after the other, and accepts nothing else. That a
value in an argument of its own is judged only later changes nothing about what comes out.
-/
namespace BatchLaunch.CommandLine

open Fallible (bind_congr bind_ok_iff map_ok_iff mapError_ok_iff)

namespace Progress

variable {progress next : Progress} {text : String} {chars : List Char}

def take (progress : Progress) : Occurrence → Except Stop Progress
  | .flag flag => progress.raise flag
  | .attached setting value | .apart setting value =>
      ((store progress.options setting value).mapError .refused).map fun options =>
        { progress with options := options }

theorem argument_long (spelled : text.toList = '-' :: '-' :: chars) (progress : Progress) :
    progress.argument text = progress.long (String.ofList (cutValue chars).1)
      ((cutValue chars).2.map String.ofList) := by
  rw [argument, spelled]
  rfl

theorem argument_cut (occurrence : Occurrence) {behind : List String}
    (words : occurrence.words = text :: behind) (progress : Progress) :
    progress.argument text = progress.long (String.ofList occurrence.cut.1)
      (occurrence.cut.2.map String.ofList) := by
  obtain ⟨first, rest, chars, words', spelled, cut⟩ := occurrence.words_cut
  obtain ⟨rfl, -⟩ := List.cons.inj (words.symm.trans words')
  rw [argument_long spelled, cut]

theorem argument_flag (flag : Flag) (progress : Progress) :
    progress.argument flag.spelling = progress.raise flag := by
  rw [argument_cut (.flag flag) rfl]
  simp only [Occurrence.cut, String.ofList_toList, Option.map_none, long,
    Flag.ofName?_eq_some.mpr rfl]

theorem argument_attached (setting : Setting) (value : String) (progress : Progress) :
    progress.argument (setting.dashed ++ "=" ++ value) =
      progress.settle.mapError .refused >>= fun settled =>
        settled.take (.attached setting value) := by
  rw [argument_cut (.attached setting value) rfl]
  simp only [Occurrence.cut, String.ofList_toList, Option.map_some, long,
    Setting.ofName?_eq_some.mpr rfl, setting.flag_ofName?, take]
  refine congrArg _ (funext fun settled => ?_)
  cases store settled.options setting value <;> rfl

theorem argument_dashed (setting : Setting) (progress : Progress) :
    progress.argument setting.dashed =
      progress.settle.mapError .refused >>= fun settled =>
        .ok { settled with pending := some ⟨setting, none⟩ } := by
  rw [argument_cut (.apart setting "") rfl]
  simp only [Occurrence.cut, String.ofList_toList, Option.map_none, long,
    Setting.ofName?_eq_some.mpr rfl, setting.flag_ofName?]

theorem argument_plain (plain : ¬ LooksLikeOption text) (progress : Progress) :
    progress.argument text = progress.word text := by
  rw [argument]
  split
  · rename_i rest spelled
    exact absurd ⟨_, _, spelled⟩ plain
  · rename_i letter letters spelled
    exact absurd ⟨_, _, spelled⟩ plain
  · rfl

theorem arguments_cons (notEnd : text ≠ "--") (rest : List String) (progress : Progress) :
    progress.arguments (text :: rest) =
      progress.argument text >>= fun next => next.arguments rest := by
  rw [arguments.eq_def]
  split
  · rename_i same
    cases same
  · rename_i same
    cases same
    exact absurd rfl notEnd
  · rename_i same
    cases same
    rfl

theorem settle_pending {settled : Progress} (settles : progress.settle = .ok settled) :
    settled.pending = none := by
  rw [settle] at settles
  split at settles
  · rename_i nothing
    cases settles
    exact nothing
  · cases settles
  · obtain ⟨options, -, rfl⟩ := map_ok_iff.mp settles
    rfl

theorem settle_of_none (nothing : progress.pending = none) : progress.settle = .ok progress := by
  rw [settle, nothing]

theorem raise_eq (flag : Flag) (progress : Progress) :
    progress.raise flag =
      progress.settle.mapError .refused >>= fun settled => settled.raise flag := by
  rw [raise]
  refine bind_congr fun settled settles => ?_
  rw [raise, settle_of_none (settle_pending (mapError_ok_iff.mp settles))]
  rfl

theorem take_pending {occurrence : Occurrence} (nothing : progress.pending = none)
    (taken : progress.take occurrence = .ok next) : next.pending = none := by
  cases occurrence with
  | flag flag =>
      rw [take, raise, settle_of_none nothing] at taken
      obtain ⟨settled, ⟨⟩, raised⟩ := bind_ok_iff.mp taken
      split at raised
      · cases raised
      · cases raised
      · split at raised
        · cases raised
        · cases raised
          exact nothing
  | attached setting value =>
      obtain ⟨options, -, rfl⟩ := map_ok_iff.mp taken
      exact nothing
  | apart setting value =>
      obtain ⟨options, -, rfl⟩ := map_ok_iff.mp taken
      exact nothing

theorem ne_dashes_of_plain (plain : ¬ LooksLikeOption text) : text ≠ "--" := by
  rintro rfl
  exact plain ⟨_, _, rfl⟩

theorem settle_value (nothing : progress.pending = none) (setting : Setting) (value : String) :
    ({ progress with pending := some ⟨setting, some value⟩ } : Progress).settle.mapError .refused =
      progress.take (.apart setting value) := by
  simp only [settle, take]
  cases store progress.options setting value with
  | error fault => rfl
  | ok options => rw [nothing]; rfl

theorem spelled_ne_dashes (occurrence : Occurrence) {behind : List String}
    (words : occurrence.words = text :: behind) : text ≠ "--" := by
  rintro rfl
  exact occurrence.words_ne_dashes [] behind (by rw [words, List.append_nil])

theorem arguments_words {occurrences : List Occurrence} {ending : List String}
    (stand : ∀ occurrence ∈ occurrences, occurrence.Stands) (ends : ending ∈ [[], ["--"]]) :
    progress.arguments (occurrences.flatMap Occurrence.words ++ ending) =
      progress.settle.mapError .refused >>= fun settled => occurrences.foldlM take settled := by
  induction occurrences generalizing progress with
  | nil =>
      have closes : progress.arguments ending = progress.settle.mapError .refused := by
        rw [List.mem_cons, List.mem_singleton] at ends
        rcases ends with rfl | rfl <;> rfl
      simp only [List.flatMap_nil, List.nil_append, closes, List.foldlM_nil, bind_pure]
  | cons occurrence occurrences ih =>
      obtain ⟨stands, later⟩ := List.forall_mem_cons.mp stand
      have onward (settled : Progress) (nothing : settled.pending = none) :
          (settled.take occurrence >>= fun next =>
            next.arguments (occurrences.flatMap Occurrence.words ++ ending)) =
              (occurrence :: occurrences).foldlM take settled := by
        rw [List.foldlM_cons]
        refine bind_congr fun next taken => ?_
        have closed := take_pending nothing taken
        rw [ih later, settle_of_none closed]
        rfl
      rw [List.flatMap_cons, List.append_assoc]
      cases occurrence with
      | flag flag =>
          have first := spelled_ne_dashes (.flag flag) rfl
          rw [Occurrence.words, List.singleton_append, arguments_cons first, argument_flag,
            raise_eq, bind_assoc]
          exact bind_congr fun settled settles =>
            onward settled (settle_pending (mapError_ok_iff.mp settles))
      | attached setting value =>
          have first := spelled_ne_dashes (.attached setting value) rfl
          rw [Occurrence.words, List.singleton_append, arguments_cons first, argument_attached,
            bind_assoc]
          exact bind_congr fun settled settles =>
            onward settled (settle_pending (mapError_ok_iff.mp settles))
      | apart setting value =>
          have first := spelled_ne_dashes (.apart setting value) rfl
          rw [Occurrence.words, List.cons_append, List.singleton_append, arguments_cons first,
            argument_dashed, bind_assoc]
          refine bind_congr fun settled settles => ?_
          have nothing := settle_pending (mapError_ok_iff.mp settles)
          let named : Progress := { settled with pending := some ⟨setting, none⟩ }
          let valued : Progress := { settled with pending := some ⟨setting, some value⟩ }
          have goesOn : named.argument value = .ok valued := argument_plain stands named
          have reads : valued.settle.mapError .refused = settled.take (.apart setting value) :=
            settle_value nothing setting value
          calc named.arguments (value :: (occurrences.flatMap Occurrence.words ++ ending))
            _ = valued.arguments (occurrences.flatMap Occurrence.words ++ ending) := by
                rw [arguments_cons (ne_dashes_of_plain stands), goesOn]
                rfl
            _ = settled.take (.apart setting value) >>= fun next => occurrences.foldlM take next := by
                rw [ih later, reads]
            _ = (Occurrence.apart setting value :: occurrences).foldlM take settled :=
                List.foldlM_cons.symm

/-! Only options are accepted. -/

/-- What of a list of arguments is read but not yet a whole option. -/
def named (progress : Progress) : List String :=
  match progress.pending with
  | some ⟨setting, none⟩ => [setting.dashed]
  | _ => []

/-- An argument that is accepted is an option, or names a setting, or is the value for one. -/
inductive Moves (progress : Progress) (text : String) (next : Progress) : Prop
  | option (occurrence : Occurrence) (closed : progress.named = []) (stands : occurrence.Stands)
      (words : occurrence.words = [text]) (closes : next.named = [])
  | setting (closed : progress.named = []) (opens : next.named = [text])
  | value {setting : Setting} (opened : progress.named = [setting.dashed])
      (plain : ¬ LooksLikeOption text) (closes : next.named = [])

theorem named_of_settle {settled : Progress} (settles : progress.settle = .ok settled) :
    progress.named = [] := by
  rw [settle] at settles
  rw [named]
  split
  · rename_i opened
    simp [opened] at settles
  · rfl

theorem named_of_none (nothing : progress.pending = none) : progress.named = [] := by
  rw [named, nothing]

theorem raise_ok {flag : Flag} (raised : progress.raise flag = .ok next) :
    flag.IsMode ∧ progress.named = [] ∧ next.pending = none := by
  rw [raise] at raised
  obtain ⟨settled, settles, raised⟩ := bind_ok_iff.mp raised
  have settles := mapError_ok_iff.mp settles
  have closed := named_of_settle settles
  have nothing := settle_pending settles
  cases flag with
  | help => cases raised
  | version => cases raised
  | _ =>
      simp only at raised
      split at raised
      · cases raised
      · cases raised
        exact ⟨by decide, closed, nothing⟩

theorem moves_of_long {name : List Char} {value : Option (List Char)}
    (spelled : text.toList = '-' :: '-' :: (name ++ value.elim [] ('=' :: ·)))
    (read : progress.long (String.ofList name) (value.map String.ofList) = .ok next) :
    Moves progress text next := by
  have single {word : String} (same : word.toList = text.toList) : [word] = [text] :=
    congrArg (fun word => [word]) (String.toList_inj.mp same)
  cases isFlag : Flag.ofName? (String.ofList name) with
  | some flag =>
      have known := Flag.ofName?_eq_some.mp isFlag
      cases value with
      | some chars => simp [long, isFlag] at read
      | none =>
          simp only [long, isFlag, Option.map_none] at read
          obtain ⟨mode, closed, nothing⟩ := raise_ok read
          have words : (Occurrence.flag flag).words = [text] :=
            single (by rw [Flag.spelling, ← known, spelled]; simp)
          exact .option (.flag flag) closed mode words (named_of_none nothing)
  | none =>
      cases isSetting : Setting.ofName? (String.ofList name) with
      | none => simp [long, isFlag, isSetting] at read
      | some setting =>
          have known := Setting.ofName?_eq_some.mp isSetting
          cases value with
          | some chars =>
              simp only [long, isFlag, isSetting, Option.map_some] at read
              obtain ⟨settled, settles, read⟩ := bind_ok_iff.mp read
              obtain ⟨options, -, ⟨⟩⟩ := bind_ok_iff.mp read
              have settles := mapError_ok_iff.mp settles
              have nothing := settle_pending settles
              have words : (Occurrence.attached setting (String.ofList chars)).words = [text] :=
                single (by rw [Setting.dashed, ← known, spelled]; simp)
              exact .option (.attached setting (String.ofList chars)) (named_of_settle settles)
                trivial words (named_of_none nothing)
          | none =>
              simp only [long, isFlag, isSetting, Option.map_none] at read
              obtain ⟨settled, settles, ⟨⟩⟩ := bind_ok_iff.mp read
              exact .setting (named_of_settle (mapError_ok_iff.mp settles))
                (single (by rw [Setting.dashed, ← known, spelled]; simp))

theorem moves_of_argument (read : progress.argument text = .ok next) :
    Moves progress text next := by
  rw [argument] at read
  split at read
  · rename_i rest spelled
    have cut := eq_of_cutValue (show cutValue rest = (_, _) from rfl)
    exact moves_of_long (cut ▸ spelled) read
  · rename_i letter letters spelled
    obtain ⟨after, read, -⟩ := bind_ok_iff.mp read
    rw [short.eq_def] at read
    split at read
    · exact absurd (raise_ok read).1 (by decide)
    · exact absurd (raise_ok read).1 (by decide)
    · cases read
  · rename_i long short
    rw [word] at read
    split at read
    · rename_i setting opened
      cases read
      refine .value (by rw [named, opened]) ?_ rfl
      rintro ⟨c, rest, spelled⟩
      exact short c rest spelled
    · cases read

theorem line_of_arguments {args : List String} {final : Progress}
    (read : progress.arguments args = .ok final) :
    ∃ occurrences, Line (progress.named ++ args) occurrences := by
  induction args generalizing progress with
  | nil =>
      have settles : progress.settle = .ok final := mapError_ok_iff.mp read
      exact ⟨[], by simp, [], by simp, by rw [named_of_settle settles]; rfl⟩
  | cons text args ih =>
      by_cases ends : text = "--"
      · subst ends
        cases args with
        | nil =>
            have settles : progress.settle = .ok final := mapError_ok_iff.mp read
            exact ⟨[], by simp, ["--"], by simp, by rw [named_of_settle settles]; rfl⟩
        | cons extra args => cases read
      · rw [arguments_cons ends] at read
        obtain ⟨next, first, later⟩ := bind_ok_iff.mp read
        obtain ⟨occurrences, line⟩ := ih later
        cases moves_of_argument first with
        | option occurrence closed stands words closes =>
            rw [closes] at line
            refine ⟨occurrence :: occurrences, ?_⟩
            rw [closed, List.nil_append, ← List.singleton_append, ← words]
            exact line.cons stands
        | setting closed opens =>
            rw [opens] at line
            exact ⟨occurrences, by rw [closed]; exact line⟩
        | value opened plain closes =>
            rename_i setting
            rw [closes] at line
            refine ⟨.apart setting text :: occurrences, ?_⟩
            rw [opened]
            exact line.cons (show (Occurrence.apart setting text).Stands from plain)

end Progress
end BatchLaunch.CommandLine
