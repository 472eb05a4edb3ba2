import BatchLaunch.Path

/-!
What a path is made of when a name is put below a directory: the names that lead to the directory,
and the name itself. However the directory is written, the name stands alone at the end.
-/
namespace BatchLaunch

namespace Text

variable {separator : Char}

theorem partsAt_single {part : List Char} (whole : separator ∉ part) :
    partsAt separator part = [part] := by
  induction part with
  | nil => rfl
  | cons c rest ih =>
      rw [List.mem_cons, not_or] at whole
      rw [partsAt, if_neg (Ne.symm whole.1), ih whole.2]

theorem partsAt_ne_nil (chars : List Char) : partsAt separator chars ≠ [] := by
  cases chars with
  | nil => simp [partsAt]
  | cons c rest =>
      rw [partsAt]
      split
      · simp
      · split <;> simp

theorem partsAt_append (front back : List Char) :
    partsAt separator (front ++ separator :: back) =
      partsAt separator front ++ partsAt separator back := by
  induction front with
  | nil => simp [partsAt]
  | cons c front ih =>
      rw [List.cons_append, partsAt, partsAt, ih]
      by_cases ends : c = separator
      · rw [if_pos ends, if_pos ends, List.cons_append]
      · rw [if_neg ends, if_neg ends]
        obtain ⟨first, others, cut⟩ := List.exists_cons_of_ne_nil (partsAt_ne_nil front)
        rw [cut]
        rfl

theorem cutAt_single {part : String} (whole : separator ∉ part.toList) :
    cutAt separator part = [part] := by
  rw [cutAt, partsAt_single whole, List.map_singleton, String.ofList_toList]

theorem cutAt_between (front back : String) :
    cutAt separator (front ++ String.singleton separator ++ back) =
      cutAt separator front ++ cutAt separator back := by
  simp only [cutAt, String.toList_append, String.toList_singleton, List.append_assoc,
    List.singleton_append, partsAt_append, List.map_append]

theorem cutAt_append (front : String) {name : String} (whole : separator ∉ name.toList) :
    cutAt separator (front ++ String.singleton separator ++ name) =
      cutAt separator front ++ [name] := by
  rw [cutAt_between, cutAt_single whole]

theorem cutAt_ne_nil (text : String) : cutAt separator text ≠ [] := by
  simpa [cutAt] using partsAt_ne_nil text.toList

end Text

namespace Path

/-- A text that can name an entry of a directory. -/
structure IsName (name : String) : Prop where
  nonempty : name ≠ ""
  whole : '/' ∉ name.toList
  notHere : name ≠ "."
  notAbove : name ≠ ".."

instance (name : String) : Decidable (IsName name) :=
  decidable_of_iff (name ≠ "" ∧ '/' ∉ name.toList ∧ name ≠ "." ∧ name ≠ "..")
    ⟨fun ⟨nonempty, whole, notHere, notAbove⟩ => ⟨nonempty, whole, notHere, notAbove⟩,
      fun named => ⟨named.nonempty, named.whole, named.notHere, named.notAbove⟩⟩

def stem (dir : String) : String :=
  if dir.isEmpty || dir.toList.getLast? == some '/' then dir else dir ++ "/"

/-- The names that lead to a directory, of which the empty path has none. -/
def dirNames (dir : String) : List String := (Text.cutAt '/' (stem dir)).dropLast

variable {name : String}

theorem IsName.relative (named : IsName name) : isAbsolute name = false := by
  rw [isAbsolute]
  apply beq_false_of_ne
  intro starts
  exact named.whole (List.mem_of_mem_head? starts)

theorem join_relative (dir : String) {path : String} (relative : isAbsolute path = false) :
    join dir path = stem dir ++ path := by
  rw [join, relative, Bool.false_or, stem]
  by_cases empty : dir.isEmpty
  · rw [if_pos empty, empty, Bool.true_or, if_pos rfl, String.isEmpty_iff.mp empty,
      String.empty_append]
  · simp only [empty, Bool.false_or, Bool.false_eq_true, if_false]
    split <;> rfl

theorem join_eq (dir : String) (named : IsName name) : join dir name = stem dir ++ name :=
  join_relative dir named.relative

theorem stem_cases (dir : String) :
    dir = "" ∧ stem dir = "" ∨
      ∃ front : String, stem dir = front ++ String.singleton '/' ∧
        (dir = front ++ String.singleton '/' ∨ dir = front) := by
  rw [stem]
  by_cases empty : dir.isEmpty
  · refine .inl ⟨String.isEmpty_iff.mp empty, ?_⟩
    rw [empty, Bool.true_or, if_pos rfl, String.isEmpty_iff.mp empty]
  · simp only [empty, Bool.false_or, beq_iff_eq]
    split
    · rename_i slash
      obtain ⟨front, ends⟩ := List.getLast?_eq_some_iff.mp slash
      have whole : dir = String.ofList front ++ String.singleton '/' := by
        refine String.toList_inj.mp ?_
        simp [ends]
      exact .inr ⟨String.ofList front, whole, .inl whole⟩
    · exact .inr ⟨dir, rfl, .inr rfl⟩

theorem cutAt_slash (front : String) :
    Text.cutAt '/' (front ++ String.singleton '/') = Text.cutAt '/' front ++ [""] := by
  have whole : '/' ∉ "".toList := by simp
  simpa using Text.cutAt_append front whole

theorem dirNames_empty : dirNames "" = [] := by decide

theorem dirNames_of_stem {dir front : String} (ends : stem dir = front ++ String.singleton '/') :
    dirNames dir = Text.cutAt '/' front := by
  rw [dirNames, ends, cutAt_slash, List.dropLast_concat]

theorem cutAt_join (dir : String) (named : IsName name) :
    Text.cutAt '/' (join dir name) = dirNames dir ++ [name] := by
  rw [join_eq dir named]
  rcases stem_cases dir with ⟨rfl, empty⟩ | ⟨front, ends, -⟩
  · rw [empty, String.empty_append, Text.cutAt, Text.partsAt_single named.whole, dirNames_empty]
    simp
  · rw [dirNames_of_stem ends, ends, Text.cutAt_append front named.whole]

theorem cutAt_dir {dir : String} (nonempty : dir ≠ "") :
    Text.cutAt '/' dir = dirNames dir ∨ Text.cutAt '/' dir = dirNames dir ++ [""] := by
  rcases stem_cases dir with ⟨empty, -⟩ | ⟨front, ends, same | same⟩
  · exact absurd empty nonempty
  · refine .inr ?_
    rw [dirNames_of_stem ends, same, cutAt_slash]
  · refine .inl ?_
    rw [dirNames_of_stem ends, same]

theorem join_extends (dir : String) (named : IsName name) :
    ∃ more, join dir name = dir ++ more := by
  rw [join_eq dir named, stem]
  split
  · exact ⟨name, rfl⟩
  · exact ⟨"/" ++ name, String.append_assoc ..⟩

theorem getLast?_join (dir : String) (named : IsName name) :
    (Text.cutAt '/' (join dir name)).getLast? = some name := by
  rw [cutAt_join dir named, List.getLast?_concat]

/-!
Paths with slashes that count as bare names. A path of more than one component has a slash, but so
have some paths of one component, like `x/`, `./` or `/`; all of these end in what can only be a
directory.
-/

/-- Behind its last slash a path has nothing or a dot, so that it can only lead to a directory. -/
def EndsInDirectory (path : String) : Prop :=
  ∃ front last : String, path = front ++ String.singleton '/' ++ last ∧ last ∈ ["", "."]

variable {path : String}

theorem exists_last_slash (slash : '/' ∈ path.toList) :
    ∃ front last : String, path = front ++ String.singleton '/' ++ last ∧ '/' ∉ last.toList := by
  obtain ⟨back, front, split, whole⟩ :=
    List.eq_append_cons_of_mem (List.mem_reverse.mpr slash)
  refine ⟨String.ofList front.reverse, String.ofList back.reverse, String.toList_inj.mp ?_, ?_⟩
  · simpa using congrArg List.reverse split
  · simpa using whole

theorem isDirect_of_bare (bare : '/' ∉ path.toList) : isDirect path = false := by
  rw [isDirect, componentCount, Text.cutAt_single bare]
  by_cases empty : path = "" <;> simp [empty]

theorem isAbsolute_of_bare (bare : '/' ∉ path.toList) : isAbsolute path = false := by
  rw [isAbsolute]
  apply beq_false_of_ne
  intro starts
  exact bare (List.mem_of_mem_head? starts)

theorem endsInDirectory_of_not_isDirect (slash : '/' ∈ path.toList)
    (single : isDirect path = false) : EndsInDirectory path := by
  obtain ⟨front, last, rfl, whole⟩ := exists_last_slash slash
  refine ⟨front, last, rfl, ?_⟩
  obtain ⟨first, more, cut⟩ :=
    List.exists_cons_of_ne_nil (Text.cutAt_ne_nil front : Text.cutAt '/' front ≠ [])
  rw [isDirect, componentCount, Text.cutAt_append front whole, cut] at single
  refine Decidable.byContradiction fun named => ?_
  have kept : last ∈ (more ++ [last]).filter fun part => part ≠ "" && part ≠ "." :=
    List.mem_filter.mpr ⟨List.mem_concat_self, by simpa using named⟩
  have counted := List.length_pos_of_mem kept
  have further : (more ++ [last]).isEmpty = false := by simp
  simp only [List.cons_append, further, Bool.and_false, Bool.false_eq_true, if_false,
    decide_eq_false_iff_not] at single
  omega

theorem EndsInDirectory.append (ends : EndsInDirectory path) (before : String) :
    EndsInDirectory (before ++ path) := by
  obtain ⟨front, last, rfl, directory⟩ := ends
  exact ⟨before ++ front, last, by simp only [String.append_assoc], directory⟩

theorem EndsInDirectory.join (ends : EndsInDirectory path) (dir : String) :
    EndsInDirectory (join dir path) := by
  cases absolute : isAbsolute path with
  | true =>
      rw [Path.join, absolute, Bool.true_or, if_pos rfl]
      exact ends
  | false =>
      rw [join_relative dir absolute]
      exact ends.append (stem dir)

end Path
end BatchLaunch
