import BatchLaunch.Host.Image
import BatchLaunch.Proofs.Host.Walk
import BatchLaunch.Proofs.Path.Names

/-!
How a program is looked for. A name with a slash is a path to the program; any other name is looked
for in one directory after another, and what does not lead to a regular file that somebody may
execute is passed over.
-/
namespace BatchLaunch.Host

namespace Files

/-- A path leads to a regular file that somebody may execute. -/
def Runs (files : Files) (cwd : NodeId) (path : String) : Prop :=
  files.executable? cwd path = some true

instance (files : Files) (cwd : NodeId) (path : String) : Decidable (Runs files cwd path) :=
  inferInstanceAs (Decidable (_ = _))

/-- The first place where a program is found. In a directory it has its name, which a slash keeps
apart from the directory; the empty directory is the working directory. -/
inductive Finds (files : Files) (cwd : NodeId) (dirs : List String) (program : String) :
    String → Prop
  | itself (slash : '/' ∈ program.toList) (runs : Runs files cwd program) :
      Finds files cwd dirs program program
  | inTurn {before after : List String} {dir : String} (bare : '/' ∉ program.toList)
      (order : dirs = before ++ dir :: after)
      (passed : ∀ other ∈ before, ¬ Runs files cwd (Path.stem other ++ program))
      (runs : Runs files cwd (Path.stem dir ++ program)) :
      Finds files cwd dirs program (Path.stem dir ++ program)

variable {files : Files} {cwd : NodeId} {dirs : List String} {program path : String}

theorem runs_iff : Runs files cwd path ↔
    ∃ id node mode, files.find cwd path true = .ok (.node id) ∧ files.node? id = some node ∧
      regularMode? node = some mode ∧ hasExecuteBit mode = true := by
  rw [Runs, executable?, Option.map_eq_some_iff]
  simp only [Option.bind_eq_some_iff, get?, lookup]
  constructor
  · rintro ⟨mode, ⟨node, ⟨id, found, present⟩, regular⟩, bits⟩
    split at found
    · cases found
      exact ⟨_, node, mode, ‹_›, present, regular, bits⟩
    · cases found
    · cases found
  · rintro ⟨id, node, mode, found, present, regular, bits⟩
    exact ⟨mode, ⟨node, ⟨id, by rw [found]; rfl, present⟩, regular⟩, bits⟩

theorem Runs.possible (runs : Runs files cwd path) : Possible path := by
  obtain ⟨id, node, mode, found, -⟩ := runs_iff.mp runs
  exact (find_ok_iff.mp found).1

theorem directory_of_find {id : NodeId} (ends : Path.EndsInDirectory path)
    (found : files.find cwd path true = .ok (.node id)) :
    ∃ parent entries attributes, files.node? id = some (.directory parent entries attributes) := by
  obtain ⟨front, last, rfl, dots⟩ := ends
  obtain ⟨-, goes⟩ := find_ok_iff.mp found
  have whole : '/' ∉ last.toList := by
    simp only [List.mem_cons, List.not_mem_nil, or_false] at dots
    rcases dots with rfl | rfl <;> decide
  rw [Text.cutAt_append front whole] at goes
  obtain ⟨left, dir, -, goes⟩ := reaches_of_walk _ _ _ goes (.inl (List.cons_ne_nil last []))
  obtain ⟨left', there, before, stride, goes⟩ := strides_of_walk goes (.inr ⟨rfl, id, rfl⟩)
  cases stride with
  | empty directory =>
      rw [List.append_nil, walk] at goes
      cases goes
      exact ⟨_, _, _, directory⟩
  | same directory passes =>
      rw [List.append_nil, walk] at goes
      cases goes
      exact ⟨_, _, _, directory⟩
  | above directory passes => exact absurd dots (by decide)
  | entry proper present plain => simp_all
  | link proper present link somewhere => simp_all

theorem not_runs_of_endsInDirectory (ends : Path.EndsInDirectory path) :
    ¬ Runs files cwd path := by
  intro runs
  obtain ⟨id, node, mode, found, present, regular, -⟩ := runs_iff.mp runs
  obtain ⟨parent, entries, attributes, directory⟩ := directory_of_find ends found
  rw [present, Option.some.injEq] at directory
  rw [directory] at regular
  cases regular

theorem Finds.runs (finds : Finds files cwd dirs program path) : Runs files cwd path := by
  cases finds with
  | itself slash runs => exact runs
  | inTurn bare order passed runs => exact runs

theorem finds_iff_of_slash (slash : '/' ∈ program.toList) :
    Finds files cwd dirs program path ↔ path = program ∧ Runs files cwd program := by
  constructor
  · intro finds
    cases finds with
    | itself _ runs => exact ⟨rfl, runs⟩
    | inTurn bare order passed runs => exact absurd slash bare
  · rintro ⟨rfl, runs⟩
    exact .itself slash runs

theorem finds_iff_of_bare (bare : '/' ∉ program.toList) :
    Finds files cwd dirs program path ↔
      (dirs.map fun dir => Path.stem dir ++ program).find? (fun place =>
        decide (Runs files cwd place)) = some path := by
  simp only [List.find?_eq_some_iff_append, List.map_eq_append_iff, List.map_eq_cons_iff,
    decide_eq_true_eq, Bool.not_eq_true', decide_eq_false_iff_not]
  constructor
  · intro finds
    cases finds with
    | itself slash runs => exact absurd slash bare
    | inTurn _ order passed runs =>
        refine ⟨runs, _, _, ⟨_, _, order, rfl, _, _, rfl, rfl, rfl⟩, ?_⟩
        simpa using passed
  · rintro ⟨runs, _, _, ⟨before, _, order, rfl, dir, after, rfl, rfl, rfl⟩, passed⟩
    exact .inTurn bare order (by simpa using passed) runs

theorem exists_finds (bare : '/' ∉ program.toList) {dir : String} (listed : dir ∈ dirs)
    (runs : Runs files cwd (Path.stem dir ++ program)) :
    ∃ path, Finds files cwd dirs program path := by
  simp only [finds_iff_of_bare bare, ← Option.isSome_iff_exists, List.find?_isSome,
    List.mem_map, decide_eq_true_eq]
  exact ⟨_, ⟨dir, listed, rfl⟩, runs⟩

theorem Finds.nonempty (finds : Finds files cwd dirs program path) : program ≠ "" := by
  rintro rfl
  cases finds with
  | itself slash runs => simp at slash
  | @inTurn before after dir bare order passed runs =>
      rw [String.append_empty] at runs
      rcases Path.stem_cases dir with ⟨-, stem⟩ | ⟨front, stem, -⟩
      · exact absurd stem runs.possible.nonempty
      · rw [stem] at runs
        exact not_runs_of_endsInDirectory ⟨front, "", by simp, by decide⟩ runs

theorem Finds.clean (finds : Finds files cwd dirs program path) : '\x00' ∉ program.toList := by
  have clean := finds.runs.possible.clean
  cases finds with
  | itself slash runs => exact clean
  | inTurn bare order passed runs =>
      rw [String.toList_append, List.mem_append, not_or] at clean
      exact clean.2

end Files
end BatchLaunch.Host
