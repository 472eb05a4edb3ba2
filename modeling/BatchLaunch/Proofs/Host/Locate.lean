import BatchLaunch.Proofs.Host.Lookup
import BatchLaunch.Proofs.Host.Requests
import Mathlib.Data.List.Find

/-!
Where a program is started from. Starting goes by the places where a program is looked for, in their
order, as long as no path is too long for the system, no way runs in a circle of links, and every
regular file that somebody may execute can be executed.
-/
namespace BatchLaunch.Host

namespace Files

variable {files : Files} {cwd here id : NodeId} {follow : Bool} {links : Nat}
  {names rest : List String} {path program dir name : String} {errno : Errno}

theorem walk_ne_notExecutable :
    files.walk follow links here names ≠ .error .notExecutable := by
  fun_induction files.walk follow links here names
  all_goals simp_all

theorem lookup_ne_notExecutable : files.lookup cwd path follow ≠ .error .notExecutable := by
  intro refused
  rw [lookup] at refused
  split at refused
  · cases refused
  · cases refused
  · rename_i found
    cases refused
    rw [find] at found
    repeat' split at found
    all_goals first | cases found | exact walk_ne_notExecutable found

theorem walk_empty_cons :
    files.walk follow links here ("" :: name :: rest) =
      files.walk follow links here (name :: rest) := by
  by_cases given : ∃ parent entries attributes,
      files.node? here = some (.directory parent entries attributes)
  · obtain ⟨parent, entries, attributes, directory⟩ := given
    exact walk_empty directory
  · simp only [not_exists] at given
    rw [walk_noDirectory given, walk_noDirectory given]

theorem find_slashes {front : String} (whole : '/' ∉ name.toList)
    (short : (front ++ String.singleton '/' ++ String.singleton '/' ++ name).utf8ByteSize ≤
      pathLimit) :
    files.find cwd (front ++ String.singleton '/' ++ String.singleton '/' ++ name) true =
        .ok (.node id) ↔
      files.find cwd (front ++ String.singleton '/' ++ name) true = .ok (.node id) := by
  have nothing : '/' ∉ ("" : String).toList := by simp
  have cut : Text.cutAt '/' (front ++ String.singleton '/') = Text.cutAt '/' front ++ [""] :=
    Path.cutAt_slash front
  have start : origin cwd (front ++ String.singleton '/' ++ String.singleton '/' ++ name) =
      origin cwd (front ++ String.singleton '/' ++ name) := by
    rw [origin, origin]
    cases first : front.toList <;> simp [first]
  have possible : Possible (front ++ String.singleton '/' ++ String.singleton '/' ++ name) ↔
      Possible (front ++ String.singleton '/' ++ name) := by
    constructor
    · intro possible
      have clean := possible.clean
      refine ⟨by simp, ?_, ?_⟩
      · simpa using clean
      · simp only [String.utf8ByteSize_append] at short ⊢
        omega
    · intro possible
      have clean := possible.clean
      refine ⟨by simp, ?_, short⟩
      simpa using clean
  rw [find_ok_iff, find_ok_iff, possible, start, Text.cutAt_append _ whole,
    Text.cutAt_append _ whole, cut, List.append_assoc, List.singleton_append]
  refine and_congr_right fun _ => ⟨fun goes => ?_, fun goes => ?_⟩
  · obtain ⟨left, there, reaches, last⟩ := reaches_of_walk _ _ _ goes (.inl (by simp))
    rw [reaches.walk (.inr rfl), ← last, walk_empty_cons]
  · obtain ⟨left, there, reaches, last⟩ := reaches_of_walk _ _ _ goes (.inl (by simp))
    rw [reaches.walk (.inr rfl), ← last, walk_empty_cons]

def Alike (files : Files) (cwd : NodeId) (path other : String) : Prop :=
  ∀ id, files.find cwd path true = .ok (.node id) ↔ files.find cwd other true = .ok (.node id)

theorem runs_congr {other : String} (alike : Alike files cwd path other) :
    Runs files cwd path ↔ Runs files cwd other := by
  simp only [runs_iff, alike _]

theorem hasExecuteBit_of_grants {attributes : Attributes} (granted : attributes.grants 1) :
    hasExecuteBit attributes.mode = true := by
  have bit : attributes.mode.testBit 6 = true ∨ attributes.mode.testBit 0 = true := by
    rw [Attributes.grants, decide_eq_true_eq] at granted
    have one := congrArg (Nat.testBit · 0) granted
    split at one
    · exact .inl (by simpa [Nat.testBit_and, Nat.testBit_eq_decide_div_mod_eq] using one)
    · exact .inr (by simpa [Nat.testBit_and] using one)
  rw [hasExecuteBit, decide_eq_true_eq]
  intro none
  rcases bit with bit | bit
  · have masked : (attributes.mode &&& 0o111).testBit 6 = true := by
      rw [Nat.testBit_and, bit]
      decide
    simp [none] at masked
  · have masked : (attributes.mode &&& 0o111).testBit 0 = true := by
      rw [Nat.testBit_and, bit]
      decide
    simp [none] at masked

end Files

namespace Image

open Files (Runs Finds)

variable {files : Files} {busy : NodeId → Bool} {cwd : NodeId} {searchPath : Option String}
  {program path dir : String} {args : List Octets} {loads : Nat} {errno : Errno} {image : Image}

/-- The directories of a search path, or those that are searched where none is set. -/
def searchDirs (searchPath : Option String) : List String :=
  Text.cutAt ':' (searchPath.getD defaultSearchPath)

/-- How a name in a directory is spelled to start it. -/
def spelled (program dir : String) : String :=
  if dir.isEmpty then program else dir ++ "/" ++ program

/-- No path that is tried is too long. -/
def Fits (searchPath : Option String) (program : String) : Prop :=
  '/' ∉ program.toList → ∀ dir ∈ searchDirs searchPath,
    dir.utf8ByteSize + program.utf8ByteSize < Files.pathLimit

theorem candidates_of_slash (slash : '/' ∈ program.toList) :
    candidates searchPath program = [program] := by
  rw [candidates, List.contains_iff_mem.mpr slash, if_pos rfl]

theorem candidates_of_bare (bare : '/' ∉ program.toList) (fits : Fits searchPath program) :
    candidates searchPath program = (searchDirs searchPath).map (spelled program) := by
  have short : ∀ dir ∈ searchDirs searchPath, ¬ Files.pathLimit < dir.utf8ByteSize := by
    intro dir member
    have bound := fits bare dir member
    omega
  have last : ((searchDirs searchPath).getLast?.any fun dir =>
      decide (Files.pathLimit < dir.utf8ByteSize)) = false := by
    rw [Option.any_eq_false]
    intro dir member
    simpa using short dir (List.mem_of_getLast? member)
  have noSlash : program.toList.contains '/' = false := by simpa using bare
  simp only [candidates, noSlash, Bool.false_eq_true, if_false]
  rw [searchDirs] at short last ⊢
  rw [last, if_neg (by decide)]
  refine List.map_congr_left fun dir member => ?_
  rw [spelled]
  simp [short dir member]

theorem alike_spelled (bare : '/' ∉ program.toList)
    (short : dir.utf8ByteSize + program.utf8ByteSize < Files.pathLimit) :
    Files.Alike files cwd (spelled program dir) (Path.stem dir ++ program) := by
  intro id
  rw [spelled]
  rcases Path.stem_cases dir with ⟨rfl, stem⟩ | ⟨front, stem, rfl | rfl⟩
  · rw [stem, String.empty_append]
    rfl
  · rw [if_neg (by simp), stem]
    refine Files.find_slashes bare ?_
    simp only [String.utf8ByteSize_append, String.utf8ByteSize_singleton] at short ⊢
    have one : ('/' : Char).utf8Size = 1 := by decide
    omega
  · by_cases empty : dir = ""
    · rw [empty] at stem
      simp [Path.stem] at stem
    · rw [if_neg (by simpa using empty), stem]
      rfl

theorem find_of_lookup {id : NodeId} (found : files.lookup cwd path true = .ok id) :
    files.find cwd path true = .ok (.node id) := by
  rw [Files.lookup] at found
  split at found
  · rename_i reaches
    rw [reaches, Except.ok.inj found]
  · cases found
  · cases found

/-- What is no regular file that somebody may execute is refused as its look-up is, or for lack of
permission. -/
theorem atPath_refused (refused : ¬ Runs files cwd path) :
    ∃ errno, atPath files busy cwd loads path args = .error errno ∧
      (errno = .denied ∨ files.lookup cwd path true = .error errno) := by
  rw [atPath]
  cases found : files.lookup cwd path true with
  | error errno => exact ⟨errno, rfl, .inr rfl⟩
  | ok id =>
      have reaches := find_of_lookup found
      refine ⟨.denied, ?_, .inl rfl⟩
      simp only
      split
      · rename_i present
        exact absurd (Files.runs_iff.mpr ⟨id, _, _, reaches, present, rfl, by decide⟩) refused
      · rename_i present
        exact absurd (Files.runs_iff.mpr ⟨id, _, _, reaches, present, rfl, by decide⟩) refused
      · rename_i attributes present
        cases granted : attributes.grants 1 with
        | false => rfl
        | true =>
            exact absurd (Files.runs_iff.mpr ⟨id, _, _, reaches, present, rfl,
              Files.hasExecuteBit_of_grants granted⟩) refused
      · rfl

theorem runnable_refused (refused : ¬ Runs files cwd path)
    (short : ∀ word ∈ args, word.length < argumentLimit) :
    ∃ errno, runnable files busy cwd path args = .error errno ∧
      (errno = .denied ∨ files.lookup cwd path true = .error errno) := by
  have fits : (args.any fun word => decide (argumentLimit ≤ word.length)) = false := by
    simpa using short
  obtain ⟨errno, result, reason⟩ :
      ∃ errno, atPath files busy cwd loadLimit path args = .error errno ∧
        (errno = .denied ∨ files.lookup cwd path true = .error errno) := atPath_refused refused
  refine ⟨errno, ?_, reason⟩
  rw [runnable, fits, if_neg (by decide), result]
  split
  · rename_i same
    cases same
    rcases reason with ended | missing
    · cases ended
    · exact absurd missing Files.lookup_ne_notExecutable
  · rfl

theorem runs_of_runnable (runs : runnable files busy cwd path args = .ok image) :
    Runs files cwd path := by
  refine Decidable.byContradiction fun refused => ?_
  by_cases short : ∀ word ∈ args, word.length < argumentLimit
  · obtain ⟨errno, result, -⟩ := runnable_refused refused short
    rw [result] at runs
    cases runs
  · have long : (args.any fun word => decide (argumentLimit ≤ word.length)) = true := by
      simpa using short
    rw [runnable, long, if_pos rfl] at runs
    cases runs

/-- What is taken for granted when a program is started: paths are short enough; every regular file
that somebody may execute is executed where it is found, unless an argument is too long; and a place
of a search that leads nowhere is passed over. -/
structure Usual (files : Files) (busy : NodeId → Bool) (cwd : NodeId) (searchPath : Option String) (program : String) :
    Prop where
  fits : Fits searchPath program
  executes : ∀ path ∈ candidates searchPath program, Runs files cwd path → ∀ args : List Octets,
    (∀ word ∈ args, word.length < argumentLimit) → ∃ image, runnable files busy cwd path args = .ok image
  passes : '/' ∉ program.toList → ∀ path ∈ candidates searchPath program,
    ∀ errno, files.lookup cwd path true = .error errno → isPassedOver errno

theorem locateAt_eq {paths : List String}
    (executes : ∀ path ∈ paths, Runs files cwd path → ∃ image,
      runnable files busy cwd path args = .ok image)
    (passes : ∀ path ∈ paths, ¬ Runs files cwd path → ∃ errno,
      runnable files busy cwd path args = .error errno ∧ isPassedOver errno) :
    (locateAt files busy cwd args paths).map Prod.fst =
      paths.find? fun path => decide (Runs files cwd path) := by
  induction paths with
  | nil => rfl
  | cons path paths ih =>
      rw [locateAt]
      by_cases runs : Runs files cwd path
      · obtain ⟨image, result⟩ := executes path List.mem_cons_self runs
        rw [result, List.find?_cons_of_pos (by simpa using runs)]
        rfl
      · obtain ⟨errno, result, passed⟩ := passes path List.mem_cons_self runs
        rw [result, List.find?_cons_of_neg (by simpa using runs)]
        simp only [passed, if_true]
        exact ih (fun other member => executes other (List.mem_cons_of_mem path member))
          (fun other member => passes other (List.mem_cons_of_mem path member))

theorem runs_of_locateAt {paths : List String} {place : String × Image}
    (found : locateAt files busy cwd args paths = some place) :
    place.1 ∈ paths ∧ Runs files cwd place.1 := by
  induction paths with
  | nil => cases found
  | cons path paths ih =>
      rw [locateAt] at found
      split at found
      · rename_i image result
        cases found
        exact ⟨List.mem_cons_self, runs_of_runnable result⟩
      · split at found
        · obtain ⟨member, runs⟩ := ih found
          exact ⟨List.mem_cons_of_mem path member, runs⟩
        · cases found

theorem Usual.passed (usual : Usual files busy cwd searchPath program) (bare : '/' ∉ program.toList)
    (short : ∀ word ∈ args, word.length < argumentLimit)
    (tried : path ∈ candidates searchPath program)
    (refused : ¬ Runs files cwd path) :
    ∃ errno, runnable files busy cwd path args = .error errno ∧ isPassedOver errno := by
  obtain ⟨errno, result, reason⟩ := runnable_refused refused short
  refine ⟨errno, result, ?_⟩
  rcases reason with rfl | missing
  · decide
  · exact usual.passes bare path tried errno missing

theorem exists_finds_of_locate {place : String × Image} (fits : Fits searchPath program)
    (located : locate files busy cwd searchPath program args = some place) :
    ∃ path, Finds files cwd (searchDirs searchPath) program path := by
  rw [locate] at located
  split at located
  · cases located
  · obtain ⟨tried, runs⟩ := runs_of_locateAt located
    by_cases slash : '/' ∈ program.toList
    · rw [candidates_of_slash slash, List.mem_singleton] at tried
      rw [tried] at runs
      exact ⟨program, .itself slash runs⟩
    · rw [candidates_of_bare slash fits] at tried
      obtain ⟨dir, listed, spells⟩ := List.mem_map.mp tried
      rw [← spells, Files.runs_congr (alike_spelled slash (fits slash dir listed))] at runs
      exact Files.exists_finds slash listed runs

/-- The first path of a search that leads to a program belongs to the first directory that has
it. -/
theorem find?_candidates (bare : '/' ∉ program.toList) (fits : Fits searchPath program) :
    (candidates searchPath program).find? (fun path => decide (Runs files cwd path)) =
      ((searchDirs searchPath).find? fun dir =>
        decide (Runs files cwd (Path.stem dir ++ program))).map (spelled program) := by
  rw [candidates_of_bare bare fits, List.find?_map]
  refine congrArg _ (List.find?_congr fun dir listed => ?_)
  exact decide_eq_decide.mpr (Files.runs_congr (alike_spelled bare (fits bare dir listed)))

theorem Usual.locate (usual : Usual files busy cwd searchPath program)
    (short : ∀ word ∈ args, word.length < argumentLimit)
    (finds : Finds files cwd (searchDirs searchPath) program path) :
    ∃ place, locate files busy cwd searchPath program args = some place ∧
      Files.Alike files cwd place.1 path := by
  have nonempty : program.isEmpty = false := by simpa using finds.nonempty
  rw [Image.locate, nonempty, if_neg (by decide)]
  by_cases slash : '/' ∈ program.toList
  · obtain ⟨rfl, runs⟩ := (Files.finds_iff_of_slash slash).mp finds
    obtain ⟨image, result⟩ :=
      usual.executes path (by rw [candidates_of_slash slash]; exact List.mem_singleton_self path)
        runs args short
    refine ⟨(path, image), ?_, fun id => .rfl⟩
    rw [candidates_of_slash slash, locateAt, result]
  · have first := locateAt_eq
      (fun path tried runs => usual.executes path tried runs args short)
      (fun path tried refused => usual.passed slash short tried refused)
    rw [Files.finds_iff_of_bare slash, List.find?_map] at finds
    obtain ⟨dir, chosen, rfl⟩ := Option.map_eq_some_iff.mp finds
    have listed := List.mem_of_find?_eq_some chosen
    simp only [Function.comp_def] at chosen
    rw [find?_candidates slash usual.fits, chosen, Option.map_some, Option.map_eq_some_iff] at first
    obtain ⟨place, located, spells⟩ := first
    refine ⟨place, located, ?_⟩
    rw [spells]
    exact alike_spelled slash (usual.fits slash dir listed)

end Image

/-- What is taken for granted when a program is started with its output going to a log: there are
descriptors enough, there is an empty input, and its program is executed as usual. -/
structure Usual (host : Host) (log : Nat) (program : String) : Prop where
  room : startRoom ≤ host.room
  input : host.input?.isSome
  image : Image.Usual host.system.files (host.system.isWritten [log, log]) host.cwd host.searchPath
    program

/-- A program is started exactly if no word of its command holds a NUL, descriptors and an empty
input can be had for it, and it is located. -/
theorem start_isSome (boot : Boot) (host : Host) (program : String) (args : List String)
    (output errors : Nat) :
    (start boot host program args output errors).1.isSome = true ↔
      (∀ word ∈ program :: args, '\x00' ∉ word.toList) ∧ startRoom ≤ host.room ∧
        host.input?.isSome ∧ ∃ place, Image.locate host.system.files
          (host.system.isWritten [output, errors]) host.cwd host.searchPath program
          ((program :: args).map Text.Utf8.encode) = some place := by
  rw [start]
  split
  · rename_i zero
    simp only [List.any_eq_true, List.contains_iff_mem] at zero
    obtain ⟨word, member, zero⟩ := zero
    exact iff_of_false Bool.false_ne_true fun given => given.1 word member zero
  · rename_i clean
    simp only [List.any_eq_true, List.contains_iff_mem, not_exists, not_and] at clean
    split
    · rename_i short
      exact iff_of_false Bool.false_ne_true fun given => by omega
    · rename_i room
      simp only
      split
      · rename_i input path image had located
        refine iff_of_true rfl ⟨clean, by omega, ?_, (path, image), located⟩
        rw [had]
        rfl
      · rename_i missing
        refine iff_of_false Bool.false_ne_true ?_
        rintro ⟨-, -, input, ⟨path, image⟩, located⟩
        obtain ⟨id, had⟩ := Option.isSome_iff_exists.mp input
        exact missing id path image had located

end BatchLaunch.Host
