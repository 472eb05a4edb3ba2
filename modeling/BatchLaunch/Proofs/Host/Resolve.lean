import BatchLaunch.Executable
import BatchLaunch.Proofs.Host.Locate

/-!
Looking for a launcher before anything is launched. On a host with a search path this finds a
program exactly where starting the program looks for it.
-/
namespace BatchLaunch.Host

open Files (Finds Runs)

variable {boot : Boot} {host : Host} {program path searchPath : String}

theorem isRunnable_iff (boot : Boot) :
    Executable.isRunnable (machine boot) host path = true ↔
      Runs host.system.files host.cwd path := by
  rw [Executable.isRunnable, decide_eq_true_eq]
  rfl

theorem resolve_of_direct (direct : Path.isDirect program = true) :
    Executable.resolve (machine boot) host program = some path ↔
      path = program ∧ Runs host.system.files host.cwd program := by
  rw [Executable.resolve, direct, if_pos rfl, ← isRunnable_iff boot]
  split
  · rename_i runs
    simp [runs, eq_comm]
  · rename_i refused
    simp [refused]

theorem resolve_of_single (set : host.searchPath = some searchPath)
    (single : Path.isDirect program = false) :
    Executable.resolve (machine boot) host program =
      (Executable.candidates searchPath program).find? fun path =>
        decide (Runs host.system.files host.cwd path) := by
  have search : (machine boot).searchPath host = some searchPath := set
  rw [Executable.resolve, single, if_neg (by decide), search, Option.bind_some]
  rfl

theorem resolve_of_endsInDirectory (set : host.searchPath = some searchPath)
    (single : Path.isDirect program = false) (ends : Path.EndsInDirectory program) :
    Executable.resolve (machine boot) host program = none := by
  rw [resolve_of_single set single, List.find?_eq_none]
  intro path tried
  obtain ⟨dir, -, rfl⟩ := List.mem_map.mp tried
  simpa using Files.not_runs_of_endsInDirectory (ends.join dir)

theorem resolve_iff_finds (boot : Boot) (set : host.searchPath = some searchPath) :
    Executable.resolve (machine boot) host program = some path ↔
      Finds host.system.files host.cwd (Image.searchDirs host.searchPath) program path := by
  by_cases slash : '/' ∈ program.toList
  · rw [Files.finds_iff_of_slash slash]
    cases direct : Path.isDirect program with
    | true => exact resolve_of_direct direct
    | false =>
        have ends := Path.endsInDirectory_of_not_isDirect slash direct
        have nowhere : ¬ Runs host.system.files host.cwd program :=
          Files.not_runs_of_endsInDirectory ends
        rw [resolve_of_endsInDirectory set direct ends]
        simp [nowhere]
  · have places : Executable.candidates searchPath program =
        (Image.searchDirs (some searchPath)).map fun dir => Path.stem dir ++ program :=
      List.map_congr_left fun dir _ => Path.join_relative dir (Path.isAbsolute_of_bare slash)
    rw [resolve_of_single set (Path.isDirect_of_bare slash), set, places,
      Files.finds_iff_of_bare slash]

theorem finds_of_resolve (found : Executable.resolve (machine boot) host program = some path) :
    Finds host.system.files host.cwd (Image.searchDirs host.searchPath) program path := by
  cases set : host.searchPath with
  | some searchPath =>
      rw [← set]
      exact (resolve_iff_finds boot set).mp found
  | none =>
      cases direct : Path.isDirect program with
      | true =>
          obtain ⟨rfl, runs⟩ := (resolve_of_direct direct).mp found
          refine .itself (Decidable.byContradiction fun bare => ?_) runs
          exact absurd direct (by rw [Path.isDirect_of_bare bare]; decide)
      | false =>
          have search : (machine boot).searchPath host = none := set
          rw [Executable.resolve, direct, if_neg (by decide), search, Option.bind_none] at found
          cases found

/-- On a host with a search path, a program is found exactly where starting it looks for it: at its
own path if it has a slash, else in the first directory of the search path that has it. Where all is
as usual when programs are started, a start comes to the same node, or finds nothing either. -/
theorem resolve_as_started (boot : Boot) {host : Host} {searchPath : String}
    (set : host.searchPath = some searchPath) (program : String) :
    (∀ path, Executable.resolve (machine boot) host program = some path ↔
        Finds host.system.files host.cwd (Image.searchDirs host.searchPath) program path) ∧
      ∀ busy : NodeId → Bool,
        Image.Usual host.system.files busy host.cwd host.searchPath program →
        ∀ args : List Octets, (∀ word ∈ args, word.length < Image.argumentLimit) →
          let started := Image.locate host.system.files busy host.cwd host.searchPath program args
          (Executable.resolve (machine boot) host program = none ↔ started = none) ∧
            ∀ path place, Executable.resolve (machine boot) host program = some path →
              started = some place → Files.Alike host.system.files host.cwd place.1 path := by
  refine ⟨fun path => resolve_iff_finds boot set, ?_⟩
  intro busy usual args short started
  constructor
  · simp only [Option.eq_none_iff_forall_ne_some, ne_eq, resolve_iff_finds boot set]
    constructor
    · intro missing place located
      obtain ⟨path, finds⟩ := Image.exists_finds_of_locate usual.fits located
      exact missing path finds
    · intro missing path finds
      obtain ⟨place, located, -⟩ := usual.locate short finds
      exact missing place located
  · intro path place resolved located
    have finds := (resolve_iff_finds boot set).mp resolved
    obtain ⟨place', located', alike⟩ := usual.locate short finds
    obtain rfl := Option.some.inj (located.symm.trans located')
    exact alike

/-! A host with one program. -/

/-- One program in a directory of the root, an empty input in another, and some logs beside these
directories. -/
def oneTool (logs : List (String × NodeId)) : Files :=
  ⟨.directory 0 (("bin", 1) :: ("dev", 3) :: logs) ⟨0o755, true, 0⟩ ::
    .directory 0 [("tool", 2)] ⟨0o755, true, 0⟩ :: .tool "true" ::
      .directory 0 [("null", 4)] ⟨0o755, true, 0⟩ :: .device .null ::
        logs.map fun _ => .file [] ⟨0o644, true, 0⟩, 0⟩

def withOneTool (searchPath : Option String) (logs : List (String × NodeId))
    (openFiles : List OpenFile) : Host where
  system := { files := oneTool logs, openFiles := openFiles, pipes := [], tasks := [], clock := 0 }
  cwd := 0
  searchPath := searchPath
  room := 5

theorem runnable_oneTool {logs : List (String × NodeId)} {busy : NodeId → Bool} {cwd : NodeId}
    (runs : Runs (oneTool logs) cwd path) (args : List Octets)
    (short : ∀ word ∈ args, word.length < Image.argumentLimit) :
    ∃ image, Image.runnable (oneTool logs) busy cwd path args = .ok image := by
  obtain ⟨id, node, mode, found, present, regular, bits⟩ := Files.runs_iff.mp runs
  rcases id with _ | _ | _ | _ | _ | id
  · cases present
    cases regular
  · cases present
    cases regular
  · have fits : (args.any fun word => decide (Image.argumentLimit ≤ word.length)) = false := by
      simpa using short
    have tool : (oneTool logs).node? 2 = some (.tool "true") := rfl
    refine ⟨⟨"true", args⟩, ?_⟩
    simp [Image.runnable, fits, Image.atPath, Files.lookup, found, tool, Image.loadLimit]
  · cases present
    cases regular
  · cases present
    cases regular
  · simp only [oneTool, Files.node?, List.getElem?_cons_succ, List.getElem?_map,
      Option.map_eq_some_iff] at present
    obtain ⟨log, -, rfl⟩ := present
    cases regular
    exact absurd bits (by decide)

theorem find_oneTool (logs : List (String × NodeId)) (cwd : NodeId) :
    (oneTool logs).find cwd "/bin/tool" true = .ok (.node 2) := by
  simp +decide [Files.find, Files.walk, Text.cutAt, Text.partsAt, Files.origin, oneTool,
    Files.node?, Files.root]

theorem input?_oneTool (searchPath : Option String) (logs : List (String × NodeId))
    (openFiles : List OpenFile) : (withOneTool searchPath logs openFiles).input? = some 4 := by
  have found : (oneTool logs).find 0 "/dev/null" true = .ok (.node 4) := by
    simp +decide [Files.find, Files.walk, Text.cutAt, Text.partsAt, Files.origin, oneTool,
      Files.node?, Files.root, List.lookup_cons]
  rw [input?, withOneTool, Files.lookup, emptyInput, found]
  rfl

theorem runs_oneTool (logs : List (String × NodeId)) (cwd : NodeId) :
    Runs (oneTool logs) cwd "/bin/tool" :=
  Files.runs_iff.mpr ⟨2, .tool "true", toolMode, find_oneTool logs cwd, rfl, rfl, by decide⟩

theorem finds_oneTool {searchPath : Option String} {rest : List String}
    (first : Image.searchDirs searchPath = "/bin" :: rest) (logs : List (String × NodeId))
    (cwd : NodeId) :
    Finds (oneTool logs) cwd (Image.searchDirs searchPath) "tool" "/bin/tool" := by
  have order : Image.searchDirs searchPath = [] ++ "/bin" :: rest := first
  have finds : Finds (oneTool logs) cwd (Image.searchDirs searchPath) "tool"
      (Path.stem "/bin" ++ "tool") :=
    .inTurn (by decide) order (fun other before => nomatch before) (runs_oneTool logs cwd)
  exact finds

theorem usual_oneTool {logs : List (String × NodeId)} {busy : NodeId → Bool} {cwd : NodeId}
    {searchPath : Option String} (fits : Image.Fits searchPath program)
    (passes : ∀ path ∈ Image.candidates searchPath program, ∀ errno,
      (oneTool logs).find cwd path true = .error errno → Image.isPassedOver errno) :
    Image.Usual (oneTool logs) busy cwd searchPath program where
  fits := fits
  executes := fun path _ => runnable_oneTool
  passes := by
    intro _ path tried errno refused
    rw [Files.lookup] at refused
    split at refused
    · cases refused
    · cases refused
      rfl
    · rename_i found
      cases refused
      exact passes path tried errno found

theorem resolve_oneTool :
    let host := withOneTool (some "/missing:/bin/") [] []
    Executable.resolve (machine fun _ _ => .exit 0) host "tool" = some "/bin/tool" ∧
      ∃ place, Image.locate host.system.files (fun _ => false) host.cwd host.searchPath "tool" [] =
          some place ∧
        Files.Alike host.system.files host.cwd place.1 "/bin/tool" := by
  intro host
  have missing : host.system.files.find host.cwd "/missing/tool" true = .error .noEntry := by
    simp +decide [Files.find, Files.walk, Text.cutAt, Text.partsAt, Files.origin, host, withOneTool,
      oneTool, Files.node?, Files.root, List.lookup_cons]
  have doubled : host.system.files.find host.cwd "/bin//tool" true = .ok (.node 2) := by
    simp +decide [Files.find, Files.walk, Text.cutAt, Text.partsAt, Files.origin, host, withOneTool,
      oneTool, Files.node?, Files.root]
  have dirs : Image.searchDirs host.searchPath = ["/missing", "/bin/"] := by decide
  have places : Image.candidates host.searchPath "tool" = ["/missing/tool", "/bin//tool"] := by
    decide
  have usual : Image.Usual host.system.files (fun _ => false) host.cwd host.searchPath "tool" := by
    refine usual_oneTool (by rw [Image.Fits, dirs]; decide) ?_
    intro path tried errno refused
    rw [places, List.mem_cons, List.mem_singleton] at tried
    rcases tried with rfl | rfl
    · cases missing.symm.trans refused
      rfl
    · cases doubled.symm.trans refused
  have finds : Finds host.system.files host.cwd (Image.searchDirs host.searchPath) "tool"
      (Path.stem "/bin/" ++ "tool") := by
    have order : Image.searchDirs host.searchPath = ["/missing"] ++ "/bin/" :: [] := dirs
    refine .inTurn (by decide) order ?_ (runs_oneTool [] 0)
    intro other before
    rw [List.mem_singleton] at before
    subst before
    have stem : Path.stem "/missing" ++ "tool" = "/missing/tool" := by decide
    rw [stem, Files.runs_iff]
    simp [missing]
  have set : host.searchPath = some "/missing:/bin/" := rfl
  obtain ⟨resolved, started⟩ := resolve_as_started (fun _ _ => .exit 0) set "tool"
  have found := (resolved "/bin/tool").mpr finds
  obtain ⟨nowhere, alike⟩ := started (fun _ => false) usual [] (by simp)
  refine ⟨found, ?_⟩
  cases located : Image.locate host.system.files (fun _ => false) host.cwd host.searchPath "tool"
      [] with
  | none =>
      rw [nowhere.mpr located] at found
      cases found
  | some place => exact ⟨place, rfl, alike _ _ found located⟩

end BatchLaunch.Host
