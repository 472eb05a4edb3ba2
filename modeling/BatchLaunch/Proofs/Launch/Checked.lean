import BatchLaunch.Config.Table
import BatchLaunch.Launch.Detached
import BatchLaunch.Proofs.Config.Preflight
import BatchLaunch.Proofs.Host.Opening
import BatchLaunch.Proofs.Host.Resolve

/-!
What a check of a batch says about starting its jobs. A launcher that was found is found again when
a job is started, whose log leaves the programs as they are; then only a NUL can keep the job from
being started. A launcher that was not found is not found then either, unless there is no search
path, for which a start has a default.
-/
namespace BatchLaunch

namespace Invocation

/-- The program and its arguments. -/
def words (invocation : Invocation) : List String := invocation.program :: invocation.args

theorem clean_iff (settings : Settings) (job : Job) :
    (∀ word ∈ (ofJob settings job).words, '\x00' ∉ word.toList) ↔
      '\x00' ∉ settings.launcher.toList ∧
        ∀ entry ∈ settings.tokens ++ job.tokens, '\x00' ∉ entry.2.toList := by
  have number (n : UInt32) : '\x00' ∉ (decimal n).toList := fun member =>
    absurd (isDigit_of_mem_decimal member) (by decide)
  have tag (d : Decomposition) : '\x00' ∉ d.tag.toList := by
    cases d <;> decide
  simp only [words, ofJob, Job.scriptArgs, Settings.tokens, Job.tokens, List.forall_mem_cons,
    List.cons_append, List.nil_append, List.not_mem_nil, false_implies, implies_true, number, tag,
    not_false_iff, true_and, and_true]

end Invocation

namespace Host

open Files (Finds)

variable {boot : Boot} {host opened : Host} {settings : Settings} {dir path : String} {job : Job}
  {log : Nat}

theorem spawn_value (granted : host.HasLog (Path.join dir job.logName) log opened) :
    (Detached.spawn (machine boot) settings dir job host).value =
      (start boot opened settings.launcher (Invocation.ofJob settings job).args log log).1.elim
        (.error (.start settings.launcher)) .ok := by
  have opens : (machine boot).openLog host
      (Path.join dir (Invocation.ofJob settings job).logPath) = (some log, opened) := granted.opens
  have copies : (machine boot).copyLog opened log = (some log, opened) := granted.copies
  have starts : (machine boot).start opened (Invocation.ofJob settings job).program =
      start boot opened settings.launcher := rfl
  rw [Detached.spawn, opens]
  simp only [copies, starts]
  cases start boot opened settings.launcher (Invocation.ofJob settings job).args log log with
  | mk child after => cases child <;> rfl

theorem finds_opened (granted : host.HasLog (Path.join dir job.logName) log opened) :
    Finds opened.system.files opened.cwd (Image.searchDirs opened.searchPath) settings.launcher
        path ↔
      Finds host.system.files host.cwd (Image.searchDirs host.searchPath) settings.launcher
        path := by
  have effect := openLog_opensLog host dir job.logName_isName
  rw [granted.opens] at effect
  obtain ⟨cwd, search, runs⟩ := effect.runs
  rw [cwd, search]
  exact ⟨.congr fun path => (runs host.cwd path).symm, .congr (runs host.cwd)⟩

theorem spawn_ok_iff (granted : host.HasLog (Path.join dir job.logName) log opened)
    (usual : opened.Usual log settings.launcher)
    (short : ∀ word ∈ (Invocation.ofJob settings job).words,
      (Text.Utf8.encode word).length < Image.argumentLimit) :
    (∃ child, (Detached.spawn (machine boot) settings dir job host).value = .ok child) ↔
      (∀ word ∈ (Invocation.ofJob settings job).words, '\x00' ∉ word.toList) ∧
        ∃ path, Finds host.system.files host.cwd (Image.searchDirs host.searchPath)
          settings.launcher path := by
  have started :=
    start_isSome boot opened settings.launcher (Invocation.ofJob settings job).args log log
  have located : (∃ place, Image.locate opened.system.files (opened.system.isWritten [log, log])
      opened.cwd opened.searchPath settings.launcher
      ((Invocation.ofJob settings job).words.map Text.Utf8.encode) = some place) ↔
      ∃ path, Finds host.system.files host.cwd (Image.searchDirs host.searchPath)
        settings.launcher path := by
    simp only [← finds_opened granted]
    constructor
    · rintro ⟨place, located⟩
      exact Image.exists_finds_of_locate usual.image.fits located
    · rintro ⟨path, finds⟩
      obtain ⟨place, located, -⟩ := usual.image.locate (List.forall_mem_map.mpr short) finds
      exact ⟨place, located⟩
  simp only [usual.room, usual.input, true_and] at started
  rw [← located, spawn_value granted]
  refine Iff.trans ?_ started
  cases (start boot opened settings.launcher (Invocation.ofJob settings job).args log log).1 with
  | none => simp
  | some child => simp

/-- Where no path is too long, a job is not started if its launcher cannot be found. -/
theorem spawn_refused (granted : host.HasLog (Path.join dir job.logName) log opened)
    (fits : Image.Fits host.searchPath settings.launcher)
    (nowhere : ∀ path, ¬ Finds host.system.files host.cwd (Image.searchDirs host.searchPath)
      settings.launcher path) :
    (Detached.spawn (machine boot) settings dir job host).value =
      .error (.start settings.launcher) := by
  have effect := openLog_opensLog host dir job.logName_isName
  rw [granted.opens] at effect
  rw [← effect.runs.2.1] at fits
  rw [spawn_value granted]
  cases began : (start boot opened settings.launcher
      (Invocation.ofJob settings job).args log log).1 with
  | none => rfl
  | some child =>
      obtain ⟨-, -, -, place, located⟩ := (start_isSome ..).mp (Option.isSome_of_eq_some began)
      obtain ⟨path, finds⟩ := Image.exists_finds_of_locate fits located
      exact absurd ((finds_opened granted).mp finds) (nowhere path)

end Host

namespace Preflight

open Host (machine)
open Host.Files (Finds)

variable {host opened : Host} {config : Config} {dir : String} {job : Job} {log : Nat}

/-- A job of a batch that passed its check is started, once its log is open and where all is as
usual, exactly if no NUL is in one of the words that it and the batch consist of. -/
theorem passed_starts_iff (boot : Host.Boot)
    (passed : (run (machine boot) host config).problems = [])
    (granted : host.HasLog (Path.join dir job.logName) log opened)
    (usual : opened.Usual log config.settings.launcher)
    (short : ∀ word ∈ (Invocation.ofJob config.settings job).words,
      (Text.Utf8.encode word).length < Host.Image.argumentLimit) :
    (∃ child, (Detached.spawn (machine boot) config.settings dir job host).value = .ok child) ↔
      ∀ entry ∈ config.settings.tokens ++ job.tokens, '\x00' ∉ entry.2.toList := by
  have sound := (problems_eq_nil_iff ..).mp passed
  obtain ⟨path, resolved⟩ := Option.isSome_iff_exists.mp sound.launcher
  have finds := Host.finds_of_resolve resolved
  rw [Host.spawn_ok_iff granted usual short, Invocation.clean_iff]
  constructor
  · rintro ⟨⟨-, clean⟩, -⟩
    exact clean
  · intro clean
    exact ⟨⟨finds.clean, clean⟩, path, finds⟩

/-! One job on a host that has one program. -/

def firstJob : Job := Table.job .tvb ⟨2, 6, 200⟩

def batchWith (launcher workerFlag : String) : Config :=
  ⟨{ Settings.builtin with launcher := launcher, workerFlag := workerFlag }, [firstJob]⟩

/-- The host once the job's log is open. -/
def begun (searchPath : Option String) : Host :=
  Host.withOneTool searchPath [("tvb2.out", 5)] [⟨.node 5, 0, false, false, true⟩]

theorem hasLog_begun (searchPath : Option String) :
    (Host.withOneTool searchPath [] []).HasLog (Path.join "" firstJob.logName) 0
      (begun searchPath) := by
  have name : Path.join "" firstJob.logName = "tvb2.out" := by decide
  have absent : (Host.oneTool []).find 0 "tvb2.out" true = .ok (.absent 0 "tvb2.out") := by
    simp +decide [Host.Files.find, Host.Files.walk, Text.cutAt, Text.partsAt, Host.Files.origin,
      Host.oneTool, Host.Files.node?]
  refine ⟨?_, rfl⟩
  rw [name, Host.openLog, Host.Files.openForWriting]
  simp only [Host.withOneTool, absent]
  rfl

theorem fits_short {searchPath : Option String}
    (short : ∀ dir ∈ Host.Image.searchDirs searchPath, dir.utf8ByteSize < 1000) {launcher : String}
    (small : launcher.utf8ByteSize < 1000) : Host.Image.Fits searchPath launcher := by
  intro _ dir listed
  have bound := short dir listed
  rw [Host.Files.pathLimit]
  omega

theorem dirs_set : Host.Image.searchDirs (some "/bin") = ["/bin"] := by decide

theorem dirs_unset : Host.Image.searchDirs none = ["/bin", "/usr/bin"] := by decide

theorem resolve_set :
    Executable.resolve (machine fun _ _ => .exit 0) (Host.withOneTool (some "/bin") [] []) "tool" =
      some "/bin/tool" :=
  (Host.resolve_iff_finds _ rfl).mpr (Host.finds_oneTool dirs_set [] 0)

theorem problems_set :
    (run (machine fun _ _ => .exit 0) (Host.withOneTool (some "/bin") [] [])
      (batchWith "tool" "-n")).problems = [] := by
  have launcher : (batchWith "tool" "-n").settings.launcher = "tool" := rfl
  simp only [run]
  rw [launcher, resolve_set]
  decide +kernel

theorem passed_started :
    ∃ child, (Detached.spawn (machine fun _ _ => .exit 0) (batchWith "tool" "-n").settings ""
      firstJob (Host.withOneTool (some "/bin") [] [])).value = .ok child := by
  have places : Host.Image.candidates (begun (some "/bin")).searchPath "tool" = ["/bin/tool"] := by
    decide
  have usual : (begun (some "/bin")).Usual 0 "tool" := by
    refine ⟨Nat.le_refl _, Option.isSome_of_eq_some (Host.input?_oneTool ..), ?_⟩
    refine Host.usual_oneTool (fits_short (by decide) (by decide)) ?_
    intro path tried errno refused
    rw [places, List.mem_singleton] at tried
    subst tried
    cases (Host.find_oneTool _ 0).symm.trans refused
  exact (passed_starts_iff (fun _ _ => .exit 0) problems_set (hasLog_begun (some "/bin"))
    usual (by decide +kernel)).mpr (by decide +kernel)

/-- A flag that holds a NUL passes the check, and no job is started with it. -/
theorem passed_not_started :
    let host := Host.withOneTool (some "/bin") [] []
    let config := batchWith "tool" "-n\x00"
    (run (machine fun _ _ => .exit 0) host config).problems = [] ∧
      firstJob ∈ config.select ⟨[], []⟩ ∧
      (∃ log opened, host.HasLog (Path.join "" firstJob.logName) log opened) ∧
      (Detached.spawn (machine fun _ _ => .exit 0) config.settings "" firstJob host).value =
        .error (.start "tool") := by
  intro host config
  have launcher : config.settings.launcher = "tool" := rfl
  refine ⟨?_, by decide, ⟨0, _, hasLog_begun _⟩, ?_⟩
  · simp only [run]
    rw [launcher, resolve_set]
    decide +kernel
  · rw [Host.spawn_value (hasLog_begun (some "/bin")), Host.start, if_pos (by decide +kernel)]
    rfl

/-- No job is started if its launcher was listed as missing, unless there is no search path and the
launcher is in one of the directories that are searched then. In that case, where all is as usual, a
job is started whose words hold no NUL. -/
theorem missing_starts (boot : Host.Boot)
    (listed : .launcherMissing config.settings.launcher ∈ (run (machine boot) host config).problems)
    (granted : host.HasLog (Path.join dir job.logName) log opened)
    (fits : Host.Image.Fits host.searchPath config.settings.launcher) :
    let result := (Detached.spawn (machine boot) config.settings dir job host).value
    let byDefault := host.searchPath = none ∧
      ∃ path, Finds host.system.files host.cwd (Host.Image.searchDirs none)
        config.settings.launcher path
    (¬ byDefault → result = .error (.start config.settings.launcher)) ∧
      (byDefault →
        opened.Usual log config.settings.launcher →
        (∀ word ∈ (Invocation.ofJob config.settings job).words, '\x00' ∉ word.toList ∧
          (Text.Utf8.encode word).length < Host.Image.argumentLimit) →
        ∃ child, result = .ok child) := by
  intro result byDefault
  have missing : Executable.resolve (machine boot) host config.settings.launcher = none := by
    cases (mem_problems_iff ..).mp listed with
    | launcherMissing missing => exact missing
  constructor
  · intro elsewhere
    refine Host.spawn_refused granted fits fun path finds => ?_
    cases set : host.searchPath with
    | none =>
        rw [set] at finds
        exact elsewhere ⟨set, path, finds⟩
    | some searchPath =>
        rw [← Host.resolve_iff_finds boot set, missing] at finds
        cases finds
  · rintro ⟨unset, found⟩ usual fine
    rw [← unset] at found
    refine (Host.spawn_ok_iff granted usual fun word member => (fine word member).2).mpr ?_
    exact ⟨fun word member => (fine word member).1, found⟩

/-- Without a search path the launcher is listed as missing, though it is where one looks by
default. -/
theorem listed_bare :
    .launcherMissing "tool" ∈ (run (machine fun _ _ => .exit 0) (Host.withOneTool none [] [])
      (batchWith "tool" "-n")).problems := by
  have missing : Executable.resolve (machine fun _ _ => .exit 0) (Host.withOneTool none [] [])
      "tool" = none := by
    have single : Path.isDirect "tool" = false := by decide
    rw [Executable.resolve, single]
    rfl
  exact (mem_problems_iff ..).mpr (.launcherMissing missing)

theorem usual_begun : (begun none).Usual 0 "tool" := by
  have places : Host.Image.candidates (begun none).searchPath "tool" =
      ["/bin/tool", "/usr/bin/tool"] := by decide
  refine ⟨Nat.le_refl _, Option.isSome_of_eq_some (Host.input?_oneTool ..), ?_⟩
  refine Host.usual_oneTool (fits_short (by decide) (by decide)) ?_
  intro path tried errno refused
  rw [places, List.mem_cons, List.mem_singleton] at tried
  rcases tried with rfl | rfl
  · cases (Host.find_oneTool _ 0).symm.trans refused
  · have absent : (Host.oneTool [("tvb2.out", 5)]).find 0 "/usr/bin/tool" true =
        .error .noEntry := by
      simp +decide [Host.Files.find, Host.Files.walk, Text.cutAt, Text.partsAt, Host.Files.origin,
        Host.oneTool, Host.Files.node?, Host.Files.root]
    cases absent.symm.trans refused
    rfl

/-- A launcher that is listed as missing cannot be started where there is a search path, and is
started by default where there is none. -/
theorem missing_launchers :
    (Detached.spawn (machine fun _ _ => .exit 0) (batchWith "tool/" "-n").settings "" firstJob
        (Host.withOneTool (some "/bin") [] [])).value = .error (.start "tool/") ∧
      ∃ child, (Detached.spawn (machine fun _ _ => .exit 0) (batchWith "tool" "-n").settings ""
        firstJob (Host.withOneTool none [] [])).value = .ok child := by
  constructor
  · have missing : Executable.resolve (machine fun _ _ => .exit 0)
        (Host.withOneTool (some "/bin") [] []) "tool/" = none :=
      Host.resolve_of_endsInDirectory rfl (by decide) ⟨"tool", "", by decide, by decide⟩
    have listed : .launcherMissing "tool/" ∈ (run (machine fun _ _ => .exit 0)
        (Host.withOneTool (some "/bin") [] []) (batchWith "tool/" "-n")).problems :=
      (mem_problems_iff ..).mpr (.launcherMissing missing)
    have fits : Host.Image.Fits (some "/bin") "tool/" :=
      fits_short (by rw [dirs_set]; decide) (by decide)
    refine (missing_starts _ listed (hasLog_begun _) fits).1 ?_
    rintro ⟨unset, -⟩
    cases unset
  · refine (missing_starts _ listed_bare (hasLog_begun none) usual_begun.image.fits).2 ?_ usual_begun
      (by decide +kernel)
    exact ⟨rfl, "/bin/tool", Host.finds_oneTool dirs_unset [] 0⟩

/-- A launcher may be listed as missing and still be started. -/
theorem listed_started :
    let host := Host.withOneTool none [] []
    let config := batchWith "tool" "-n"
    .launcherMissing config.settings.launcher ∈
        (run (machine fun _ _ => .exit 0) host config).problems ∧
      firstJob ∈ config.jobs ∧
      (∃ log opened, host.HasLog (Path.join "" firstJob.logName) log opened) ∧
      ∃ child,
        (Detached.spawn (machine fun _ _ => .exit 0) config.settings "" firstJob host).value =
          .ok child := by
  refine ⟨listed_bare, by decide, ⟨0, _, hasLog_begun _⟩, ?_⟩
  refine (Host.spawn_ok_iff (hasLog_begun none) ?_ (by decide +kernel)).mpr
    ⟨by decide +kernel, "/bin/tool", ?_⟩
  · exact usual_begun
  · exact Host.finds_oneTool dirs_unset [] 0

end Preflight
end BatchLaunch
