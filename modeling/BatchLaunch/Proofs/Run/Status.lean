import BatchLaunch.Proofs.DryRun.Output
import BatchLaunch.Proofs.Launch.Outcomes
import BatchLaunch.Run

/-!
When a run fails. Its status is told by the options, the configuration, what the check of it finds,
the answers of the machine to the attempts and the waits, and the room for what a dry run writes.
-/
namespace BatchLaunch

open CommandLine (Options)
open Launch (Starts children)

variable {World Log Child : Type}

/-- An ending of a wait that a job is not successful with. -/
def Waited.WentWrong : Waited → Prop
  | .ended (.exited code) => code ≠ 0
  | .ended (.signalled _) => True
  | .running => True
  | .failed _ => True

theorem outcomeOf_isFailure (waited : Waited) :
    (Collecting.outcomeOf waited).isFailure = true ↔ waited.WentWrong := by
  cases waited with
  | ended status =>
      cases status with
      | exited code => simp [Collecting.outcomeOf, Outcome.isFailure, Waited.WentWrong]
      | signalled signal => simp [Collecting.outcomeOf, Outcome.isFailure, Waited.WentWrong]
  | running => simp [Collecting.outcomeOf, Outcome.isFailure, Waited.WentWrong]
  | failed message => simp [Collecting.outcomeOf, Outcome.isFailure, Waited.WentWrong]

namespace Ran

theorem exitCode_one (ran : Ran World) : ran.exitCode = 1 ↔ ran.success = false := by
  cases success : ran.success <;> simp [exitCode, success]

theorem exitCode_zero (ran : Ran World) : ran.exitCode = 0 ↔ ran.success = true := by
  cases success : ran.success <;> simp [exitCode, success]

end Ran

namespace Run

/-- The configuration that a run goes by. -/
inductive Loaded (machine : Machine World Log Child) (world : World) :
    Option String → Config → Prop
  | builtin : Loaded machine world none .builtin
  | file {path : String} {octets : Octets} {text : String} {config : Config}
      (readable : machine.read world path = some octets)
      (decoded : Text.Utf8.decode? octets = some text)
      (accepted : Config.ofYaml text = .ok config) : Loaded machine world (some path) config

/-- Why a configuration that is asked for cannot be had. -/
inductive Unloadable (machine : Machine World Log Child) (world : World) : Option String → Prop
  | unreadable {path : String} (refused : machine.read world path = none) :
      Unloadable machine world (some path)
  | noText {path : String} {octets : Octets} (readable : machine.read world path = some octets)
      (undecoded : Text.Utf8.decode? octets = none) : Unloadable machine world (some path)
  | rejected {path : String} {octets : Octets} {text : String} {fault : ParseFault}
      (readable : machine.read world path = some octets)
      (decoded : Text.Utf8.decode? octets = some text)
      (refused : Config.ofYaml text = .error fault) : Unloadable machine world (some path)

def commands (config : Config) (options : Options) : List Invocation :=
  (config.select options.selection).map
    (.ofBatch config.settings (options.logDir.getD ""))

/-- The bound on each wait, in microseconds. -/
def bound (options : Options) : Timeout := options.timeout.map fun seconds => seconds.toNat * 1000000

/-- What a run that waits does once it has attempted its jobs. -/
def waits (machine : Machine World Log Child) (config : Config) (options : Options)
    (children : List Child) (world : World) : Mode.Waits World Child :=
  (Mode.collecting (bound options)).waits machine world (config.select options.selection).length
    children

/-- Some job could not be started, or its wait did not end well. Waits are told apart by the
positions of their children. -/
def SomeJobFails (machine : Machine World Log Child) (config : Config) (options : Options)
    (world : World) : Prop :=
  ∃ (results : List (Except SpawnError Child)) (after : World) (answers : List (Nat × Waited)),
    Starts machine world (commands config options) results after ∧
      (waits machine config options (children results) after).answers = .ok answers ∧
      ((∃ error : SpawnError, .error error ∈ results) ∨
        ∃ position < (children results).length,
          (Collecting.answerAt answers position).WentWrong)

def NoThreads (machine : Machine World Log Child) (config : Config) (options : Options)
    (world : World) : Prop :=
  ∃ (results : List (Except SpawnError Child)) (after : World),
    Starts machine world (commands config options) results after ∧
      (machine.buildPool after (max (config.select options.selection).length 1)).1 = false

/-- The ways in which a run fails. -/
inductive Fails (machine : Machine World Log Child) (options : Options) (out : Sink)
    (world : World) : Prop
  | noConfig (unloadable : Unloadable machine world options.config)
  | problems {config : Config} (loaded : Loaded machine world options.config config)
      (checks : options.check = true)
      (found : (Preflight.run machine world config).problems ≠ [])
  | jobs {config : Config} (loaded : Loaded machine world options.config config)
      (launches : options.check = false) (starts : options.dryRun = false)
      (waits : options.wait = true) (failed : SomeJobFails machine config options world)
  | threads {config : Config} (loaded : Loaded machine world options.config config)
      (launches : options.check = false) (starts : options.dryRun = false)
      (waits : options.wait = true) (refused : NoThreads machine config options world)
  | output {config : Config} (loaded : Loaded machine world options.config config)
      (launches : options.check = false) (shows : options.dryRun = true)
      (full : ¬ out.Fits (Text.Utf8.encode (DryRun.text config.settings (options.logDir.getD "")
        (config.select options.selection))).length)

theorem loaded_or_unloadable (machine : Machine World Log Child) (world : World)
    (path : Option String) :
    (∃ config, Loaded machine world path config) ∨ Unloadable machine world path := by
  cases path with
  | none => exact .inl ⟨_, .builtin⟩
  | some path =>
      cases readable : machine.read world path with
      | none => exact .inr (.unreadable readable)
      | some octets =>
          cases decoded : Text.Utf8.decode? octets with
          | none => exact .inr (.noText readable decoded)
          | some text =>
              cases accepted : Config.ofYaml text with
              | error fault => exact .inr (.rejected readable decoded accepted)
              | ok config => exact .inl ⟨config, .file readable decoded accepted⟩

theorem load_of_text {machine : Machine World Log Child} {world : World} {path : String}
    {octets : Octets} {text : String} (readable : machine.read world path = some octets)
    (decoded : Text.Utf8.decode? octets = some text) :
    Config.load machine world path = (Config.ofYaml text).mapError .unparsable := by
  simp only [Config.load, readable, Option.bind_some, decoded]

theorem run_of_unloadable {machine : Machine World Log Child} {options : Options} {world : World}
    (unloadable : Unloadable machine world options.config) (out : Sink) :
    (run machine options out world).success = false := by
  rw [run]
  cases given : options.config with
  | none =>
      rw [given] at unloadable
      cases unloadable
  | some path =>
      rw [given] at unloadable
      cases unloadable with
      | unreadable refused => simp [Config.load, refused]
      | noText readable undecoded => simp [Config.load, readable, undecoded]
      | rejected readable decoded refused =>
          simp only [load_of_text readable decoded, refused]
          rfl

theorem run_of_loaded {machine : Machine World Log Child} {options : Options} {world : World}
    {config : Config} (loaded : Loaded machine world options.config config) (out : Sink) :
    (run machine options out world).success =
      (withConfig machine config options out world).success := by
  rw [run]
  cases given : options.config with
  | none =>
      rw [given] at loaded
      cases loaded
      rfl
  | some path =>
      rw [given] at loaded
      cases loaded with
      | file readable decoded accepted =>
          simp only [load_of_text readable decoded, accepted]
          rfl

theorem check_success (machine : Machine World Log Child) (config : Config) (out : Sink)
    (world : World) :
    (check machine config out world).success = false ↔
      (Preflight.run machine world config).problems ≠ [] := by
  simp [check]

theorem not_isSuccess_iff (report : Report) :
    report.isSuccess = false ↔ ∃ entry ∈ report.outcomes, entry.2.isFailure = true := by
  rw [Report.isSuccess, decide_eq_false_iff_not, Report.failures, ← Ne, Nat.ne_zero_iff_zero_lt,
    List.countP_pos_iff]

theorem outcomes_fail_iff (answers : List (Nat × Waited)) (position : Nat)
    (attempts : List (Attempt Child)) :
    (∃ entry ∈ Collecting.outcomes answers position attempts, entry.2.isFailure = true) ↔
      (∃ error : SpawnError, .error error ∈ attempts.map Attempt.result) ∨
        ∃ k < (children (attempts.map Attempt.result)).length,
          (Collecting.answerAt answers (position + k)).WentWrong := by
  induction attempts generalizing position with
  | nil => simp [Collecting.outcomes]
  | cons attempt attempts ih =>
      rw [Collecting.outcomes, List.map_cons]
      cases result : attempt.result with
      | error error => simp [Outcome.isFailure]
      | ok child =>
          have later := ih (position + 1)
          simp only [Nat.add_assoc, Nat.add_comm 1] at later
          simp only [List.mem_cons, exists_eq_or_imp, outcomeOf_isFailure, later,
            Launch.children_ok, List.length_cons, Nat.exists_lt_succ_left, Nat.add_zero,
            reduceCtorEq, false_or]
          exact or_left_comm

theorem waits_error_iff (machine : Machine World Log Child) (config : Config) (options : Options)
    (children : List Child) (world : World) (error : BatchError) :
    (waits machine config options children world).answers = .error error ↔
      error = .threadPool ∧
        (machine.buildPool world (max (config.select options.selection).length 1)).1 = false := by
  rw [waits, Mode.waits]
  cases machine.buildPool world (max (config.select options.selection).length 1) with
  | mk built ready => cases built <;> simp [eq_comm]

theorem noThreads_iff (machine : Machine World Log Child) (config : Config) (options : Options)
    (world : World) :
    let done := Detached.spawnAll machine config.settings (options.logDir.getD "")
      (config.select options.selection) world
    NoThreads machine config options world ↔
      (machine.buildPool done.world (max (config.select options.selection).length 1)).1 =
        false := by
  have starts := Launch.spawnAll_starts machine config.settings (options.logDir.getD "")
    (config.select options.selection) world
  constructor
  · rintro ⟨results, after, made, refused⟩
    obtain ⟨-, rfl⟩ := made.unique starts
    exact refused
  · exact fun refused => ⟨_, _, starts, refused⟩

/-- A launch that waits does not succeed if some job fails, or if it cannot have its threads. -/
theorem collecting_success (machine : Machine World Log Child) (config : Config)
    (options : Options) (out : Sink) (world : World) :
    (∀ report, ((Mode.collecting (bound options)).execute machine config.settings
        (options.logDir.getD "") (config.select options.selection) out world).report = .ok report →
          report.isSuccess = false) ↔
      SomeJobFails machine config options world ∨ NoThreads machine config options world := by
  have starts := Launch.spawnAll_starts machine config.settings (options.logDir.getD "")
    (config.select options.selection) world
  rw [(Launch.execute_collecting ..).1, (Launch.collecting_execute ..).1]
  simp only [← waits.eq_def]
  generalize Detached.spawnAll machine config.settings (options.logDir.getD "")
    (config.select options.selection) world = done at starts ⊢
  constructor
  · intro fails
    cases given : (waits machine config options
        (children (done.value.map Attempt.result)) done.world).answers with
    | error error => exact .inr ⟨_, _, starts, ((waits_error_iff ..).mp given).2⟩
    | ok answers =>
        have failed := fails ⟨Collecting.outcomes answers 0 done.value⟩ (by rw [given]; rfl)
        rw [not_isSuccess_iff, outcomes_fail_iff] at failed
        simp only [Nat.zero_add] at failed
        exact .inl ⟨_, _, answers, starts, given, failed⟩
  · rintro (⟨results, after, answers, made, given, failed⟩ | ⟨results, after, made, refused⟩) report
      reported
    · obtain ⟨rfl, rfl⟩ := made.unique starts
      rw [given] at reported
      cases reported
      rw [not_isSuccess_iff, outcomes_fail_iff]
      simpa only [Nat.zero_add] using failed
    · obtain ⟨rfl, rfl⟩ := made.unique starts
      rw [(waits_error_iff ..).mpr ⟨rfl, refused⟩] at reported
      cases reported

theorem printed_isSuccess (jobs : List Job) :
    (⟨jobs.map fun job => (job, .printed)⟩ : Report).isSuccess = true := by
  simp [Report.isSuccess, Report.failures, Outcome.isFailure]

theorem launch_success (machine : Machine World Log Child) (config : Config) (options : Options)
    (out : Sink) (world : World) :
    (launch machine config options out world).success = false ↔
      ∀ report, ((mode options).execute machine config.settings (options.logDir.getD "")
        (config.select options.selection) out world).report = .ok report →
          options.wait = true ∧ report.isSuccess = false := by
  simp only [launch]
  generalize ((mode options).execute machine config.settings (options.logDir.getD "")
    (config.select options.selection) out world).report = report
  cases report with
  | error error => simp
  | ok report =>
      cases options.wait with
      | false => simp
      | true => cases success : report.isSuccess <;> simp [success]

theorem launch_fails_iff (machine : Machine World Log Child) (config : Config) (options : Options)
    (out : Sink) (world : World) :
    (launch machine config options out world).success = false ↔
      (options.dryRun = false ∧ options.wait = true ∧
        (SomeJobFails machine config options world ∨
          NoThreads machine config options world)) ∨
      (options.dryRun = true ∧
        ¬ out.Fits (Text.Utf8.encode (DryRun.text config.settings (options.logDir.getD "")
          (config.select options.selection))).length) := by
  rw [launch_success, ← collecting_success machine config options out world]
  cases shows : options.dryRun with
  | true =>
      rw [← Sink.write_fits]
      simp only [mode, Mode.choose, shows, if_true, Mode.execute, DryRun.execute_eq]
      cases whole : (out.write (Text.Utf8.encode (DryRun.text config.settings
          (options.logDir.getD "") (config.select options.selection)))).2 with
      | true => simp [printed_isSuccess]
      | false => simp
  | false =>
      cases waits : options.wait with
      | false => simp [mode, Mode.choose, shows, waits, Mode.execute]
      | true => simp [mode, Mode.choose, shows, waits, Mode.execute, bound]

theorem Loaded.unique {machine : Machine World Log Child} {world : World} {path : Option String}
    {config config' : Config} (one : Loaded machine world path config)
    (other : Loaded machine world path config') : config = config' := by
  cases one with
  | builtin =>
      cases other
      rfl
  | file readable decoded accepted =>
      cases other with
      | file readable' decoded' accepted' =>
          obtain rfl := Option.some.inj (readable.symm.trans readable')
          obtain rfl := Option.some.inj (decoded.symm.trans decoded')
          exact Except.ok.inj (accepted.symm.trans accepted')

theorem Loaded.not_unloadable {machine : Machine World Log Child} {world : World}
    {path : Option String} {config : Config} (loaded : Loaded machine world path config) :
    ¬ Unloadable machine world path := by
  intro unloadable
  cases loaded with
  | builtin => cases unloadable
  | file readable decoded accepted =>
      cases unloadable with
      | unreadable refused => simp [readable] at refused
      | noText readable' undecoded =>
          obtain rfl := Option.some.inj (readable.symm.trans readable')
          simp [decoded] at undecoded
      | rejected readable' decoded' refused =>
          obtain rfl := Option.some.inj (readable.symm.trans readable')
          obtain rfl := Option.some.inj (decoded.symm.trans decoded')
          simp [accepted] at refused

theorem fails_iff_of_loaded {machine : Machine World Log Child} {options : Options} {world : World}
    {config : Config} (loaded : Loaded machine world options.config config) (out : Sink) :
    Fails machine options out world ↔
      (withConfig machine config options out world).success = false := by
  rw [withConfig]
  constructor
  · intro fails
    cases fails with
    | noConfig unloadable => exact absurd unloadable loaded.not_unloadable
    | problems loaded' checks found =>
        obtain rfl := loaded.unique loaded'
        rw [if_pos checks, check_success]
        exact found
    | jobs loaded' launches starts waits failed =>
        obtain rfl := loaded.unique loaded'
        simp only [launches, Bool.false_eq_true, if_false, launch_fails_iff]
        exact .inl ⟨starts, waits, .inl failed⟩
    | threads loaded' launches starts waits refused =>
        obtain rfl := loaded.unique loaded'
        simp only [launches, Bool.false_eq_true, if_false, launch_fails_iff]
        exact .inl ⟨starts, waits, .inr refused⟩
    | output loaded' launches shows full =>
        obtain rfl := loaded.unique loaded'
        simp only [launches, Bool.false_eq_true, if_false, launch_fails_iff]
        exact .inr ⟨shows, full⟩
  · intro failure
    cases checks : options.check with
    | true =>
        rw [if_pos checks, check_success] at failure
        exact .problems loaded checks failure
    | false =>
        simp only [checks, Bool.false_eq_true, if_false, launch_fails_iff] at failure
        rcases failure with ⟨starts, waits, failed | refused⟩ | ⟨shows, full⟩
        · exact .jobs loaded checks starts waits failed
        · exact .threads loaded checks starts waits refused
        · exact .output loaded checks shows full

theorem success_eq_false_iff (machine : Machine World Log Child) (options : Options) (out : Sink)
    (world : World) :
    (run machine options out world).success = false ↔ Fails machine options out world := by
  rcases loaded_or_unloadable machine world options.config with ⟨config, loaded⟩ | unloadable
  · rw [run_of_loaded loaded, fails_iff_of_loaded loaded]
  · exact iff_of_true (run_of_unloadable unloadable out) (.noConfig unloadable)

theorem not_fails_iff_loaded {machine : Machine World Log Child} {options : Options} {world : World}
    (launches : options.check = false) (starts : options.dryRun = false)
    (leaves : options.wait = false) (out : Sink) :
    ¬ Fails machine options out world ↔ ∃ config, Loaded machine world options.config config := by
  constructor
  · intro sound
    rcases loaded_or_unloadable machine world options.config with loaded | unloadable
    · exact loaded
    · exact absurd (.noConfig unloadable) sound
  · rintro ⟨config, loaded⟩ fails
    cases fails with
    | noConfig unloadable => exact loaded.not_unloadable unloadable
    | problems _ checks _ => simp [launches] at checks
    | jobs _ _ _ waits _ => simp [leaves] at waits
    | threads _ _ _ waits _ => simp [leaves] at waits
    | output _ _ shows _ => simp [starts] at shows

/-- A run fails for one of four reasons and succeeds otherwise; where it neither checks, shows nor
waits, only its configuration can make it fail. -/
theorem exitCode_iff (machine : Machine World Log Child) (options : Options) (out : Sink)
    (world : World) :
    ((run machine options out world).exitCode = 1 ↔ Fails machine options out world) ∧
      ((run machine options out world).exitCode = 0 ↔ ¬ Fails machine options out world) ∧
      (options.check = false → options.dryRun = false → options.wait = false →
        ((run machine options out world).exitCode = 0 ↔
          ∃ config, Loaded machine world options.config config)) := by
  have failure : (run machine options out world).exitCode = 1 ↔ Fails machine options out world := by
    rw [Ran.exitCode_one, success_eq_false_iff]
  have success :
      (run machine options out world).exitCode = 0 ↔ ¬ Fails machine options out world := by
    rw [Ran.exitCode_zero, ← success_eq_false_iff, Bool.not_eq_false]
  refine ⟨failure, success, ?_⟩
  intro launches starts leaves
  rw [success, not_fails_iff_loaded launches starts leaves]

end Run
end BatchLaunch
