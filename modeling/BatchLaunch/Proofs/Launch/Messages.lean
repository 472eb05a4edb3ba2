import BatchLaunch.Host.Tree
import BatchLaunch.Proofs.Launch.Pool
import BatchLaunch.Proofs.Run.Status
import Mathlib.Data.List.Basic

/-!
What a launch that waits says of its jobs: one message about each attempt, in launch order, and one
about each wait, in the order in which the waits end. The outcome of a job determines both, so no
failure is passed over and none is told twice.
-/
namespace BatchLaunch

/-- Messages that are shown unless less is asked for. -/
def LogLine.isShown (line : LogLine) : Bool := line.level ≠ .debug

namespace Launch

def startLine : Job × Outcome → LogLine
  | (job, .spawnFailed message) => .error ("Failed to start " ++ job.display ++ ": " ++ message)
  | (job, _) => .info ("Started " ++ job.display)

def wasStarted : Job × Outcome → Bool
  | (_, .spawnFailed _) => false
  | _ => true

/-- The message about the wait for a job that was started. -/
def endLine : Job × Outcome → LogLine
  | (job, .exited 0) => .info (job.display ++ " finished: " ++ Collecting.endingText (.exited 0))
  | (job, .exited code) =>
      .warn (job.display ++ " finished unsuccessfully: " ++ Collecting.endingText (.exited code))
  | (job, .signalled signal) =>
      .warn (job.display ++ " finished unsuccessfully: " ++
        Collecting.endingText (.signalled signal))
  | (job, .timedOut) => .warn (job.display ++ " still running after timeout, leaving it be")
  | (job, _) => .warn ("Failed to wait for " ++ job.display)

def closingLine (successes total : Nat) : LogLine :=
  .info ("Done with " ++ toString successes ++ "/" ++ toString total ++ " jobs successful")

theorem waitLine_eq (job : Job) (waited : Waited) :
    Collecting.waitLine job waited = endLine (job, Collecting.outcomeOf waited) := by
  cases waited with
  | ended status =>
      cases status with
      | exited code =>
          by_cases zero : code = 0
          · subst zero
            rfl
          · simp [Collecting.waitLine, Collecting.outcomeOf, Outcome.isFailure, endLine, zero]
      | signalled signal => rfl
  | running => rfl
  | failed message => rfl

theorem endLine_level (job : Job) (outcome : Outcome) :
    (endLine (job, outcome)).level = if outcome = .exited 0 then .info else .warn := by
  cases outcome with
  | exited code =>
      by_cases zero : code = 0
      · subst zero
        rfl
      · simp [endLine, zero, LogLine.warn]
  | _ => rfl

@[simp] theorem startLine_outcomeOf (job : Job) (waited : Waited) :
    startLine (job, Collecting.outcomeOf waited) = .info ("Started " ++ job.display) := by
  cases waited with
  | ended status => cases status <;> rfl
  | running => rfl
  | failed message => rfl

@[simp] theorem wasStarted_outcomeOf (job : Job) (waited : Waited) :
    wasStarted (job, Collecting.outcomeOf waited) = true := by
  cases waited with
  | ended status => cases status <;> rfl
  | running => rfl
  | failed message => rfl

variable {World Log Child : Type}

/-! The messages about the attempts. -/

theorem attempt_shown (machine : Machine World Log Child) (settings : Settings) (dir : String)
    (job : Job) (world : World) :
    let done := Detached.attempt machine settings dir job world
    done.log.filter LogLine.isShown = [startLine (done.value.job, Detached.outcome done.value)] := by
  intro done
  simp only [done, Detached.attempt, Detached.spawn]
  cases machine.openLog world (Path.join dir (Invocation.ofJob settings job).logPath) with
  | mk output opened =>
      cases output with
      | none => rfl
      | some output =>
          dsimp only
          cases machine.copyLog opened output with
          | mk errors copied =>
              cases errors with
              | none => rfl
              | some errors =>
                  dsimp only
                  cases machine.start copied (Invocation.ofJob settings job).program
                      (Invocation.ofJob settings job).args output errors with
                  | mk child after => cases child <;> rfl

theorem spawnAll_shown (machine : Machine World Log Child) (settings : Settings) (dir : String)
    (jobs : List Job) (world : World) :
    let done := Detached.spawnAll machine settings dir jobs world
    done.log.filter LogLine.isShown =
      done.value.map fun attempt => startLine (attempt.job, Detached.outcome attempt) := by
  induction jobs generalizing world with
  | nil => rfl
  | cons job jobs ih =>
      simp only [Detached.spawnAll, List.filter_append, attempt_shown, ih, List.map_cons,
        List.singleton_append]

/-! The messages about the waits. -/

theorem outcomes_endLine (answers : List (Nat × Waited)) (position : Nat)
    (attempts : List (Attempt Child)) :
    ((Collecting.outcomes answers position attempts).filter wasStarted).map endLine =
      ((Collecting.started attempts).map Prod.fst).mapIdx fun k job =>
        Collecting.waitLine job (Collecting.answerAt answers (position + k)) := by
  induction attempts generalizing position with
  | nil => rfl
  | cons attempt attempts ih =>
      rw [Collecting.outcomes]
      cases result : attempt.result with
      | error error =>
          have later := ih position
          simp only [Collecting.started] at later ⊢
          simp [result, Except.toOption, wasStarted, later]
      | ok child =>
          have later := ih (position + 1)
          simp only [Collecting.started] at later ⊢
          simp [result, Except.toOption, later, waitLine_eq, Nat.add_assoc, Nat.add_comm 1]

theorem filterMap_range {α β : Type} (elements : List α) (f : Nat → α → β) :
    (List.range elements.length).filterMap (fun i => elements[i]?.map (f i)) =
      elements.mapIdx f := by
  induction elements generalizing f with
  | nil => rfl
  | cons a elements ih =>
      have later := ih fun i => f (i + 1)
      rw [List.length_cons, List.range_succ_eq_map, List.filterMap_cons, List.filterMap_map,
        List.mapIdx_cons, ← later]
      rfl

theorem waitLog_perm {jobs : List Job} {answers : List (Nat × Waited)}
    (once : (answers.map Prod.fst).Perm (List.range jobs.length)) :
    (Collecting.waitLog jobs answers).Perm
      (jobs.mapIdx fun i job => Collecting.waitLine job (Collecting.answerAt answers i)) := by
  have apart : (answers.map Prod.fst).Nodup := once.nodup_iff.mpr List.nodup_range
  have told : Collecting.waitLog jobs answers = (answers.map Prod.fst).filterMap fun i =>
      jobs[i]?.map fun job => Collecting.waitLine job (Collecting.answerAt answers i) := by
    rw [Collecting.waitLog, List.filterMap_map]
    refine List.filterMap_congr fun (i, waited) member => ?_
    simp only [Function.comp_apply, answerAt_of_mem apart member]
  rw [told, ← filterMap_range]
  exact once.filterMap _

/-! Each failure is told once: where the job is started, or where its wait ends. -/

theorem failure_told {entry : Job × Outcome}
    (kind : entry.2 ≠ .printed ∧ entry.2 ≠ .spawned) :
    (if (startLine entry).level = .error then 1 else 0) +
        (if (endLine entry).level = .warn ∧ wasStarted entry = true then 1 else 0) =
      if entry.2.isFailure = true then 1 else 0 := by
  obtain ⟨job, outcome⟩ := entry
  rw [endLine_level]
  cases outcome with
  | printed => exact absurd rfl kind.1
  | spawned => exact absurd rfl kind.2
  | exited code =>
      by_cases zero : code = 0 <;>
        simp [startLine, wasStarted, Outcome.isFailure, LogLine.info, zero]
  | _ => rfl

theorem count_failures {entries : List (Job × Outcome)}
    (kinds : ∀ entry ∈ entries, entry.2 ≠ .printed ∧ entry.2 ≠ .spawned) :
    (entries.map startLine).countP (fun line => line.level = .error) +
        ((entries.filter wasStarted).map endLine).countP (fun line => line.level = .warn) =
      entries.countP fun entry => entry.2.isFailure := by
  simp only [List.countP_map, List.countP_filter, Function.comp_def]
  induction entries with
  | nil => rfl
  | cons entry entries ih =>
      obtain ⟨kind, kinds⟩ := List.forall_mem_cons.mp kinds
      have first := failure_told kind
      have others := ih kinds
      simp only [List.countP_cons, Bool.and_eq_true, decide_eq_true_eq]
      omega

namespace Waiting

variable (launch : Waiting World Log Child)

theorem report_kinds :
    ∀ entry ∈ launch.report.outcomes, entry.2 ≠ .printed ∧ entry.2 ≠ .spawned := by
  intro entry member
  exact (collecting_accounts launch.timeout launch.answered launch.attempts.value).kinds entry.2
    (List.mem_map_of_mem member)

theorem shown_eq (built : launch.Built) : launch.collected.log.filter LogLine.isShown =
    launch.report.outcomes.map startLine ++
      [closingLine (launch.report.outcomes.length - launch.report.failures)
        launch.report.outcomes.length] := by
  have attempts : launch.attempts.log.filter LogLine.isShown =
      launch.report.outcomes.map startLine := by
    rw [report, outcomes_map startLine_outcomeOf]
    exact spawnAll_shown ..
  rw [launch.collected_of_built built, List.filter_append, attempts]
  rfl

theorem waitLog_report (once : launch.AnsweredOnce) : launch.waitLog.Perm
    ((launch.report.outcomes.filter wasStarted).map endLine) := by
  have length : ((Collecting.started launch.attempts.value).map Prod.fst).length =
      (children launch.results).length := by
    rw [results, ← started_children, List.length_map, List.length_map]
  have lines := outcomes_endLine launch.answered 0 launch.attempts.value
  simp only [Nat.zero_add] at lines
  rw [waitLog, report, lines]
  apply waitLog_perm
  rw [length]
  exact once

theorem failures_le : launch.report.failures ≤ launch.report.outcomes.length :=
  List.countP_le_length

theorem count_eq_failures (built : launch.Built) (once : launch.AnsweredOnce) :
    launch.collected.log.countP (fun line => line.level = .error) +
        launch.waitLog.countP (fun line => line.level = .warn) =
      launch.report.failures := by
  have shown : launch.collected.log.countP (fun line => line.level = .error) =
      (launch.collected.log.filter LogLine.isShown).countP fun line => line.level = .error := by
    rw [List.countP_filter]
    refine List.countP_congr fun line _ => ?_
    by_cases failed : line.level = .error <;> simp [LogLine.isShown, failed]
  have closing (successes total : Nat) :
      [closingLine successes total].countP (fun line => line.level = .error) = 0 := rfl
  rw [shown, launch.shown_eq built, (launch.waitLog_report once).countP_eq, List.countP_append, closing,
    Nat.add_zero, count_failures launch.report_kinds]
  rfl

end Waiting

end Launch

namespace Run

open CommandLine (Options)

variable {World Log Child : Type}

/-- The launch of a run that waits. -/
def waiting (machine : Machine World Log Child) (config : Config) (options : Options)
    (world : World) : Launch.Waiting World Log Child where
  machine := machine
  settings := config.settings
  dir := options.logDir.getD ""
  timeout := bound options
  jobs := config.select options.selection
  world := world

/-- How a run that waited ends. -/
def verdict (report : Report) : List LogLine :=
  if report.failures = 0 then []
  else [.error (toString report.failures ++ " of " ++ toString report.outcomes.length ++
    " jobs failed")]

theorem launch_waiting (machine : Machine World Log Child) (config : Config) {options : Options}
    (starts : options.dryRun = false) (waits : options.wait = true) (out : Sink) (world : World)
    (built : (waiting machine config options world).Built) :
    let waited := waiting machine config options world
    let ran := launch machine config options out world
    ran.waitLog = waited.waitLog ∧ ∃ opening, opening.level = .info ∧
      ran.log = opening :: waited.collected.log ++ verdict waited.report := by
  intro waited ran
  have collecting : mode options = .collecting (bound options) := by
    simp [mode, Mode.choose, starts, waits, bound]
  have ended (report : Report) : (if (options.wait && !report.isSuccess) = true then
      (false, [.error (toString report.failures ++ " of " ++ toString report.outcomes.length ++
        " jobs failed")])
      else (true, [])).2 = verdict report := by
    by_cases failed : report.failures = 0 <;> simp [verdict, Report.isSuccess, failed, waits]
  have collected : Collecting.execute machine config.settings (options.logDir.getD "")
      (bound options) (config.select options.selection) world = waited.collected := rfl
  have given := waited.collected_of_built built
  simp only [ran, launch, collecting, Mode.execute, collected, given, ended]
  exact ⟨trivial, .info _, rfl, rfl⟩

theorem run_eq_after {machine : Machine World Log Child} {options : Options} {world : World}
    {config : Config} (loaded : Loaded machine world options.config config) (out : Sink) :
    ∃ front, (∀ line ∈ front, line.level = .debug ∨ line.level = .info) ∧
      run machine options out world = (withConfig machine config options out world).after front := by
  rw [run]
  cases given : options.config with
  | none =>
      rw [given] at loaded
      cases loaded
      exact ⟨[], by simp, rfl⟩
  | some path =>
      rw [given] at loaded
      cases loaded with
      | file readable decoded accepted =>
          simp only [load_of_text readable decoded, accepted]
          refine ⟨_, ?_, rfl⟩
          simp [Config.parsedLine, LogLine.debug, LogLine.info]

theorem run_waiting {machine : Machine World Log Child} {options : Options} {world : World}
    {config : Config} (loaded : Loaded machine world options.config config)
    (launches : options.check = false) (starts : options.dryRun = false)
    (waits : options.wait = true) (out : Sink)
    (built : (waiting machine config options world).Built) :
    let waited := waiting machine config options world
    let ran := run machine options out world
    ran.waitLog = waited.waitLog ∧
      ∃ front, (∀ line ∈ front, line.level = .debug ∨ line.level = .info) ∧
        ran.log = front ++ waited.collected.log ++ verdict waited.report := by
  intro waited ran
  obtain ⟨front, levels, same⟩ := run_eq_after loaded out
  obtain ⟨waitLog, opening, level, log⟩ :=
    launch_waiting machine config starts waits out world built
  have batch : withConfig machine config options out world =
      launch machine config options out world := by
    rw [withConfig, launches]
    rfl
  rw [batch] at same
  refine ⟨?_, front ++ [opening], ?_, ?_⟩
  · simp only [ran, same]
    exact waitLog
  · intro line member
    rcases List.mem_append.mp member with early | last
    · exact levels line early
    · exact .inr (List.mem_singleton.mp last ▸ level)
  · simp only [ran, same, Ran.after, log]
    simp [waited]

end Run

/-- Every failure of a launch that waits is told, and none is told twice: in launch order where a job
is not started, and otherwise where its wait ends. -/
theorem Launch.failures_told {World Log Child : Type} {launch : Launch.Waiting World Log Child}
    (built : launch.Built) (once : launch.AnsweredOnce) :
    let report := launch.report
    launch.collected.value = .ok ⟨report, launch.waitLog⟩ ∧
    (∃ successes, successes + report.failures = report.outcomes.length ∧
      launch.collected.log.filter LogLine.isShown = report.outcomes.map startLine ++
        [closingLine successes report.outcomes.length]) ∧
    launch.waitLog.Perm ((report.outcomes.filter wasStarted).map endLine) ∧
    (∀ (job : Job) (outcome : Outcome),
      (endLine (job, outcome)).level = if outcome = .exited 0 then .info else .warn) ∧
    launch.collected.log.countP (fun line => line.level = .error) +
        launch.waitLog.countP (fun line => line.level = .warn) =
      report.failures ∧
    ∀ (config : Config) (options : CommandLine.Options) (out : Sink),
      Run.Loaded launch.machine launch.world options.config config →
        launch = Run.waiting launch.machine config options launch.world →
          options.check = false → options.dryRun = false → options.wait = true →
            let ran := run launch.machine options out launch.world
            ran.waitLog = launch.waitLog ∧
              ∃ front, (∀ line ∈ front, line.level = .debug ∨ line.level = .info) ∧
                ran.log = front ++ launch.collected.log ++
                  if report.failures = 0 then [] else
                    [.error (toString report.failures ++ " of " ++
                      toString report.outcomes.length ++ " jobs failed")] := by
  intro report
  refine ⟨?_, ⟨_, Nat.sub_add_cancel launch.failures_le, launch.shown_eq built⟩,
    launch.waitLog_report once, endLine_level, launch.count_eq_failures built once, ?_⟩
  · rw [launch.collected_of_built built]
  · intro config options out loaded same launches starts waits
    have told := Run.run_waiting loaded launches starts waits out (same ▸ built)
    rw [← same] at told
    exact told

namespace Launch

def hostJobs : Waiting Host Nat Host.Pid where
  machine := Host.machine fun _ _ => .exit 1
  settings := .builtin
  dir := ""
  timeout := some 5
  jobs := Table.jobs.take 2
  world := Host.fresh ["mpiexec"]

theorem pooled_hostJobs : hostJobs.Pooled (Host.ending fun _ _ => .exit 1) where
  runs := Host.runs _
  built := rfl
  ends := nofun

theorem failures_told_hostJobs :
    hostJobs.Built ∧ hostJobs.AnsweredOnce ∧
      hostJobs.collected.log.countP (fun line => line.level = .error) +
          hostJobs.waitLog.countP (fun line => line.level = .warn) =
        hostJobs.report.failures := by
  have once := pooled_hostJobs.answeredOnce
  obtain ⟨-, -, -, -, told, -⟩ := failures_told pooled_hostJobs.built once
  exact ⟨pooled_hostJobs.built, once, told⟩

end Launch
end BatchLaunch
