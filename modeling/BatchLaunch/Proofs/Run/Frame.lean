import BatchLaunch.Proofs.Host.Requests
import BatchLaunch.Proofs.Job.LogName
import BatchLaunch.Proofs.Launch.Watched
import BatchLaunch.Proofs.Run.Status

/-!
What a run does to the host it runs on, whatever else goes on there: at most it opens the logs of
the selected jobs and starts these, and a run that fails early, checks or shows its jobs does
nothing.
-/
namespace BatchLaunch

open CommandLine (Options)
open Launch (Passes Performed Turns watched)

namespace Host

/-- What a launch of some jobs may do to a host: open their logs in a directory, start their
programs, and, if it waits, let what runs go on. -/
inductive Allowed (boot : Boot) (mode : Mode) (settings : Settings) (dirPath : String)
    (jobs : List Job) : Launch.Action Host Pid → Prop
  | opens {job : Job} {before after : Host} (selected : job ∈ jobs)
      (effect : OpensLog dirPath job.logName before after) :
      Allowed boot mode settings dirPath jobs
        ⟨.openLog (Path.join dirPath job.logName), before, after⟩
  | copies (before : Host) : Allowed boot mode settings dirPath jobs ⟨.copyLog, before, before⟩
  | starts {job : Job} {before after : Host} {output errors : Nat} {child : Option Pid}
      (selected : job ∈ jobs) (effect : StartsTask before output errors child after) :
      Allowed boot mode settings dirPath jobs
        ⟨.start settings.launcher (Invocation.ofJob settings job).args, before, after⟩
  | pool {timeout : Timeout} (bounded : mode = .collecting timeout) (before : Host)
      (threads : Nat) :
      Allowed boot mode settings dirPath jobs ⟨.buildPool threads, before, before⟩
  | waits {timeout : Timeout} (bounded : mode = .collecting timeout) (before : Host)
      (threads : Nat) (calls : List (WaitCall Pid)) (deadline : Nat) :
      Allowed boot mode settings dirPath jobs ⟨.await threads calls, before,
        before.withSystem (before.system.run boot (some deadline) System.patience)⟩

theorem allowed_of_performed {boot : Boot} {mode : Mode} {settings : Settings} {dirPath : String}
    {jobs : List Job} {action : Launch.Action Host Pid}
    (performed : Performed (machine boot) mode (jobs.map (.ofBatch settings dirPath)) action) :
    Allowed boot mode settings dirPath jobs action := by
  cases performed with
  | openLog member before =>
      obtain ⟨job, selected, rfl⟩ := List.mem_map.mp member
      exact .opens selected (openLog_opensLog before dirPath job.logName_isName)
  | copyLog before log => exact .copies before
  | start member before output errors =>
      obtain ⟨job, selected, rfl⟩ := List.mem_map.mp member
      exact .starts selected (start_startsTask boot before settings.launcher _ output errors)
  | buildPool waits before threads => exact .pool waits before threads
  | await waits before threads calls => exact .waits waits before threads calls _

end Host

namespace Run

variable {World Log Child : Type} {machine : Machine World Log Child} {options : Options}
  {world : World} {config : Config}

theorem run_world_of_unloadable (unloadable : Unloadable machine world options.config)
    (out : Sink) : (run machine options out world).world = world := by
  rw [run]
  cases given : options.config with
  | none =>
      rw [given] at unloadable
      cases unloadable
  | some path =>
      rw [given] at unloadable
      cases unloadable with
      | unreadable refused => simp [Config.load, refused]
      | noText readable undecoded => simp [Config.load, readable, undecoded]
      | rejected readable decoded refused =>
          simp only [load_of_text readable decoded, refused]
          rfl

theorem run_world_of_loaded (loaded : Loaded machine world options.config config) (out : Sink) :
    (run machine options out world).world =
      (withConfig machine config options out world).world := by
  rw [run]
  cases given : options.config with
  | none =>
      rw [given] at loaded
      cases loaded
      rfl
  | some path =>
      rw [given] at loaded
      cases loaded with
      | file readable decoded accepted =>
          simp only [load_of_text readable decoded, accepted]
          rfl

theorem withConfig_still (resting : options.check = true ∨ options.dryRun = true)
    (machine : Machine World Log Child) (config : Config) (out : Sink) (world : World) :
    (withConfig machine config options out world).world = world := by
  rw [withConfig]
  cases checks : options.check with
  | true => rfl
  | false =>
      have shows : options.dryRun = true := by simpa [checks] using resting
      have mode : mode options = .dryRun := by rw [mode, Mode.choose, if_pos shows]
      simp only [Bool.false_eq_true, if_false, launch, mode]
      rfl

theorem run_still {options : Options}
    (resting : Unloadable machine world options.config ∨ options.check = true ∨
      options.dryRun = true) (out : Sink) : (run machine options out world).world = world := by
  rcases loaded_or_unloadable machine world options.config with ⟨config, loaded⟩ | unloadable
  · rcases resting with unloadable | resting
    · exact absurd unloadable loaded.not_unloadable
    · rw [run_world_of_loaded loaded, withConfig_still resting]
  · exact run_world_of_unloadable unloadable out

/-! What else goes on is nothing to what is read at first. -/

theorem Loaded.watched {others : Nat → World → World} {path : Option String}
    (loaded : Loaded machine world path config) (actions : List (Launch.Action World Child)) :
    Loaded (Launch.watched others machine) (world, actions) path config := by
  cases loaded with
  | builtin => exact .builtin
  | file readable decoded accepted => exact .file readable decoded accepted

theorem Unloadable.watched {others : Nat → World → World} {path : Option String}
    (unloadable : Unloadable machine world path) (actions : List (Launch.Action World Child)) :
    Unloadable (Launch.watched others machine) (world, actions) path := by
  cases unloadable with
  | unreadable refused => exact .unreadable refused
  | noText readable undecoded => exact .noText readable undecoded
  | rejected readable decoded refused => exact .rejected readable decoded refused

theorem withConfig_passes (others : Nat → World → World) (machine : Machine World Log Child)
    (config : Config) (options : Options) (out : Sink)
    (state : World × List (Launch.Action World Child)) :
    Passes others machine (mode options) (commands config options) state
      (withConfig (watched others machine) config options out state).world := by
  rw [withConfig]
  cases options.check with
  | true => exact .refl
  | false =>
      exact Launch.execute_passes others machine (mode options) config.settings
        (options.logDir.getD "") (config.select options.selection) out state

/-- Unless it is a dry run or a check, or has no configuration, a run opens logs of selected jobs
and starts these, and does nothing else to the host that it shares with others: an opened log is
what the job's name stands for in the directory of the logs, which has to be there already. A
command line that is not accepted does nothing at all. -/
theorem run_frame (boot : Host.Boot) (others : Nat → Host → Host) (out : Sink) (host : Host) :
    let alone := Host.machine boot
    let machine := watched others alone
    (∀ options : Options,
      let after := (run machine options out (host, [])).world
      (Unloadable alone host options.config ∨ options.check = true ∨ options.dryRun = true →
        after = (host, [])) ∧
      ∀ config, Loaded alone host options.config config →
        Turns others 0 host after.2 after.1 ∧
        ∀ action ∈ after.2, Host.Allowed boot (mode options) config.settings
          (options.logDir.getD "") (config.select options.selection) action) ∧
    ∀ (invokedAs : String) (args : List String) (stop : CommandLine.Stop),
      CommandLine.parse args = .error stop →
        (obey machine invokedAs args out (host, [])).world = (host, []) := by
  intro alone machine
  refine ⟨?_, ?_⟩
  · intro options after
    refine ⟨?_, ?_⟩
    · intro resting
      exact run_still (resting.imp_left (·.watched [])) out
    · intro config loaded
      have passes := withConfig_passes others alone config options out (host, [])
      rw [← run_world_of_loaded (loaded.watched [])] at passes
      obtain ⟨actions, told, turns, performed⟩ := passes
      obtain rfl : after.2 = actions := told
      exact ⟨turns, fun action member => Host.allowed_of_performed (performed action member)⟩
  · intro invokedAs args stop rejected
    rw [obey, rejected]
    simp only
    split <;> rfl

end Run
end BatchLaunch
