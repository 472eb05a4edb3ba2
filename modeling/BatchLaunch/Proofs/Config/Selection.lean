import BatchLaunch.Config.Table
import BatchLaunch.Proofs.Config.Preflight
import BatchLaunch.Proofs.Launch.Outcomes

/-!
A batch that passed its check can be launched in parts. Any part of it is sound as well, and no two
jobs of it open one log, wherever the logs are put.
-/
namespace BatchLaunch

namespace Launch

variable {World Log Child : Type}

def opened (requests : List (Request Child)) : List String :=
  requests.filterMap fun request =>
    match request with
    | .openLog path => some path
    | _ => none

theorem opened_append (front back : List (Request Child)) :
    opened (front ++ back) = opened front ++ opened back :=
  List.filterMap_append ..

theorem opened_requestsOf (command : Invocation) (result : Except SpawnError Child) :
    opened (requestsOf command result) = [command.logPath] := by
  fun_cases requestsOf command result <;> rfl

theorem Starts.opened {machine : Machine World Log Child} {world after : World}
    {commands : List Invocation} {results : List (Except SpawnError Child)}
    (starts : Starts machine world commands results after) :
    opened (allRequests commands results) = commands.map Invocation.logPath := by
  induction starts with
  | nil => rfl
  | cons first rest ih =>
      rw [allRequests, List.zipWith_cons_cons, List.flatten_cons, opened_append,
        opened_requestsOf, List.map_cons, ← ih]
      rfl

theorem opened_waits (machine : Machine World Log Child) (mode : Mode) (world : World) (jobs : Nat)
    (children : List Child) :
    opened (mode.waits machine world jobs children).requests = [] := by
  refine List.filterMap_eq_nil_iff.mpr fun request asked => ?_
  have wait := isWait_of_mem_waits asked
  cases request with
  | openLog path => cases wait
  | _ => rfl

theorem execute_opened (machine : Machine World Log Child) (mode : Mode) (settings : Settings)
    (dir : String) (jobs : List Job) (out : Sink) (world : World) :
    opened (mode.execute (recording machine) settings dir jobs out (world, [])).world.2 =
      (mode.attempted jobs).map fun job => Path.join dir job.logName := by
  have starts := spawnAll_starts machine settings dir (mode.attempted jobs) world
  rw [(execute_recording machine mode settings dir jobs out world).2, opened_append, opened_waits,
    List.append_nil, starts.opened, List.map_map]
  rfl

end Launch

theorem Config.Sound.select {launcher : Option String} {config : Config}
    (sound : config.Sound launcher) {selection : Selection}
    (selected : config.select selection ≠ []) :
    Config.Sound launcher { config with jobs := config.select selection } where
  jobs := selected
  launcher := sound.launcher
  settings := sound.settings
  fields := fun job member => sound.fields job (List.mem_of_mem_filter member)
  amounts := fun job member => sound.amounts job (List.mem_of_mem_filter member)
  apart := sound.apart.filter _

theorem logNames_nodup {jobs : List Job} (apart : jobs.Pairwise fun a b => ¬ a.SameLog b)
    (dir : String) :
    (jobs.map fun job => (Text.cutAt '/' (Path.join dir job.logName)).getLast?).Nodup := by
  rw [List.nodup_iff_pairwise_ne, List.pairwise_map]
  refine apart.imp ?_
  intro a b differ same
  rw [Path.getLast?_join dir a.logName_isName, Path.getLast?_join dir b.logName_isName] at same
  exact differ ((Job.logName_eq_iff a b).mp (Option.some.inj same))

namespace Preflight

/-- Any part of a batch that passed its check passes it too, unless the part is empty. The logs that
a launch of the part opens, one for each job, are all different, and no two are spellings of one
path, since they differ in their last parts. -/
theorem passed_part {World Log Child : Type} {machine : Machine World Log Child} {world : World}
    {config : Config} (passed : (run machine world config).problems = []) (selection : Selection)
    (dir : String) :
    let part := config.select selection
    let logs := part.map fun job => Path.join dir job.logName
    (part ≠ [] → (run machine world { config with jobs := part }).problems = []) ∧
      logs.Nodup ∧ (logs.map fun path => (Text.cutAt '/' path).getLast?).Nodup ∧
      ∀ (World' Log' Child' : Type) (launching : Machine World' Log' Child') (world' : World')
        (mode : Mode) (out : Sink), mode ≠ .dryRun →
        Launch.opened (mode.execute (Launch.recording launching) config.settings dir part out
          (world', [])).world.2 = logs := by
  intro part logs
  have sound := (problems_eq_nil_iff ..).mp passed
  have names : (logs.map fun path => (Text.cutAt '/' path).getLast?).Nodup := by
    simp only [logs, List.map_map, Function.comp_def]
    exact logNames_nodup (sound.apart.filter _) dir
  refine ⟨?_, .of_map _ names, names, ?_⟩
  · intro selected
    exact (problems_eq_nil_iff ..).mpr (sound.select selected)
  · intro World' Log' Child' launching world' mode out launches
    rw [Launch.execute_opened]
    cases mode with
    | dryRun => exact absurd rfl launches
    | detached => rfl
    | collecting timeout => rfl

/-- A machine that has the launcher in the second directory of its search path. -/
def equipped : Machine Unit Unit Unit where
  read _ _ := none
  executable? _ path := if path = "/usr/bin/mpiexec" then some true else none
  searchPath _ := some "/bin:/usr/bin"
  openLog _ _ := (none, ())
  copyLog _ _ := (none, ())
  start _ _ _ _ _ := (none, ())
  buildPool _ _ := (false, ())
  await _ _ _ := ([], ())

theorem builtin_part :
    (run equipped () .builtin).problems = [] ∧
      (run equipped () ⟨.builtin, Config.builtin.select ⟨[.svd, .tvb], [3, 4]⟩⟩).problems = [] ∧
      ["logs/tvb3.out", "logs/tvb4.out", "logs/svd3.out", "logs/svd4.out"].Nodup := by
  have passed : (run equipped () .builtin).problems = [] := by decide +kernel
  obtain ⟨part, logs, -⟩ := passed_part passed ⟨[.svd, .tvb], [3, 4]⟩ "logs"
  exact ⟨passed, part (by decide), logs⟩

end Preflight
end BatchLaunch
