import BatchLaunch.Config.Table
import BatchLaunch.Proofs.Job.LogName
import BatchLaunch.Proofs.Launch.Watched
import BatchLaunch.Proofs.Session.Requests

/-!
What the logs of a batch hold that is launched while its jobs run: each what its own job has
written. Between any two requests of the launch there may be any events that leave the logs alone.
-/
namespace BatchLaunch

open Host (Boot NodeId Pid)
open Launch (Starts Tried watched)

namespace Session

variable {dirPath : String} {paths rest : List String} {session : Session} {host : Host}
  {log : Log} {logs : List Log} {name : String}

/-- The owner of the log that an attempt has opened, if it has opened one. -/
def ownerOf : Except SpawnError Pid → Option (Option Pid)
  | .ok pid => some (some pid)
  | .error (.start _) | .error (.createLog _ .errors) => some none
  | .error (.createLog _ .output) => none

def Serves (logs : List Log) (name : String) (result : Except SpawnError Pid) : Prop :=
  ∀ owner, ownerOf result = some owner → ∃ log ∈ logs, log.name = name ∧ log.owner = owner

section Launching

variable {boot : Boot} {others : Nat → Session → Session} {number : Nat}
  {state next : Session × List (Launch.Action Session Pid)}
  {command : Invocation} {commands : List Invocation} {result : Except SpawnError Pid}
  {results : List (Except SpawnError Pid)} {program : String} {args : List String}

theorem openLog_watched {path : String} {answer : Option Nat}
    (opened : (others state.2.length state.1).host.openLog path = (answer, host)) :
    (watched others (machine boot)).openLog state path =
      (answer, { others state.2.length state.1 with host := host },
        state.2 ++ [⟨.openLog path, others state.2.length state.1,
          { others state.2.length state.1 with host := host }⟩]) := by
  simp only [watched, machine, Host.machine, opened]

theorem copyLog_watched (others : Nat → Session → Session)
    (state : Session × List (Launch.Action Session Pid)) (number : Nat) :
    (watched others (machine boot)).copyLog state number =
      (((others state.2.length state.1).host.copyLog number).1, others state.2.length state.1,
        state.2 ++ [⟨.copyLog, others state.2.length state.1, others state.2.length state.1⟩]) :=
  rfl

theorem start_watched {child : Option Pid}
    (began : (others state.2.length state.1).host.start boot program args number number =
      (child, host)) :
    (watched others (machine boot)).start state program args number number =
      (child, { others state.2.length state.1 with
        host := host, started := (others state.2.length state.1).started ++ child.toList },
        state.2 ++ [⟨.start program args, others state.2.length state.1,
          { others state.2.length state.1 with
            host := host
            started := (others state.2.length state.1).started ++ child.toList }⟩]) := by
  simp only [watched, machine, Host.machine, began]

variable (events : ∀ turn session, Goes paths session (others turn session))

include events

theorem Sound.refused (sound : Sound dirPath paths state.1 logs (name :: rest))
    (refused : (watched others (machine boot)).openLog state (Path.join dirPath name) =
      (none, next)) : Sound dirPath paths next.1 logs rest := by
  have before := sound.goes (events state.2.length state.1)
  cases answer : (others state.2.length state.1).host.openLog (Path.join dirPath name) with
  | mk log host =>
      rw [openLog_watched answer] at refused
      cases refused
      rw [Host.openLog_eq_none answer]
      exact before.drop

theorem Sound.granted (sound : Sound dirPath paths state.1 logs (name :: rest))
    (granted : (watched others (machine boot)).openLog state (Path.join dirPath name) =
      (some number, next)) :
    ∃ id, Sound dirPath paths next.1 (logs ++ [⟨name, id, number, none⟩]) rest := by
  have before := sound.goes (events state.2.length state.1)
  have here : name ∈ logs.map Log.name ++ name :: rest :=
    List.mem_append_right _ List.mem_cons_self
  cases answer : (others state.2.length state.1).host.openLog (Path.join dirPath name) with
  | mk log host =>
      rw [openLog_watched answer] at granted
      cases granted
      obtain ⟨id, opened⟩ := Host.openLog_opened (before.names name here).1
        (fun id named => (before.regular name List.mem_cons_self id named).1) answer
      exact ⟨id, before.openLog opened⟩

theorem Sound.copied {copy : Option Nat} (sound : Sound dirPath paths state.1 logs rest)
    (copied : (watched others (machine boot)).copyLog state number = (copy, next)) :
    Sound dirPath paths next.1 logs rest ∧ ∀ errors, copy = some errors → errors = number := by
  rw [copyLog_watched] at copied
  cases copied
  refine ⟨sound.goes (events state.2.length state.1), fun errors same => ?_⟩
  rw [Host.copyLog] at same
  split at same <;> cases same
  rfl

theorem Sound.began {child : Option Pid}
    (sound : Sound dirPath paths state.1 (logs ++ [log]) rest) (free : log.owner = none)
    (began : (watched others (machine boot)).start state program args log.number log.number =
      (child, next)) :
    Sound dirPath paths next.1 (logs ++ [{ log with owner := child }]) rest := by
  have before := sound.goes (events state.2.length state.1)
  have effect := Host.start_startsTask boot (others state.2.length state.1).host program args
    log.number log.number
  cases answer : (others state.2.length state.1).host.start boot program args log.number
      log.number with
  | mk child host =>
      rw [answer] at effect
      rw [start_watched answer] at began
      cases began
      exact before.start free effect

theorem Sound.tried (sound : Sound dirPath paths state.1 logs (name :: rest))
    (path : command.logPath = Path.join dirPath name)
    (tried : Tried (watched others (machine boot)) command state result next) :
    ∃ more, Sound dirPath paths next.1 (logs ++ more) rest ∧ Serves more name result := by
  cases tried with
  | noLog refused =>
      rw [path] at refused
      refine ⟨[], ?_, by simp [Serves, ownerOf]⟩
      rw [List.append_nil]
      exact sound.refused events refused
  | noCopy granted refused =>
      rw [path] at granted
      obtain ⟨id, opened⟩ := sound.granted events granted
      exact ⟨_, (opened.copied events refused).1, by simp [Serves, ownerOf]⟩
  | noStart granted copies refused =>
      rw [path] at granted
      obtain ⟨id, opened⟩ := sound.granted events granted
      obtain ⟨copied, same⟩ := opened.copied events copies
      obtain rfl := same _ rfl
      exact ⟨_, copied.began events rfl refused, by simp [Serves, ownerOf]⟩
  | started granted copies began =>
      rw [path] at granted
      obtain ⟨id, opened⟩ := sound.granted events granted
      obtain ⟨copied, same⟩ := opened.copied events copies
      obtain rfl := same _ rfl
      exact ⟨_, copied.began events rfl began, by simp [Serves, ownerOf]⟩

theorem Sound.starts (sound : Sound dirPath paths state.1 logs rest)
    (commanded : commands.map Invocation.logPath = rest.map (Path.join dirPath))
    (starts : Starts (watched others (machine boot)) state commands results next) :
    ∃ more, Sound dirPath paths next.1 (logs ++ more) [] ∧
      ∀ entry ∈ rest.zip results, Serves more entry.1 entry.2 := by
  induction starts generalizing logs rest with
  | nil =>
      obtain rfl := List.map_eq_nil_iff.mp commanded.symm
      exact ⟨[], by rwa [List.append_nil], by simp⟩
  | cons first later ih =>
      cases rest with
      | nil => simp at commanded
      | cons name rest =>
          simp only [List.map_cons, List.cons.injEq] at commanded
          obtain ⟨more, sound', serves⟩ := sound.tried events commanded.1 first
          obtain ⟨more', sound'', serves'⟩ := ih sound' commanded.2
          rw [List.append_assoc] at sound''
          refine ⟨more ++ more', sound'', ?_⟩
          intro entry member owner opened
          rw [List.zip_cons_cons, List.mem_cons] at member
          rcases member with rfl | member
          · obtain ⟨log, inMore, serves⟩ := serves owner opened
            exact ⟨log, List.mem_append_left _ inMore, serves⟩
          · obtain ⟨log, inMore, serves⟩ := serves' entry member owner opened
            exact ⟨log, List.mem_append_right _ inMore, serves⟩

end Launching

/-- The logs of a batch in a directory are files of their own, or are not there yet. -/
structure Ready (host : Host) (dirPath : String) (jobs : List Job) : Prop where
  apart : jobs.Pairwise fun a b => ¬ a.SameLog b
  regular : ∀ job ∈ jobs, ∀ id, host.named? (Path.join dirPath job.logName) = some id →
    ∃ contents attributes, host.system.files.node? id = some (.file contents attributes)
  distinct : ∀ a ∈ jobs, ∀ b ∈ jobs, ∀ id, host.named? (Path.join dirPath a.logName) = some id →
    host.named? (Path.join dirPath b.logName) = some id → a.SameLog b

theorem Ready.sound {jobs : List Job} (ready : Ready host dirPath jobs) :
    Sound dirPath (jobs.map fun job => Path.join dirPath job.logName) ⟨host, [], []⟩ []
      (jobs.map Job.logName) where
  kept := by simp
  apart := .nil
  owners := by simp
  numbers := by simp
  told := by simp
  regular := by
    intro name member id named
    obtain ⟨job, inJobs, rfl⟩ := List.mem_map.mp member
    exact ⟨ready.regular job inJobs id named, by simp⟩
  distinct := by
    intro a inRest b inRest' id named named'
    obtain ⟨job, inJobs, rfl⟩ := List.mem_map.mp inRest
    obtain ⟨job', inJobs', rfl⟩ := List.mem_map.mp inRest'
    exact (Job.logName_eq_iff job job').mpr (ready.distinct job inJobs job' inJobs' id named named')
  names := by
    intro name member
    obtain ⟨job, inJobs, rfl⟩ := List.mem_map.mp member
    exact ⟨job.logName_isName, List.mem_map.mpr ⟨job, inJobs, rfl⟩⟩
  unique := by
    refine List.pairwise_map.mpr (ready.apart.imp ?_)
    intro a b apart same
    exact apart ((Job.logName_eq_iff a b).mp same)

theorem launch_sound {boot : Boot} {settings : Settings} {jobs : List Job}
    {others : Nat → Session → Session} (ready : Ready host dirPath jobs)
    (events : ∀ turn session, Goes (jobs.map fun job => Path.join dirPath job.logName) session
      (others turn session)) :
    let done := Detached.spawnAll (watched others (machine boot)) settings dirPath jobs
      (⟨host, [], []⟩, [])
    ∃ logs, Sound dirPath (jobs.map fun job => Path.join dirPath job.logName) done.world.1 logs
        [] ∧
      ∀ attempt ∈ done.value, Serves logs attempt.job.logName attempt.result := by
  intro done
  have named : done.value.map Attempt.job = jobs := Launch.spawnAll_jobs ..
  have commanded : (jobs.map (.ofBatch settings dirPath)).map Invocation.logPath =
      (jobs.map Job.logName).map (Path.join dirPath) := by
    rw [List.map_map, List.map_map]
    rfl
  have listed : jobs.map Job.logName = done.value.map fun attempt => attempt.job.logName := by
    calc
      _ = (done.value.map Attempt.job).map Job.logName := by rw [named]
      _ = _ := List.map_map
  have starts := Launch.spawnAll_starts (watched others (machine boot)) settings dirPath jobs
    (⟨host, [], []⟩, [])
  obtain ⟨logs, sound, serves⟩ := ready.sound.starts events commanded starts
  refine ⟨logs, sound, ?_⟩
  intro attempt member
  rw [listed, List.zip_map'] at serves
  exact serves _ (List.mem_map_of_mem member)

theorem Log.Kept.read (kept : log.Kept dirPath session) (named : Path.IsName log.name) :
    ∃ attributes, session.host.system.files.get? session.host.cwd
      (Path.join dirPath log.name) = some (.file (log.text session.writes) attributes) := by
  obtain ⟨attributes, file⟩ := kept.file
  have found := Host.Files.find_follow named (Host.named?_eq_some.mp kept.named) (by simp [file])
  refine ⟨attributes, ?_⟩
  simp [Host.Files.get?, Host.Files.lookup, found, Except.toOption, file]

/-- Whatever the jobs of a batch that were started write to their outputs and errors, and in
whatever order, and whatever else happens that leaves their logs alone, the log of each job in the
end holds what that job has written, and nothing else. It is empty where the program could not be
started. -/
theorem logs_hold_own (boot : Boot) (settings : Settings) {dir : String} {jobs : List Job}
    {others : Nat → Session → Session} {last : Session} (ready : Ready host dir jobs) :
    let paths := jobs.map fun job => Path.join dir job.logName
    let done := Detached.spawnAll (watched others (machine boot)) settings dir jobs
      (⟨host, [], []⟩, [])
    (∀ turn session, Goes paths session (others turn session)) → Goes paths done.world.1 last →
      (done.value.Pairwise fun a b => ∀ pid, a.result = .ok pid → b.result ≠ .ok pid) ∧
      ∀ attempt ∈ done.value,
        let log := last.host.system.files.get? last.host.cwd (Path.join dir attempt.job.logName)
        (∀ pid, attempt.result = .ok pid →
          ∃ attributes, log = some (.file (written last.writes pid) attributes)) ∧
        ∀ program, attempt.result = .error (.start program) →
          ∃ attributes, log = some (.file [] attributes) := by
  intro paths done events ends
  obtain ⟨logs, launched, serves⟩ := launch_sound ready events
  have sound : Sound dir paths last logs [] := launched.goes ends
  have isName {log : Log} (member : log ∈ logs) : Path.IsName log.name :=
    (sound.names _ (List.mem_append_left _ (List.mem_map_of_mem member))).1
  refine ⟨?_, ?_⟩
  · have named : done.value.map Attempt.job = jobs := Launch.spawnAll_jobs ..
    have differ := ready.apart
    rw [← named, List.pairwise_map] at differ
    refine differ.imp_of_mem ?_
    intro a b inDone inDone' differ pid result result'
    obtain ⟨log, member, name, owns⟩ := serves a inDone (some pid) (by rw [result]; rfl)
    obtain ⟨log', member', name', owns'⟩ := serves b inDone' (some pid) (by rw [result']; rfl)
    have different : log ≠ log' := by
      rintro rfl
      exact differ ((Job.logName_eq_iff ..).mp (name.symm.trans name'))
    exact (sound.apart.forall member member' different).2 pid owns owns'
  · intro attempt member log
    have held (owner : Option Pid) (opened : ownerOf attempt.result = some owner) :
        ∃ entry : Log, entry.owner = owner ∧
          ∃ attributes, log = some (.file (entry.text last.writes) attributes) := by
      obtain ⟨entry, member', name, owns⟩ := serves attempt member owner opened
      have holds := (sound.kept entry member').read (isName member')
      rw [name] at holds
      exact ⟨entry, owns, holds⟩
    refine ⟨?_, ?_⟩
    · intro pid result
      obtain ⟨entry, owns, holds⟩ := held (some pid) (by rw [result]; rfl)
      rw [Log.text, owns] at holds
      exact holds
    · intro program result
      obtain ⟨entry, owns, holds⟩ := held none (by rw [result]; rfl)
      rw [Log.text, owns] at holds
      exact holds

/-! Two jobs that write in turns, on a host that has one program and the log of one of them. -/

def worker (pid : Pid) (input output : Nat) : Host.Task where
  name := "true"
  parent := Host.System.launcherPid
  group := pid
  session := pid
  state := .ready (.exit 0)
  descriptors := [(0, input), (1, output), (2, output)]
  cwd := 0
  mask := 0o022
  dispositions := []
  arrived := []
  collected := false

/-- A host with one program, an empty input, and some logs in its working directory. -/
def desk (entries : List (String × NodeId)) (logs : List Octets)
    (openFiles : List Host.OpenFile) (tasks : List Host.Task) : Host where
  system := {
    files := ⟨.directory 0 (("tool", 1) :: ("dev", 2) :: entries) ⟨0o755, true, 0⟩ ::
      .tool "true" :: .directory 0 [("null", 3)] ⟨0o755, true, 0⟩ :: .device .null ::
        logs.map fun text => .file text ⟨0o644, true, 0⟩, 0⟩
    openFiles := openFiles
    pipes := []
    tasks := tasks
    clock := 0 }
  cwd := 0
  searchPath := some ""
  room := 5

def noInput : Host.OpenFile := ⟨.node 3, 0, false, true, false⟩

def logOf (id : NodeId) : Host.OpenFile := ⟨.node id, 0, false, false, true⟩

def pair : List Job := [Table.job .tvb ⟨2, 6, 200⟩, Table.job .tvb ⟨3, 6, 100⟩]

def tool : Settings := { Settings.builtin with launcher := "tool" }

section Desk

variable {entries : List (String × NodeId)} {texts : List Octets} {openFiles : List Host.OpenFile}
  {tasks : List Host.Task} {follow : Bool}

theorem find_desk (named : Path.IsName name) (possible : Host.Files.Possible name) :
    (desk entries texts openFiles tasks).system.files.find 0 name follow =
      (desk entries texts openFiles tasks).system.files.entry 0 name := by
  refine Host.Files.find_name named possible (.inr fun id target _ => ?_)
  rcases id with _ | _ | _ | _ | id
  · rintro ⟨⟩
  · rintro ⟨⟩
  · rintro ⟨⟩
  · rintro ⟨⟩
  · simp [desk, Host.Files.node?]

theorem input?_desk : (desk entries texts openFiles tasks).input? = some 3 := by
  have found : (desk entries texts openFiles tasks).system.files.find 0 "/dev/null" true =
      .ok (.node 3) := by
    simp +decide [Host.Files.find, Host.Files.walk, Text.cutAt, Text.partsAt, Host.Files.origin,
      desk, Host.Files.node?, Host.Files.root, List.lookup_cons]
  have cwd : (desk entries texts openFiles tasks).cwd = 0 := rfl
  rw [Host.input?, cwd, Host.Files.lookup, Host.emptyInput, found]
  rfl

theorem start_desk {args : List String} {number : Nat}
    (clean : (("tool" :: args).any fun word => word.toList.contains '\x00') = false)
    (short : ((("tool" :: args).map Text.Utf8.encode).any fun word =>
      Host.Image.argumentLimit ≤ word.length) = false) :
    (desk entries texts openFiles tasks).start (fun _ _ => .exit 0) "tool" args number number =
      (some (Host.System.firstPid + tasks.length), desk entries texts (openFiles ++ [noInput])
        (tasks ++ [worker (Host.System.firstPid + tasks.length) openFiles.length number])) := by
  have candidates : Host.Image.candidates (some "") "tool" = ["tool"] := by decide
  have nonempty : ("tool" : String).isEmpty = false := by decide
  have found : (desk entries texts openFiles tasks).system.files.find 0 "tool" true =
      .ok (.node 1) :=
    (find_desk (by decide) (by decide)).trans rfl
  have cwd : (desk entries texts openFiles tasks).cwd = 0 := rfl
  have search : (desk entries texts openFiles tasks).searchPath = some "" := rfl
  have room : ¬ (desk entries texts openFiles tasks).room < Host.startRoom := Nat.lt_irrefl 5
  have program : (desk entries texts openFiles tasks).system.files.node? 1 =
    some (.tool "true") := rfl
  simp only [Host.start, clean, room, cwd, search, Host.Image.locate, candidates,
    Host.Image.locateAt, nonempty, Host.Image.runnable, short, Host.Image.atPath,
    Host.Files.lookup, Host.Files.get?, found, program, Host.Image.loadLimit, input?_desk,
    Bool.false_eq_true, if_false, Except.toOption, Option.bind_some]
  rfl

theorem named?_desk (named : Path.IsName name) (possible : Host.Files.Possible name) :
    (desk entries texts openFiles tasks).named? name =
      match (desk entries texts openFiles tasks).system.files.entry 0 name with
      | .ok (.node id) => some id
      | _ => none := by
  have cwd : (desk entries texts openFiles tasks).cwd = 0 := rfl
  rw [Host.named?, Host.Files.lookup, cwd, find_desk named possible]
  split <;> simp_all [Except.toOption]

end Desk

theorem ready_desk : Ready (desk [("tvb2.out", 4)] [[111, 108, 100]] [] []) "" pair := by
  have join (name : String) : Path.join "" name = name := by simp [Path.join]
  have name : (Table.job .tvb ⟨2, 6, 200⟩).logName = "tvb2.out" := by decide
  have name' : (Table.job .tvb ⟨3, 6, 100⟩).logName = "tvb3.out" := by decide
  have second : (desk [("tvb2.out", 4)] [[111, 108, 100]] [] []).named? "tvb2.out" = some 4 :=
    (named?_desk (by decide) (by decide)).trans rfl
  have third : (desk [("tvb2.out", 4)] [[111, 108, 100]] [] []).named? "tvb3.out" = none :=
    (named?_desk (by decide) (by decide)).trans rfl
  refine ⟨by decide, ?_, ?_⟩
  · simp only [pair, List.mem_cons, List.not_mem_nil, or_false, forall_eq_or_imp, forall_eq, name,
      name', join, second, third]
    refine ⟨?_, by simp⟩
    rintro _ ⟨⟩
    exact ⟨_, _, rfl⟩
  · simp [pair, name, name', join, second, third, Job.SameLog]

theorem attempts_zip (attempts : List (Attempt Pid)) :
    attempts = List.zipWith .mk (attempts.map Attempt.job) (attempts.map Attempt.result) := by
  induction attempts with
  | nil => rfl
  | cons attempt attempts ih =>
      rw [List.map_cons, List.map_cons, List.zipWith_cons_cons, ← ih]

theorem launch_desk :
    let done := Detached.spawnAll
      (watched (fun _ session => session) (machine fun _ _ => .exit 0)) tool "" pair
      (⟨desk [("tvb2.out", 4)] [[111, 108, 100]] [] [], [], []⟩, [])
    done.value = [⟨Table.job .tvb ⟨2, 6, 200⟩, .ok 1000⟩, ⟨Table.job .tvb ⟨3, 6, 100⟩, .ok 1001⟩] ∧
      done.world.1 = ⟨desk [("tvb2.out", 4), ("tvb3.out", 5)] [[], []]
        [logOf 4, noInput, logOf 5, noInput] [worker 1000 1 0, worker 1001 3 2],
        [1000, 1001], []⟩ := by
  intro done
  have opened : (desk [("tvb2.out", 4)] [[111, 108, 100]] [] []).openLog "tvb2.out" =
      (some 0, desk [("tvb2.out", 4)] [[]] [logOf 4] []) := by
    have cwd : (desk [("tvb2.out", 4)] [[111, 108, 100]] [] []).cwd = 0 := rfl
    rw [Host.openLog, Host.Files.openForWriting, cwd,
      find_desk (by decide) (by decide)]
    rfl
  have began : (desk [("tvb2.out", 4)] [[]] [logOf 4] []).start (fun _ _ => .exit 0) "tool"
      (Invocation.ofJob tool (Table.job .tvb ⟨2, 6, 200⟩)).args 0 0 =
        (some 1000, desk [("tvb2.out", 4)] [[]] [logOf 4, noInput] [worker 1000 1 0]) :=
    start_desk (by decide) (by decide)
  have opened' : (desk [("tvb2.out", 4)] [[]] [logOf 4, noInput] [worker 1000 1 0]).openLog
        "tvb3.out" = (some 2, desk [("tvb2.out", 4), ("tvb3.out", 5)] [[], []]
          [logOf 4, noInput, logOf 5] [worker 1000 1 0]) := by
    have cwd : (desk [("tvb2.out", 4)] [[]] [logOf 4, noInput] [worker 1000 1 0]).cwd = 0 := rfl
    rw [Host.openLog, Host.Files.openForWriting, cwd,
      find_desk (by decide) (by decide)]
    rfl
  have began' : (desk [("tvb2.out", 4), ("tvb3.out", 5)] [[], []]
      [logOf 4, noInput, logOf 5] [worker 1000 1 0]).start (fun _ _ => .exit 0) "tool"
      (Invocation.ofJob tool (Table.job .tvb ⟨3, 6, 100⟩)).args 2 2 =
        (some 1001, desk [("tvb2.out", 4), ("tvb3.out", 5)] [[], []]
          [logOf 4, noInput, logOf 5, noInput] [worker 1000 1 0, worker 1001 3 2]) :=
    start_desk (by decide) (by decide)
  have starts : ∃ trace, Starts (watched (fun _ session => session) (machine fun _ _ => .exit 0))
      (⟨desk [("tvb2.out", 4)] [[111, 108, 100]] [] [], [], []⟩, [])
      (pair.map (.ofBatch tool "")) [.ok 1000, .ok 1001]
      (⟨desk [("tvb2.out", 4), ("tvb3.out", 5)] [[], []]
        [logOf 4, noInput, logOf 5, noInput] [worker 1000 1 0, worker 1001 3 2],
        [1000, 1001], []⟩, trace) :=
    ⟨_, .cons (.started (openLog_watched opened) (copyLog_watched ..) (start_watched began))
      (.cons (.started (openLog_watched opened') (copyLog_watched ..) (start_watched began'))
        .nil)⟩
  obtain ⟨trace, starts⟩ := starts
  have jobs : done.value.map Attempt.job = pair := Launch.spawnAll_jobs ..
  obtain ⟨results, after⟩ := (Launch.spawnAll_starts ..).unique starts
  refine ⟨?_, congrArg Prod.fst after⟩
  rw [attempts_zip done.value, jobs, results]
  rfl

theorem pair_logs :
    let done := Detached.spawnAll
      (watched (fun _ session => session) (machine fun _ _ => .exit 0)) tool "" pair
      (⟨desk [("tvb2.out", 4)] [[111, 108, 100]] [] [], [], []⟩, [])
    let last := ((done.world.1.say 1000 1 [97]).say 1001 1 [98]).say 1000 2 [99]
    (∃ attributes, last.host.system.files.get? last.host.cwd "tvb2.out" =
        some (.file [97, 99] attributes)) ∧
      ∃ attributes, last.host.system.files.get? last.host.cwd "tvb3.out" =
        some (.file [98] attributes) := by
  intro done last
  obtain ⟨value, after⟩ := launch_desk
  have ends : Goes (pair.map fun job => Path.join "" job.logName) done.world.1 last :=
    ((goes_say (.inl rfl) 1000 [97] _).trans (goes_say (.inl rfl) 1001 [98] _)).trans
      (goes_say (.inr rfl) 1000 [99] _)
  have writes : last.writes = [(1000, [97]), (1001, [98]), (1000, [99])] := by
    simp only [last, done, after]
    rfl
  have second : Path.join "" (Table.job .tvb ⟨2, 6, 200⟩).logName = "tvb2.out" := by decide
  have third : Path.join "" (Table.job .tvb ⟨3, 6, 100⟩).logName = "tvb3.out" := by decide
  obtain ⟨-, holds⟩ := logs_hold_own (fun _ _ => .exit 0) tool ready_desk (fun _ _ => .refl) ends
  rw [value] at holds
  have log := (holds ⟨Table.job .tvb ⟨2, 6, 200⟩, .ok 1000⟩ (by simp)).1 1000 rfl
  have log' := (holds ⟨Table.job .tvb ⟨3, 6, 100⟩, .ok 1001⟩ (by simp)).1 1001 rfl
  rw [second, writes] at log
  rw [third, writes] at log'
  exact ⟨log, log'⟩

end Session
end BatchLaunch
