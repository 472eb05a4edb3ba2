import BatchLaunch.Proofs.Host.Opening
import BatchLaunch.Proofs.Launch.Checked
import BatchLaunch.Proofs.Launch.Starts

/-!
What an attempt at a job leaves of a host. Without a log nothing has happened; with a log but
without a second descriptor for it, or without a start, the log stays behind, empty unless it is one
that keeps nothing; else one task more is there. The next attempt sets out from just that.
-/
namespace BatchLaunch

open Text.Utf8 (encode)

namespace Host

namespace Image

variable {files : Files} {busy : NodeId → Bool} {cwd : NodeId} {loads : Nat} {path program : String}
  {word : Octets} {args : List Octets} {image : Image} {searchPath : Option String}

theorem atPath_suffix (found : atPath files busy cwd loads path args = .ok image) :
    args.drop 1 <:+ image.args := by
  fun_induction atPath files busy cwd loads path args
  case case3 =>
    cases found
    exact List.drop_suffix 1 _
  case case9 ih =>
    have behind := ih found
    rw [List.cons_append, List.drop_one, List.tail_cons] at behind
    exact (List.suffix_cons _ _).trans ((List.suffix_append _ _).trans behind)
  all_goals cases found

theorem runnable_suffix (found : runnable files busy cwd path args = .ok image) :
    args.drop 1 <:+ image.args := by
  rw [runnable] at found
  split at found
  · cases found
  · split at found
    · have behind := atPath_suffix found
      rw [List.drop_one, List.tail_cons] at behind
      exact (List.suffix_cons _ _).trans behind
    · exact atPath_suffix found

theorem locateAt_suffix {paths : List String}
    (found : locateAt files busy cwd args paths = some (path, image)) :
    args.drop 1 <:+ image.args := by
  induction paths with
  | nil => cases found
  | cons first paths ih =>
      rw [locateAt] at found
      split at found
      · rename_i runs
        cases found
        exact runnable_suffix runs
      · split at found
        · exact ih found
        · cases found

theorem locate_suffix
    (located : locate files busy cwd searchPath program (word :: args) = some (path, image)) :
    args <:+ image.args := by
  rw [locate] at located
  split at located
  · cases located
  · exact locateAt_suffix located

end Image

open Files (OnlyLog Writable)
open Launch (spawn_tried)

/-- A log can be opened: there is a descriptor for it, and its path may be written to. -/
def CanLog (host : Host) (path : String) : Prop :=
  0 < host.room ∧ Writable host.system.files host.cwd path

/-- A command can be started on a log: no word of it holds a NUL, descriptors and an empty input can
be had for it, and its program is found and can be executed. -/
def Startable (host : Host) (command : Invocation) (log : Nat) : Prop :=
  (∀ word ∈ command.words, '\x00' ∉ word.toList) ∧ startRoom ≤ host.room ∧
    host.input?.isSome ∧ ∃ place,
      Image.locate host.system.files (host.system.isWritten [log, log]) host.cwd host.searchPath
        command.program (command.words.map encode) = some place

/-- A task that is about to run a command, in a session of its own and with its output and errors
going to a log. -/
structure Carries (boot : Boot) (host : Host) (command : Invocation) (log : Nat) (task : Task) :
    Prop where
  image : ∃ path image,
    Image.locate host.system.files (host.system.isWritten [log, log]) host.cwd host.searchPath
      command.program (command.words.map encode) = some (path, image) ∧
    command.args.map encode <:+ image.args ∧ task.state = .ready (boot image host.environment)
  session : task.session = host.system.nextPid ∧ task.group = host.system.nextPid
  parent : task.parent = System.launcherPid
  descriptors : task.descriptors = [(0, host.system.openFiles.length), (1, log), (2, log)]

/-- What one attempt at a command comes to, and what it leaves of a host. -/
inductive Leaves (boot : Boot) (command : Invocation) (host : Host) :
    Except SpawnError Pid → Host → Prop
  | noLog (closed : ¬ host.CanLog command.logPath) :
      Leaves boot command host (.error (.createLog command.logPath .output)) host
  | noCopy {id : NodeId} {files : Files} (opens : host.CanLog command.logPath)
      (log : OnlyLog host.system.files files host.cwd command.logPath id)
      (short : host.room < 2) :
      Leaves boot command host (.error (.createLog command.logPath .errors))
        (host.withLog files id)
  | noStart {id : NodeId} {files : Files} (opens : host.CanLog command.logPath)
      (log : OnlyLog host.system.files files host.cwd command.logPath id)
      (room : 2 ≤ host.room)
      (refused : ¬ (host.withLog files id).Startable command host.system.openFiles.length) :
      Leaves boot command host (.error (.start command.program)) (host.withLog files id)
  | started {id : NodeId} {files : Files} {input : OpenFile} {task : Task}
      (opens : host.CanLog command.logPath)
      (log : OnlyLog host.system.files files host.cwd command.logPath id)
      (startable : (host.withLog files id).Startable command host.system.openFiles.length)
      (carries : Carries boot (host.withLog files id) command host.system.openFiles.length task) :
      Leaves boot command host (.ok host.system.nextPid)
        ((host.withLog files id).withTask input task)

variable {boot : Boot} {host after : Host} {command : Invocation} {log : Nat} {path : String}

theorem openLog_closed (closed : ¬ host.CanLog path) : host.openLog path = (none, host) := by
  cases opened : host.openLog path with
  | mk answer after =>
      cases answer with
      | none => rw [openLog_eq_none opened]
      | some log =>
          obtain ⟨room, -, id, files, granted, -⟩ := openLog_eq_some_iff.mp opened
          exact absurd ⟨room, (Files.writable_of_open granted).1⟩ closed

theorem openLog_open (opens : host.CanLog path) :
    ∃ id files, OnlyLog host.system.files files host.cwd path id ∧
      host.openLog path = (some host.system.openFiles.length, host.withLog files id) := by
  obtain ⟨room, writable⟩ := opens
  obtain ⟨⟨id, files⟩, opened⟩ := writable.opens
  exact ⟨id, files, (Files.writable_of_open opened).2,
    openLog_eq_some_iff.mpr ⟨room, rfl, id, files, opened, rfl⟩⟩

theorem start_refused (refused : ¬ host.Startable command log) :
    start boot host command.program command.args log log = (none, host) := by
  have effect := start_startsTask boot host command.program command.args log log
  have unstarted := mt (start_isSome boot host command.program command.args log log).mp refused
  cases result : start boot host command.program command.args log log with
  | mk child after =>
      rw [result] at effect unstarted
      cases effect with
      | refused => rfl
      | started descriptors => exact absurd rfl unstarted

theorem start_started (startable : host.Startable command log) :
    ∃ input task, Carries boot host command log task ∧
      start boot host command.program command.args log log =
        (some host.system.nextPid, host.withTask input task) := by
  obtain ⟨clean, room, input, ⟨path, image⟩, located⟩ := startable
  obtain ⟨input, had⟩ := Option.isSome_iff_exists.mp input
  have noNul : ((command.program :: command.args).any fun word =>
      word.toList.contains '\x00') = false := by
    simpa [Invocation.words] using clean
  rw [Invocation.words] at located
  rw [start, if_neg (by rw [noNul]; exact Bool.false_ne_true), if_neg (Nat.not_lt.mpr room)]
  simp only [had, located]
  refine ⟨_, _, ?_, rfl⟩
  exact {
    image := ⟨path, image, located, Image.locate_suffix located, rfl⟩
    session := ⟨rfl, rfl⟩
    parent := rfl
    descriptors := rfl }

theorem spawn_leaves (boot : Boot) (settings : Settings) (dir : String) (job : Job) (host : Host) :
    Leaves boot (.ofBatch settings dir job) host
      (Detached.spawn (machine boot) settings dir job host).value
      (Detached.spawn (machine boot) settings dir job host).world := by
  have tried := spawn_tried (machine boot) settings dir job host
  generalize Invocation.ofBatch settings dir job = command at tried ⊢
  by_cases opens : host.CanLog command.logPath
  · obtain ⟨id, files, log, granted⟩ := openLog_open opens
    have copied : (machine boot).copyLog (host.withLog files id) host.system.openFiles.length =
        (if host.room < 2 then none else some host.system.openFiles.length,
          host.withLog files id) := rfl
    by_cases short : host.room < 2
    · rw [if_pos short] at copied
      obtain ⟨value, world⟩ := tried.unique (.noCopy granted copied)
      rw [value, world]
      exact .noCopy opens log short
    · rw [if_neg short] at copied
      by_cases startable :
          (host.withLog files id).Startable command host.system.openFiles.length
      · obtain ⟨input, task, carries, began⟩ := start_started startable
        obtain ⟨value, world⟩ := tried.unique (.started granted copied began)
        have pid : (host.withLog files id).system.nextPid = host.system.nextPid :=
          (System.withLog_keeps ..).2
        rw [value, world, pid]
        exact .started opens log startable carries
      · obtain ⟨value, world⟩ := tried.unique (.noStart granted copied (start_refused startable))
        rw [value, world]
        exact .noStart opens log (Nat.not_lt.mp short) startable
  · obtain ⟨value, world⟩ := tried.unique (.noLog (openLog_closed opens))
    rw [value, world]
    exact .noLog opens

/-- A log beside a device that is never empty. -/
def withLogAt (room : Nat) (log : Node) : Host where
  system :=
    { files := ⟨[.directory 0 [("zero", 1), ("tvb2.out", 2)] ⟨0o755, true, 0⟩, .device .zero, log],
        0⟩
      openFiles := [], pipes := [], tasks := [], clock := 0 }
  cwd := 0
  searchPath := none
  room := room

end Host
end BatchLaunch
