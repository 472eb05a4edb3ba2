import BatchLaunch.Proofs.Host.Naming
import Mathlib.Data.List.Pairwise
import Mathlib.Logic.Relation

/-!
Jobs that run at the same time, and the logs they write. The host is kept together with what the
jobs have written. Jobs may write, and anything may happen that leaves the logs alone; each log that
is open then holds what its own job has written.
-/
namespace BatchLaunch

open Host (Boot Pid NodeId Task)
open Relation (ReflTransGen)

/-- A host with the jobs that were started on it, and what they have written to their outputs and
errors, in the order in which they did. -/
structure Session where
  host : Host
  started : List Pid
  writes : List (Pid × Octets)

namespace Session

def machine (boot : Boot) : Machine Session Nat Pid where
  read session path := (Host.machine boot).read session.host path
  executable? session path := (Host.machine boot).executable? session.host path
  searchPath session := (Host.machine boot).searchPath session.host
  openLog session path :=
    let answer := (Host.machine boot).openLog session.host path
    (answer.1, { session with host := answer.2 })
  copyLog session log :=
    let answer := (Host.machine boot).copyLog session.host log
    (answer.1, { session with host := answer.2 })
  start session program args output errors :=
    let answer := (Host.machine boot).start session.host program args output errors
    (answer.1, { session with host := answer.2, started := session.started ++ answer.1.toList })
  buildPool session threads :=
    let answer := (Host.machine boot).buildPool session.host threads
    (answer.1, { session with host := answer.2 })
  await session threads calls :=
    let answer := (Host.machine boot).await session.host threads calls
    (answer.1, { session with host := answer.2 })

def IsOutput (target : Host.Descriptor) : Prop := target = 1 ∨ target = 2

/-- All that a job has written. -/
def written (writes : List (Pid × Octets)) (pid : Pid) : Octets :=
  (writes.filter fun entry => entry.1 = pid).flatMap Prod.snd

/-- What happens leaves the logs at some paths alone: they are the same nodes, with the same
contents and the same places in them, and a job that was started has no other output than before. No
number of a task is given again. -/
structure Keeps (paths : List String) (started : List Pid) (host after : Host) : Prop where
  names : ∀ path ∈ paths, after.named? path = host.named? path
  contents : ∀ path ∈ paths, ∀ id contents attributes, host.named? path = some id →
    host.system.files.node? id = some (.file contents attributes) →
      ∃ attributes', after.system.files.node? id = some (.file contents attributes')
  places : ∀ path ∈ paths, ∀ (id : NodeId) (number : Nat) (file : Host.OpenFile),
    host.named? path = some id → host.system.openFiles[number]? = some file →
      file.source = .node id → after.system.openFiles[number]? = some file
  outputs : ∀ pid ∈ started, ∀ task target number, IsOutput target →
    after.system.task? pid = some task → task.openFile? target = some number →
      ∃ task', host.system.task? pid = some task' ∧ task'.openFile? target = some number
  numbers : host.system.nextPid ≤ after.system.nextPid

/-- One event besides the launch: a job, or a task that shares an output with it, writes there, or
something else happens that leaves the logs alone. -/
inductive Happens (paths : List String) : Session → Session → Prop
  | write {session : Session} {pid writer : Pid} {task task' : Task}
      {output target : Host.Descriptor} {number count : Nat} {octets : Octets}
      {system : Host.System} (job : pid ∈ session.started) (isOutput : IsOutput output)
      (present : session.host.system.task? pid = some task)
      (means : task.openFile? output = some number)
      (present' : session.host.system.task? writer = some task')
      (shares : task'.openFile? target = some number)
      (done : session.host.system.answer writer task' (.write target octets) =
        some (.done count, system)) :
      Happens paths session ⟨session.host.withSystem system, session.started,
        session.writes ++ [(pid, octets.take count)]⟩
  | other {session : Session} {host : Host}
      (keeps : Keeps paths session.started session.host host) :
      Happens paths session { session with host := host }

def Goes (paths : List String) : Session → Session → Prop := ReflTransGen (Happens paths)

def say (pid : Pid) (target : Host.Descriptor) (octets : Octets) (session : Session) : Session :=
  match session.host.system.task? pid with
  | none => session
  | some task =>
      match session.host.system.answer pid task (.write target octets) with
      | some (.done count, system) =>
          if pid ∈ session.started then
            ⟨session.host.withSystem system, session.started,
              session.writes ++ [(pid, octets.take count)]⟩
          else session
      | _ => session

/-- A log that was opened for a job: its name in the directory of the logs, its node, its number
among the open files, and the job that was started on it. -/
structure Log where
  name : String
  node : NodeId
  number : Nat
  owner : Option Pid

def Log.text (log : Log) (writes : List (Pid × Octets)) : Octets :=
  match log.owner with
  | some pid => written writes pid
  | none => []

/-- A log is in order: it still has its name, holds what its job has written, is open at its end,
and is where the output of its job goes. -/
structure Log.Kept (dirPath : String) (session : Session) (log : Log) : Prop where
  named : session.host.named? (Path.join dirPath log.name) = some log.node
  file : ∃ attributes, session.host.system.files.node? log.node =
    some (.file (log.text session.writes) attributes)
  place : session.host.system.openFiles[log.number]? =
    some ⟨.node log.node, (log.text session.writes).length, false, false, true⟩
  output : ∀ pid, log.owner = some pid → ∀ task, session.host.system.task? pid = some task →
    ∀ target number, IsOutput target → task.openFile? target = some number → number = log.number

def Log.Apart (a b : Log) : Prop :=
  a.node ≠ b.node ∧ ∀ pid, a.owner = some pid → b.owner ≠ some pid

/-- All logs that are open are in order and apart, and those that still are to be opened are files
of their own, or are not there. -/
structure Sound (dirPath : String) (paths : List String) (session : Session) (logs : List Log)
    (rest : List String) : Prop where
  kept : ∀ log ∈ logs, log.Kept dirPath session
  apart : logs.Pairwise Log.Apart
  owners : ∀ pid, pid ∈ session.started ↔ ∃ log ∈ logs, log.owner = some pid
  numbers : ∀ pid ∈ session.started, pid < session.host.system.nextPid
  told : ∀ entry ∈ session.writes, entry.1 ∈ session.started
  regular : ∀ name ∈ rest, ∀ id, session.host.named? (Path.join dirPath name) = some id →
    (∃ contents attributes, session.host.system.files.node? id = some (.file contents attributes)) ∧
      ∀ log ∈ logs, log.node ≠ id
  distinct : ∀ a ∈ rest, ∀ b ∈ rest, ∀ id, session.host.named? (Path.join dirPath a) = some id →
    session.host.named? (Path.join dirPath b) = some id → a = b
  names : ∀ name ∈ logs.map Log.name ++ rest, Path.IsName name ∧ Path.join dirPath name ∈ paths
  unique : (logs.map Log.name ++ rest).Nodup

variable {dirPath : String} {paths rest : List String} {session after : Session} {host : Host}
  {log : Log} {logs : List Log} {pid : Pid} {octets : Octets} {writes : List (Pid × Octets)}
  {name : String}

instance : Std.Symm Log.Apart where
  symm := fun _ _ apart => ⟨apart.1.symm, fun pid owns owns' => apart.2 pid owns' owns⟩

theorem written_append (writes : List (Pid × Octets)) (pid : Pid) (octets : Octets) :
    written (writes ++ [(pid, octets)]) pid = written writes pid ++ octets := by
  simp [written]

theorem written_append_other {other : Pid} (apart : other ≠ pid) :
    written (writes ++ [(other, octets)]) pid = written writes pid := by
  simp [written, apart]

theorem Log.text_append (owns : log.owner = some pid) :
    log.text (writes ++ [(pid, octets)]) = log.text writes ++ octets := by
  rw [Log.text, Log.text, owns]
  exact written_append writes pid octets

theorem Log.text_append_other (others : log.owner ≠ some pid) :
    log.text (writes ++ [(pid, octets)]) = log.text writes := by
  rw [Log.text, Log.text]
  cases owns : log.owner with
  | none => rfl
  | some other =>
      refine written_append_other ?_
      rintro rfl
      exact others owns

theorem goes_say {target : Host.Descriptor} (isOutput : IsOutput target) (pid : Pid)
    (octets : Octets) (session : Session) : Goes paths session (session.say pid target octets) := by
  rw [say]
  split
  · exact .refl
  · rename_i task present
    split
    · rename_i count system done
      split
      · rename_i job
        cases means : task.openFile? target with
        | none => simp [Host.System.answer, Host.System.withDescriptor, means] at done
        | some number => exact .single (.write job isOutput present means present means done)
      · exact .refl
    · exact .refl

/-! Events leave the logs in order. -/

theorem Log.Kept.keeps (kept : log.Kept dirPath session)
    (within : Path.join dirPath log.name ∈ paths)
    (owned : ∀ pid, log.owner = some pid → pid ∈ session.started)
    (keeps : Keeps paths session.started session.host host) :
    log.Kept dirPath { session with host := host } where
  named := (keeps.names _ within).trans kept.named
  file := by
    obtain ⟨attributes, file⟩ := kept.file
    exact keeps.contents _ within _ _ _ kept.named file
  place := keeps.places _ within _ _ _ kept.named kept.place rfl
  output := by
    intro pid owns task present target number output means
    obtain ⟨task', present', means'⟩ :=
      keeps.outputs pid (owned pid owns) task target number output present means
    exact kept.output pid owns task' present' target number output means'

theorem Sound.keeps (sound : Sound dirPath paths session logs rest)
    (keeps : Keeps paths session.started session.host host) :
    Sound dirPath paths { session with host := host } logs rest where
  kept := by
    intro log member
    refine (sound.kept log member).keeps ?_ ?_ keeps
    · exact (sound.names _ (List.mem_append_left _ (List.mem_map_of_mem member))).2
    · intro pid owns
      exact (sound.owners pid).mpr ⟨log, member, owns⟩
  apart := sound.apart
  owners := sound.owners
  numbers := fun pid job => Nat.lt_of_lt_of_le (sound.numbers pid job) keeps.numbers
  told := sound.told
  regular := by
    intro name member id named
    have within := (sound.names name (List.mem_append_right _ member)).2
    rw [keeps.names _ within] at named
    obtain ⟨⟨contents, attributes, file⟩, free⟩ := sound.regular name member id named
    obtain ⟨attributes', file'⟩ := keeps.contents _ within id contents attributes named file
    exact ⟨⟨contents, attributes', file'⟩, free⟩
  distinct := by
    intro a inRest b inRest' id named named'
    rw [keeps.names _ (sound.names a (List.mem_append_right _ inRest)).2] at named
    rw [keeps.names _ (sound.names b (List.mem_append_right _ inRest')).2] at named'
    exact sound.distinct a inRest b inRest' id named named'
  names := sound.names
  unique := sound.unique

def Log.extend (log : Log) (session : Session) (octets : Octets) (attributes : Host.Attributes) :
    Host :=
  let text := log.text session.writes
  session.host.withSystem
    { session.host.system.setOpen log.number
        ⟨.node log.node, text.length + octets.length, false, false, true⟩ with
      files := session.host.system.files.set log.node (.file (text ++ octets) attributes) }

theorem Log.Kept.write {task task' : Task} {output target : Host.Descriptor}
    {writer : Pid} {number count : Nat} {system : Host.System} (kept : log.Kept dirPath session)
    (owns : log.owner = some pid) (isOutput : IsOutput output)
    (present : session.host.system.task? pid = some task)
    (means : task.openFile? output = some number) (shares : task'.openFile? target = some number)
    (done : session.host.system.answer writer task' (.write target octets) =
      some (.done count, system)) :
    octets.take count = octets ∧ ∃ attributes,
      session.host.withSystem system = log.extend session octets attributes := by
  obtain rfl := kept.output pid owns task present output number isOutput means
  obtain ⟨attributes, file⟩ := kept.file
  simp only [Host.System.answer, Host.System.withDescriptor, shares,
    Host.writeTo_end kept.place file, Option.some.injEq, Prod.mk.injEq,
    Host.Reply.done.injEq] at done
  obtain ⟨rfl, rfl⟩ := done
  exact ⟨List.take_length, _, rfl⟩

section Extend

variable {attributes : Host.Attributes}

theorem extend_node? (kept : log.Kept dirPath session) (other : NodeId) :
    (log.extend session octets attributes).system.files.node? other =
      if other = log.node then some (.file (log.text session.writes ++ octets) attributes)
      else session.host.system.files.node? other := by
  obtain ⟨attributes', file⟩ := kept.file
  exact Host.Files.node?_set _ _ _ _ (Host.Files.lt_of_node? file)

theorem extend_named? (kept : log.Kept dirPath session) (named : Path.IsName name) :
    (log.extend session octets attributes).named? (Path.join dirPath name) =
      session.host.named? (Path.join dirPath name) := by
  obtain ⟨attributes', file⟩ := kept.file
  have is : (log.extend session octets attributes).system.files.node? log.node =
      some (.file (log.text session.writes ++ octets) attributes) := by
    rw [extend_node? kept, if_pos rfl]
  have others : ∀ other ≠ log.node,
      (log.extend session octets attributes).system.files.node? other =
        session.host.system.files.node? other := fun other apart => by
    rw [extend_node? kept, if_neg apart]
  exact Host.named?_of_extends named rfl (Host.Files.extends_of_file file is others)
    (Host.Files.extends_of_file is file fun other apart => (others other apart).symm)

theorem Log.Kept.extend (kept : log.Kept dirPath session) (named : Path.IsName log.name)
    (owns : log.owner = some pid) :
    log.Kept dirPath ⟨log.extend session octets attributes, session.started,
      session.writes ++ [(pid, octets)]⟩ where
  named := (extend_named? kept named).trans kept.named
  file := by
    refine ⟨attributes, ?_⟩
    rw [extend_node? kept, if_pos rfl, Log.text_append owns]
  place := by
    have bound := (List.getElem?_eq_some_iff.mp kept.place).1
    rw [Log.text_append owns, List.length_append]
    exact List.getElem?_set_self bound
  output := kept.output

theorem Log.Kept.extend_other {other : Log} (kept : log.Kept dirPath session)
    (kept' : other.Kept dirPath session) (named : Path.IsName other.name)
    (owns : log.owner = some pid) (apart : log.Apart other) :
    other.Kept dirPath ⟨log.extend session octets attributes, session.started,
      session.writes ++ [(pid, octets)]⟩ where
  named := (extend_named? kept named).trans kept'.named
  file := by
    rw [extend_node? kept, if_neg apart.1.symm, Log.text_append_other (apart.2 pid owns)]
    exact kept'.file
  place := by
    have different : log.number ≠ other.number := by
      intro same
      have place := kept.place
      rw [same, kept'.place] at place
      simp only [Option.some.injEq, Host.OpenFile.mk.injEq, Host.Source.node.injEq] at place
      exact apart.1 place.1.symm
    rw [Log.text_append_other (apart.2 pid owns)]
    exact (List.getElem?_set_ne different).trans kept'.place
  output := kept'.output

end Extend

theorem Sound.write {task task' : Task} {output target : Host.Descriptor} {writer : Pid}
    {number count : Nat} {system : Host.System} (sound : Sound dirPath paths session logs rest)
    (job : pid ∈ session.started) (isOutput : IsOutput output)
    (present : session.host.system.task? pid = some task)
    (means : task.openFile? output = some number) (shares : task'.openFile? target = some number)
    (done : session.host.system.answer writer task' (.write target octets) =
      some (.done count, system)) :
    Sound dirPath paths ⟨session.host.withSystem system, session.started,
      session.writes ++ [(pid, octets.take count)]⟩ logs rest := by
  obtain ⟨log, member, owns⟩ := (sound.owners pid).mp job
  have kept := sound.kept log member
  obtain ⟨whole, attributes, same⟩ := kept.write owns isOutput present means shares done
  have logName {log : Log} (member : log ∈ logs) : Path.IsName log.name :=
    (sound.names _ (List.mem_append_left _ (List.mem_map_of_mem member))).1
  have restName {name : String} (member : name ∈ rest) : Path.IsName name :=
    (sound.names name (List.mem_append_right _ member)).1
  rw [whole, same]
  exact {
    kept := by
      intro other member'
      by_cases itself : log = other
      · subst itself
        exact kept.extend (logName member) owns
      · have apart := sound.apart.forall member member' itself
        exact kept.extend_other (sound.kept other member') (logName member') owns apart
    apart := sound.apart
    owners := sound.owners
    numbers := sound.numbers
    told := by
      intro entry member
      rcases List.mem_append.mp member with before | new
      · exact sound.told entry before
      · rw [List.mem_singleton.mp new]
        exact job
    regular := by
      intro name member' id named
      rw [extend_named? kept (restName member')] at named
      obtain ⟨file, free⟩ := sound.regular name member' id named
      rw [extend_node? kept, if_neg (free log member).symm]
      exact ⟨file, free⟩
    distinct := by
      intro a inRest b inRest' id named named'
      rw [extend_named? kept (restName inRest)] at named
      rw [extend_named? kept (restName inRest')] at named'
      exact sound.distinct a inRest b inRest' id named named'
    names := sound.names
    unique := sound.unique }

theorem Sound.happens (sound : Sound dirPath paths session logs rest)
    (event : Happens paths session after) : Sound dirPath paths after logs rest := by
  cases event with
  | write job isOutput present means present' shares done =>
      exact sound.write job isOutput present means shares done
  | other keeps => exact sound.keeps keeps

theorem Sound.goes (sound : Sound dirPath paths session logs rest)
    (events : Goes paths session after) : Sound dirPath paths after logs rest := by
  induction events with
  | refl => exact sound
  | tail _ event ih => exact ih.happens event

end Session
end BatchLaunch
