import BatchLaunch.Proofs.Session.Events

/-!
Requests of a launch where jobs already run. A log that is opened is apart from all others, and a
job that is started gets the log that was opened for it as its output.
-/
namespace BatchLaunch

open Host (Pid NodeId Task task?_new task?_old withTask)

namespace Session

variable {dirPath : String} {paths rest : List String} {session : Session} {host : Host}
  {log : Log} {logs : List Log} {pid : Pid} {writes : List (Pid × Octets)} {name : String}

theorem Sound.drop (sound : Sound dirPath paths session logs (name :: rest)) :
    Sound dirPath paths session logs rest where
  kept := sound.kept
  apart := sound.apart
  owners := sound.owners
  numbers := sound.numbers
  told := sound.told
  regular := fun other member => sound.regular other (List.mem_cons_of_mem name member)
  distinct := fun a inRest b inRest' =>
    sound.distinct a (List.mem_cons_of_mem name inRest) b (List.mem_cons_of_mem name inRest')
  names := by
    intro other member
    refine sound.names other ?_
    rcases List.mem_append.mp member with old | new
    · exact List.mem_append_left _ old
    · exact List.mem_append_right _ (List.mem_cons_of_mem name new)
  unique := sound.unique.sublist (List.Sublist.append_left (List.sublist_cons_self name rest) _)

theorem task?_congr {system system' : Host.System} (same : system'.tasks = system.tasks)
    (pid : Pid) : system'.task? pid = system.task? pid := by
  rw [Host.System.task?, Host.System.task?, same]

section Opening

variable {id : NodeId} {number : Nat}

theorem Log.Kept.openLog (kept : log.Kept dirPath session) (named : Path.IsName log.name)
    (apart : log.name ≠ name)
    (unnamed : session.host.named? (Path.join dirPath name) ≠ some log.node)
    (opened : Host.Opened session.host host dirPath name id number) :
    log.Kept dirPath { session with host := host } where
  named := (opened.others log.name named apart).trans kept.named
  file := by
    obtain ⟨attributes, file⟩ := kept.file
    exact ⟨attributes, opened.files _ _ _ (opened.apart file unnamed) file⟩
  place := by
    have bound := (List.getElem?_eq_some_iff.mp kept.place).1
    rw [opened.openFiles, List.getElem?_append_left bound]
    exact kept.place
  output := by
    intro pid owns task present
    rw [task?_congr opened.tasks] at present
    exact kept.output pid owns task present

theorem kept_opened (opened : Host.Opened session.host host dirPath name id number) :
    Log.Kept dirPath { session with host := host } ⟨name, id, number, none⟩ where
  named := opened.named
  file := opened.empty
  place := by
    rw [opened.openFiles, opened.number]
    exact List.getElem?_concat_length
  output := by simp

theorem Sound.openLog (sound : Sound dirPath paths session logs (name :: rest))
    (opened : Host.Opened session.host host dirPath name id number) :
    Sound dirPath paths { session with host := host } (logs ++ [⟨name, id, number, none⟩])
      rest := by
  have logName {log : Log} (member : log ∈ logs) : log.name ∈ logs.map Log.name ++ name :: rest :=
    List.mem_append_left _ (List.mem_map_of_mem member)
  have restName {other : String} (member : other ∈ rest) :
      other ∈ logs.map Log.name ++ name :: rest :=
    List.mem_append_right _ (List.mem_cons_of_mem name member)
  obtain ⟨-, restUnique, apart⟩ := List.nodup_append.mp sound.unique
  have unnamed {log : Log} (member : log ∈ logs) :
      session.host.named? (Path.join dirPath name) ≠ some log.node := fun named =>
    (sound.regular name List.mem_cons_self log.node named).2 log member rfl
  have nodes {log : Log} (member : log ∈ logs) : log.node ≠ id := by
    obtain ⟨attributes, file⟩ := (sound.kept log member).file
    exact opened.apart file (unnamed member)
  have others {other : String} (member : other ∈ rest) :
      host.named? (Path.join dirPath other) = session.host.named? (Path.join dirPath other) := by
    refine opened.others other (sound.names other (restName member)).1 ?_
    rintro rfl
    exact (List.nodup_cons.mp restUnique).1 member
  have same : (logs ++ [(⟨name, id, number, none⟩ : Log)]).map Log.name ++ rest =
      logs.map Log.name ++ name :: rest := by simp
  exact {
    kept := by
      intro log member
      rcases List.mem_append.mp member with old | new
      · refine (sound.kept log old).openLog (sound.names _ (logName old)).1 ?_ (unnamed old) opened
        exact apart _ (List.mem_map_of_mem old) _ List.mem_cons_self
      · rw [List.mem_singleton.mp new]
        exact kept_opened opened
    apart := by
      refine List.pairwise_append.mpr ⟨sound.apart, List.pairwise_singleton .., ?_⟩
      intro log member new isNew
      rw [List.mem_singleton.mp isNew]
      exact ⟨nodes member, by simp⟩
    owners := by
      intro pid
      rw [sound.owners pid]
      simp [or_and_right, exists_or]
    numbers := by
      intro pid job
      rw [Host.System.nextPid, opened.tasks]
      exact sound.numbers pid job
    told := sound.told
    regular := by
      intro other member other' named
      rw [others member] at named
      obtain ⟨⟨contents, attributes, file⟩, free⟩ :=
        sound.regular other (List.mem_cons_of_mem name member) other' named
      have different : other' ≠ id := by
        refine opened.apart file fun named' => ?_
        obtain rfl := sound.distinct name List.mem_cons_self other
          (List.mem_cons_of_mem name member) other' named' named
        exact (List.nodup_cons.mp restUnique).1 member
      refine ⟨⟨contents, attributes, opened.files _ _ _ different file⟩, ?_⟩
      intro log logMember
      rcases List.mem_append.mp logMember with old | new
      · exact free log old
      · rw [List.mem_singleton.mp new]
        exact different.symm
    distinct := by
      intro a inRest b inRest' id named named'
      rw [others inRest] at named
      rw [others inRest'] at named'
      exact sound.distinct a (List.mem_cons_of_mem name inRest) b
        (List.mem_cons_of_mem name inRest') id named named'
    names := by
      rw [same]
      exact sound.names
    unique := by
      rw [same]
      exact sound.unique }

end Opening

section Starting

variable {input : Host.OpenFile} {task : Task}

theorem written_unstarted (unstarted : ∀ entry ∈ writes, entry.1 ≠ pid) :
    written writes pid = [] := by
  have none : (writes.filter fun entry => entry.1 = pid) = [] := by
    simpa [List.filter_eq_nil_iff] using unstarted
  rw [written, none, List.flatMap_nil]

variable {started : List Pid}

theorem Log.Kept.start (kept : log.Kept dirPath session)
    (below : ∀ pid, log.owner = some pid → pid < session.host.system.nextPid) :
    log.Kept dirPath ⟨withTask session.host input task, started, session.writes⟩ where
  named := kept.named
  file := kept.file
  place := by
    have bound := (List.getElem?_eq_some_iff.mp kept.place).1
    exact (List.getElem?_append_left bound).trans kept.place
  output := by
    intro pid owns task' present
    rw [task?_old (below pid owns)] at present
    exact kept.output pid owns task' present

theorem Log.text_unstarted (free : log.owner = none)
    (unstarted : ∀ entry ∈ writes, entry.1 ≠ pid) :
    ({ log with owner := some pid } : Log).text writes = log.text writes := by
  rw [Log.text, Log.text, free]
  exact written_unstarted unstarted

theorem Log.Kept.own (kept : log.Kept dirPath session) (free : log.owner = none)
    (unstarted : ∀ entry ∈ session.writes, entry.1 ≠ session.host.system.nextPid)
    (descriptors : task.descriptors =
      [(0, session.host.system.openFiles.length), (1, log.number), (2, log.number)]) :
    Log.Kept dirPath ⟨withTask session.host input task, started, session.writes⟩
      { log with owner := some session.host.system.nextPid } where
  named := kept.named
  file := by
    rw [Log.text_unstarted free unstarted]
    exact kept.file
  place := by
    have bound := (List.getElem?_eq_some_iff.mp kept.place).1
    rw [Log.text_unstarted free unstarted]
    exact (List.getElem?_append_left bound).trans kept.place
  output := by
    intro pid owns task' present target number output means
    cases owns
    rw [task?_new] at present
    cases present
    rw [Task.openFile?, descriptors] at means
    rcases output with rfl | rfl
    · exact (Option.some.inj means).symm
    · exact (Option.some.inj means).symm

end Starting

theorem Sound.start {child : Option Pid} (sound : Sound dirPath paths session (logs ++ [log]) rest)
    (free : log.owner = none) (effect : Host.StartsTask session.host log.number log.number child host) :
    Sound dirPath paths
      { session with host := host, started := session.started ++ child.toList }
      (logs ++ [{ log with owner := child }]) rest := by
  cases effect with
  | refused =>
      rw [Option.toList_none, List.append_nil, ← free]
      exact sound
  | started descriptors =>
      rename_i input task
      have below {pid : Pid} (job : pid ∈ session.started) : pid ≠ session.host.system.nextPid :=
        Nat.ne_of_lt (sound.numbers pid job)
      obtain ⟨apart, -, last⟩ := List.pairwise_append.mp sound.apart
      have owned {other : Log} {pid : Pid} (member : other ∈ logs ++ [log])
          (owns : other.owner = some pid) : pid ∈ session.started :=
        (sound.owners pid).mpr ⟨other, member, owns⟩
      have old {other : Log} (member : other ∈ logs) : other ∈ logs ++ [log] :=
        List.mem_append_left _ member
      have here : log ∈ logs ++ [log] := List.mem_append_right _ List.mem_cons_self
      exact {
        kept := by
          intro other member
          rcases List.mem_append.mp member with before | new
          · exact (sound.kept other (old before)).start fun pid owns =>
              sound.numbers pid (owned (old before) owns)
          · rw [List.mem_singleton.mp new]
            exact (sound.kept log here).own free
              (fun entry told => below (sound.told entry told)) descriptors
        apart := by
          refine List.pairwise_append.mpr ⟨apart, List.pairwise_singleton .., ?_⟩
          intro other member new isNew
          rw [List.mem_singleton.mp isNew]
          refine ⟨(last other member log List.mem_cons_self).1, ?_⟩
          rintro pid owns ⟨⟩
          exact below (owned (old member) owns) rfl
        owners := by
          intro pid
          have before := sound.owners pid
          simp only [List.mem_append, List.mem_singleton, or_and_right, exists_or, exists_eq_left,
            free, reduceCtorEq, or_false] at before
          simp only [List.mem_append, List.mem_singleton, or_and_right, exists_or, exists_eq_left,
            Option.toList_some, before, Option.some.injEq, eq_comm]
        numbers := by
          intro pid member
          rw [Host.withSystem, Host.System.nextPid, List.length_append]
          rcases List.mem_append.mp member with before | new
          · exact Nat.lt_of_lt_of_le (sound.numbers pid before) (Nat.le_add_right _ 1)
          · rw [List.mem_singleton.mp new]
            exact Nat.lt_succ_self _
        told := fun entry told => List.mem_append_left _ (sound.told entry told)
        regular := by
          intro name member id named
          obtain ⟨file, free⟩ := sound.regular name member id named
          refine ⟨file, ?_⟩
          intro other member'
          rcases List.mem_append.mp member' with before | new
          · exact free other (old before)
          · rw [List.mem_singleton.mp new]
            exact free log here
        distinct := sound.distinct
        names := by simpa using sound.names
        unique := by simpa using sound.unique }

end Session
end BatchLaunch
