import BatchLaunch.Proofs.Host.Lookup
import BatchLaunch.Proofs.Host.Naming

/-!
Opening a log leaves the programs of a host as they are. A file that is emptied keeps its
permissions, and a file that is made is one that nobody may execute.
-/
namespace BatchLaunch.Host

namespace Files

variable {files after : Files} {links left : Nat} {here there dir id cwd : NodeId}
  {name n : String} {before names dirs : List String} {path program : String}

theorem find_node_iff : files.find cwd path true = .ok (.node id) ↔
    Possible path ∧
      ∃ left, Reaches files linkLimit (origin cwd path) (Text.cutAt '/' path) left id := by
  rw [find_ok_iff, ← List.append_nil (Text.cutAt '/' path)]
  refine and_congr_right fun _ => ⟨fun goes => ?_, fun ⟨left, reaches⟩ => ?_⟩
  · obtain ⟨left, there, reaches, ends⟩ := reaches_of_walk _ _ _ goes (.inr ⟨rfl, id, rfl⟩)
    rw [walk] at ends
    cases ends
    exact ⟨left, by rwa [List.append_nil]⟩
  · rw [List.append_nil] at reaches
    rw [reaches.walk (.inr rfl), walk]

theorem Extends.find_node (grows : Extends files after)
    (found : files.find cwd path true = .ok (.node id)) :
    after.find cwd path true = .ok (.node id) := by
  obtain ⟨possible, left, reaches⟩ := find_node_iff.mp found
  exact find_node_iff.mpr ⟨possible, left, reaches.extend grows⟩

theorem Extends.runs (grows : Extends files after)
    (kept : ∀ id node mode, files.node? id = some node → regularMode? node = some mode →
      ∃ node', after.node? id = some node' ∧ regularMode? node' = some mode)
    (runs : Runs files cwd path) : Runs after cwd path := by
  obtain ⟨id, node, mode, found, present, regular, bits⟩ := runs_iff.mp runs
  obtain ⟨node', present', regular'⟩ := kept id node mode present regular
  exact runs_iff.mpr ⟨id, node', mode, grows.find_node found, present', regular', bits⟩

theorem Emptied.runs (change : Emptied files after id) :
    Runs after cwd path ↔ Runs files cwd path := by
  obtain ⟨grows, shrinks⟩ := change.extends
  obtain ⟨contents, attributes, was, is⟩ := change.file
  constructor
  · refine shrinks.runs fun other node mode present regular => ?_
    by_cases same : other = id
    · subst same
      rw [is] at present
      cases present
      exact ⟨_, was, regular⟩
    · rw [change.others other same] at present
      exact ⟨node, present, regular⟩
  · refine grows.runs fun other node mode present regular => ?_
    by_cases same : other = id
    · subst same
      rw [was] at present
      cases present
      exact ⟨_, is, regular⟩
    · exact ⟨node, (change.others other same).trans present, regular⟩

theorem Gained.reaches_new (change : Gained files after dir n)
    (reaches : Reaches after links files.nodes.length names left id) : id = files.nodes.length := by
  cases reaches with
  | done => rfl
  | on first rest =>
      have file := change.file
      cases first with
      | empty directory => simp [file] at directory
      | same directory passes => simp [file] at directory
      | above directory passes => simp [file] at directory
      | entry proper present plain =>
          obtain ⟨parent, entries, attributes, directory⟩ := entry_ok present
          simp [file] at directory
      | link proper present link somewhere =>
          obtain ⟨parent, entries, attributes, directory⟩ := entry_ok present
          simp [file] at directory

theorem Gained.directory_old (change : Gained files after dir n) {parent : NodeId}
    {entries : List (String × NodeId)} {attributes : Attributes}
    (directory : after.node? here = some (.directory parent entries attributes)) :
    ∃ entries' attributes', files.node? here = some (.directory parent entries' attributes') ∧
      attributes'.grants 1 = attributes.grants 1 := by
  obtain ⟨parent', entries', attributes', was, -, is⟩ := change.directory
  by_cases same : here = dir
  · subst same
    rw [is] at directory
    cases directory
    exact ⟨entries', attributes', was, rfl⟩
  · by_cases new : here = files.nodes.length
    · rw [new, change.file] at directory
      cases directory
    · rw [change.others here same new] at directory
      exact ⟨entries, attributes, directory, rfl⟩

theorem Gained.entry_old (change : Gained files after dir n)
    (present : after.entry here name = .ok (.node id)) (old : id ≠ files.nodes.length) :
    files.entry here name = .ok (.node id) := by
  obtain ⟨parent, entries, attributes, was, unnamed, is⟩ := change.directory
  by_cases same : here = dir
  · subst same
    by_cases named : name = n
    · subst named
      rw [entry_of_directory is, List.lookup_append, unnamed, List.lookup_cons_self] at present
      split at present
      · cases present
      · split at present
        · cases present
        · cases present
          exact absurd rfl old
    · rw [← change.entry_other named]
      exact present
  · have new : here ≠ files.nodes.length := by
      rintro rfl
      obtain ⟨_, _, _, directory⟩ := entry_ok present
      rw [change.file] at directory
      cases directory
    rw [Files.entry, change.others here same new] at present
    exact present

theorem Gained.strides_old (change : Gained files after dir n)
    (goes : Strides after links here name left there before) (old : there ≠ files.nodes.length) :
    Strides files links here name left there before := by
  cases goes with
  | empty directory =>
      obtain ⟨entries, attributes, directory', -⟩ := change.directory_old directory
      exact .empty directory'
  | same directory passes =>
      obtain ⟨entries, attributes, directory', grants⟩ := change.directory_old directory
      exact .same directory' (grants.trans passes)
  | above directory passes =>
      obtain ⟨entries, attributes, directory', grants⟩ := change.directory_old directory
      exact .above directory' (grants.trans passes)
  | entry proper present plain =>
      refine .entry proper (change.entry_old present old) ?_
      intro target link
      exact plain target ((change.extends.links _ _).mpr link)
  | link proper present link somewhere =>
      have link' := (change.extends.links _ _).mp link
      have old' := Nat.ne_of_lt (lt_of_node? link')
      exact .link proper (change.entry_old present old') link' somewhere

theorem Gained.reaches_old (change : Gained files after dir n)
    (reaches : Reaches after links here names left id) (old : id ≠ files.nodes.length) :
    Reaches files links here names left id := by
  induction reaches with
  | done => exact .done
  | @on _ _ _ _ there _ _ _ _ first rest ih =>
      have between : there ≠ files.nodes.length := by
        rintro rfl
        exact old (change.reaches_new rest)
      exact .on (change.strides_old first between) (ih old)

theorem Gained.runs (change : Gained files after dir n) :
    Runs after cwd path ↔ Runs files cwd path := by
  obtain ⟨parent, entries, attributes, was, -, is⟩ := change.directory
  constructor
  · intro runs
    obtain ⟨id, node, mode, found, present, regular, bits⟩ := runs_iff.mp runs
    have old : id ≠ files.nodes.length := by
      rintro rfl
      rw [change.file] at present
      cases present
      cases regular
      exact Bool.false_ne_true ((by decide : hasExecuteBit plainMode = false).symm.trans bits)
    have outside : id ≠ dir := by
      rintro rfl
      rw [is] at present
      cases present
      cases regular
    obtain ⟨possible, left, reaches⟩ := find_node_iff.mp found
    refine runs_iff.mpr ⟨id, node, mode, ?_, ?_, regular, bits⟩
    · exact find_node_iff.mpr ⟨possible, left, change.reaches_old reaches old⟩
    · rw [← change.others id outside old]
      exact present
  · refine change.extends.runs fun id node mode present regular => ?_
    have outside : id ≠ dir := by
      rintro rfl
      rw [was] at present
      cases present
      cases regular
    exact ⟨node, (change.others id outside (Nat.ne_of_lt (lt_of_node? present))).trans present,
      regular⟩

theorem LogAt.runs (change : LogAt files dir name id after) :
    Runs after cwd path ↔ Runs files cwd path := by
  cases change with
  | emptied meant change => exact change.runs
  | channel meant stands channel => rfl
  | made meant change => exact change.runs

theorem Finds.congr {other : Files}
    (same : ∀ path, Runs other cwd path ↔ Runs files cwd path)
    (finds : Finds files cwd dirs program path) : Finds other cwd dirs program path := by
  cases finds with
  | itself slash runs => exact .itself slash ((same _).mpr runs)
  | inTurn bare order passed runs =>
      exact .inTurn bare order (fun dir before ran => passed dir before ((same _).mp ran))
        ((same _).mpr runs)

end Files

theorem OpensLog.runs {dirPath name : String} {host after : Host}
    (effect : OpensLog dirPath name host after) :
    after.cwd = host.cwd ∧ after.searchPath = host.searchPath ∧
      ∀ cwd path,
        Files.Runs after.system.files cwd path ↔ Files.Runs host.system.files cwd path := by
  cases effect with
  | refused => exact ⟨rfl, rfl, fun _ _ => .rfl⟩
  | opened leads change =>
      refine ⟨rfl, rfl, fun _ _ => ?_⟩
      rw [withLog, withSystem, (System.withLog_keeps ..).1]
      exact change.runs

/-!
Whether a log can be opened, wherever its path leads, and what is left then: its path leads to an
empty file, or to a device or a pipe as before, and nothing else is different.
-/
namespace Files

variable {files after : Files} {links : Nat} {here dir id cwd : NodeId} {name path : String}
  {names : List String}

/-- A path may be written to: it leads to a file, a pipe or a device, or a file can be made there. -/
inductive Writable (files : Files) (cwd : NodeId) (path : String) : Prop
  | file {id : NodeId} {contents : Octets} {attributes : Attributes}
      (found : files.find cwd path true = .ok (.node id))
      (stands : files.node? id = some (.file contents attributes))
      (granted : attributes.grants 2) : Writable files cwd path
  | device {id : NodeId} {device : Device} (found : files.find cwd path true = .ok (.node id))
      (stands : files.node? id = some (.device device)) : Writable files cwd path
  | pipe {id : NodeId} {pipe : Nat} {attributes : Attributes}
      (found : files.find cwd path true = .ok (.node id))
      (stands : files.node? id = some (.fifo pipe attributes))
      (granted : attributes.grants 2) : Writable files cwd path
  | new {dir : NodeId} {name : String} (found : files.find cwd path true = .ok (.absent dir name))
      (granted : files.grants dir 2) : Writable files cwd path

/-- A path leads to an empty log, or as before to what keeps nothing, and nothing but that is
different: no other node, except that a directory has one more name if the log is new, and no
way. -/
structure OnlyLog (files after : Files) (cwd : NodeId) (path : String) (id : NodeId) : Prop where
  found : after.find cwd path true = .ok (.node id)
  empty : (∃ attributes, after.node? id = some (.file [] attributes)) ∨
    after = files ∧ ∃ node, files.node? id = some node ∧ node.isChannel
  others : ∀ other ≠ id, after.node? other = files.node? other ∨
    files.node? id = none ∧ ∃ parent entries attributes name,
      files.node? other = some (.directory parent entries attributes) ∧
        after.node? other = some (.directory parent (entries ++ [(name, id)])
          { attributes with modified := files.now })
  ways : Extends files after
  now : after.now = files.now

theorem entry_of_lookup {parent : NodeId} {entries : List (String × NodeId)}
    {attributes : Attributes}
    (directory : files.node? here = some (.directory parent entries attributes))
    (passes : ¬ (!attributes.grants 1) = true) (short : ¬ nameLimit < name.utf8ByteSize) :
    files.entry here name = .ok ((entries.lookup name).elim (.absent here name) .node) := by
  rw [entry_of_directory directory, if_neg passes, if_neg short]

/-- Where a path has led to the place of a new file, it leads to the file. -/
theorem Gained.walk (change : Gained files after dir name)
    (goes : files.walk true links here names = .ok (.absent dir name)) :
    after.walk true links here names = .ok (.node files.nodes.length) := by
  have onward {links left : Nat} {here there : NodeId} {name : String} {before rest : List String}
      (first : Strides files links here name left there before) :
      after.walk true links here (name :: rest) = after.walk true left there (before ++ rest) :=
    (first.extend change.extends).walk (.inr rfl)
  fun_induction files.walk true links here names
  case case2 directory ih => rw [onward (.empty directory), List.nil_append, ih goes]
  case case4 directory passes _ ih =>
    rw [onward (.same directory (by simpa using passes)), List.nil_append, ih goes]
  case case5 directory passes _ _ ih =>
    rw [onward (.above directory (by simpa using passes)), List.nil_append, ih goes]
  case case7 named directory nonempty passes notSame notAbove short missing last =>
    cases goes
    have absent := entry_of_lookup directory passes short
    rw [missing, Option.elim_none] at absent
    rw [List.isEmpty_iff.mp last, walk_entry (by simp [nonempty, notSame, notAbove]),
      change.entry absent]
    simp only [change.file]
    rw [Files.walk]
  case case12 directory nonempty passes notSame notAbove short id found target link _ left somewhere
      ih =>
    have present := entry_of_lookup directory passes short
    rw [found, Option.elim_some] at present
    rw [onward (.link (by simp [nonempty, notSame, notAbove]) present link
      (by simpa using somewhere)), ih goes]
  case case13 directory nonempty passes notSame notAbove short id found plain ih =>
    have present := entry_of_lookup directory passes short
    rw [found, Option.elim_some] at present
    rw [onward (.entry (by simp [nonempty, notSame, notAbove]) present plain), List.nil_append,
      ih goes]
  all_goals cases goes

theorem Gained.find (change : Gained files after dir name)
    (found : files.find cwd path true = .ok (.absent dir name)) :
    after.find cwd path true = .ok (.node files.nodes.length) := by
  obtain ⟨possible, goes⟩ := find_ok_iff.mp found
  exact find_ok_iff.mpr ⟨possible, change.walk goes⟩

theorem Emptied.onlyLog (change : Emptied files after id)
    (found : files.find cwd path true = .ok (.node id)) : OnlyLog files after cwd path id where
  found := change.extends.1.find_node found
  empty := by
    obtain ⟨contents, attributes, -, empty⟩ := change.file
    exact .inl ⟨_, empty⟩
  others := fun other apart => .inl (change.others other apart)
  ways := change.extends.1
  now := change.now

theorem Gained.onlyLog (change : Gained files after dir name)
    (found : files.find cwd path true = .ok (.absent dir name)) :
    OnlyLog files after cwd path files.nodes.length where
  found := change.find found
  empty := .inl ⟨_, change.file⟩
  others := by
    intro other apart
    obtain ⟨parent, entries, attributes, was, -, is⟩ := change.directory
    by_cases same : other = dir
    · rw [same]
      exact .inr ⟨node?_length files, parent, entries, attributes, name, was, is⟩
    · exact .inl (change.others other same apart)
  ways := change.extends
  now := change.now

theorem onlyLog_of_channel {node : Node} (found : files.find cwd path true = .ok (.node id))
    (stands : files.node? id = some node) (channel : node.isChannel) :
    OnlyLog files files cwd path id where
  found := found
  empty := .inr ⟨rfl, node, stands, channel⟩
  others := fun _ _ => .inl rfl
  ways := ⟨fun _ _ => .rfl, fun _ _ _ attributes directory =>
    ⟨[], attributes.modified, by rw [List.append_nil, directory]⟩⟩
  now := rfl

theorem writable_of_open
    (opened : files.openForWriting cwd path true false plainMode = .ok (id, after)) :
    Writable files cwd path ∧ OnlyLog files after cwd path id := by
  obtain ⟨place, found⟩ := find_of_open opened
  rw [openForWriting, found] at opened
  cases place with
  | absent dir name =>
      simp only at opened
      split at opened
      · rename_i granted
        cases opened
        have missing := absent_of_walk (find_ok_iff.mp found).2
        exact ⟨.new found granted, (gained_create missing).onlyLog found⟩
      · cases opened
  | node target =>
      simp only [Bool.false_eq_true, if_false, if_true] at opened
      split at opened
      · cases opened
      · rename_i contents attributes stands
        split at opened
        · rename_i granted
          cases opened
          exact ⟨.file found stands granted, (emptied_set stands).onlyLog found⟩
        · cases opened
      · rename_i device stands
        cases opened
        exact ⟨.device found stands, onlyLog_of_channel found stands rfl⟩
      · rename_i pipe attributes stands
        split at opened
        · rename_i granted
          cases opened
          exact ⟨.pipe found stands granted, onlyLog_of_channel found stands rfl⟩
        · cases opened
      · cases opened

theorem Writable.opens (writable : Writable files cwd path) :
    ∃ opening, files.openForWriting cwd path true false plainMode = .ok opening := by
  cases writable with
  | file found stands granted => simp [openForWriting, found, stands, granted]
  | device found stands => simp [openForWriting, found, stands]
  | pipe found stands granted => simp [openForWriting, found, stands, granted]
  | new found granted => simp [openForWriting, found, granted]

end Files
end BatchLaunch.Host
