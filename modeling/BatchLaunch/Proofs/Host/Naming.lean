import BatchLaunch.Proofs.Host.Requests

/-!
Which nodes the logs of a directory are. Writing to a file changes no name, and opening a log gives
at most that log a node.
-/
namespace BatchLaunch.Host

namespace Files

open BatchLaunch.Path (IsName)

variable {files after : Files} {dir id : NodeId} {name other : String}

theorem node?_length (files : Files) : files.node? files.nodes.length = none :=
  List.getElem?_eq_none (Nat.le_refl _)

theorem grants_modified (attributes : Attributes) (time : Int) (bits : Nat) :
    ({ attributes with modified := time } : Attributes).grants bits = attributes.grants bits := rfl

/-- Where only one node differs, and that is a regular file in both tables, all ways are the
same. -/
theorem extends_of_file {contents contents' : Octets} {attributes attributes' : Attributes}
    (was : files.node? id = some (.file contents attributes))
    (is : after.node? id = some (.file contents' attributes'))
    (others : ∀ other ≠ id, after.node? other = files.node? other) : Extends files after where
  links := by
    intro other target
    by_cases same : other = id
    · simp [same, was, is]
    · rw [others other same]
  directories := by
    intro other parent entries attributes directory
    have apart : other ≠ id := by
      rintro rfl
      rw [was] at directory
      cases directory
    refine ⟨[], attributes.modified, ?_⟩
    rw [others other apart, directory, List.append_nil]

theorem Emptied.extends (change : Emptied files after id) :
    Extends files after ∧ Extends after files := by
  obtain ⟨contents, attributes, was, is⟩ := change.file
  exact ⟨extends_of_file was is change.others,
    extends_of_file is was fun other apart => (change.others other apart).symm⟩

theorem Gained.extends (change : Gained files after dir name) : Extends files after where
  links := by
    obtain ⟨parent, entries, attributes, was, -, is⟩ := change.directory
    intro other target
    by_cases same : other = dir
    · simp [same, was, is]
    · by_cases new : other = files.nodes.length
      · rw [new, change.file, node?_length]
        simp
      · rw [change.others other same new]
  directories := by
    obtain ⟨parent, entries, attributes, was, -, is⟩ := change.directory
    intro other parent' entries' attributes' directory
    by_cases same : other = dir
    · subst same
      rw [was] at directory
      cases directory
      exact ⟨[(name, files.nodes.length)], files.now, is⟩
    · refine ⟨[], attributes'.modified, ?_⟩
      rw [change.others other same (Nat.ne_of_lt (lt_of_node? directory)), directory,
        List.append_nil]

theorem Gained.entry (change : Gained files after dir name)
    (missing : files.entry dir name = .ok (.absent dir name)) :
    after.entry dir name = .ok (.node files.nodes.length) := by
  obtain ⟨parent, entries, attributes, was, unnamed, is⟩ := change.directory
  rw [entry_of_directory was] at missing
  rw [entry_of_directory is, grants_modified, List.lookup_append, unnamed, List.lookup_cons_self]
  split at missing
  · cases missing
  · split at missing
    · cases missing
    · rename_i passes short
      rw [if_neg passes, if_neg short]
      rfl

theorem Gained.entry_other (change : Gained files after dir name) (apart : other ≠ name) :
    after.entry dir other = files.entry dir other := by
  obtain ⟨parent, entries, attributes, was, -, is⟩ := change.directory
  have unnamed : List.lookup other [(name, files.nodes.length)] = none := by simp [apart]
  rw [entry_of_directory was, entry_of_directory is, grants_modified, List.lookup_append, unnamed,
    Option.or_none]

theorem LogAt.regular (change : LogAt files dir name id after)
    (regular : ∀ other, files.entry dir name = .ok (.node other) →
      ∃ contents attributes, files.node? other = some (.file contents attributes)) :
    files.entry dir name = .ok (.node id) ∧ Emptied files after id ∨
      id = files.nodes.length ∧ files.entry dir name = .ok (.absent dir name) ∧
        Gained files after dir name := by
  have plain {place : Place} (meant : Meant files dir name place) :
      files.entry dir name = .ok place := by
    cases meant with
    | itself present plain => exact present
    | behind present link leads =>
        obtain ⟨contents, attributes, file⟩ := regular _ present
        rw [link] at file
        cases file
  cases change with
  | emptied meant change => exact .inl ⟨plain meant, change⟩
  | channel meant stands channel =>
      obtain ⟨contents, attributes, file⟩ := regular _ (plain meant)
      cases stands.symm.trans file
      cases channel
  | made meant change =>
      have missing := plain meant
      obtain ⟨rfl, rfl⟩ := entry_absent missing
      exact .inr ⟨rfl, missing, change⟩

end Files

open Files (Extends Reaches)

/-- The node that has a path as its name, if there is one; a link is a node of its own. -/
def named? (host : Host) (path : String) : Option NodeId :=
  (host.system.files.lookup host.cwd path false).toOption

theorem named?_eq_some {host : Host} {path : String} {id : NodeId} :
    host.named? path = some id ↔
      host.system.files.find host.cwd path false = .ok (.node id) := by
  rw [named?, Files.lookup]
  split <;> simp_all [Except.toOption]

variable {host after : Host} {dirPath name other : String} {id : NodeId} {number : Nat}

theorem named?_of_extends (named : Path.IsName name) (cwd : after.cwd = host.cwd)
    (grows : Extends host.system.files after.system.files)
    (shrinks : Extends after.system.files host.system.files) :
    after.named? (Path.join dirPath name) = host.named? (Path.join dirPath name) := by
  refine Option.ext fun id => ?_
  rw [named?_eq_some, named?_eq_some, cwd]
  exact ⟨shrinks.find named, grows.find named⟩

/-- An open log: the one entry that is new in the table of open files stands at the start of the
node that has the name of the log, which is an empty file, and all else is as it was. -/
structure Opened (host after : Host) (dirPath name : String) (id : NodeId) (number : Nat) :
    Prop where
  cwd : after.cwd = host.cwd
  tasks : after.system.tasks = host.system.tasks
  number : number = host.system.openFiles.length
  openFiles : after.system.openFiles =
    host.system.openFiles ++ [⟨.node id, 0, false, false, true⟩]
  named : after.named? (Path.join dirPath name) = some id
  empty : ∃ attributes, after.system.files.node? id = some (.file [] attributes)
  others : ∀ other, Path.IsName other → other ≠ name →
    after.named? (Path.join dirPath other) = host.named? (Path.join dirPath other)
  files : ∀ other contents attributes, other ≠ id →
    host.system.files.node? other = some (.file contents attributes) →
      after.system.files.node? other = some (.file contents attributes)
  origin : host.named? (Path.join dirPath name) = some id ∨ host.system.files.node? id = none

theorem named?_of_gained {left : Nat} {dir : NodeId} (named : Path.IsName other)
    (apart : other ≠ name) (cwd : after.cwd = host.cwd)
    (reaches : Reaches host.system.files Files.linkLimit (Files.origin host.cwd dirPath)
      (Path.dirNames dirPath) left dir)
    (change : Files.Gained host.system.files after.system.files dir name) :
    after.named? (Path.join dirPath other) = host.named? (Path.join dirPath other) := by
  have grows := change.extends
  refine Option.ext fun id => ?_
  rw [named?_eq_some, named?_eq_some, cwd]
  constructor
  · intro found
    obtain ⟨possible, left', dir', reaches', present⟩ := (Files.find_join_iff named).mp found
    obtain rfl := reaches'.unique (reaches.extend grows)
    rw [change.entry_other apart] at present
    exact (Files.find_join_iff named).mpr ⟨possible, left, _, reaches, present⟩
  · exact grows.find named

theorem opened_of_logAt {left : Nat} {dir : NodeId} {files : Files} (named : Path.IsName name)
    (possible : Files.Possible (Path.join dirPath name))
    (reaches : Reaches host.system.files Files.linkLimit (Files.origin host.cwd dirPath)
      (Path.dirNames dirPath) left dir)
    (regular : ∀ id, host.named? (Path.join dirPath name) = some id →
      ∃ contents attributes, host.system.files.node? id = some (.file contents attributes))
    (change : Files.LogAt host.system.files dir name id files) :
    Opened host (host.withLog files id) dirPath name id host.system.openFiles.length := by
  have found {place : Place} (present : host.system.files.entry dir name = .ok place) :
      host.system.files.find host.cwd (Path.join dirPath name) false = .ok place :=
    (Files.find_join_iff named).mpr ⟨possible, left, dir, reaches, present⟩
  have plain : ∀ other, host.system.files.entry dir name = .ok (.node other) →
      ∃ contents attributes, host.system.files.node? other = some (.file contents attributes) :=
    fun other present => regular other (named?_eq_some.mpr (found present))
  have opens {contents : Octets} {attributes : Attributes}
      (file : files.node? id = some (.file contents attributes)) :
      host.withLog files id = host.withSystem { host.system with
        files := files
        openFiles := host.system.openFiles ++ [⟨.node id, 0, false, false, true⟩] } := by
    rw [withLog, System.withLog_of_file (by simp [file])]
  rcases change.regular plain with ⟨present, change⟩ | ⟨rfl, missing, change⟩
  · obtain ⟨grows, shrinks⟩ := change.extends
    obtain ⟨contents, attributes, -, empty⟩ := change.file
    rw [opens empty]
    exact {
      cwd := rfl
      tasks := rfl
      number := rfl
      openFiles := rfl
      named := named?_eq_some.mpr (grows.find named (found present))
      empty := ⟨_, empty⟩
      others := fun other named' apart => named?_of_extends named' rfl grows shrinks
      files := fun other contents attributes apart file => (change.others other apart).trans file
      origin := .inl (named?_eq_some.mpr (found present)) }
  · have grows := change.extends
    obtain ⟨parent, entries, attributes, directory, -, -⟩ := change.directory
    rw [opens change.file]
    refine {
      cwd := rfl
      tasks := rfl
      number := rfl
      openFiles := rfl
      named := named?_eq_some.mpr ((Files.find_join_iff named).mpr
        ⟨possible, left, dir, reaches.extend grows, change.entry missing⟩)
      empty := ⟨_, change.file⟩
      others := fun other named' apart => named?_of_gained named' apart rfl reaches change
      files := ?_
      origin := .inr (Files.node?_length _) }
    intro other contents attributes apart file
    have outside : other ≠ dir := by
      rintro rfl
      rw [directory] at file
      cases file
    exact (change.others other outside apart).trans file

theorem Opened.apart {contents : Octets} {attributes : Attributes} {otherId : NodeId}
    (opened : Opened host after dirPath name id number)
    (file : host.system.files.node? otherId = some (.file contents attributes))
    (unnamed : host.named? (Path.join dirPath name) ≠ some otherId) : otherId ≠ id := by
  rintro rfl
  rcases opened.origin with named | missing
  · exact unnamed named
  · rw [file] at missing
    cases missing

theorem openLog_opened (named : Path.IsName name)
    (regular : ∀ id, host.named? (Path.join dirPath name) = some id →
      ∃ contents attributes, host.system.files.node? id = some (.file contents attributes))
    (opened : host.openLog (Path.join dirPath name) = (some number, after)) :
    ∃ id, Opened host after dirPath name id number := by
  obtain ⟨-, rfl, id, files, granted, rfl⟩ := openLog_eq_some_iff.mp opened
  obtain ⟨place, found⟩ := Files.find_of_open granted
  obtain ⟨left, dir, reaches, leads, change⟩ := Files.openForWriting_logAt named granted
  exact ⟨id, opened_of_logAt named (Files.find_ok_iff.mp found).1 reaches regular change⟩

/-! Writing at the end of a file. -/

theorem splice_end (contents octets : Octets) :
    Files.splice contents contents.length octets = contents ++ octets := by
  simp [Files.splice]

theorem writeTo_end {system : System} {contents : Octets} {attributes : Attributes}
    (opened : system.openFiles[number]? = some ⟨.node id, contents.length, false, false, true⟩)
    (file : system.files.node? id = some (.file contents attributes)) (octets : Octets) :
    system.writeTo number octets = some (.done octets.length,
      { system.setOpen number ⟨.node id, contents.length + octets.length, false, false, true⟩ with
        files := system.files.set id
          (.file (contents ++ octets) { attributes with modified := system.files.now }) }) := by
  simp [System.writeTo, opened, file, Files.writeAt, splice_end]

end BatchLaunch.Host
