import BatchLaunch.Host.Files
import BatchLaunch.Proofs.Path.Names

/-!
Where paths lead. A way along names is taken stride by stride, and a way to a name in a directory is
a way to the directory and a look at its entries; a table of files that only gained new entries
still has all ways to its directories.
-/
namespace BatchLaunch.Host.Files

open BatchLaunch.Path (IsName)

/-- What a directory has under a name, which is not followed if it is a link. -/
def entry (files : Files) (dir : NodeId) (name : String) : Except Errno Place :=
  match files.node? dir with
  | some (.directory _ entries attributes) =>
      if !attributes.grants 1 then .error .denied
      else if nameLimit < name.utf8ByteSize then .error .nameTooLong
      else .ok ((entries.lookup name).elim (.absent dir name) .node)
  | _ => .error .notDirectory

/-- One name of a path, where it does not end the path at a name that is absent or a link that is
not followed: the links that may still be followed, the node that it leads to, and the names that a
link puts before the rest. -/
inductive Strides (files : Files) : Nat → NodeId → String → Nat → NodeId → List String → Prop
  | empty {links : Nat} {here parent : NodeId} {entries : List (String × NodeId)}
      {attributes : Attributes}
      (directory : files.node? here = some (.directory parent entries attributes)) :
      Strides files links here "" links here []
  | same {links : Nat} {here parent : NodeId} {entries : List (String × NodeId)}
      {attributes : Attributes}
      (directory : files.node? here = some (.directory parent entries attributes))
      (passes : attributes.grants 1) : Strides files links here "." links here []
  | above {links : Nat} {here parent : NodeId} {entries : List (String × NodeId)}
      {attributes : Attributes}
      (directory : files.node? here = some (.directory parent entries attributes))
      (passes : attributes.grants 1) : Strides files links here ".." links parent []
  | entry {links : Nat} {here id : NodeId} {name : String} (proper : name ∉ ["", ".", ".."])
      (present : files.entry here name = .ok (.node id))
      (plain : ∀ target, files.node? id ≠ some (.link target)) :
      Strides files links here name links id []
  | link {links : Nat} {here id : NodeId} {name target : String} (proper : name ∉ ["", ".", ".."])
      (present : files.entry here name = .ok (.node id))
      (link : files.node? id = some (.link target)) (somewhere : target ≠ "") :
      Strides files (links + 1) here name links (origin here target) (Text.cutAt '/' target)

/-- A way along names that ends at a node, and the links that it leaves to follow. -/
inductive Reaches (files : Files) : Nat → NodeId → List String → Nat → NodeId → Prop
  | done {links : Nat} {here : NodeId} : Reaches files links here [] links here
  | on {links left remaining : Nat} {here there id : NodeId} {name : String}
      {before names : List String} (first : Strides files links here name left there before)
      (rest : Reaches files left there (before ++ names) remaining id) :
      Reaches files links here (name :: names) remaining id

variable {files : Files} {follow : Bool} {links left : Nat} {here there dir id parent : NodeId}
  {entries : List (String × NodeId)} {attributes : Attributes} {name : String}
  {before names rest : List String} {place : Place}

theorem walk_noDirectory (refused : ∀ parent entries attributes,
      files.node? here ≠ some (.directory parent entries attributes)) :
    files.walk follow links here (name :: rest) = .error .notDirectory := by
  rw [walk]
  split
  · rename_i parent entries attributes directory
    exact absurd directory (refused parent entries attributes)
  · rfl

theorem entry_noDirectory (refused : ∀ parent entries attributes,
      files.node? here ≠ some (.directory parent entries attributes)) :
    files.entry here name = .error .notDirectory := by
  rw [entry]
  split
  · rename_i parent entries attributes directory
    exact absurd directory (refused parent entries attributes)
  · rfl

theorem entry_of_directory
    (directory : files.node? dir = some (.directory parent entries attributes)) :
    files.entry dir name =
      if !attributes.grants 1 then .error .denied
      else if nameLimit < name.utf8ByteSize then .error .nameTooLong
      else .ok ((entries.lookup name).elim (.absent dir name) .node) := by
  rw [entry, directory]

theorem entry_ok (found : files.entry dir name = .ok place) :
    ∃ parent entries attributes, files.node? dir = some (.directory parent entries attributes) := by
  rw [entry] at found
  split at found
  · rename_i parent entries attributes directory
    exact ⟨parent, entries, attributes, directory⟩
  · cases found

theorem entry_absent {id : NodeId} {other : String}
    (found : files.entry dir name = .ok (.absent id other)) : id = dir ∧ other = name := by
  obtain ⟨parent, entries, attributes, directory⟩ := entry_ok found
  rw [entry_of_directory directory] at found
  split at found
  · cases found
  · split at found
    · cases found
    · cases present : entries.lookup name <;> simp_all

theorem walk_empty (directory : files.node? here = some (.directory parent entries attributes)) :
    files.walk follow links here ("" :: rest) = files.walk follow links here rest := by
  rw [walk]
  simp only [directory, if_true]

theorem walk_same (directory : files.node? here = some (.directory parent entries attributes))
    (passes : attributes.grants 1) :
    files.walk follow links here ("." :: rest) = files.walk follow links here rest := by
  rw [walk]
  simp [directory, passes]

theorem walk_above (directory : files.node? here = some (.directory parent entries attributes))
    (passes : attributes.grants 1) :
    files.walk follow links here (".." :: rest) = files.walk follow links parent rest := by
  rw [walk]
  simp [directory, passes]

theorem walk_entry (proper : name ∉ ["", ".", ".."]) :
    files.walk follow links here (name :: rest) =
      match files.entry here name with
      | .error errno => .error errno
      | .ok (.absent _ _) => if rest.isEmpty then .ok (.absent here name) else .error .noEntry
      | .ok (.node id) =>
          match files.node? id with
          | some (.link target) =>
              if rest.isEmpty && !follow then .ok (.node id)
              else
                match links with
                | 0 => .error .loop
                | links + 1 =>
                    if target.isEmpty then .error .noEntry
                    else files.walk follow links (origin here target)
                      (Text.cutAt '/' target ++ rest)
          | _ => files.walk follow links id rest := by
  simp only [List.mem_cons, List.not_mem_nil, or_false, not_or] at proper
  obtain ⟨nonempty, notSame, notAbove⟩ := proper
  by_cases given : ∃ parent entries attributes,
      files.node? here = some (.directory parent entries attributes)
  · obtain ⟨parent, entries, attributes, directory⟩ := given
    rw [walk, entry]
    simp only [directory, nonempty, notSame, notAbove, if_false]
    split
    · rfl
    · split
      · rfl
      · cases found : entries.lookup name <;> rfl
  · simp only [not_exists] at given
    rw [walk_noDirectory given, entry_noDirectory given]

theorem walk_name (named : IsName name)
    (stays : follow = false ∨ ∀ id target, files.entry here name = .ok (.node id) →
      files.node? id ≠ some (.link target)) :
    files.walk follow links here [name] = files.entry here name := by
  have proper : name ∉ ["", ".", ".."] := by
    simp [named.nonempty, named.notHere, named.notAbove]
  rw [walk_entry proper]
  cases found : files.entry here name with
  | error errno => rfl
  | ok place =>
      cases place with
      | absent dir name =>
          obtain ⟨rfl, rfl⟩ := entry_absent found
          rfl
      | node id =>
          simp only
          split
          · rename_i target link
            rcases stays with rfl | plain
            · rfl
            · exact absurd link (plain id target found)
          · rw [walk]

theorem Strides.walk (goes : Strides files links here name left there before)
    (further : rest ≠ [] ∨ follow = true) :
    files.walk follow links here (name :: rest) =
      files.walk follow left there (before ++ rest) := by
  have onward : (rest.isEmpty && !follow) = false := by
    rcases further with more | rfl
    · simp [more]
    · simp
  cases goes with
  | empty directory => exact walk_empty directory
  | same directory passes => exact walk_same directory passes
  | above directory passes => exact walk_above directory passes
  | entry proper present plain =>
      rw [walk_entry proper, present]
      simp only
      rfl
  | link proper present link somewhere =>
      rw [walk_entry proper, present]
      simp [link, onward, somewhere]

theorem strides_of_entry (proper : name ∉ ["", ".", ".."])
    (goes : files.walk follow links here (name :: rest) = .ok place)
    (further : rest ≠ [] ∨ follow = true ∧ ∃ id, place = .node id) :
    ∃ left there before, Strides files links here name left there before ∧
      files.walk follow left there (before ++ rest) = .ok place := by
  have onward : (rest.isEmpty && !follow) = false := by
    rcases further with more | ⟨rfl, -⟩
    · simp [more]
    · simp
  rw [walk_entry proper] at goes
  cases found : files.entry here name with
  | error errno => simp [found] at goes
  | ok stands =>
      rw [found] at goes
      cases stands with
      | absent dir name =>
          rcases further with more | ⟨-, id, rfl⟩
          · simp [more] at goes
          · simp only at goes
            split at goes <;> cases goes
      | node id =>
          simp only [onward] at goes
          split at goes
          · rename_i target link
            cases links with
            | zero => simp at goes
            | succ left =>
                by_cases nowhere : target = ""
                · simp [nowhere] at goes
                · refine ⟨left, _, _, .link proper found link nowhere, ?_⟩
                  simpa [nowhere] using goes
          · rename_i plain
            exact ⟨links, id, [], .entry proper found plain, goes⟩

theorem strides_of_walk (goes : files.walk follow links here (name :: rest) = .ok place)
    (further : rest ≠ [] ∨ follow = true ∧ ∃ id, place = .node id) :
    ∃ left there before, Strides files links here name left there before ∧
      files.walk follow left there (before ++ rest) = .ok place := by
  by_cases proper : name ∉ ["", ".", ".."]
  · exact strides_of_entry proper goes further
  · by_cases given : ∃ parent entries attributes,
        files.node? here = some (.directory parent entries attributes)
    · obtain ⟨parent, entries, attributes, directory⟩ := given
      by_cases nonempty : name = ""
      · subst nonempty
        rw [walk_empty directory] at goes
        exact ⟨links, here, [], .empty directory, goes⟩
      · have passes : attributes.grants 1 := by
          cases granted : attributes.grants 1 with
          | true => rfl
          | false =>
              rw [walk] at goes
              simp [directory, nonempty, granted] at goes
        simp only [List.mem_cons, nonempty, List.not_mem_nil, or_false, false_or,
          Classical.not_not] at proper
        rcases proper with rfl | rfl
        · rw [walk_same directory passes] at goes
          exact ⟨links, here, [], .same directory passes, goes⟩
        · rw [walk_above directory passes] at goes
          exact ⟨links, parent, [], .above directory passes, goes⟩
    · simp only [not_exists] at given
      rw [walk_noDirectory given] at goes
      cases goes

theorem Reaches.walk (reaches : Reaches files links here names left id)
    (further : rest ≠ [] ∨ follow = true) :
    files.walk follow links here (names ++ rest) = files.walk follow left id rest := by
  induction reaches with
  | done => rfl
  | on first rest' ih =>
      rename_i before names
      have more : names ++ rest ≠ [] ∨ follow = true := by
        rcases further with more | follows
        · exact .inl (List.append_ne_nil_of_right_ne_nil names more)
        · exact .inr follows
      rw [List.cons_append, first.walk more, ← List.append_assoc, ih]

theorem Reaches.unique {left' : Nat} {id' : NodeId}
    (reaches : Reaches files links here names left id)
    (reaches' : Reaches files links here names left' id') : id = id' := by
  have ends (left : Nat) (id : NodeId) : files.walk true left id [] = .ok (.node id) := by
    rw [Files.walk]
  have goes : files.walk true links here (names ++ []) = _ := reaches.walk (.inr rfl)
  have goes' : files.walk true links here (names ++ []) = _ := reaches'.walk (.inr rfl)
  rw [ends] at goes goes'
  exact Place.node.inj (Except.ok.inj (goes.symm.trans goes'))

theorem Strides.bound (goes : Strides files links here name left there before) :
    left < links ∨ left = links ∧ before = [] := by
  cases goes with
  | empty directory => exact .inr ⟨rfl, rfl⟩
  | same directory passes => exact .inr ⟨rfl, rfl⟩
  | above directory passes => exact .inr ⟨rfl, rfl⟩
  | entry proper present plain => exact .inr ⟨rfl, rfl⟩
  | link proper present link somewhere => exact .inl (Nat.lt_succ_self _)

theorem reaches_of_walk (links : Nat) (here : NodeId) (names : List String)
    (goes : files.walk follow links here (names ++ rest) = .ok place)
    (further : rest ≠ [] ∨ follow = true ∧ ∃ id, place = .node id) :
    ∃ left id, Reaches files links here names left id ∧
      files.walk follow left id rest = .ok place := by
  cases names with
  | nil => exact ⟨links, here, .done, goes⟩
  | cons name names =>
      rw [List.cons_append] at goes
      have more : names ++ rest ≠ [] ∨ follow = true ∧ ∃ id, place = .node id := by
        rcases further with more | ends
        · exact .inl (List.append_ne_nil_of_right_ne_nil names more)
        · exact .inr ends
      obtain ⟨left, there, before, first, onward⟩ := strides_of_walk goes more
      rw [← List.append_assoc] at onward
      have shorter := first.bound
      obtain ⟨remaining, id, reaches, last⟩ := reaches_of_walk left there (before ++ names)
        onward further
      exact ⟨remaining, id, .on first reaches, last⟩
  termination_by (links, names.length)
  decreasing_by
    rcases shorter with fewer | ⟨rfl, rfl⟩
    · exact Prod.Lex.left _ _ fewer
    · subst_vars
      exact Prod.Lex.right _ (Nat.lt_succ_self _)

/-! Whole paths. -/

/-- A path that may lead somewhere, by what it is made of. -/
structure Possible (path : String) : Prop where
  nonempty : path ≠ ""
  clean : '\x00' ∉ path.toList
  short : path.utf8ByteSize ≤ pathLimit

instance (path : String) : Decidable (Possible path) :=
  decidable_of_iff (path ≠ "" ∧ '\x00' ∉ path.toList ∧ path.utf8ByteSize ≤ pathLimit)
    ⟨fun ⟨nonempty, clean, short⟩ => ⟨nonempty, clean, short⟩,
      fun possible => ⟨possible.nonempty, possible.clean, possible.short⟩⟩

variable {cwd : NodeId} {path dirPath : String}

theorem find_ok_iff : files.find cwd path follow = .ok place ↔
    Possible path ∧
      files.walk follow linkLimit (origin cwd path) (Text.cutAt '/' path) = .ok place := by
  rw [find]
  constructor
  · intro found
    split at found
    · cases found
    · rename_i nonempty
      split at found
      · cases found
      · rename_i clean
        split at found
        · cases found
        · rename_i short
          exact ⟨⟨by simpa using nonempty, by simpa using clean, by omega⟩, found⟩
  · rintro ⟨possible, goes⟩
    have short := possible.short
    rw [if_neg (by simpa using possible.nonempty), if_neg (by simpa using possible.clean),
      if_neg (by omega), goes]

theorem Possible.of_append {front back : String} (possible : Possible (front ++ back))
    (nonempty : front ≠ "") : Possible front where
  nonempty := nonempty
  clean := by
    have clean := possible.clean
    rw [String.toList_append, List.mem_append, not_or] at clean
    exact clean.1
  short := by
    have short := possible.short
    rw [String.utf8ByteSize_append] at short
    omega

theorem origin_join (cwd : NodeId) (dirPath : String) (named : IsName name) :
    origin cwd (Path.join dirPath name) = origin cwd dirPath := by
  by_cases empty : dirPath = ""
  · have relative : name.toList.head? ≠ some '/' := by
      simpa [Path.isAbsolute] using named.relative
    have bare : Path.join "" name = name := by simp [Path.join]
    rw [empty, bare, origin, if_neg relative, origin, if_neg (by simp)]
  · obtain ⟨more, same⟩ := Path.join_extends dirPath named
    obtain ⟨first, others, parts⟩ := List.exists_cons_of_ne_nil
      (fun none => empty (String.toList_eq_nil_iff.mp none))
    rw [same, origin, origin, String.toList_append, parts]
    rfl

/-- Where a directory is, the empty path being the working directory. -/
def Leads (files : Files) (cwd : NodeId) (dirPath : String) (dir : NodeId) : Prop :=
  if dirPath = "" then dir = cwd else files.find cwd dirPath true = .ok (.node dir)

theorem find_join (named : IsName name)
    (found : files.find cwd (Path.join dirPath name) follow = .ok place) :
    ∃ left dir, Reaches files linkLimit (origin cwd dirPath) (Path.dirNames dirPath) left dir ∧
      files.walk follow left dir [name] = .ok place := by
  obtain ⟨-, goes⟩ := find_ok_iff.mp found
  rw [Path.cutAt_join dirPath named, origin_join cwd dirPath named] at goes
  exact reaches_of_walk _ _ _ goes (.inl (List.cons_ne_nil name []))

theorem Reaches.leads (named : IsName name) (possible : Possible (Path.join dirPath name))
    (reaches : Reaches files linkLimit (origin cwd dirPath) (Path.dirNames dirPath) left dir)
    (directory : files.node? dir = some (.directory parent entries attributes)) :
    Leads files cwd dirPath dir := by
  rw [Leads]
  split
  · rename_i empty
    rw [empty, Path.dirNames_empty, origin, if_neg (by simp)] at reaches
    cases reaches
    rfl
  · rename_i nonempty
    obtain ⟨more, whole⟩ := Path.join_extends dirPath named
    rw [whole] at possible
    refine find_ok_iff.mpr ⟨possible.of_append nonempty, ?_⟩
    have ends : files.walk true left dir [] = .ok (.node dir) := by rw [Files.walk]
    rcases Path.cutAt_dir nonempty with same | same
    · have goes : files.walk true linkLimit (origin cwd dirPath)
          (Path.dirNames dirPath ++ []) = _ := reaches.walk (.inr rfl)
      rw [same, ← ends, ← goes, List.append_nil]
    · rw [same, reaches.walk (.inr rfl), walk_empty directory, ends]

theorem find_join_iff (named : IsName name) :
    files.find cwd (Path.join dirPath name) false = .ok place ↔
      Possible (Path.join dirPath name) ∧ ∃ left dir,
        Reaches files linkLimit (origin cwd dirPath) (Path.dirNames dirPath) left dir ∧
          files.entry dir name = .ok place := by
  constructor
  · intro found
    obtain ⟨left, dir, reaches, goes⟩ := find_join named found
    rw [walk_name named (.inl rfl)] at goes
    exact ⟨(find_ok_iff.mp found).1, left, dir, reaches, goes⟩
  · rintro ⟨possible, left, dir, reaches, present⟩
    refine find_ok_iff.mpr ⟨possible, ?_⟩
    rw [Path.cutAt_join dirPath named, origin_join cwd dirPath named,
      reaches.walk (.inl (List.cons_ne_nil name [])), walk_name named (.inl rfl), present]

theorem find_name (named : IsName name) (possible : Possible name)
    (stays : follow = false ∨ ∀ id target, files.entry cwd name = .ok (.node id) →
      files.node? id ≠ some (.link target)) :
    files.find cwd name follow = files.entry cwd name := by
  have relative : name.toList.head? ≠ some '/' := by
    simpa [Path.isAbsolute] using named.relative
  have whole : Text.cutAt '/' name = [name] := by
    rw [Text.cutAt, Text.partsAt_single named.whole, List.map_singleton, String.ofList_toList]
  have short := possible.short
  rw [find, if_neg (by simpa using possible.nonempty), if_neg (by simpa using possible.clean),
    if_neg (by omega), origin, if_neg relative, whole, walk_name named stays]

theorem find_follow (named : IsName name)
    (found : files.find cwd (Path.join dirPath name) false = .ok (.node id))
    (plain : ∀ target, files.node? id ≠ some (.link target)) :
    files.find cwd (Path.join dirPath name) true = .ok (.node id) := by
  obtain ⟨possible, left, dir, reaches, present⟩ := (find_join_iff named).mp found
  refine find_ok_iff.mpr ⟨possible, ?_⟩
  rw [Path.cutAt_join dirPath named, origin_join cwd dirPath named, reaches.walk (.inr rfl),
    walk_name named (.inr ?_), present]
  intro other target present'
  obtain rfl := Place.node.inj (Except.ok.inj (present.symm.trans present'))
  exact plain target

/-! Tables that grow. -/

structure Extends (files after : Files) : Prop where
  links : ∀ id target, after.node? id = some (.link target) ↔ files.node? id = some (.link target)
  directories : ∀ id parent entries attributes,
    files.node? id = some (.directory parent entries attributes) →
      ∃ more modified, after.node? id =
        some (.directory parent (entries ++ more) { attributes with modified := modified })

variable {after : Files}

theorem Extends.entry (grows : Extends files after)
    (present : files.entry dir name = .ok (.node id)) :
    after.entry dir name = .ok (.node id) := by
  obtain ⟨parent, entries, attributes, directory⟩ := entry_ok present
  obtain ⟨more, modified, directory'⟩ := grows.directories dir parent entries attributes directory
  rw [entry_of_directory directory] at present
  rw [entry_of_directory directory', List.lookup_append]
  cases found : entries.lookup name with
  | none =>
      simp only [found, Option.elim_none] at present
      repeat' split at present
      all_goals cases present
  | some id =>
      rw [← present, found]
      rfl

theorem Strides.extend (grows : Extends files after)
    (goes : Strides files links here name left there before) :
    Strides after links here name left there before := by
  cases goes with
  | empty directory =>
      obtain ⟨more, modified, directory'⟩ := grows.directories _ _ _ _ directory
      exact .empty directory'
  | same directory passes =>
      obtain ⟨more, modified, directory'⟩ := grows.directories _ _ _ _ directory
      exact .same directory' passes
  | above directory passes =>
      obtain ⟨more, modified, directory'⟩ := grows.directories _ _ _ _ directory
      exact .above directory' passes
  | entry proper present plain =>
      refine .entry proper (grows.entry present) ?_
      intro target link
      exact plain target ((grows.links _ _).mp link)
  | link proper present link somewhere =>
      exact .link proper (grows.entry present) ((grows.links _ _).mpr link) somewhere

theorem Reaches.extend (grows : Extends files after)
    (reaches : Reaches files links here names left id) :
    Reaches after links here names left id := by
  induction reaches with
  | done => exact .done
  | on first rest ih => exact .on (first.extend grows) ih

theorem Extends.find (grows : Extends files after) (named : IsName name)
    (found : files.find cwd (Path.join dirPath name) false = .ok (.node id)) :
    after.find cwd (Path.join dirPath name) false = .ok (.node id) := by
  obtain ⟨possible, left, dir, reaches, present⟩ := (find_join_iff named).mp found
  exact (find_join_iff named).mpr
    ⟨possible, left, dir, reaches.extend grows, grows.entry present⟩

end BatchLaunch.Host.Files
