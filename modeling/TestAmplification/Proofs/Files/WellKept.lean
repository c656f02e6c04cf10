import TestAmplification.Proofs.Files.Linked

/-!
# Well-kept disks

On a well-kept disk everything stands in a directory (`FileTree.Rooted`), and what is said to be the
names of one file are places where that file stands (`Disk.WellKept`). The operations on files keep
it so, whatever links a path goes through: a path leads into a directory that is there
(`FileTree.Rooted.locateWith`), and a file is written under all its names.

Where a path leads to a place with a file, or with nothing (`Disk.LeadsToFile`), writing to it and
removing it come out as expected, and the path leads to that place afterwards. Writing changes what
the file holds under all its names, and removing takes one name away (`Disk.write_rewrites`,
`Disk.removeFile_rewrites`).
-/

set_option autoImplicit false

namespace TestAmplification

namespace FileTree

variable {tree : FileTree} {base here next place other goal front : Place} {path : Path}
  {name : String} {names : List String} {node : FileNode}

/-! ## Trees where everything stands in a directory -/

/-- Everything stands in a directory. -/
structure Rooted (tree : FileTree) : Prop where
  inDirectory : ∀ {place node}, tree.nodes.find? place = some node →
    tree.HasDirectory place.dropLast

namespace Rooted

theorem hasDirectory_dropLast (rooted : tree.Rooted) (directory : tree.HasDirectory place) :
    tree.HasDirectory place.dropLast := by
  rcases directory with rfl | found
  · exact .inl rfl
  · exact rooted.inDirectory found

/-- On the way to a directory there are directories. -/
theorem hasDirectory_of_prefix (rooted : tree.Rooted) (directory : tree.HasDirectory place)
    (isFront : front <+: place) : tree.HasDirectory front := by
  obtain ⟨rest, rfl⟩ := isFront
  induction rest using List.reverseRecOn with
  | nil => simpa using directory
  | append_singleton rest name ih =>
      have above := rooted.hasDirectory_dropLast directory
      rw [← List.append_assoc, List.dropLast_concat] at above
      exact ih above

/-- Nothing stands below what is no directory. -/
theorem find?_below (rooted : tree.Rooted) (noDirectory : ¬ tree.HasDirectory place)
    (below : place <+: other) (different : other ≠ place) : tree.nodes.find? other = none := by
  refine Option.eq_none_iff_forall_ne_some.2 fun node found => noDirectory ?_
  refine rooted.hasDirectory_of_prefix (rooted.inDirectory found) ?_
  obtain ⟨rest, rfl⟩ := below
  have some : rest ≠ [] := by
    rintro rfl
    exact different (List.append_nil _)
  rw [List.dropLast_append_of_ne_nil some]
  exact List.prefix_append _ _

/-- A name leads into a directory that is there. -/
theorem enter (rooted : tree.Rooted) (start : tree.HasDirectory here.dropLast)
    (entered : tree.enter here name = .ok next) : tree.HasDirectory next.dropLast := by
  have isDirectory := directory_of_enter entered
  unfold FileTree.enter at entered
  rw [isDirectory] at entered
  dsimp only at entered
  split at entered
  · rw [← Except.ok.inj entered]
    exact start
  · split at entered
    · rw [← Except.ok.inj entered]
      exact rooted.hasDirectory_dropLast start
    · split at entered
      · cases entered
      · next notLost =>
          split at entered
          · cases entered
          · rw [← Except.ok.inj entered, List.dropLast_concat]
            unfold node? at isDirectory
            split at isDirectory
            · next always => exact .inl (by simpa [notLost] using always)
            · exact .inr isDirectory

section

variable {jump : Place → Path → Except FileFault Place} {followsLast : Bool}

theorem walk (rooted : tree.Rooted)
    (jumps : ∀ {here target goal}, tree.HasDirectory here.dropLast →
      jump here target = .ok goal → tree.HasDirectory goal.dropLast)
    (start : tree.HasDirectory here.dropLast)
    (leads : tree.walk jump followsLast here names = .ok goal) :
    tree.HasDirectory goal.dropLast := by
  induction names generalizing here with
  | nil =>
      obtain rfl := Except.ok.inj leads
      exact start
  | cons name others ih =>
      rw [FileTree.walk] at leads
      cases entered : tree.enter here name with
      | error fault =>
          rw [entered] at leads
          cases leads
      | ok next =>
          have inside := rooted.enter start entered
          rw [entered] at leads
          dsimp only at leads
          split at leads
          · next target link =>
              split at leads
              · obtain rfl := Except.ok.inj leads
                exact inside
              · cases jumped : jump here target with
                | error fault =>
                    rw [jumped] at leads
                    cases leads
                | ok middle =>
                    rw [jumped] at leads
                    exact ih (jumps start jumped) leads
          · exact ih inside leads

theorem hasDirectory_startOf (start : tree.HasDirectory here.dropLast) (path : Path) :
    tree.HasDirectory (startOf here path).dropLast := by
  unfold startOf
  split
  · exact .inl rfl
  · exact start

theorem leadsTo (rooted : tree.Rooted) {links : Nat} {target : Path}
    (start : tree.HasDirectory here.dropLast)
    (leads : tree.leadsTo links here target = .ok goal) : tree.HasDirectory goal.dropLast := by
  induction links generalizing here target goal with
  | zero => cases leads
  | succ links ih =>
      exact rooted.walk (fun start jumped => ih start jumped) (hasDirectory_startOf start target)
        leads

/-- **A path** leads into a directory that is there. -/
theorem locateWith (rooted : tree.Rooted) (home : tree.HasDirectory base)
    (leads : tree.locateWith followsLast base path = .ok goal) :
    tree.HasDirectory goal.dropLast := by
  rw [locateWith_eq_walk (fault?_of_locateWith leads)] at leads
  exact rooted.walk rooted.leadsTo
    (hasDirectory_startOf (rooted.hasDirectory_dropLast home) path) leads

end

theorem put_directory (rooted : tree.Rooted) (inside : tree.HasDirectory place.dropLast) :
    (tree.put place .directory).Rooted := by
  have keeps : ∀ {other}, tree.HasDirectory other →
      (tree.put place .directory).HasDirectory other := by
    rintro other (root | found)
    · exact .inl root
    · refine .inr ?_
      rw [find?_put]
      split
      · rfl
      · exact found
  refine ⟨fun {other node} found => ?_⟩
  rw [find?_put] at found
  split at found
  · next same => exact keeps (same ▸ inside)
  · exact keeps (rooted.inDirectory found)

theorem makeDirectories (rooted : tree.Rooted) (home : tree.HasDirectory base) (path : Path) :
    (tree.makeDirectories base path).1.Rooted := by
  have both : (tree.makeDirectories base path).1.Rooted ∧
      (tree.makeDirectories base path).1.HasDirectory base := by
    refine makeDirectoriesUpTo_induction
      (motive := fun _ made => made.Rooted ∧ made.HasDirectory base)
      (fun _ => ⟨rooted, home⟩) (fun _ made => made) ?_ _ path
    rintro path made more ⟨rooted, home⟩ makes
    obtain ⟨place, leads, -, rfl⟩ := eq_put_of_makeDirectory makes
    refine ⟨rooted.put_directory (rooted.locateWith home leads), home.imp_right fun found => ?_⟩
    rw [find?_put]
    split
    · rfl
    · exact found
  exact both.1

/-- In a tree with less, everything still has to stand in a directory. -/
theorem of_less {less : FileTree} (rooted : tree.Rooted)
    (fewer : ∀ {place node}, less.nodes.find? place = some node →
      tree.nodes.find? place = some node ∧
        less.nodes.find? place.dropLast = tree.nodes.find? place.dropLast) : less.Rooted :=
  ⟨fun found => (rooted.inDirectory (fewer found).1).imp_right (fewer found).2.trans⟩

theorem eraseBelow (rooted : tree.Rooted) (place : Place) : (tree.eraseBelow place).Rooted := by
  refine rooted.of_less fun {other node} found => ?_
  rw [find?_eraseBelow] at found
  split at found
  · cases found
  · next outside =>
      refine ⟨found, ?_⟩
      rw [find?_eraseBelow, if_neg]
      rintro ⟨below, different⟩
      refine outside ⟨below.trans (List.dropLast_prefix _), ?_⟩
      rintro rfl
      exact different (below.eq_of_length_le (List.dropLast_prefix other).length_le).symm

theorem without (rooted : tree.Rooted) (place : Place) : (tree.without place).Rooted := by
  refine rooted.of_less fun {other node} found => ?_
  rw [find?_without] at found
  split at found
  · cases found
  · next outside =>
      refine ⟨found, ?_⟩
      rw [find?_without, if_neg]
      exact fun below => outside (below.trans (List.dropLast_prefix _))

/-- What is no directory can go by itself. -/
theorem erase (rooted : tree.Rooted) (noDirectory : ¬ tree.HasDirectory place) :
    (tree.erase place).Rooted := by
  refine rooted.of_less fun {other node} found => ?_
  rw [find?_erase] at found
  split at found
  · cases found
  · refine ⟨found, ?_⟩
    rw [find?_erase, if_neg]
    intro same
    exact noDirectory (same ▸ rooted.inDirectory found)

theorem removeTree (rooted : tree.Rooted) (base : Place) (path : Path) :
    (tree.removeTree base path).1.Rooted := by
  cases leads : tree.locateSelf base path with
  | error fault =>
      rw [removeTree_of_fault leads]
      exact rooted
  | ok place =>
      rcases removeTree_cases leads with same | ⟨⟨target, link⟩, removed⟩ | cleared | removed
      · rw [same]
        exact rooted
      · rw [removed]
        refine rooted.erase ?_
        rintro (rfl | found)
        · cases link
        · rw [node?_of_find? found] at link
          cases link
      · rw [cleared]
        exact rooted.eraseBelow place
      · rw [removed]
        exact rooted.without place

end Rooted

theorem find?_foldl_put (tree : FileTree) (places : List Place) (node : FileNode)
    (other : Place) :
    (places.foldl (fun tree place => tree.put place node) tree).nodes.find? other =
      if other ∈ places then some node else tree.nodes.find? other := by
  induction places generalizing tree with
  | nil => simp
  | cons place rest ih =>
      rw [List.foldl_cons, ih, find?_put]
      by_cases later : other ∈ rest
      · simp [later]
      · by_cases same : other = place <;> simp [later, same]

end FileTree

open FileTree

/-- The node is a file. -/
def FileNode.IsFile (node : FileNode) : Prop :=
  ∃ bytes changed, node = .file bytes changed

namespace Disk

variable {disk after : Disk} {path : Path} {place name : Place} {bytes : Text.Bytes}

/-! ## Files with several names -/

/-- Both places are names of one file. -/
def SameFile (disk : Disk) (place name : Place) : Prop :=
  ∃ names ∈ disk.shared, place ∈ names ∧ name ∈ names

/-- Everything stands in a directory, the names of a file are places where it stands, and each file
has its names in one list. -/
structure WellKept (disk : Disk) : Prop where
  rooted : disk.tree.Rooted
  oneFile : ∀ {names}, names ∈ disk.shared → ∃ node : FileNode, node.IsFile ∧
    ∀ name ∈ names, disk.tree.nodes.find? name = some node
  oneList : ∀ {names others name}, names ∈ disk.shared → others ∈ disk.shared → name ∈ names →
    name ∈ others → names = others

theorem WellKept.find?_of_sameFile (wellKept : disk.WellKept) (same : disk.SameFile place name) :
    ∃ node : FileNode, node.IsFile ∧ disk.tree.nodes.find? place = some node ∧
      disk.tree.nodes.find? name = some node := by
  obtain ⟨names, isList, inNames, inNamesToo⟩ := same
  obtain ⟨node, isFile, found⟩ := wellKept.oneFile isList
  exact ⟨node, isFile, found place inNames, found name inNamesToo⟩

/-- What is written under a name is written under the other names of the file. -/
theorem WellKept.mem_namesOf_iff (wellKept : disk.WellKept) :
    name ∈ disk.namesOf place ↔ name = place ∨ disk.SameFile place name := by
  have first : name ∈ disk.namesOf place ↔
      name = place ∨ name ∈ (disk.shared.find? (·.contains place)).getD [] ∧ name ≠ place := by
    simp [namesOf]
  rw [first]
  constructor
  · rintro (same | ⟨member, -⟩)
    · exact .inl same
    · cases found : disk.shared.find? (·.contains place) with
      | none =>
          rw [found] at member
          cases member
      | some names =>
          rw [found] at member
          have inNames : place ∈ names := by simpa using List.find?_some found
          exact .inr ⟨names, List.mem_of_find?_eq_some found, inNames, member⟩
  · rintro (same | ⟨names, isList, inNames, inNamesToo⟩)
    · exact .inl same
    · by_cases same : name = place
      · exact .inl same
      · refine .inr ⟨?_, same⟩
        cases found : disk.shared.find? (·.contains place) with
        | none => exact absurd (by simpa using inNames) (List.find?_eq_none.1 found names isList)
        | some others =>
            have inOthers : place ∈ others := by simpa using List.find?_some found
            rw [wellKept.oneList isList (List.mem_of_find?_eq_some found) inNames inOthers]
              at inNamesToo
            exact inNamesToo

/-! ## Paths that lead to files -/

/-- The path leads to the place, and what stands there, if anything, is a file. -/
structure LeadsToFile (disk : Disk) (path : Path) (place : Place) : Prop where
  leads : disk.tree.locateSelf disk.workingPlace path = .ok place
  regular : ∀ node, disk.tree.node? place = some node → node.IsFile

/-- What stands at a path itself, if the path leads anywhere. -/
def standing? (disk : Disk) (path : Path) : Option FileNode :=
  match disk.tree.inspectSelf disk.workingPlace path with
  | .ok (_, node) => node
  | .error _ => none

/-- A place where a file or nothing stands is no place that always has a directory. -/
theorem LeadsToFile.node?_eq (leads : disk.LeadsToFile path place) (tree : FileTree) :
    tree.node? place = tree.nodes.find? place := by
  unfold node?
  split
  · next always =>
      have isDirectory : disk.tree.node? place = some .directory := by
        unfold node?
        rw [if_pos always]
      obtain ⟨_, _, isFile⟩ := leads.regular _ isDirectory
      cases isFile
  · rfl

theorem LeadsToFile.isFile (leads : disk.LeadsToFile path place) {node : FileNode}
    (found : disk.tree.nodes.find? place = some node) : node.IsFile :=
  leads.regular node (leads.node?_eq _ ▸ found)

theorem LeadsToFile.not_hasDirectory (leads : disk.LeadsToFile path place) :
    ¬ disk.tree.HasDirectory place := by
  have notDirectory : disk.tree.node? place ≠ some .directory := by
    intro isDirectory
    obtain ⟨_, _, isFile⟩ := leads.regular _ isDirectory
    cases isFile
  rintro (rfl | found)
  · exact notDirectory rfl
  · exact notDirectory (node?_of_find? found)

section

variable (written : namesDirectory path = false)

include written

theorem LeadsToFile.inspectSelf_eq (leads : disk.LeadsToFile path place) :
    disk.tree.inspectSelf disk.workingPlace path =
      .ok (place, disk.tree.nodes.find? place) := by
  rw [inspectSelf, leads.leads, ← leads.node?_eq]
  exact checked_eq written place

theorem LeadsToFile.standing?_eq (leads : disk.LeadsToFile path place) :
    disk.standing? path = disk.tree.nodes.find? place := by
  rw [standing?, leads.inspectSelf_eq written]

/-- One sees the same through links, as there is none at the end. -/
theorem inspect_eq_inspectSelf
    (regular : ∀ node, disk.standing? path = some node → node.IsFile) :
    disk.tree.inspect disk.workingPlace path = disk.tree.inspectSelf disk.workingPlace path := by
  have same : disk.tree.locate disk.workingPlace path =
      disk.tree.locateSelf disk.workingPlace path := by
    refine locate_eq_locateSelf fun goal target leads link => ?_
    have stands : disk.standing? path = some (.link target) := by
      rw [standing?, inspectSelf, leads]
      simp only [bind, Except.bind]
      rw [checked_eq written, link]
    obtain ⟨_, _, isFile⟩ := regular _ stands
    cases isFile
  rw [inspect, inspectSelf, same]

theorem LeadsToFile.regular_standing (leads : disk.LeadsToFile path place) {node : FileNode}
    (stands : disk.standing? path = some node) : node.IsFile :=
  leads.isFile (leads.standing?_eq written ▸ stands)

/-- What may be done with a file at the place depends on its mode, if the user may not do
everything. -/
theorem LeadsToFile.refuses_iff (leads : disk.LeadsToFile path place) (right : FileRight) :
    disk.refuses right path = true ↔
      (disk.tree.nodes.find? place).isSome ∧ disk.superuser = false ∧
        right.isIn ((disk.mode? place).getD plainMode) = false := by
  rw [refuses, inspect_eq_inspectSelf written fun node => leads.regular_standing written,
    leads.inspectSelf_eq written]
  cases found : disk.tree.nodes.find? place with
  | none => simp
  | some node =>
      obtain ⟨_, _, rfl⟩ := leads.isFile found
      simp [allows, modeOf, leads.node?_eq, found]

/-- The same is refused where a file has the same mode, for the same user. -/
theorem LeadsToFile.refuses_congr (leads : disk.LeadsToFile path place)
    (leadsToo : after.LeadsToFile path place) (user : after.superuser = disk.superuser)
    (mode : after.mode? place = disk.mode? place)
    (stands : (after.tree.nodes.find? place).isSome = (disk.tree.nodes.find? place).isSome)
    (right : FileRight) : after.refuses right path = disk.refuses right path := by
  rw [Bool.eq_iff_iff, leads.refuses_iff written, leadsToo.refuses_iff written, user, mode, stands]

/-- What is read are the bytes of the file, if one stands there. -/
theorem toOption_read (regular : ∀ node, disk.standing? path = some node → node.IsFile)
    (readable : disk.refuses .read path = false) :
    (Disk.read path disk).1.toOption = (disk.standing? path).bind FileNode.bytes? := by
  have read : (Disk.read path disk).1 = disk.tree.read disk.workingPlace path := by
    rw [Disk.read_eq, readable]
    rfl
  rw [read, FileTree.read, inspect_eq_inspectSelf written regular]
  unfold standing? at regular ⊢
  cases seen : disk.tree.inspectSelf disk.workingPlace path with
  | error fault => rfl
  | ok found =>
      obtain ⟨place, node⟩ := found
      cases node with
      | none => rfl
      | some node =>
          rw [seen] at regular
          obtain ⟨bytes, changed, rfl⟩ := regular node rfl
          rfl

/-- A path that is written to leads to a file, or to nothing. -/
theorem exists_leadsToFile (regular : ∀ node, disk.standing? path = some node → node.IsFile)
    (writes : (Disk.write path bytes disk).1 = .ok ()) :
    ∃ place, disk.LeadsToFile path place := by
  rw [Disk.write_eq, placeToWrite, inspect_eq_inspectSelf written regular] at writes
  unfold standing? at regular
  cases seen : disk.tree.inspectSelf disk.workingPlace path with
  | error fault =>
      rw [seen] at writes
      cases writes
  | ok found =>
      obtain ⟨place, node⟩ := found
      obtain ⟨leads, stands⟩ := located_of_inspectSelf seen
      rw [seen] at regular
      exact ⟨place, leads, fun node found => regular node (stands ▸ found)⟩

end

/-! ## Writing and removing -/

/-- One disk is another one with something else in the file at a place, under all its names, or
without the file at that place. -/
structure Rewrites (disk after : Disk) (place : Place) (content : Option FileNode) : Prop where
  workingPlace : after.workingPlace = disk.workingPlace
  there : after.tree.nodes.find? place = content
  names : ∀ {name}, content ≠ none → disk.SameFile place name →
    after.tree.nodes.find? name = content
  elsewhere : ∀ {name}, name ≠ place → (content ≠ none → ¬ disk.SameFile place name) →
    after.tree.nodes.find? name = disk.tree.nodes.find? name

/-- Directories and links are left alone. -/
theorem Rewrites.keepsWays {content : Option FileNode}
    (rewrites : disk.Rewrites after place content) (wellKept : disk.WellKept)
    (leads : disk.LeadsToFile path place) : KeepsWays disk.tree after.tree := by
  refine .of_find? fun {name node} found kind => ?_
  have noFile : ¬ node.IsFile := by
    rintro ⟨_, _, rfl⟩
    rcases kind with isDirectory | ⟨_, isLink⟩
    · cases isDirectory
    · cases isLink
  rw [rewrites.elsewhere, found]
  · rintro rfl
    exact noFile (leads.isFile found)
  · intro _ same
    obtain ⟨file, isFile, -, foundToo⟩ := wellKept.find?_of_sameFile same
    obtain rfl := Option.some.inj (found.symm.trans foundToo)
    exact noFile isFile

theorem Rewrites.hasDirectory {content : Option FileNode}
    (rewrites : disk.Rewrites after place content) (wellKept : disk.WellKept)
    (leads : disk.LeadsToFile path place) {other : Place}
    (directory : disk.tree.HasDirectory other) : after.tree.HasDirectory other := by
  refine directory.imp_right fun found => ?_
  rw [rewrites.elsewhere, found]
  · rintro rfl
    exact leads.not_hasDirectory directory
  · intro _ same
    obtain ⟨node, ⟨_, _, rfl⟩, -, foundToo⟩ := wellKept.find?_of_sameFile same
    cases found.symm.trans foundToo

/-- **The path** leads to the place afterwards as well. -/
theorem Rewrites.leadsToFile {content : Option FileNode}
    (rewrites : disk.Rewrites after place content) (wellKept : disk.WellKept)
    (leads : disk.LeadsToFile path place) (isFile : ∀ node ∈ content, node.IsFile) :
    after.LeadsToFile path place := by
  have regular : ∀ node, after.tree.node? place = some node → node.IsFile := by
    intro node found
    rw [leads.node?_eq, rewrites.there] at found
    exact isFile node found
  refine ⟨?_, regular⟩
  rw [rewrites.workingPlace]
  refine (rewrites.keepsWays wellKept leads).locateWith leads.leads fun target link => ?_
  obtain ⟨_, _, isFile⟩ := regular _ link
  cases isFile

/-- **Writing** to a file that may be written. -/
theorem write_rewrites (written : namesDirectory path = false) (wellKept : disk.WellKept)
    (leads : disk.LeadsToFile path place) (writable : disk.refuses .write path = false)
    (bytes : Text.Bytes) :
    (Disk.write path bytes disk).1 = .ok () ∧
      (Disk.write path bytes disk).2.shared = disk.shared ∧
      disk.Rewrites (Disk.write path bytes disk).2 place
        (some (.file bytes.toByteArray disk.clock)) := by
  have target : disk.tree.placeToWrite disk.workingPlace path = .ok place := by
    rw [placeToWrite, inspect_eq_inspectSelf written fun node => leads.regular_standing written,
      leads.inspectSelf_eq written]
    simp only [bind, Except.bind]
    cases found : disk.tree.nodes.find? place with
    | none => simp [written]
    | some node =>
        obtain ⟨_, _, rfl⟩ := leads.isFile found
        rfl
  rw [Disk.write_eq, target]
  dsimp only
  rw [writable, if_neg Bool.false_ne_true, leads.node?_eq]
  cases found : disk.tree.nodes.find? place with
  | none =>
      have becomes := disk.create_becomes place bytes.toByteArray disk.clock
      refine ⟨rfl, becomes.shared, becomes.workingPlace, ?_, fun {name} _ same => ?_,
        fun {name} different _ => ?_⟩
      · rw [becomes.tree, find?_put, if_pos rfl]
      · obtain ⟨_, -, foundToo, -⟩ := wellKept.find?_of_sameFile same
        cases found.symm.trans foundToo
      · rw [becomes.tree, find?_put, if_neg different]
  | some node =>
      obtain ⟨former, changed, rfl⟩ := leads.isFile found
      have stored : ∀ name,
          (disk.store place bytes.toByteArray disk.clock).tree.nodes.find? name =
            if name ∈ disk.namesOf place then some (.file bytes.toByteArray disk.clock)
            else disk.tree.nodes.find? name :=
        fun name => find?_foldl_put disk.tree _ _ name
      refine ⟨rfl, rfl, rfl, ?_, fun {name} _ same => ?_, fun {name} different other => ?_⟩
      · exact (stored place).trans (if_pos (wellKept.mem_namesOf_iff.2 (.inl rfl)))
      · exact (stored name).trans (if_pos (wellKept.mem_namesOf_iff.2 (.inr same)))
      · refine (stored name).trans (if_neg fun member => ?_)
        rcases wellKept.mem_namesOf_iff.1 member with same | same
        · exact different same
        · exact other (Option.some_ne_none _) same

/-- Writing changes neither modes nor the user. -/
theorem write_keeps_modes (path : Path) (bytes : Text.Bytes) (disk : Disk) :
    (Disk.write path bytes disk).2.superuser = disk.superuser ∧
      ∀ other, (Disk.write path bytes disk).2.mode? other = disk.mode? other := by
  rw [Disk.write_eq]
  split
  · exact ⟨rfl, fun _ => rfl⟩
  · split
    · exact ⟨rfl, fun _ => rfl⟩
    · dsimp only
      split
      · exact ⟨rfl, fun _ => mode?_create _ _ _ _⟩
      · exact ⟨rfl, fun _ => rfl⟩
      · exact ⟨rfl, fun _ => rfl⟩

/-- What was written may be written. -/
theorem writable_of_write (writes : (Disk.write path bytes disk).1 = .ok ()) :
    disk.refuses .write path = false := by
  rw [Disk.write_eq] at writes
  split at writes
  · cases writes
  · split at writes
    · cases writes
    · next allowed => exact Bool.eq_false_iff.2 allowed

/-- The path leads to the written file. -/
theorem LeadsToFile.write (written : namesDirectory path = false) (wellKept : disk.WellKept)
    (leads : disk.LeadsToFile path place) (writable : disk.refuses .write path = false)
    (bytes : Text.Bytes) : (Disk.write path bytes disk).2.LeadsToFile path place := by
  obtain ⟨-, -, rewrites⟩ := write_rewrites written wellKept leads writable bytes
  refine rewrites.leadsToFile wellKept leads fun node member => ?_
  obtain rfl := Option.some.inj member
  exact ⟨_, _, rfl⟩

/-- **Removing** a file. One that is not there is not found. -/
theorem removeFile_rewrites (written : namesDirectory path = false) (wellKept : disk.WellKept)
    (leads : disk.LeadsToFile path place) :
    ((Disk.removeFile path disk).1 = .ok () ∨ (Disk.removeFile path disk).1 = .error .notFound) ∧
      disk.Rewrites (Disk.removeFile path disk).2 place none := by
  rw [Disk.removeFile_eq, placeToRemove, leads.inspectSelf_eq written]
  simp only [bind, Except.bind]
  cases found : disk.tree.nodes.find? place with
  | none => exact ⟨.inr rfl, rfl, found, fun none _ => absurd rfl none, fun _ _ => rfl⟩
  | some node =>
      obtain ⟨former, changed, rfl⟩ := leads.isFile found
      have removed : ∀ name, (disk.erase place).tree.nodes.find? name =
          if place <+: name then none else disk.tree.nodes.find? name :=
        fun name => find?_without place name
      refine ⟨.inl rfl, rfl, ?_, fun none _ => absurd rfl none, fun {name} different _ => ?_⟩
      · exact (removed place).trans (if_pos List.prefix_rfl)
      · refine (removed name).trans ?_
        split
        · next below =>
            exact (wellKept.rooted.find?_below leads.not_hasDirectory below different).symm
        · rfl

/-! ## Disks stay well kept -/

/-- The names of a file hold it still, where files are left alone. -/
theorem WellKept.of_files (wellKept : disk.WellKept) (rooted : after.tree.Rooted)
    (shared : after.shared = disk.shared)
    (keeps : ∀ {name node}, node.IsFile → disk.tree.nodes.find? name = some node →
      after.tree.nodes.find? name = some node) : after.WellKept where
  rooted := rooted
  oneFile := fun isList => by
    obtain ⟨node, isFile, found⟩ := wellKept.oneFile (shared ▸ isList)
    exact ⟨node, isFile, fun name inNames => keeps isFile (found name inNames)⟩
  oneList := fun isList isListToo => wellKept.oneList (shared ▸ isList) (shared ▸ isListToo)

theorem WellKept.makeDirectories (wellKept : disk.WellKept)
    (home : disk.tree.HasDirectory disk.workingPlace) (path : Path) :
    (Disk.makeDirectories path disk).2.WellKept :=
  wellKept.of_files (wellKept.rooted.makeDirectories home path) rfl fun _ found =>
    (madeAlong_makeDirectories disk.tree disk.workingPlace path).find?_eq_some found

/-- A file that is written, in a directory that is there, leaves the disk well kept. -/
theorem Rewrites.wellKept {file : FileNode} (rewrites : disk.Rewrites after place (some file))
    (isFile : file.IsFile) (wellKept : disk.WellKept) (leads : disk.LeadsToFile path place)
    (inside : disk.tree.HasDirectory place.dropLast) (shared : after.shared = disk.shared) :
    after.WellKept := by
  have rooted : after.tree.Rooted := by
    refine ⟨fun {other node} found => rewrites.hasDirectory wellKept leads ?_⟩
    by_cases same : other = place
    · exact same ▸ inside
    · by_cases named : disk.SameFile place other
      · obtain ⟨_, -, -, foundToo⟩ := wellKept.find?_of_sameFile named
        exact wellKept.rooted.inDirectory foundToo
      · rw [rewrites.elsewhere same fun _ => named] at found
        exact wellKept.rooted.inDirectory found
  refine ⟨rooted, fun {names} isList => ?_, fun isList isListToo =>
    wellKept.oneList (shared ▸ isList) (shared ▸ isListToo)⟩
  rw [shared] at isList
  by_cases inNames : place ∈ names
  · exact ⟨file, isFile, fun name member =>
      rewrites.names (Option.some_ne_none _) ⟨names, isList, inNames, member⟩⟩
  · obtain ⟨node, isFile, found⟩ := wellKept.oneFile isList
    refine ⟨node, isFile, fun name member => ?_⟩
    rw [rewrites.elsewhere, found name member]
    · rintro rfl
      exact inNames member
    · rintro - ⟨others, isListToo, inOthers, memberToo⟩
      exact inNames (wellKept.oneList isList isListToo member memberToo ▸ inOthers)

theorem WellKept.write (written : namesDirectory path = false) (wellKept : disk.WellKept)
    (home : disk.tree.HasDirectory disk.workingPlace) (leads : disk.LeadsToFile path place)
    (writable : disk.refuses .write path = false) (bytes : Text.Bytes) :
    (Disk.write path bytes disk).2.WellKept := by
  obtain ⟨-, shared, rewrites⟩ := write_rewrites written wellKept leads writable bytes
  exact rewrites.wellKept ⟨_, _, rfl⟩ wellKept leads
    (wellKept.rooted.locateWith home leads.leads) shared

theorem mem_forget_shared {names : List Place} :
    names ∈ (disk.forget place).shared ↔
      1 < names.length ∧ ∃ former ∈ disk.shared,
        former.filter (fun other => !place.isPrefixOf other) = names := by
  simp [forget, List.mem_filter, List.mem_map, and_comm]

/-- The names of a file that are not below a place stay its names when that place is forgotten. -/
theorem SameFile.forget (same : disk.SameFile place name) (different : name ≠ place)
    {gone : Place} (outside : ¬ gone <+: place) (outsideToo : ¬ gone <+: name) :
    (disk.forget gone).SameFile place name := by
  obtain ⟨names, isList, inNames, inNamesToo⟩ := same
  have stays : ∀ {other}, other ∈ names → ¬ gone <+: other →
      other ∈ names.filter (fun other => !gone.isPrefixOf other) := by
    intro other member notBelow
    refine List.mem_filter.2 ⟨member, ?_⟩
    simpa [← List.isPrefixOf_iff_prefix] using notBelow
  have distinct : [place, name].Nodup := by simp [different.symm]
  have both : [place, name] ⊆ names.filter (fun other => !gone.isPrefixOf other) := by
    simp [List.cons_subset, stays inNames outside, stays inNamesToo outsideToo]
  exact ⟨_, mem_forget_shared.2 ⟨(distinct.subperm both).length_le, names, isList, rfl⟩,
    stays inNames outside, stays inNamesToo outsideToo⟩

theorem removeTree_tree (disk : Disk) (path : Path) :
    (Disk.removeTree path disk).2.tree = (disk.tree.removeTree disk.workingPlace path).1 := by
  rw [removeTree_eq]

theorem removeTree_shared (disk : Disk) (path : Path) :
    (Disk.removeTree path disk).2.shared =
      match disk.tree.treeToRemove? disk.workingPlace path with
      | some place => (disk.forget place).shared
      | none => disk.shared := by
  rw [removeTree_eq]
  cases disk.tree.treeToRemove? disk.workingPlace path <;> rfl

/-- Where a place is forgotten and things there and below it are gone, what is left is well kept. -/
theorem WellKept.of_goneBelow {gone : Place} (wellKept : disk.WellKept)
    (rooted : after.tree.Rooted) (shared : after.shared = (disk.forget gone).shared)
    (lacks : GoneBelow disk.tree after.tree gone) : after.WellKept := by
  refine ⟨rooted, fun {names} isList => ?_, fun {names others name} isList isListToo => ?_⟩
  · rw [shared] at isList
    obtain ⟨-, former, isFormer, rfl⟩ := mem_forget_shared.1 isList
    obtain ⟨node, isFile, found⟩ := wellKept.oneFile isFormer
    refine ⟨node, isFile, fun name member => ?_⟩
    obtain ⟨inFormer, outside⟩ := List.mem_filter.1 member
    rcases lacks name with same | ⟨-, below⟩
    · rw [same, found name inFormer]
    · simp [List.isPrefixOf_iff_prefix.2 below] at outside
  · rw [shared] at isList isListToo
    obtain ⟨-, former, isFormer, rfl⟩ := mem_forget_shared.1 isList
    obtain ⟨-, formerToo, isFormerToo, rfl⟩ := mem_forget_shared.1 isListToo
    intro member memberToo
    rw [wellKept.oneList isFormer isFormerToo (List.mem_filter.1 member).1
      (List.mem_filter.1 memberToo).1]

theorem WellKept.removeTree (wellKept : disk.WellKept) (path : Path) :
    (Disk.removeTree path disk).2.WellKept := by
  have rooted : (Disk.removeTree path disk).2.tree.Rooted := by
    rw [removeTree_tree]
    exact wellKept.rooted.removeTree disk.workingPlace path
  cases removes : disk.tree.treeToRemove? disk.workingPlace path with
  | none =>
      refine wellKept.of_files rooted (by rw [removeTree_shared, removes]) fun _ found => ?_
      rw [removeTree_tree, removeTree_of_nothing removes, found]
  | some gone =>
      refine wellKept.of_goneBelow rooted (by rw [removeTree_shared, removes]) ?_
      rw [removeTree_tree]
      exact goneBelow_removeTree (locateSelf_of_treeToRemove? removes)

theorem WellKept.removeFile (wellKept : disk.WellKept) (path : Path) :
    (Disk.removeFile path disk).2.WellKept := by
  rw [Disk.removeFile_eq]
  cases disk.tree.placeToRemove disk.workingPlace path with
  | error fault => exact wellKept
  | ok gone =>
      exact wellKept.of_goneBelow (wellKept.rooted.without gone) rfl
        (goneBelow_without gone)

/-- Outside of a directory that is removed, files have the names that they had. -/
theorem sameFile_removeTree_iff {directory : Path} (different : name ≠ place)
    (outside : ∀ gone, disk.tree.locateSelf disk.workingPlace directory = .ok gone →
      ¬ gone <+: place ∧ ¬ gone <+: name) :
    (Disk.removeTree directory disk).2.SameFile place name ↔ disk.SameFile place name := by
  unfold SameFile
  rw [removeTree_shared]
  cases removes : disk.tree.treeToRemove? disk.workingPlace directory with
  | none => exact Iff.rfl
  | some gone =>
      obtain ⟨notBelow, notBelowToo⟩ := outside gone (locateSelf_of_treeToRemove? removes)
      constructor
      · rintro ⟨names, isList, inNames, inNamesToo⟩
        obtain ⟨-, former, isFormer, rfl⟩ := mem_forget_shared.1 isList
        exact ⟨former, isFormer, (List.mem_filter.1 inNames).1, (List.mem_filter.1 inNamesToo).1⟩
      · exact fun same => SameFile.forget same different notBelow notBelowToo

end Disk

end TestAmplification
