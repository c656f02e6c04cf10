import TestAmplification.Proofs.Files.Locality
import TestAmplification.Proofs.Files.WellKept
import TestAmplification.Proofs.Tooling.HandedPaths
import TestAmplification.Proofs.Tooling.Interleaving
import TestAmplification.Proofs.Tooling.ReportDirectories

/-!
# Suite files are put back

To compile or to analyze a suite its file is written first, a command is run, and then the file that
was there before is put back, or the new one is removed. Whatever comes of the command, whether the
suite could be written at all, and whatever the command did to the file, the file is as it was
afterwards, and everything else is, too, apart from what the command changed, the report directory
that an analysis clears, and directories on the way to the file (`suites_put_back`).

For this the path of the file has to lead to one place all the time, and the file has to be one that
may be read before and written afterwards (`Disk.Ready`, `Disk.ClearsAside`, `Disk.Spares`). What
was there is read before the directory of the file is made, and whatever keeps it from being read
counts as no file. So a file is overwritten and removed that is found only once the directory is
made, when the path goes through a missing directory and back, or that its owner may write and not
read. A report directory that is cleared takes the source directory with it where the name of a
suite leads there. A file with a second name that the command deletes under the first one holds the
suite under the second one for good, and a file that the command makes read-only keeps the suite
(`files_not_put_back`). On a disk without links, with a path without `..` and a report directory
that is not on the way to the file, nothing of the kind happens, if the modes of files and
directories allow what they have to.
-/

set_option autoImplicit false

namespace TestAmplification

open FileTree

/-! ## Placing a suite -/

namespace SuiteFile

variable {path : Path} {disk : Disk}

/-- The path of a suite's file is not written like the one of a directory. -/
theorem namesDirectory_pathIn (directory : Path) (suite : TestSuite) :
    namesDirectory (pathIn directory suite) = false := by
  obtain ⟨front, characters⟩ :
      ∃ front, (pathIn directory suite).toList = front ++ ".json".toList := by
    unfold pathIn Path.join fileName
    split
    · exact ⟨_, String.toList_append⟩
    · split
      · exact ⟨directory.toList ++ suite.name.toList, by simp [String.toList_append]⟩
      · exact ⟨directory.toList ++ '/' :: suite.name.toList, by simp [String.toList_append]⟩
  obtain ⟨name, last⟩ := Path.getLast?_splitNames_append (by decide : '/' ∉ ".json".toList) front
  have long : 2 < (name ++ ".json".toList).length := by
    have suffix : ".json".toList.length = 5 := rfl
    rw [List.length_append, suffix]
    omega
  rw [namesDirectory, characters, last]
  generalize name ++ ".json".toList = ending at long
  split
  · next same =>
      obtain rfl := Option.some.inj same
      exact absurd long (by decide)
  · next same =>
      obtain rfl := Option.some.inj same
      exact absurd long (by decide)
  · next same =>
      obtain rfl := Option.some.inj same
      exact absurd long (by decide)
  · rfl

theorem makeParent_disk (path : Path) (disk : Disk) :
    (makeParent path disk).2 =
      match Path.parent? path with
      | none => disk
      | some parent => (Disk.makeDirectories parent disk).2 := by
  unfold makeParent
  cases Path.parent? path with
  | none => rfl
  | some parent =>
      simp only [StateM.bind_apply]
      cases (Disk.makeDirectories parent disk).1 <;> rfl

/-- Making the directory of a file leaves the disk well kept, and a file that stood somewhere stands
there still. -/
theorem makeParent_wellKept (wellKept : disk.WellKept)
    (home : disk.tree.HasDirectory disk.workingPlace) (path : Path) :
    (makeParent path disk).2.WellKept := by
  rw [makeParent_disk]
  split
  · exact wellKept
  · exact wellKept.makeDirectories home _

/-- **Making the directory** of a file makes only directories that paths above it lead to. -/
theorem find?_makeParent (path : Path) (disk : Disk) (place : Place) :
    (makeParent path disk).2.tree.nodes.find? place = disk.tree.nodes.find? place ∨
      disk.tree.nodes.find? place = none ∧
        (makeParent path disk).2.tree.nodes.find? place = some .directory ∧
        ∃ above, Relation.TransGen (fun path parent => Path.parent? path = some parent) path above ∧
          (makeParent path disk).2.tree.locate disk.workingPlace above = .ok place := by
  rw [makeParent_disk]
  split
  · exact .inl rfl
  · next parent isParent =>
      exact (madeAlong_makeDirectories disk.tree disk.workingPlace parent place).imp_right
        fun ⟨missing, directory, above, upTo, leads⟩ =>
          ⟨missing, directory, above, .head' isParent upTo, leads⟩

theorem makeParent_workingPlace (path : Path) (disk : Disk) :
    (makeParent path disk).2.workingPlace = disk.workingPlace := by
  rw [makeParent_disk]
  split <;> rfl

/-- The working directory is there still. -/
theorem makeParent_home (home : disk.tree.HasDirectory disk.workingPlace) (path : Path) :
    (makeParent path disk).2.tree.HasDirectory (makeParent path disk).2.workingPlace := by
  rw [makeParent_workingPlace]
  refine home.imp_right fun found => ?_
  rcases find?_makeParent path disk disk.workingPlace with same | ⟨missing, -, -⟩
  · rw [same, found]
  · cases missing.symm.trans found

theorem makeParent_shared (path : Path) (disk : Disk) :
    (makeParent path disk).2.shared = disk.shared := by
  rw [makeParent_disk]
  split <;> rfl

/-- Making a directory changes neither the modes of what is there nor the user. -/
theorem makeParent_keeps_modes (path : Path) (disk : Disk) :
    (makeParent path disk).2.superuser = disk.superuser ∧
      ∀ other, (makeParent path disk).2.mode? other = disk.mode? other := by
  rw [makeParent_disk]
  split <;> exact ⟨rfl, fun _ => rfl⟩

theorem makeParent_keepsWays (path : Path) (disk : Disk) :
    KeepsWays disk.tree (makeParent path disk).2.tree := by
  refine .of_find? fun {place _} found _ => ?_
  rcases find?_makeParent path disk place with same | ⟨missing, -, -⟩
  · rw [same, found]
  · cases missing.symm.trans found

end SuiteFile

namespace PlacedSuite

/-- **Placing** a suite makes the directory, and writes the file if that can be done. -/
theorem place_cases (directory : Path) (suite : TestSuite) (disk : Disk) :
    (∃ error, place directory suite disk =
      (.error error, (SuiteFile.makeParent (SuiteFile.pathIn directory suite) disk).2)) ∨
    ∃ wrote, Disk.write (SuiteFile.pathIn directory suite) (Text.encode (SuiteFile.content suite))
        (SuiteFile.makeParent (SuiteFile.pathIn directory suite) disk).2 = (.ok (), wrote) ∧
      place directory suite disk =
        (.ok ⟨SuiteFile.pathIn directory suite,
          (Disk.read (SuiteFile.pathIn directory suite) disk).1.toOption⟩, wrote) := by
  have read : (Disk.read (SuiteFile.pathIn directory suite) disk).2 = disk := by
    rw [Disk.read_eq]
  simp only [place, SuiteFile.write, StateM.bind_apply, read]
  cases (SuiteFile.makeParent (SuiteFile.pathIn directory suite) disk).1 with
  | error error => exact .inl ⟨_, rfl⟩
  | ok _ =>
      simp only [StateM.bind_apply]
      generalize isMade : (SuiteFile.makeParent (SuiteFile.pathIn directory suite) disk).2 = made
      rcases wrote : Disk.write (SuiteFile.pathIn directory suite)
        (Text.encode (SuiteFile.content suite)) made with ⟨result, after⟩
      cases result with
      | error fault =>
          have unchanged := Disk.write_of_error (congrArg Prod.fst wrote)
          rw [wrote] at unchanged
          exact .inl ⟨_, Prod.ext rfl unchanged⟩
      | ok _ => exact .inr ⟨after, rfl, rfl⟩

theorem write_of_place {directory : Path} {suite : TestSuite} {disk started : Disk}
    {placed : PlacedSuite} (isPlaced : place directory suite disk = (.ok placed, started)) :
    Disk.write (SuiteFile.pathIn directory suite) (Text.encode (SuiteFile.content suite))
      (SuiteFile.makeParent (SuiteFile.pathIn directory suite) disk).2 = (.ok (), started) := by
  rcases place_cases directory suite disk with ⟨error, failed⟩ | ⟨wrote, isWritten, same⟩
  · cases failed.symm.trans isPlaced
  · obtain rfl : wrote = started := congrArg Prod.snd (same.symm.trans isPlaced)
    exact isWritten

theorem place_workingPlace (directory : Path) (suite : TestSuite) (disk : Disk) :
    (place directory suite disk).2.workingPlace = disk.workingPlace := by
  rcases place_cases directory suite disk with ⟨error, failed⟩ | ⟨started, wrote, isPlaced⟩
  · rw [failed]
    exact SuiteFile.makeParent_workingPlace _ disk
  · rw [isPlaced, ← SuiteFile.makeParent_workingPlace (SuiteFile.pathIn directory suite) disk]
    exact (congrArg (fun run => run.2.workingPlace) wrote).symm.trans
      (Disk.write_workingPlace _ _ _)

/-- **Restoring** writes what was there, or removes the file. -/
theorem restore_disk (placed : PlacedSuite) (disk : Disk) :
    (placed.restore disk).2 =
      match placed.before with
      | some bytes => (Disk.write placed.path bytes disk).2
      | none => (Disk.removeFile placed.path disk).2 := by
  have restored : (placed.restore disk).2 = (placed.putBack disk).2 := by
    simp only [restore, StateM.bind_apply]
    cases (placed.putBack disk).1 <;> rfl
  rw [restored]
  unfold putBack
  cases placed.before with
  | some bytes => rfl
  | none =>
      simp only [StateM.bind_apply]
      cases (Disk.removeFile placed.path disk).1 with
      | ok _ => rfl
      | error fault => cases fault <;> rfl

end PlacedSuite

/-! ## What is asked, and what comes of it -/

/-- What is asked of the way to a file before a suite is placed there. -/
structure Disk.Settled (disk : Disk) (path : Path) : Prop where
  wellKept : disk.WellKept
  home : disk.tree.HasDirectory disk.workingPlace
  /-- There is nothing but a file at the path. -/
  regular : ∀ node, disk.standing? path = some node → node.IsFile
  /-- Once the directory is made, the same is found at the path. -/
  inSight : (SuiteFile.makeParent path disk).2.standing? path = disk.standing? path

/-- What is asked of a disk before a suite is placed at a path. -/
structure Disk.Ready (disk : Disk) (path : Path) : Prop extends disk.Settled path where
  /-- A file that may not be read may not be written either. -/
  legible : disk.refuses .read path = true → disk.refuses .write path = true

/-- What is asked of what happens while the suite stands at the path. -/
structure Disk.Spares (disk after : Disk) (path : Path) : Prop where
  wellKept : disk.WellKept → after.WellKept
  /-- The path leads to where it led, with a file there or nothing. -/
  leads : ∀ place, disk.LeadsToFile path place → after.LeadsToFile path place
  /-- What may be written at the path may be written still. -/
  writable : disk.refuses .write path = false → after.refuses .write path = false
  /-- Directories are as open as they were. Files are made and removed here as if all directories
  were open, so this is asked for and not used. -/
  openness : ∀ place, disk.tree.nodes.find? place = some .directory →
    after.mode? place = disk.mode? place
  /-- A further name of the file that was left alone is one still. -/
  names : ∀ place name, disk.LeadsToFile path place → disk.SameFile place name → name ≠ place →
    after.tree.nodes.find? name = disk.tree.nodes.find? name → after.SameFile place name

theorem Disk.Spares.refl (disk : Disk) (path : Path) : disk.Spares disk path :=
  ⟨id, fun _ => id, id, fun _ _ => rfl, fun _ _ _ same _ _ => same⟩

section

variable {path : Path} {disk : Disk} {place : Place} (written : namesDirectory path = false)
  (wellKept : disk.WellKept)

include written wellKept

/-- Overwriting the file spares it. -/
theorem Disk.Spares.of_write (home : disk.tree.HasDirectory disk.workingPlace)
    (leads : disk.LeadsToFile path place) (held : (disk.tree.nodes.find? place).isSome)
    (bytes : Text.Bytes) : disk.Spares (Disk.write path bytes disk).2 path := by
  cases writable : disk.refuses .write path with
  | true =>
      have unchanged : (Disk.write path bytes disk).2 = disk := by
        rw [Disk.write_eq, writable]
        split <;> rfl
      rw [unchanged]
      exact .refl disk path
  | false =>
      obtain ⟨-, shared, rewrites⟩ := Disk.write_rewrites written wellKept leads writable bytes
      obtain ⟨user, modes⟩ := Disk.write_keeps_modes path bytes disk
      refine ⟨fun _ => wellKept.write written home leads writable bytes,
        fun place leads => leads.write written wellKept writable bytes, fun _ => ?_,
        fun place _ => modes place, fun other name _ same _ _ => ?_⟩
      · have stands := (congrArg Option.isSome rewrites.there).trans held.symm
        rw [leads.refuses_congr written (leads.write written wellKept writable bytes) user
          (modes place) stands, writable]
      · rwa [Disk.SameFile, shared]

/-- Deleting the file spares it, where no file has several names. -/
theorem Disk.Spares.of_removeFile (unshared : disk.shared = [])
    (leads : disk.LeadsToFile path place) : disk.Spares (Disk.removeFile path disk).2 path := by
  obtain ⟨-, rewrites⟩ := Disk.removeFile_rewrites written wellKept leads
  have leadsAfter := rewrites.leadsToFile wellKept leads nofun
  refine ⟨fun _ => wellKept.removeFile path, fun other leadsToo => ?_, fun _ => ?_,
    fun other directory => ?_, fun _ _ _ ⟨_, isList, _⟩ => by simp [unshared] at isList⟩
  · obtain rfl := Except.ok.inj (leads.leads.symm.trans leadsToo.leads)
    exact leadsAfter
  · rw [Bool.eq_false_iff, ne_eq, leadsAfter.refuses_iff written, rewrites.there]
    exact fun refused => Bool.false_ne_true refused.1
  · rw [Disk.removeFile_eq, placeToRemove, leads.inspectSelf_eq written]
    simp only [bind, Except.bind]
    cases found : disk.tree.nodes.find? place with
    | none => rfl
    | some node =>
        obtain ⟨_, _, rfl⟩ := leads.isFile found
        refine (Disk.mode?_erase place other).trans (if_neg fun below => ?_)
        by_cases same : other = place
        · exact leads.not_hasDirectory (.inr (same ▸ directory))
        · cases (wellKept.rooted.find?_below leads.not_hasDirectory below same).symm.trans directory

end

/-- Something else stands at the place, or it has become a further name of the file at the path. -/
def Disk.ChangedTo (disk after : Disk) (path : Path) (name : Place) : Prop :=
  after.tree.nodes.find? name ≠ disk.tree.nodes.find? name ∨
    ∃ place, disk.LeadsToFile path place ∧ name ≠ place ∧ after.SameFile place name ∧
      ¬ disk.SameFile place name

/-- The file at the path is as it was before, apart from the moment of its last change. Everything
else is as it was, too, or as it was left where it was changed while the suite stood there, or it is
a directory that was missing on the way to the path. -/
structure Disk.PutBack (disk ran after : Disk) (path : Path) (changed : Place → Prop) : Prop where
  /-- The file at the path. -/
  file : (after.standing? path).map FileNode.timeless =
    (disk.standing? path).map FileNode.timeless
  /-- Every place: it is untouched, it was changed, it is a name of the file, or a directory was
  made. What was changed is left alone, unless it has become a further name of the file. -/
  others : ∀ name, after.tree.nodes.find? name = disk.tree.nodes.find? name ∨
    (changed name ∧ (after.tree.nodes.find? name = ran.tree.nodes.find? name ∨
      ∃ place, after.LeadsToFile path place ∧ after.SameFile place name)) ∨
    ((after.tree.nodes.find? name).map FileNode.timeless =
        (disk.tree.nodes.find? name).map FileNode.timeless ∧
      ∃ place, after.LeadsToFile path place ∧ (name = place ∨ after.SameFile place name)) ∨
    (disk.tree.nodes.find? name = none ∧ after.tree.nodes.find? name = some .directory ∧
      ∃ above, Relation.TransGen (fun path parent => Path.parent? path = some parent) path above ∧
        (SuiteFile.makeParent path disk).2.tree.locate disk.workingPlace above = .ok name)

/-- A disk from the moment when the suite stands in its file, or could not be placed. -/
structure Course where
  /-- The suite stands in its file. -/
  started : Disk
  /-- The report directory is cleared. -/
  cleared : Disk
  /-- The command has run. -/
  ran : Disk
  /-- The file is put back. -/
  after : Disk

/-- The disks of a suite that is placed, with what happens to the disk while it stands there. -/
def PlacedSuite.course (directory : Path) (suite : TestSuite) (clears runs : Disk → Disk)
    (disk : Disk) : Course :=
  match PlacedSuite.place directory suite disk with
  | (.error _, placed) => ⟨placed, placed, placed, placed⟩
  | (.ok placed, started) =>
      ⟨started, clears started, runs started, (placed.restore (runs started)).2⟩

theorem PlacedSuite.course_started (directory : Path) (suite : TestSuite)
    (clears runs : Disk → Disk) (disk : Disk) :
    (course directory suite clears runs disk).started = (place directory suite disk).2 := by
  unfold course
  rcases place directory suite disk with ⟨answer, started⟩
  cases answer <;> rfl

/-- Either the suite could not be placed, or everything takes its course. -/
theorem PlacedSuite.course_cases {directory : Path} {suite : TestSuite}
    {clears runs : Disk → Disk} {disk : Disk} {stages : Course}
    (isCourse : course directory suite clears runs disk = stages) :
    (stages.cleared = stages.started ∧ stages.ran = stages.started) ∨
      ∃ placed, place directory suite disk = (.ok placed, stages.started) ∧
        stages.cleared = clears stages.started ∧ stages.ran = runs stages.started := by
  subst isCourse
  unfold course
  rcases place directory suite disk with ⟨answer, started⟩
  cases answer with
  | error error => exact .inl ⟨rfl, rfl⟩
  | ok placed => exact .inr ⟨placed, rfl, rfl, rfl⟩

/-! ## The file comes back -/

section

variable {path : Path} {disk ran : Disk} {place : Place} (written : namesDirectory path = false)

include written

/-- What is restored stands at the path in place of what was there. -/
theorem PlacedSuite.restore_rewrites (wellKept : ran.WellKept)
    (leads : ran.LeadsToFile path place) {before : Option Text.Bytes}
    (writable : before.isSome → ran.refuses .write path = false) :
    ran.Rewrites ((PlacedSuite.mk path before).restore ran).2 place
        (before.map fun bytes => .file bytes.toByteArray ran.clock) ∧
      (before.isSome → ((PlacedSuite.mk path before).restore ran).2.shared = ran.shared) := by
  rw [restore_disk]
  cases before with
  | none => exact ⟨(Disk.removeFile_rewrites written wellKept leads).2, nofun⟩
  | some bytes =>
      obtain ⟨-, shared, rewrites⟩ :=
        Disk.write_rewrites written wellKept leads (writable rfl) bytes
      exact ⟨rewrites, fun _ => shared⟩

/-- What is restored is what stood there, apart from the moment. -/
theorem timeless_restored (regular : ∀ node, disk.standing? path = some node → node.IsFile)
    (readable : disk.refuses .read path = false) (moment : Int) :
    (((Disk.read path disk).1.toOption.map fun bytes =>
        FileNode.file bytes.toByteArray moment).map FileNode.timeless) =
      (disk.standing? path).map FileNode.timeless := by
  rw [Disk.toOption_read written regular readable]
  cases stands : disk.standing? path with
  | none => rfl
  | some node =>
      obtain ⟨bytes, changed, rfl⟩ := regular node stands
      have same : bytes.data.toList.toByteArray = bytes :=
        ByteArray.ext (by rw [List.data_toByteArray, Array.toArray_toList])
      simp [FileNode.bytes?, FileNode.timeless, same]

/-- The path leads to the restored file. -/
theorem PlacedSuite.restore_leadsToFile (wellKept : ran.WellKept)
    (leads : ran.LeadsToFile path place) {before : Option Text.Bytes}
    (writable : before.isSome → ran.refuses .write path = false) :
    ((PlacedSuite.mk path before).restore ran).2.LeadsToFile path place := by
  obtain ⟨rewrites, -⟩ := restore_rewrites written wellKept leads writable
  refine rewrites.leadsToFile wellKept leads fun node member => ?_
  obtain ⟨bytes, -, rfl⟩ := Option.mem_map.1 member
  exact ⟨_, _, rfl⟩

/-- Another place holds the restored file, too, if it is a further name of the file and there was
something to restore. Otherwise it is left alone. -/
theorem PlacedSuite.restore_cases (wellKept : ran.WellKept) (leads : ran.LeadsToFile path place)
    {before : Option Text.Bytes} (writable : before.isSome → ran.refuses .write path = false)
    {name : Place} (different : name ≠ place) :
    let after := ((PlacedSuite.mk path before).restore ran).2
    ((before.isSome ∧ ran.SameFile place name) ∧ after.SameFile place name ∧
      after.tree.nodes.find? name = after.tree.nodes.find? place) ∨
    (¬ (before.isSome ∧ ran.SameFile place name) ∧
      after.tree.nodes.find? name = ran.tree.nodes.find? name) := by
  intro after
  obtain ⟨rewrites, shared⟩ := restore_rewrites written wellKept leads writable
  by_cases named : before.isSome ∧ ran.SameFile place name
  · obtain ⟨isSome, shares⟩ := named
    refine .inl ⟨⟨isSome, shares⟩, ?_, ?_⟩
    · rwa [Disk.SameFile, shared isSome]
    · rw [rewrites.there]
      exact rewrites.names (by simpa using Option.isSome_iff_ne_none.1 isSome) shares
  · refine .inr ⟨named, rewrites.elsewhere different fun some shares => named ⟨?_, shares⟩⟩
    exact Option.isSome_iff_ne_none.2 fun none => some (by rw [none]; rfl)

/-- What stands at the path stands at the place that the path leads to later. -/
theorem Disk.Settled.standing?_eq (settled : disk.Settled path)
    (leads : (SuiteFile.makeParent path disk).2.LeadsToFile path place) :
    disk.standing? path = disk.tree.nodes.find? place := by
  rw [← settled.inSight, leads.standing?_eq written]
  rcases SuiteFile.find?_makeParent path disk place with same | ⟨-, directory, -⟩
  · exact same
  · exact absurd (.inr directory) leads.not_hasDirectory

omit written in
/-- What stands at the path stands where the path leads to later, and so it did before. -/
theorem Disk.Settled.leadsToFile (settled : disk.Settled path)
    (leads : (SuiteFile.makeParent path disk).2.LeadsToFile path place) {node : FileNode}
    (stands : disk.standing? path = some node) : disk.LeadsToFile path place := by
  have regular := settled.regular node stands
  unfold standing? at stands
  cases looked : disk.tree.inspectSelf disk.workingPlace path with
  | error fault =>
      rw [looked] at stands
      cases stands
  | ok seen =>
      obtain ⟨former, inside⟩ := seen
      rw [looked] at stands
      obtain rfl : inside = some node := stands
      obtain ⟨located, found⟩ := located_of_inspectSelf looked
      have leadsFormer : disk.LeadsToFile path former :=
        ⟨located, fun other isOther => Option.some.inj (found.symm.trans isOther) ▸ regular⟩
      have noNewLink : NoNewLink disk.tree (SuiteFile.makeParent path disk).2.tree former := by
        intro target link
        rw [leadsFormer.node?_eq] at found link
        rcases SuiteFile.find?_makeParent path disk former with same | ⟨missing, -, -⟩
        · rwa [leadsFormer.node?_eq, ← same]
        · cases missing.symm.trans found
      have locatedToo :=
        (SuiteFile.makeParent_keepsWays path disk).locateWith located noNewLink
      rw [← SuiteFile.makeParent_workingPlace path disk] at locatedToo
      obtain rfl := Except.ok.inj (locatedToo.symm.trans leads.leads)
      exact leadsFormer

/-- What is refused at the path is refused once the directory is made. -/
theorem Disk.Settled.refuses_made (settled : disk.Settled path)
    (leads : (SuiteFile.makeParent path disk).2.LeadsToFile path place) {right : FileRight}
    (refused : disk.refuses right path = true) :
    (SuiteFile.makeParent path disk).2.refuses right path = true := by
  have stands : ∃ node, disk.standing? path = some node := by
    unfold refuses at refused
    rw [Disk.inspect_eq_inspectSelf written settled.regular] at refused
    unfold standing?
    split at refused
    · next looked => exact ⟨_, by rw [looked]⟩
    · exact absurd refused Bool.false_ne_true
  obtain ⟨node, stands⟩ := stands
  obtain ⟨user, modes⟩ := SuiteFile.makeParent_keeps_modes path disk
  have same := settled.inSight
  rw [leads.standing?_eq written, settled.standing?_eq written leads] at same
  rwa [(settled.leadsToFile leads stands).refuses_congr written leads user (modes place)
    (congrArg Option.isSome same)]

/-- Where a suite is written, a file that was there may be read. -/
theorem Disk.Ready.readable (ready : disk.Ready path)
    (leads : (SuiteFile.makeParent path disk).2.LeadsToFile path place)
    (writable : (SuiteFile.makeParent path disk).2.refuses .write path = false) :
    disk.refuses .read path = false := by
  rw [Bool.eq_false_iff]
  intro refused
  rw [ready.refuses_made written leads (ready.legible refused)] at writable
  exact Bool.false_ne_true writable.symm

/-- A file with a further name was read. -/
theorem Disk.Settled.isSome_read (settled : disk.Settled path)
    (leads : (SuiteFile.makeParent path disk).2.LeadsToFile path place)
    (readable : disk.refuses .read path = false) {name : Place}
    (shares : disk.SameFile place name) : (Disk.read path disk).1.toOption.isSome := by
  obtain ⟨node, ⟨bytes, changed, rfl⟩, held, -⟩ := settled.wellKept.find?_of_sameFile shares
  rw [Disk.toOption_read written settled.regular readable, settled.standing?_eq written leads, held]
  rfl

/-- A file that was read may be written once the suite stands in it. -/
theorem Disk.Settled.writable_started {started : Disk} {content : Text.Bytes}
    (settled : disk.Settled path)
    (leads : (SuiteFile.makeParent path disk).2.LeadsToFile path place)
    (isStarted : Disk.write path content (SuiteFile.makeParent path disk).2 = (.ok (), started))
    (readable : disk.refuses .read path = false)
    (isSome : (Disk.read path disk).1.toOption.isSome) :
    started.refuses .write path = false := by
  have wellKept := SuiteFile.makeParent_wellKept settled.wellKept settled.home path
  have writable := Disk.writable_of_write (congrArg Prod.fst isStarted)
  have held : ((SuiteFile.makeParent path disk).2.tree.nodes.find? place).isSome := by
    rw [Disk.toOption_read written settled.regular readable, ← settled.inSight,
      leads.standing?_eq written] at isSome
    exact Option.isSome_of_isSome_bind isSome
  have leadsStarted := leads.write written wellKept writable content
  obtain ⟨user, modes⟩ := Disk.write_keeps_modes path content (SuiteFile.makeParent path disk).2
  obtain ⟨-, -, rewrites⟩ := Disk.write_rewrites written wellKept leads writable content
  have stands := (congrArg Option.isSome rewrites.there).trans held.symm
  have same := leads.refuses_congr written leadsStarted user (modes place) stands .write
  rwa [isStarted, writable] at same

/-- **What comes back.** Where the path leads to the same place when the file is put back, and it
may be written still, the disk is as it was apart from what has changed in between. -/
theorem putBack_of_restored {started : Disk} {content : Text.Bytes} {changed : Place → Prop}
    (ready : disk.Ready path) (leads : (SuiteFile.makeParent path disk).2.LeadsToFile path place)
    (isStarted : Disk.write path content (SuiteFile.makeParent path disk).2 = (.ok (), started))
    (wellKept : ran.WellKept) (leadsRan : ran.LeadsToFile path place)
    (writable : started.refuses .write path = false → ran.refuses .write path = false)
    (unchanged : ∀ name, ¬ changed name →
      ran.tree.nodes.find? name = started.tree.nodes.find? name ∧
        (name ≠ place → (ran.SameFile place name ↔ started.SameFile place name))) :
    disk.PutBack ran ((PlacedSuite.mk path (Disk.read path disk).1.toOption).restore ran).2 path
      changed := by
  have wellKeptMade := SuiteFile.makeParent_wellKept ready.wellKept ready.home path
  have writableMade := Disk.writable_of_write (congrArg Prod.fst isStarted)
  have readable := ready.readable written leads writableMade
  obtain ⟨-, shared, startedRewrites⟩ :=
    Disk.write_rewrites written wellKeptMade leads writableMade content
  have restorable : (Disk.read path disk).1.toOption.isSome →
      ran.refuses .write path = false :=
    fun isSome => writable (ready.writable_started written leads isStarted readable isSome)
  rw [isStarted] at shared startedRewrites
  obtain ⟨rewrites, -⟩ := PlacedSuite.restore_rewrites written wellKept leadsRan restorable
  have leadsAfter := PlacedSuite.restore_leadsToFile written wellKept leadsRan restorable
  have elsewhere := fun name => @PlacedSuite.restore_cases _ _ _ written wellKept leadsRan
    (Disk.read path disk).1.toOption restorable name
  generalize ((PlacedSuite.mk path (Disk.read path disk).1.toOption).restore ran).2 = after at *
  have there : (after.tree.nodes.find? place).map FileNode.timeless =
      (disk.tree.nodes.find? place).map FileNode.timeless := by
    rw [rewrites.there, timeless_restored written ready.regular readable,
      ready.standing?_eq written leads]
  -- Before the command was run, a place had the names that it had at first.
  have sameNames : ∀ {name}, ¬ changed name → name ≠ place →
      (ran.SameFile place name ↔ disk.SameFile place name) := by
    intro name isUnchanged different
    rw [(unchanged name isUnchanged).2 different, Disk.SameFile, Disk.SameFile, shared,
      SuiteFile.makeParent_shared]
  refine ⟨?_, fun name => ?_⟩
  · rw [leadsAfter.standing?_eq written, there, ready.standing?_eq written leads]
  by_cases isPlace : name = place
  · subst isPlace
    exact .inr (.inr (.inl ⟨there, name, leadsAfter, .inl rfl⟩))
  rcases elsewhere name isPlace with ⟨⟨-, shares⟩, sharesAfter, same⟩ | ⟨noName, same⟩
  · by_cases isChanged : changed name
    · exact .inr (.inl ⟨isChanged, .inr ⟨place, leadsAfter, sharesAfter⟩⟩)
    · obtain ⟨node, -, held, heldToo⟩ :=
        ready.wellKept.find?_of_sameFile ((sameNames isChanged isPlace).1 shares)
      refine .inr (.inr (.inl ⟨?_, place, leadsAfter, .inr sharesAfter⟩))
      rw [same, there, held, heldToo]
  · by_cases isChanged : changed name
    · exact .inr (.inl ⟨isChanged, .inl same⟩)
    · have noNameBefore : ¬ (SuiteFile.makeParent path disk).2.SameFile place name := by
        rw [Disk.SameFile, SuiteFile.makeParent_shared]
        intro shares
        exact noName ⟨ready.isSome_read written leads readable shares,
          (sameNames isChanged isPlace).2 shares⟩
      rw [same, (unchanged name isChanged).1,
        startedRewrites.elsewhere isPlace fun _ => noNameBefore]
      exact (SuiteFile.find?_makeParent path disk name).imp_right fun made => .inr (.inr made)

end

/-- Directories that were made are no other difference. -/
theorem Disk.Settled.putBack_made {path : Path} {disk : Disk} (settled : disk.Settled path)
    (changed : Place → Prop) :
    disk.PutBack (SuiteFile.makeParent path disk).2 (SuiteFile.makeParent path disk).2 path
      changed where
  file := by rw [settled.inSight]
  others := fun name => (SuiteFile.find?_makeParent path disk name).imp_right fun made =>
    .inr (.inr made)

/-- **A suite that is placed** stands where the path of its file leads, then and before. -/
theorem Disk.Settled.placed {path : Path} {disk started : Disk} {content : Text.Bytes}
    (written : namesDirectory path = false) (settled : disk.Settled path)
    (wrote : Disk.write path content (SuiteFile.makeParent path disk).2 = (.ok (), started)) :
    started.WellKept ∧ ∃ place, (SuiteFile.makeParent path disk).2.LeadsToFile path place ∧
      started.LeadsToFile path place ∧ (started.tree.nodes.find? place).isSome := by
  have wellKept := SuiteFile.makeParent_wellKept settled.wellKept settled.home path
  obtain ⟨place, leads⟩ := Disk.exists_leadsToFile written
    (fun node => settled.inSight ▸ settled.regular node) (congrArg Prod.fst wrote)
  have writable := Disk.writable_of_write (congrArg Prod.fst wrote)
  have wellKeptStarted :=
    wellKept.write written (SuiteFile.makeParent_home settled.home path) leads writable content
  have leadsStarted := leads.write written wellKept writable content
  obtain ⟨-, -, rewrites⟩ := Disk.write_rewrites written wellKept leads writable content
  rw [wrote] at wellKeptStarted leadsStarted rewrites
  exact ⟨wellKeptStarted, place, leads, leadsStarted, by rw [rewrites.there]; rfl⟩

/-- **The course** of a suite that is placed. -/
theorem PlacedSuite.course_putBack {directory : Path} {suite : TestSuite}
    {clears runs : Disk → Disk} {disk : Disk} {stages : Course} {changed : Place → Prop}
    (isCourse : course directory suite clears runs disk = stages)
    (ready : disk.Ready (SuiteFile.pathIn directory suite))
    (keeps : stages.started.WellKept → ∀ place,
      stages.started.LeadsToFile (SuiteFile.pathIn directory suite) place →
        stages.ran.WellKept ∧ stages.ran.LeadsToFile (SuiteFile.pathIn directory suite) place ∧
          (stages.started.refuses .write (SuiteFile.pathIn directory suite) = false →
            stages.ran.refuses .write (SuiteFile.pathIn directory suite) = false) ∧
          ∀ name, ¬ changed name →
            stages.ran.tree.nodes.find? name = stages.started.tree.nodes.find? name ∧
            (name ≠ place →
              (stages.ran.SameFile place name ↔ stages.started.SameFile place name))) :
    disk.PutBack stages.ran stages.after (SuiteFile.pathIn directory suite) changed := by
  have written := SuiteFile.namesDirectory_pathIn directory suite
  subst isCourse
  rcases place_cases directory suite disk with ⟨error, failed⟩ | ⟨started, wrote, isPlaced⟩
  · have same : course directory suite clears runs disk =
        let made := (SuiteFile.makeParent (SuiteFile.pathIn directory suite) disk).2
        ⟨made, made, made, made⟩ := by
      rw [course, failed]
    rw [same]
    exact ready.putBack_made changed
  · simp only [course, isPlaced] at keeps ⊢
    obtain ⟨wellKept, place, leads, leadsStarted, -⟩ := ready.placed written wrote
    obtain ⟨wellKeptRan, leadsRan, writable, unchanged⟩ := keeps wellKept place leadsStarted
    exact putBack_of_restored written ready leads wrote wellKeptRan leadsRan writable unchanged

/-! ## Compiling and analyzing -/

/-- The disks of a compilation. -/
def SuiteCompiler.course (compiler : SuiteCompiler) (launcher : Launcher) (suite : TestSuite)
    (paths : OutputPaths) (disk : Disk) : Course :=
  PlacedSuite.course compiler.sourceDirectory suite id
    (fun started => (launcher (compiler.commandFor suite paths) compiler.limit started).2) disk

theorem SuiteCompiler.compile_disk (compiler : SuiteCompiler) (launcher : Launcher)
    (suite : TestSuite) (paths : OutputPaths) (disk : Disk) :
    (compiler.compile launcher suite paths disk).2 =
      (compiler.course launcher suite paths disk).after := by
  simp only [compile, course, PlacedSuite.course, StateM.bind_apply]
  rcases isPlaced : PlacedSuite.place compiler.sourceDirectory suite disk with ⟨answer, started⟩
  cases answer with
  | error error => rfl
  | ok placed =>
      have ran : (launcher.runToEnd (compiler.commandFor suite paths) compiler.limit started).2 =
          (launcher (compiler.commandFor suite paths) compiler.limit started).2 := rfl
      rw [commandFor, ← PlacedSuite.path_of_place isPlaced] at ran ⊢
      simp only [StateM.bind_apply, ran]
      cases (placed.restore _).1 <;> rfl

/-- The disks of an analysis. -/
def MutationTool.course (tool : MutationTool) (launcher : Launcher) (suite : TestSuite)
    (disk : Disk) : Course :=
  PlacedSuite.course tool.suiteDirectory suite
    (fun started => (MutationTool.clear (tool.reportDirectory (some suite.name)) started).2)
    (fun started => (tool.run launcher (some suite.name) started).2) disk

theorem MutationTool.analyze_disk (tool : MutationTool) (launcher : Launcher) (suite : TestSuite)
    (disk : Disk) :
    (tool.analyze launcher suite disk).2 = (tool.course launcher suite disk).after := by
  simp only [analyze, course, PlacedSuite.course, StateM.bind_apply]
  rcases PlacedSuite.place tool.suiteDirectory suite disk with ⟨answer, started⟩
  cases answer <;> rfl

/-- The report directory is cleared unless the suite could not be placed. -/
theorem MutationTool.course_cleared (tool : MutationTool) (launcher : Launcher) (suite : TestSuite)
    (disk : Disk) :
    (tool.course launcher suite disk).cleared = (tool.course launcher suite disk).started ∨
      (tool.course launcher suite disk).cleared =
        (MutationTool.clear (tool.reportDirectory (some suite.name))
          (tool.course launcher suite disk).started).2 :=
  (PlacedSuite.course_cases rfl).imp And.left fun ⟨_, _, cleared, _⟩ => cleared

/-- The command is run unless the suite could not be placed or the directory not be cleared. -/
theorem MutationTool.course_ran (tool : MutationTool) (launcher : Launcher) (suite : TestSuite)
    (disk : Disk) :
    (tool.course launcher suite disk).ran = (tool.course launcher suite disk).cleared ∨
      (tool.course launcher suite disk).ran =
        (launcher (tool.commandFor (some suite.name)) tool.limit
          (tool.course launcher suite disk).cleared).2 := by
  rcases PlacedSuite.course_cases (rfl : tool.course launcher suite disk = _) with
    ⟨cleared, ran⟩ | ⟨-, -, cleared, ran⟩
  · exact .inl (ran.trans cleared.symm)
  · rw [ran, cleared, run_disk]
    split
    · exact .inl rfl
    · exact .inr rfl

/-- Where no file has several names, none has so after the report directory was cleared. -/
theorem MutationTool.cleared_unshared {tool : MutationTool} (launcher : Launcher)
    {suite : TestSuite} {disk : Disk}
    (wellKept : (PlacedSuite.place tool.suiteDirectory suite disk).2.WellKept)
    (unshared : (PlacedSuite.place tool.suiteDirectory suite disk).2.shared = []) :
    (tool.course launcher suite disk).cleared.WellKept ∧
      (tool.course launcher suite disk).cleared.shared = [] := by
  rw [← PlacedSuite.course_started] at wellKept unshared
  rcases tool.course_cleared launcher suite disk with cleared | cleared
  · rw [cleared]
    exact ⟨wellKept, unshared⟩
  · rw [cleared, clear_disk]
    exact ⟨wellKept.removeTree _, (Disk.removeTree_becomes unshared _).2.shared.trans unshared⟩

/-- Clearing a directory takes neither the file at the path away nor anything on the way to it. -/
structure Disk.ClearsAside (disk : Disk) (directory path : Path) : Prop where
  apart : ∀ place gone, disk.LeadsToFile path place →
    disk.tree.locateSelf disk.workingPlace directory = .ok gone → ¬ gone <+: place
  leads : ∀ place, disk.LeadsToFile path place →
    (MutationTool.clear directory disk).2.tree.locateSelf disk.workingPlace path = .ok place

/-- The place is at the place that the path of a directory leads to, or below it. -/
def Disk.IsIn (disk : Disk) (directory : Path) (name : Place) : Prop :=
  ∃ gone, disk.tree.locateSelf disk.workingPlace directory = .ok gone ∧ gone <+: name

section

variable {disk after : Disk} {directory path : Path} {place name : Place}

/-- What has not changed has the names that it had. -/
theorem Disk.Spares.unchanged (spares : disk.Spares after path)
    (leads : disk.LeadsToFile path place) (same : ¬ disk.ChangedTo after path name) :
    after.tree.nodes.find? name = disk.tree.nodes.find? name ∧
      (name ≠ place → (after.SameFile place name ↔ disk.SameFile place name)) := by
  obtain ⟨found, noName⟩ := not_or.1 same
  have found := Classical.not_not.1 found
  refine ⟨found, fun different => ⟨fun shares => ?_, fun shares => ?_⟩⟩
  · by_contra new
    exact noName ⟨place, leads, different, shares, new⟩
  · exact spares.names place name leads shares different found

/-- A directory that is cleared aside of the file leaves it where it is. -/
theorem Disk.ClearsAside.cleared (aside : disk.ClearsAside directory path)
    (leads : disk.LeadsToFile path place) :
    (MutationTool.clear directory disk).2.LeadsToFile path place ∧
      ∀ name, ¬ disk.IsIn directory name →
        (MutationTool.clear directory disk).2.tree.nodes.find? name = disk.tree.nodes.find? name ∧
        (name ≠ place → ((MutationTool.clear directory disk).2.SameFile place name ↔
          disk.SameFile place name)) := by
  have workingPlace : (MutationTool.clear directory disk).2.workingPlace = disk.workingPlace := by
    rw [MutationTool.clear_disk, Disk.removeTree_eq]
    cases disk.tree.treeToRemove? disk.workingPlace directory <;> rfl
  have kept : ∀ name, ¬ disk.IsIn directory name →
      (MutationTool.clear directory disk).2.tree.nodes.find? name =
        disk.tree.nodes.find? name := by
    intro name outside
    refine (MutationTool.find?_clear directory disk name).resolve_right ?_
    rintro ⟨-, gone, leadsThere, below⟩
    exact outside ⟨gone, leadsThere, below⟩
  have placeOutside : ¬ disk.IsIn directory place := by
    rintro ⟨gone, leadsThere, below⟩
    exact aside.apart place gone leads leadsThere below
  refine ⟨⟨workingPlace ▸ aside.leads place leads, fun node found => ?_⟩, fun name outside =>
    ⟨kept name outside, fun different => ?_⟩⟩
  · rw [leads.node?_eq, kept place placeOutside] at found
    exact leads.isFile found
  · rw [MutationTool.clear_disk]
    refine Disk.sameFile_removeTree_iff different fun gone leadsThere => ⟨fun below => ?_,
      fun below => ?_⟩
    · exact placeOutside ⟨gone, leadsThere, below⟩
    · exact outside ⟨gone, leadsThere, below⟩

theorem MutationTool.cleared_leadsToFile {tool : MutationTool} {launcher : Launcher}
    {suite : TestSuite}
    (aside : (tool.course launcher suite disk).started.ClearsAside
      (tool.reportDirectory (some suite.name)) path)
    (leads : (tool.course launcher suite disk).started.LeadsToFile path place) :
    (tool.course launcher suite disk).cleared.LeadsToFile path place := by
  rcases tool.course_cleared launcher suite disk with isCleared | isCleared
  · rwa [isCleared]
  · rw [isCleared]
    exact (aside.cleared leads).1

/-- What may be done with the file is the same after that. -/
theorem Disk.ClearsAside.refuses_eq (written : namesDirectory path = false)
    (aside : disk.ClearsAside directory path) (leads : disk.LeadsToFile path place)
    (right : FileRight) :
    (MutationTool.clear directory disk).2.refuses right path = disk.refuses right path := by
  obtain ⟨leadsCleared, kept⟩ := aside.cleared leads
  have outside : ¬ disk.IsIn directory place := fun ⟨gone, leadsThere, below⟩ =>
    aside.apart place gone leads leadsThere below
  refine leads.refuses_congr written leadsCleared ?_ ?_
    (congrArg Option.isSome (kept place outside).1) right
  · rw [MutationTool.clear_disk, Disk.removeTree_eq]
    cases disk.tree.treeToRemove? disk.workingPlace directory <;> rfl
  · rw [MutationTool.clear_disk, Disk.mode?_removeTree]
    split
    · next gone removes =>
        exact if_neg (aside.apart place gone leads (locateSelf_of_treeToRemove? removes))
    · rfl

end

/-! ## Disks without links -/

section

variable {path : Path} {disk : Disk} {place : Place}

theorem Disk.Plain.wellKept (plain : disk.Plain) : disk.WellKept where
  rooted := ⟨plain.tree.inDirectory⟩
  oneFile := by simp [plain.unshared]
  oneList := by simp [plain.unshared]

theorem Disk.Plain.hasDirectory_startOf (plain : disk.Plain) (path : Path) :
    disk.tree.HasDirectory (startOf disk.workingPlace path) := by
  unfold startOf
  split
  · exact .inl rfl
  · exact plain.working

section

variable (straight : ".." ∉ Path.names path) (written : namesDirectory path = false)

include straight written

/-- **Without links**, what stands at a path stands where the path says. -/
theorem Disk.Plain.standing?_eq (plain : disk.Plain) (noFault : path.fault? = none) :
    disk.standing? path = disk.tree.nodes.find? (path.placeFrom disk.workingPlace) := by
  obtain ⟨front, name, leads, isPlace⟩ := Leads.of_straight straight written disk.workingPlace
  have start := plain.hasDirectory_startOf path
  rw [isPlace, standing?]
  by_cases directory : disk.tree.HasDirectory (startOf disk.workingPlace path ++ front)
  · rw [leads.inspectSelf_of_directory plain.tree noFault written start directory]
    split
    · next stops =>
        split at stops
        · cases stops
        · cases stops
          rfl
    · next stops =>
        split at stops
        · next long =>
            refine (Option.eq_none_iff_forall_ne_some.2 fun node found => ?_).symm
            exact absurd ((plain.tree.named found).2 name (by simp)).short (Nat.not_le.2 long)
        · cases stops
  · obtain ⟨fault, -, stops⟩ :=
      leads.locateWith_of_not_directory plain.tree noFault (namesDirectory path) start directory
    rw [inspectSelf, locateSelf, stops, plain.tree.find?_eq_none directory
      (List.prefix_append _ _) (by simp)]
    rfl

/-- **Making the directory** of a file leaves a disk without links, and the file as it is. -/
theorem Disk.Plain.makeParent (plain : disk.Plain) :
    (SuiteFile.makeParent path disk).2.Plain ∧
      (SuiteFile.makeParent path disk).2.tree.nodes.find? (path.placeFrom disk.workingPlace) =
        disk.tree.nodes.find? (path.placeFrom disk.workingPlace) := by
  obtain ⟨front, name, leads, isPlace⟩ := Leads.of_straight straight written disk.workingPlace
  obtain ⟨parent, hasParent, isParent⟩ := Path.exists_parent? (by rw [leads.steps]; simp)
  rw [SuiteFile.makeParent_disk, hasParent]
  by_cases usable : parent = "" ∨ parent.fault? = none
  · have parentLeads := leads.parent isParent
    have made : MakesWay disk.tree (startOf disk.workingPlace path) front
        (disk.tree.makeDirectories disk.workingPlace parent) := by
      refine makeDirectoriesUpTo_spec plain.tree (plain.hasDirectory_startOf path) parentLeads
        usable ?_
      rw [← parentLeads.steps]
      exact Nat.lt_succ_of_le (Path.length_steps_le parent)
    refine ⟨⟨made.plain, plain.unshared, made.kept.hasDirectory plain.working⟩, ?_⟩
    refine (made.kept _).resolve_right ?_
    rintro ⟨-, -, onWay⟩
    have longer := onWay.length_le
    rw [isPlace, List.length_append, List.length_singleton] at longer
    omega
  · obtain ⟨some, isFault⟩ := not_or.1 usable
    obtain ⟨fault, isFault⟩ := Option.ne_none_iff_exists'.1 isFault
    simp only [Disk.makeDirectories_of_fault isFault some]
    exact ⟨plain, trivial⟩

/-- **Without links and ways back**, whatever is missing, the way to a path is settled. -/
theorem Disk.Plain.settled (plain : disk.Plain)
    (regular : ∀ node, disk.standing? path = some node → node.IsFile) : disk.Settled path where
  wellKept := plain.wellKept
  home := plain.working
  regular := regular
  inSight := by
    obtain ⟨plainMade, same⟩ := plain.makeParent straight written
    cases fault : path.fault? with
    | none =>
        rw [plainMade.standing?_eq straight written fault,
          SuiteFile.makeParent_workingPlace, same,
          plain.standing?_eq straight written fault]
    | some isFault => simp only [standing?, inspectSelf_of_fault fault]

/-- **Writing** to a file leaves a disk without links. -/
theorem Disk.Plain.write (plain : disk.Plain) (leads : disk.LeadsToFile path place)
    (writable : disk.refuses .write path = false) (bytes : Text.Bytes) :
    (Disk.write path bytes disk).2.Plain := by
  obtain ⟨front, name, leadsBy, -⟩ := Leads.of_straight straight written disk.workingPlace
  have start := plain.hasDirectory_startOf path
  obtain ⟨noFault, directory, -⟩ := leadsBy.of_locateWith plain.tree start leads.leads
  obtain ⟨-, shared, rewrites⟩ := Disk.write_rewrites written plain.wellKept leads writable bytes
  refine ⟨?_, shared.trans plain.unshared, ?_⟩
  · exact (Disk.write_does plain.tree plain.unshared leadsBy noFault written start directory
      bytes).plain
  · rw [rewrites.workingPlace]
    exact rewrites.hasDirectory plain.wellKept leads plain.working

/-- **Without links and ways back**, a directory that is not on the way to a file is cleared aside
of it. -/
theorem Disk.Plain.clearsAside (plain : disk.Plain) {directory : Path}
    (aside : ¬ directory.placeFrom disk.workingPlace <+: path.placeFrom disk.workingPlace) :
    disk.ClearsAside directory path where
  apart := fun place gone leads leadsThere => by
    rwa [eq_placeFrom_of_locateWith plain.tree leads.leads,
      eq_placeFrom_of_locateWith plain.tree leadsThere]
  leads := fun place leads => by
    obtain ⟨front, name, leadsBy, isPlace⟩ := Leads.of_straight straight written disk.workingPlace
    obtain ⟨noFault, inside, short, rfl⟩ :=
      leadsBy.of_locateWith plain.tree (plain.hasDirectory_startOf path) leads.leads
    have fewer : ∀ {other node},
        (MutationTool.clear directory disk).2.tree.nodes.find? other = some node →
          disk.tree.nodes.find? other = some node := by
      intro other node found
      rcases MutationTool.find?_clear directory disk other with same | ⟨missing, -⟩
      · rw [← same, found]
      · cases missing.symm.trans found
    have plainCleared : (MutationTool.clear directory disk).2.tree.Plain := by
      refine ⟨fun found => plain.tree.named (fewer found), fun found =>
        plain.tree.noLink (fewer found), fun found => ?_⟩
      have rooted := (plain.wellKept.removeTree directory).rooted
      rw [← MutationTool.clear_disk] at rooted
      exact rooted.inDirectory found
    have insideStill : (MutationTool.clear directory disk).2.tree.HasDirectory
        (startOf disk.workingPlace path ++ front) := by
      refine inside.imp_right fun found => ?_
      rcases MutationTool.find?_clear directory disk (startOf disk.workingPlace path ++ front) with
        same | ⟨-, gone, leadsThere, onWay⟩
      · rw [same, found]
      · refine absurd ?_ aside
        rw [← eq_placeFrom_of_locateWith plain.tree leadsThere, isPlace]
        exact onWay.trans (List.prefix_append _ _)
    rw [locateSelf, leadsBy.locateWith_of_directory plainCleared noFault _ insideStill,
      if_neg short]

end

/-- **Placing** a suite leaves a disk without links. -/
theorem PlacedSuite.place_plain {directory : Path} {suite : TestSuite}
    (straight : ".." ∉ Path.names (SuiteFile.pathIn directory suite)) (plain : disk.Plain)
    (regular : ∀ node, disk.standing? (SuiteFile.pathIn directory suite) = some node →
      node.IsFile) : (PlacedSuite.place directory suite disk).2.Plain := by
  have written := SuiteFile.namesDirectory_pathIn directory suite
  have settled := plain.settled straight written regular
  obtain ⟨plainMade, -⟩ := plain.makeParent straight written
  rcases place_cases directory suite disk with ⟨error, failed⟩ | ⟨started, wrote, isPlaced⟩
  · rw [failed]
    exact plainMade
  · obtain ⟨-, place, leads, -⟩ := settled.placed written wrote
    have plainStarted := plainMade.write straight written leads
      (Disk.writable_of_write (congrArg Prod.fst wrote)) (Text.encode (SuiteFile.content suite))
    rw [wrote] at plainStarted
    rw [isPlaced]
    exact plainStarted

end

namespace MutationTool

variable {tool : MutationTool} {suite : TestSuite} {disk : Disk}

/-- Below a report root apart from the source directory, the report of a suite with an ordinary name
is not on the way to its file. -/
theorem report_aside_of_apart {base : Place} (ordinary : Path.Ordinary suite.name)
    (apart : Place.Apart (tool.suiteDirectory.placeFrom base) (tool.reportRootFrom base)) :
    ¬ tool.reportPlaceFrom base (some suite.name) <+:
      (SuiteFile.pathIn tool.suiteDirectory suite).placeFrom base := by
  have file : (SuiteFile.pathIn tool.suiteDirectory suite).placeFrom base =
      tool.suiteDirectory.placeFrom base ++ [SuiteFile.fileName suite] :=
    Path.placeFrom_join_of_way (Analysis.fileName_ordinary ordinary).way?_eq base _
  have report : tool.reportPlaceFrom base (some suite.name) =
      tool.reportRootFrom base ++ [suite.name] := reportPlaceFrom_of_way ordinary.way?_eq
  rw [report, file]
  exact (apart.below (List.prefix_append _ _) (List.prefix_append _ _)).2

theorem started_clearsAside (launcher : Launcher) (plain : disk.Plain)
    (straight : ".." ∉ Path.names (SuiteFile.pathIn tool.suiteDirectory suite))
    (regular : ∀ node, disk.standing? (SuiteFile.pathIn tool.suiteDirectory suite) = some node →
      node.IsFile)
    (aside : ¬ tool.reportPlaceFrom disk.workingPlace (some suite.name) <+:
      (SuiteFile.pathIn tool.suiteDirectory suite).placeFrom disk.workingPlace) :
    (tool.course launcher suite disk).started.ClearsAside
      (tool.reportDirectory (some suite.name)) (SuiteFile.pathIn tool.suiteDirectory suite) := by
  rw [course, PlacedSuite.course_started]
  refine (PlacedSuite.place_plain straight plain regular).clearsAside straight
    (SuiteFile.namesDirectory_pathIn _ _) ?_
  rwa [PlacedSuite.place_workingPlace]

end MutationTool

/-! ## The whole run -/

/-- **Suite files are put back** when a suite is compiled and when it is analyzed, if the path of
the file is ready for it, if clearing the report directory spares it, and if the command does. The
last two parts say that on a disk without links the path is ready if it is written without `..` and
a file there that may not be read may not be written, and that the report directory is cleared aside
of the file if it is not on the way there. -/
theorem suites_put_back (launcher : Launcher) (suite : TestSuite) (disk : Disk) :
    (∀ (compiler : SuiteCompiler) (paths : OutputPaths),
      disk.Ready (SuiteFile.pathIn compiler.sourceDirectory suite) →
      (compiler.course launcher suite paths disk).started.Spares
        (compiler.course launcher suite paths disk).ran
        (SuiteFile.pathIn compiler.sourceDirectory suite) →
      disk.PutBack (compiler.course launcher suite paths disk).ran
        (compiler.compile launcher suite paths disk).2
        (SuiteFile.pathIn compiler.sourceDirectory suite)
        ((compiler.course launcher suite paths disk).started.ChangedTo
          (compiler.course launcher suite paths disk).ran
          (SuiteFile.pathIn compiler.sourceDirectory suite))) ∧
    (∀ tool : MutationTool,
      disk.Ready (SuiteFile.pathIn tool.suiteDirectory suite) →
      (tool.course launcher suite disk).started.ClearsAside
        (tool.reportDirectory (some suite.name)) (SuiteFile.pathIn tool.suiteDirectory suite) →
      (tool.course launcher suite disk).cleared.Spares (tool.course launcher suite disk).ran
        (SuiteFile.pathIn tool.suiteDirectory suite) →
      disk.PutBack (tool.course launcher suite disk).ran (tool.analyze launcher suite disk).2
        (SuiteFile.pathIn tool.suiteDirectory suite) fun name =>
          (tool.course launcher suite disk).cleared.ChangedTo
            (tool.course launcher suite disk).ran
            (SuiteFile.pathIn tool.suiteDirectory suite) name ∨
          (tool.course launcher suite disk).started.IsIn
            (tool.reportDirectory (some suite.name)) name) ∧
    (∀ directory : Path, disk.Plain →
      ".." ∉ Path.names (SuiteFile.pathIn directory suite) →
      (∀ node, disk.standing? (SuiteFile.pathIn directory suite) = some node → node.IsFile) →
      (disk.refuses .read (SuiteFile.pathIn directory suite) = true →
        disk.refuses .write (SuiteFile.pathIn directory suite) = true) →
      disk.Ready (SuiteFile.pathIn directory suite)) ∧
    ∀ tool : MutationTool, disk.Plain →
      ".." ∉ Path.names (SuiteFile.pathIn tool.suiteDirectory suite) →
      (∀ node, disk.standing? (SuiteFile.pathIn tool.suiteDirectory suite) = some node →
        node.IsFile) →
      ¬ tool.reportPlaceFrom disk.workingPlace (some suite.name) <+:
        (SuiteFile.pathIn tool.suiteDirectory suite).placeFrom disk.workingPlace →
      (tool.course launcher suite disk).started.ClearsAside
        (tool.reportDirectory (some suite.name)) (SuiteFile.pathIn tool.suiteDirectory suite) := by
  refine ⟨?_, ?_, fun directory plain straight regular legible =>
    ⟨plain.settled straight (SuiteFile.namesDirectory_pathIn directory suite) regular, legible⟩,
    fun tool plain straight regular aside =>
      MutationTool.started_clearsAside launcher plain straight regular aside⟩
  · intro compiler paths ready spares
    rw [compiler.compile_disk]
    refine PlacedSuite.course_putBack rfl ready fun wellKept place leads => ?_
    exact ⟨spares.wellKept wellKept, spares.leads place leads, spares.writable, fun name same =>
      spares.unchanged leads same⟩
  · intro tool ready aside spares
    rw [tool.analyze_disk]
    refine PlacedSuite.course_putBack rfl ready fun wellKept place leads => ?_
    rcases tool.course_cleared launcher suite disk with isCleared | isCleared
    · rw [isCleared] at spares ⊢
      exact ⟨spares.wellKept wellKept, spares.leads place leads, spares.writable,
        fun name same => spares.unchanged leads fun changed => same (.inl changed)⟩
    · rw [isCleared] at spares ⊢
      obtain ⟨leadsCleared, kept⟩ := aside.cleared leads
      have wellKeptCleared := wellKept.removeTree (tool.reportDirectory (some suite.name))
      rw [← MutationTool.clear_disk] at wellKeptCleared
      have refuses := aside.refuses_eq (SuiteFile.namesDirectory_pathIn _ _) leads .write
      refine ⟨spares.wellKept wellKeptCleared, spares.leads place leadsCleared,
        fun writable => spares.writable (refuses.trans writable), fun name same => ?_⟩
      obtain ⟨notChanged, notIn⟩ := not_or.1 same
      obtain ⟨found, names⟩ := spares.unchanged leadsCleared notChanged
      obtain ⟨foundCleared, namesCleared⟩ := kept name notIn
      exact ⟨found.trans foundCleared, fun different =>
        (names different).trans (namesCleared different)⟩

/-! ## Files that come back, and files that do not -/

/-- A command that does something to the disk and fails. -/
def Launcher.doing (act : StateM Disk (Except FileFault Unit)) : Launcher := fun _ _ => do
  let _ ← act
  return .finished ⟨.code 1, "", ""⟩

section

variable {suite : TestSuite} {disk : Disk} (plain : disk.Plain)

include plain

/-- On a disk without links, a command that overwrites the file that it is to compile spares it. -/
theorem SuiteCompiler.overwriting_spares (compiler : SuiteCompiler) (paths : OutputPaths)
    (bytes : Text.Bytes)
    (straight : ".." ∉ Path.names (SuiteFile.pathIn compiler.sourceDirectory suite))
    (regular : ∀ node, disk.standing? (SuiteFile.pathIn compiler.sourceDirectory suite) =
      some node → node.IsFile) :
    let stages := compiler.course
      (.doing (Disk.write (SuiteFile.pathIn compiler.sourceDirectory suite) bytes)) suite paths disk
    stages.started.Spares stages.ran (SuiteFile.pathIn compiler.sourceDirectory suite) := by
  intro stages
  have written := SuiteFile.namesDirectory_pathIn compiler.sourceDirectory suite
  rcases PlacedSuite.course_cases (rfl : stages = _) with ⟨-, ran⟩ | ⟨placed, isPlaced, -, ran⟩
  · rw [ran]
    exact .refl _ _
  · have plainStarted := PlacedSuite.place_plain straight plain regular
    rw [isPlaced] at plainStarted
    obtain ⟨wellKept, place, -, leads, held⟩ := (plain.settled straight written regular).placed
      written (PlacedSuite.write_of_place isPlaced)
    rw [ran]
    exact .of_write written wellKept plainStarted.working leads held bytes

/-- On a disk without links, a command that deletes the file that it is to analyze spares it. -/
theorem MutationTool.removing_spares (tool : MutationTool)
    (straight : ".." ∉ Path.names (SuiteFile.pathIn tool.suiteDirectory suite))
    (regular : ∀ node, disk.standing? (SuiteFile.pathIn tool.suiteDirectory suite) = some node →
      node.IsFile)
    (aside : ¬ tool.reportPlaceFrom disk.workingPlace (some suite.name) <+:
      (SuiteFile.pathIn tool.suiteDirectory suite).placeFrom disk.workingPlace) :
    let stages := tool.course
      (.doing (Disk.removeFile (SuiteFile.pathIn tool.suiteDirectory suite))) suite disk
    stages.cleared.Spares stages.ran (SuiteFile.pathIn tool.suiteDirectory suite) := by
  intro stages
  have written := SuiteFile.namesDirectory_pathIn tool.suiteDirectory suite
  rcases PlacedSuite.course_cases (rfl : stages = _) with ⟨cleared, ran⟩ | ⟨placed, isPlaced, -, -⟩
  · rw [ran, cleared]
    exact .refl _ _
  have isRun := tool.course_ran
    (.doing (Disk.removeFile (SuiteFile.pathIn tool.suiteDirectory suite))) suite disk
  rcases isRun with ran | ran
  · rw [ran]
    exact .refl _ _
  · have plainStarted := PlacedSuite.place_plain straight plain regular
    obtain ⟨-, place, -, leads, -⟩ := (plain.settled straight written regular).placed written
      (PlacedSuite.write_of_place isPlaced)
    have leadsCleared := tool.cleared_leadsToFile
      (tool.started_clearsAside _ plain straight regular aside) leads
    obtain ⟨wellKept, unshared⟩ :=
      tool.cleared_unshared _ plainStarted.wellKept plainStarted.unshared
    rw [ran]
    exact .of_removeFile written wellKept unshared leadsCleared

end

/-- A command that overwrites the file that it is to compile, and one that deletes the file that it
is to analyze. -/
theorem changed_files_put_back :
    let kept : FileNode := .file ⟨#[1, 2, 3]⟩ 0
    let disk := Disk.holding [(["src"], .directory), (["src", "AccountTest.json"], kept)]
    let suite : TestSuite := { name := "AccountTest" }
    let path := SuiteFile.pathIn "src" suite
    let compiler : SuiteCompiler := ⟨⟨"javac", [], none⟩, "src", "", ⟨10, 0⟩⟩
    let tool : MutationTool := ⟨⟨"mvn", [], none⟩, "", "", "reports", "src", ⟨10, 0⟩⟩
    ((compiler.compile (.doing (Disk.write path [])) suite ⟨"", ""⟩ disk).2.standing? path).map
        FileNode.timeless = some kept ∧
      ((tool.analyze (.doing (Disk.removeFile path)) suite disk).2.standing? path).map
        FileNode.timeless = some kept := by
  intro kept disk suite path compiler tool
  have plain : disk.Plain := by
    have sources : IsName "src" :=
      ⟨⟨by decide, by decide, by decide, by decide⟩, by decide, by decide⟩
    have fileName : IsName "AccountTest.json" :=
      ⟨⟨by decide, by decide, by decide, by decide⟩, by decide, by decide⟩
    have empty : FileTree.empty.Plain := ⟨nofun, nofun, nofun⟩
    have directory : (FileTree.empty.put ([] ++ ["src"]) .directory).Plain :=
      empty.put (.inl rfl) sources (by decide) nofun
    have file : ((FileTree.empty.put ["src"] .directory).put (["src"] ++ ["AccountTest.json"])
        kept).Plain :=
      directory.put (.inr rfl) fileName (by decide) fun _ => FileNode.noConfusion
    exact ⟨file, rfl, .inl rfl⟩
  have ordinary : Path.Ordinary suite.name := ⟨by decide, by decide, by decide, by decide⟩
  have written := SuiteFile.namesDirectory_pathIn "src" suite
  have straight : ".." ∉ Path.names path := by decide +kernel
  have stands : disk.standing? path = some kept := by
    have there : path.placeFrom [] = ["src", "AccountTest.json"] := by decide +kernel
    rw [plain.standing?_eq straight written (by decide +kernel)]
    exact congrArg disk.tree.nodes.find? there
  have regular : ∀ node, disk.standing? path = some node → node.IsFile := by
    intro node isNode
    obtain rfl := Option.some.inj (stands.symm.trans isNode)
    exact ⟨_, _, rfl⟩
  have legible : disk.refuses .read path = true → disk.refuses .write path = true := by
    rw [Disk.refuses_of_superuser rfl]
    exact nofun
  constructor
  · obtain ⟨compiles, -, ready, -⟩ := suites_put_back (.doing (Disk.write path [])) suite disk
    have spares := compiler.overwriting_spares plain ⟨"", ""⟩ [] straight regular
    have putBack := compiles compiler ⟨"", ""⟩ (ready "src" plain straight regular legible) spares
    exact putBack.file.trans (congrArg (Option.map FileNode.timeless) stands)
  · obtain ⟨-, analyzes, ready, aside⟩ :=
      suites_put_back (.doing (Disk.removeFile path)) suite disk
    have apart : Place.Apart (tool.suiteDirectory.placeFrom []) (tool.reportRootFrom []) :=
      ⟨by decide +kernel, by decide +kernel⟩
    have notOnWay := MutationTool.report_aside_of_apart ordinary apart
    have spares := tool.removing_spares plain straight regular notOnWay
    have putBack := analyzes tool (ready "src" plain straight regular legible)
      (aside tool plain straight regular notOnWay) spares
    exact putBack.file.trans (congrArg (Option.map FileNode.timeless) stands)

/-- **Files that are not put back.** A source directory can be found only once the suite is written,
the report directory of a suite can be its source directory, a file that has a second name can be
deleted under the first one, a file that may be written and not read is removed, and a file that the
command makes read-only keeps the suite. -/
theorem files_not_put_back :
    let kept : FileNode := .file ⟨#[1, 2, 3]⟩ 0
    let compiler (sources : Path) : SuiteCompiler :=
      ⟨⟨"javac", [], none⟩, sources, "", ⟨10, 0⟩⟩
    let tool : MutationTool := ⟨⟨"mvn", [], none⟩, "", "", "reports", "src", ⟨10, 0⟩⟩
    let nothing : Launcher := .doing (pure (.ok ()))
    (let disk := Disk.holding [(["src"], .directory), (["src", "S.json"], kept)]
      let after := ((compiler "missing/../src").compile nothing { name := "S" } ⟨"", ""⟩ disk).2
      disk.standing? "missing/../src/S.json" = none ∧
        after.tree.nodes.find? ["src", "S.json"] = none) ∧
    (let disk := Disk.holding [(["reports"], .directory), (["src"], .directory),
        (["src.json"], kept)]
      let after := (tool.analyze nothing { name := "../src" } disk).2
      (disk.standing? "src/../src.json").bind FileNode.bytes? = some [1, 2, 3] ∧
        (after.tree.nodes.find? ["src.json"]).bind FileNode.bytes? ≠ some [1, 2, 3]) ∧
    (let disk := { Disk.holding [(["src"], .directory), (["src", "S.json"], kept),
          (["src", "T.json"], kept)] with
        shared := [[["src", "S.json"], ["src", "T.json"]]] }
      let after := ((compiler "src").compile (.doing (Disk.removeFile "src/S.json"))
        { name := "S" } ⟨"", ""⟩ disk).2
      (after.tree.nodes.find? ["src", "S.json"]).bind FileNode.bytes? = some [1, 2, 3] ∧
        (after.tree.nodes.find? ["src", "T.json"]).bind FileNode.bytes? ≠ some [1, 2, 3]) ∧
    (let disk := { Disk.holding [(["src"], .directory), (["src", "S.json"], kept)] with
        superuser := false
        marks := .ofList [(["src", "S.json"], { mode := some 0o200 })] }
      let after := ((compiler "src").compile nothing { name := "S" } ⟨"", ""⟩ disk).2
      (disk.standing? "src/S.json").bind FileNode.bytes? = some [1, 2, 3] ∧
        after.tree.nodes.find? ["src", "S.json"] = none) ∧
    (let disk := { Disk.holding [(["src"], .directory), (["src", "S.json"], kept)] with
        superuser := false }
      let locking : Launcher := .doing fun disk =>
        (.ok (), disk.setMode ["src", "S.json"] 0o400)
      let after := ((compiler "src").compile locking { name := "S" } ⟨"", ""⟩ disk).2
      (disk.standing? "src/S.json").bind FileNode.bytes? = some [1, 2, 3] ∧
        (after.tree.nodes.find? ["src", "S.json"]).bind FileNode.bytes? ≠ some [1, 2, 3]) := by
  refine ⟨⟨?_, ?_⟩, ⟨by decide +kernel, by decide +kernel⟩, ⟨by decide +kernel, by decide +kernel⟩,
    ⟨by decide +kernel, ?_⟩, by decide +kernel, by decide +kernel⟩
  · exact Option.isNone_iff_eq_none.1 (by decide +kernel)
  · exact Option.isNone_iff_eq_none.1 (by decide +kernel)
  · exact Option.isNone_iff_eq_none.1 (by decide +kernel)

end TestAmplification
