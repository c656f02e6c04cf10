import TestAmplification.Proofs.Files.Changes

/-!
# Operations that keep to their places

An operation that works on some places of a disk (`Ground`) is local if it leaves everything else
alone, but for missing directories that it makes on the way to its places, and if what it does
and answers depends on nothing but its places and what blocks the way to them (`Local`). Local
operations follow one another like others do (`Local.bind`). Of two operations on different
places neither notices the other one (`Leaves.alike`).

A disk is seen up to the moments of the last changes of files: of these only the order counts,
and only among the files of a report, since it says which report is the newest. Who may read and
write a file is a part of what is seen.
-/

set_option autoImplicit false

namespace TestAmplification

/-! ## Places beside one another -/

namespace Place

/-- Neither place is on the way to the other. -/
def Apart (first second : Place) : Prop :=
  ¬ first <+: second ∧ ¬ second <+: first

theorem Apart.symm {first second : Place} (apart : Apart first second) : Apart second first :=
  ⟨apart.2, apart.1⟩

/-- Nothing is below both of two places that are apart. -/
theorem Apart.not_below {first second place : Place} (apart : Apart first second)
    (below : first <+: place) : ¬ second <+: place := by
  intro belowToo
  rcases List.prefix_or_prefix_of_prefix below belowToo with firstOnWay | secondOnWay
  · exact apart.1 firstOnWay
  · exact apart.2 secondOnWay

/-- What is below places that are apart is apart. -/
theorem Apart.below {first second deeper deeperToo : Place} (apart : Apart first second)
    (below : first <+: deeper) (belowToo : second <+: deeperToo) : Apart deeper deeperToo :=
  ⟨fun isPrefix => apart.not_below (below.trans isPrefix) belowToo,
    fun isPrefix => apart.not_below below (belowToo.trans isPrefix)⟩

/-- Different names in one directory are apart. -/
theorem apart_names {place : Place} {first second : String} (different : first ≠ second) :
    Apart (place ++ [first]) (place ++ [second]) := by
  constructor <;>
    simp [List.prefix_append_right_inj, List.cons_prefix_cons, different, different.symm]

end Place

namespace FileNode

/-- The node without the moment of its last change. -/
def timeless : FileNode → FileNode
  | file bytes _ => file bytes 0
  | node => node

theorem timeless_eq_file_iff {node : FileNode} {bytes : ByteArray} {changed : Int} :
    (file bytes changed).timeless = node.timeless ↔ ∃ moment, node = file bytes moment := by
  cases node <;> simp [timeless, eq_comm]

/-- The bytes do not depend on when a file was changed. -/
theorem bind_bytes? (node : Option FileNode) :
    node.bind bytes? = (node.map timeless).bind bytes? := by
  cases node with
  | none => rfl
  | some node => cases node <;> rfl

theorem timeless_eq_directory_iff {node : FileNode} :
    node.timeless = directory ↔ node = directory := by
  cases node <;> simp [timeless]

end FileNode

namespace FileTree

/-- Files stand at both places, and the one at the first was changed before the other one. -/
def Older (tree : FileTree) (first second : Place) : Prop :=
  ∃ time later, tree.changedAt? first = some time ∧ tree.changedAt? second = some later ∧
    time < later

end FileTree

/-! ## Grounds -/

/-- The places that an operation works on: something in a directory of reports and, if it has one,
a file in a directory of sources. -/
structure Ground where
  /-- Where paths start. -/
  base : Place
  /-- Where the path of the sources starts, and where it leads from there. -/
  sourceStart : Place
  sourceNames : List String
  /-- Where the path of the reports starts, and where it leads from there. -/
  reportStart : Place
  reportNames : List String
  /-- The name of the report. -/
  reportName : String
  /-- The name of the source file. -/
  fileName? : Option String

namespace Ground

variable (ground : Ground)

/-- The directory of the sources. -/
def sources : Place := ground.sourceStart ++ ground.sourceNames

/-- The directory of the reports. -/
def reports : Place := ground.reportStart ++ ground.reportNames

/-- The place of the report. -/
def report : Place := ground.reports ++ [ground.reportName]

/-- The place is the report or the file, or below. -/
def Owns (place : Place) : Prop :=
  ground.report <+: place ∨
    ∃ name, ground.fileName? = some name ∧ ground.sources ++ [name] <+: place

/-- The place is on the way to the two directories, or one of them. -/
def OnWay (place : Place) : Prop :=
  place <+: ground.sources ∨ place <+: ground.reports

/-- The two directories are apart. -/
def Divided : Prop := Place.Apart ground.sources ground.reports

/-- The grounds have the same two directories and different names in them. -/
structure Beside (ground other : Ground) : Prop where
  base : ground.base = other.base
  sources : ground.sources = other.sources
  reports : ground.reports = other.reports
  reportName : ground.reportName ≠ other.reportName
  fileName : ∀ {name otherName}, ground.fileName? = some name → other.fileName? = some otherName →
    name ≠ otherName

theorem Beside.symm {ground other : Ground} (beside : ground.Beside other) :
    other.Beside ground where
  base := beside.base.symm
  sources := beside.sources.symm
  reports := beside.reports.symm
  reportName := beside.reportName.symm
  fileName := fun isName isOther => (beside.fileName isOther isName).symm

variable {ground}

/-- No directory on the way is owned. -/
theorem OnWay.not_owns {place : Place} (divided : ground.Divided) (onWay : ground.OnWay place) :
    ¬ ground.Owns place := by
  have notIn : ∀ {directory : Place} {name : String}, ¬ directory ++ [name] <+: directory :=
    fun isPrefix => absurd isPrefix.length_le (by simp)
  rintro (inReport | ⟨name, -, inFile⟩) <;> rcases onWay with toSources | toReports
  · exact divided.2 ((List.prefix_append _ _).trans (inReport.trans toSources))
  · exact notIn (inReport.trans toReports)
  · exact notIn (inFile.trans toSources)
  · exact divided.1 ((List.prefix_append _ _).trans (inFile.trans toReports))

/-- The report and the file are apart. -/
theorem Divided.apart (divided : ground.Divided) (name : String) :
    Place.Apart ground.report (ground.sources ++ [name]) :=
  divided.symm.below (List.prefix_append _ _) (List.prefix_append _ _)

/-- What one ground owns the other one does not. -/
theorem Beside.not_owns {other : Ground} (divided : ground.Divided) (beside : ground.Beside other)
    {place : Place} (owns : ground.Owns place) : ¬ other.Owns place := by
  have reportsApart : Place.Apart ground.report other.report := by
    rw [report, report, ← beside.reports]
    exact Place.apart_names beside.reportName
  rintro (inReport | ⟨otherName, isOther, inFile⟩) <;>
    rcases owns with report | ⟨name, isName, file⟩
  · exact reportsApart.not_below report inReport
  · rw [Ground.report, ← beside.reports] at inReport
    exact (divided.below (List.prefix_append _ _) (List.prefix_append _ _)).not_below file inReport
  · rw [← beside.sources] at inFile
    exact (divided.apart otherName).not_below report inFile
  · rw [← beside.sources] at inFile
    exact (Place.apart_names (beside.fileName isName isOther)).not_below file inFile

theorem Beside.onWay_iff {other : Ground} (beside : ground.Beside other) {place : Place} :
    ground.OnWay place ↔ other.OnWay place := by
  rw [OnWay, OnWay, beside.sources, beside.reports]

end Ground

/-! ## Views of disks -/

/-- The disks look alike for one who sees what the ground owns and what is in the way. -/
structure Alike (ground : Ground) (disk other : Disk) : Prop where
  workingPlace : disk.workingPlace = other.workingPlace
  superuser : disk.superuser = other.superuser
  own : ∀ {place}, ground.Owns place →
    (disk.tree.nodes.find? place).map FileNode.timeless =
      (other.tree.nodes.find? place).map FileNode.timeless
  modes : ∀ {place}, ground.Owns place → disk.mode? place = other.mode? place
  order : ∀ {first second}, ground.report <+: first → ground.report <+: second →
    (disk.tree.Older first second ↔ other.tree.Older first second)
  ways : ∀ {place}, ground.OnWay place → (disk.tree.Blocked place ↔ other.tree.Blocked place)

/-- Nothing changed from one disk to the other but what the ground owns, and missing directories
on the way are there. -/
structure Leaves (ground : Ground) (disk after : Disk) : Prop where
  workingPlace : after.workingPlace = disk.workingPlace
  shared : after.shared = disk.shared
  superuser : after.superuser = disk.superuser
  modes : ∀ {place}, ¬ ground.Owns place → after.mode? place = disk.mode? place
  entries : ∀ {place}, ¬ ground.Owns place →
    after.tree.nodes.find? place = disk.tree.nodes.find? place ∨
      disk.tree.nodes.find? place = none ∧ after.tree.nodes.find? place = some .directory ∧
        ground.OnWay place

section

variable {ground : Ground} {disk other third : Disk}

theorem Alike.refl : Alike ground disk disk where
  workingPlace := rfl
  superuser := rfl
  own := fun _ => rfl
  modes := fun _ => rfl
  order := fun _ _ => Iff.rfl
  ways := fun _ => Iff.rfl

theorem Alike.symm (alike : Alike ground disk other) : Alike ground other disk where
  workingPlace := alike.workingPlace.symm
  superuser := alike.superuser.symm
  own := fun owns => (alike.own owns).symm
  modes := fun owns => (alike.modes owns).symm
  order := fun below belowToo => (alike.order below belowToo).symm
  ways := fun onWay => (alike.ways onWay).symm

theorem Alike.trans (alike : Alike ground disk other) (further : Alike ground other third) :
    Alike ground disk third where
  workingPlace := alike.workingPlace.trans further.workingPlace
  superuser := alike.superuser.trans further.superuser
  own := fun owns => (alike.own owns).trans (further.own owns)
  modes := fun owns => (alike.modes owns).trans (further.modes owns)
  order := fun below belowToo =>
    (alike.order below belowToo).trans (further.order below belowToo)
  ways := fun onWay => (alike.ways onWay).trans (further.ways onWay)

/-- The same files are in what the ground owns. -/
theorem Alike.find?_eq_file (alike : Alike ground disk other) {place : Place}
    (owns : ground.Owns place) {bytes : ByteArray} {changed : Int}
    (found : disk.tree.nodes.find? place = some (.file bytes changed)) :
    ∃ moment, other.tree.nodes.find? place = some (.file bytes moment) := by
  have same := alike.own owns
  rw [found] at same
  obtain ⟨node, foundToo, sameNode⟩ := Option.map_eq_some_iff.1 same.symm
  obtain ⟨moment, rfl⟩ := FileNode.timeless_eq_file_iff.1 sameNode.symm
  exact ⟨moment, foundToo⟩

theorem Alike.hasFile_iff (alike : Alike ground disk other) {place : Place}
    (owns : ground.Owns place) : disk.tree.HasFile place ↔ other.tree.HasFile place := by
  constructor
  · rintro ⟨bytes, changed, found⟩
    obtain ⟨moment, foundToo⟩ := alike.find?_eq_file owns found
    exact ⟨bytes, moment, foundToo⟩
  · rintro ⟨bytes, changed, found⟩
    obtain ⟨moment, foundToo⟩ := alike.symm.find?_eq_file owns found
    exact ⟨bytes, moment, foundToo⟩

/-- The same directories are in what the ground owns. -/
theorem Alike.find?_eq_directory_iff (alike : Alike ground disk other) {place : Place}
    (owns : ground.Owns place) :
    disk.tree.nodes.find? place = some .directory ↔
      other.tree.nodes.find? place = some .directory := by
  have isDirectory : ∀ node : Option FileNode,
      node = some .directory ↔ node.map FileNode.timeless = some .directory := by
    intro node
    cases node <;> simp [FileNode.timeless_eq_directory_iff]
  rw [isDirectory, alike.own owns, ← isDirectory]

/-- The same places are in what the ground owns. -/
theorem Alike.contains_iff (alike : Alike ground disk other) {place : Place}
    (owns : ground.Owns place) :
    disk.tree.nodes.contains place = true ↔ other.tree.nodes.contains place = true := by
  have same := congrArg Option.isSome (alike.own owns)
  rw [Option.isSome_map, Option.isSome_map] at same
  rw [Table.contains, Table.contains, same]

/-- What may be done with a place depends on its mode and on what stands there, and not on when
that was changed. -/
theorem Disk.allows_congr {right : FileRight} {place : Place}
    (user : disk.superuser = other.superuser) (mode : disk.mode? place = other.mode? place)
    (node : (disk.tree.node? place).map FileNode.timeless =
      (other.tree.node? place).map FileNode.timeless) :
    disk.allows right place = other.allows right place := by
  unfold allows modeOf
  rw [user, mode]
  generalize disk.tree.node? place = inside at node ⊢
  generalize other.tree.node? place = insideToo at node ⊢
  cases inside with
  | none =>
      obtain rfl := Option.map_eq_none_iff.1 node.symm
      rfl
  | some kind =>
      obtain ⟨kindToo, rfl, same⟩ := Option.map_eq_some_iff.1 node.symm
      cases kind <;> cases kindToo <;> first | rfl | exact absurd same nofun

/-- The same may be done with what the ground owns. -/
theorem Alike.allows_eq (alike : Alike ground disk other) {place : Place}
    (owns : ground.Owns place) (right : FileRight) :
    disk.allows right place = other.allows right place := by
  refine Disk.allows_congr alike.superuser (alike.modes owns) ?_
  unfold FileTree.node?
  split
  · rfl
  · exact alike.own owns

theorem Leaves.refl : Leaves ground disk disk where
  workingPlace := rfl
  shared := rfl
  superuser := rfl
  modes := fun _ => rfl
  entries := fun _ => .inl rfl

theorem Leaves.trans (leaves : Leaves ground disk other) (further : Leaves ground other third) :
    Leaves ground disk third where
  workingPlace := further.workingPlace.trans leaves.workingPlace
  shared := further.shared.trans leaves.shared
  superuser := further.superuser.trans leaves.superuser
  modes := fun notOwned => (further.modes notOwned).trans (leaves.modes notOwned)
  entries := by
    intro place notOwned
    rcases leaves.entries notOwned with same | ⟨missing, directory, onWay⟩
    · rcases further.entries notOwned with sameToo | ⟨missing, directory, onWay⟩
      · exact .inl (sameToo.trans same)
      · exact .inr ⟨same ▸ missing, directory, onWay⟩
    · rcases further.entries notOwned with sameToo | ⟨missingToo, -, -⟩
      · exact .inr ⟨missing, sameToo.trans directory, onWay⟩
      · exact absurd (missingToo.symm.trans directory) nofun

/-- A directory that the ground does not own stays. -/
theorem Leaves.hasDirectory (leaves : Leaves ground disk other) {place : Place}
    (notOwned : ¬ ground.Owns place) (directory : disk.tree.HasDirectory place) :
    other.tree.HasDirectory place := by
  rcases directory with root | found
  · exact .inl root
  · rcases leaves.entries notOwned with same | ⟨missing, -, -⟩
    · exact .inr (same.trans found)
    · exact absurd (missing.symm.trans found) nofun

/-- What the ground does not own stays a blocked place, or a free one. -/
theorem Leaves.blocked_iff (leaves : Leaves ground disk other) {place : Place}
    (notOwned : ¬ ground.Owns place) : disk.tree.Blocked place ↔ other.tree.Blocked place := by
  rcases leaves.entries notOwned with same | ⟨missing, directory, -⟩
  · rw [FileTree.Blocked, FileTree.Blocked, same]
  · simp [FileTree.Blocked, missing, directory]

/-- **Frame.** Who works beside the ground changes nothing that is seen there. -/
theorem Leaves.alike {beside : Ground} (divided : ground.Divided)
    (isBeside : ground.Beside beside) (leaves : Leaves beside disk other) :
    Alike ground disk other := by
  have dividedToo : beside.Divided := by
    rw [Ground.Divided, ← isBeside.sources, ← isBeside.reports]
    exact divided
  have same : ∀ {place}, ground.Owns place →
      other.tree.nodes.find? place = disk.tree.nodes.find? place := by
    intro place owns
    refine (leaves.entries (isBeside.not_owns divided owns)).resolve_right ?_
    rintro ⟨-, -, onWay⟩
    exact (isBeside.onWay_iff.2 onWay).not_owns divided owns
  exact
    { workingPlace := leaves.workingPlace.symm
      superuser := leaves.superuser.symm
      own := fun owns => by rw [same owns]
      modes := fun owns => (leaves.modes (isBeside.not_owns divided owns)).symm
      order := fun below belowToo => by
        simp only [FileTree.Older, FileTree.changedAt?, same (.inl below), same (.inl belowToo)]
      ways := fun onWay =>
        leaves.blocked_iff ((isBeside.onWay_iff.1 onWay).not_owns dividedToo) }

end

/-! ## Local operations -/

/-- A plain disk without shared files on which the paths of the ground start in directories. -/
structure Sound (ground : Ground) (disk : Disk) : Prop where
  plain : disk.tree.Plain
  unshared : disk.shared = []
  base : disk.workingPlace = ground.base
  sources : disk.tree.HasDirectory ground.sourceStart
  reports : disk.tree.HasDirectory ground.reportStart

/-- **Locality.** On sound disks the operation changes only what the ground owns and makes missing
directories on the way, and on disks that look alike it answers alike and leaves disks that look
alike. Before it one thing holds, after it another. -/
structure Local (ground : Ground) {α : Type} (before : Disk → Prop) (act : StateM Disk α)
    (after : α → Disk → Prop) : Prop where
  leaves : ∀ {disk}, Sound ground disk → before disk → Leaves ground disk (act disk).2
  plain : ∀ {disk}, Sound ground disk → before disk → (act disk).2.tree.Plain
  after : ∀ {disk}, Sound ground disk → before disk → after (act disk).1 (act disk).2
  agrees : ∀ {disk other}, Sound ground disk → Sound ground other → before disk → before other →
    Alike ground disk other →
      (act disk).1 = (act other).1 ∧ Alike ground (act disk).2 (act other).2

section

variable {ground : Ground} {disk other : Disk}

/-- The paths of a ground start on the way. -/
theorem Ground.onWay_sourceStart (ground : Ground) : ground.OnWay ground.sourceStart :=
  .inl (List.prefix_append _ _)

theorem Ground.onWay_reportStart (ground : Ground) : ground.OnWay ground.reportStart :=
  .inr (List.prefix_append _ _)

/-- A sound disk stays sound when somebody leaves the way to the ground alone. -/
theorem Sound.leaves {changing : Ground} (sound : Sound ground disk)
    (leaves : Leaves changing disk other) (plain : other.tree.Plain)
    (spared : ∀ {place}, ground.OnWay place → ¬ changing.Owns place) : Sound ground other where
  plain := plain
  unshared := leaves.shared.trans sound.unshared
  base := leaves.workingPlace.trans sound.base
  sources := leaves.hasDirectory (spared ground.onWay_sourceStart) sound.sources
  reports := leaves.hasDirectory (spared ground.onWay_reportStart) sound.reports

namespace Local

variable {α β : Type} {before : Disk → Prop} {act : StateM Disk α} {after : α → Disk → Prop}

theorem sound (isLocal : Local ground before act after) (divided : ground.Divided)
    (sound : Sound ground disk) (holds : before disk) : Sound ground (act disk).2 :=
  sound.leaves (isLocal.leaves sound holds) (isLocal.plain sound holds)
    (Ground.OnWay.not_owns divided)

theorem pure {value : α} (holds : ∀ {disk}, before disk → after value disk) :
    Local ground before (Pure.pure value : StateM Disk α) after where
  leaves := fun _ _ => .refl
  plain := fun sound _ => sound.plain
  after := fun _ isBefore => holds isBefore
  agrees := fun _ _ _ _ alike => ⟨rfl, alike⟩

/-- **Sequence.** Local operations one after the other are local. -/
theorem bind (divided : ground.Divided) {next : α → StateM Disk β} {last : β → Disk → Prop}
    (isLocal : Local ground before act after)
    (nextLocal : ∀ value, Local ground (after value) (next value) last) :
    Local ground before (act >>= next) last := by
  have run : ∀ disk, (act >>= next) disk = next (act disk).1 (act disk).2 := fun _ => rfl
  constructor
  · intro disk sound holds
    rw [run]
    exact (isLocal.leaves sound holds).trans
      ((nextLocal _).leaves (isLocal.sound divided sound holds) (isLocal.after sound holds))
  · intro disk sound holds
    rw [run]
    exact (nextLocal _).plain (isLocal.sound divided sound holds) (isLocal.after sound holds)
  · intro disk sound holds
    rw [run]
    exact (nextLocal _).after (isLocal.sound divided sound holds) (isLocal.after sound holds)
  · intro disk other sound soundToo holds holdsToo alike
    obtain ⟨same, alikeAfter⟩ := isLocal.agrees sound soundToo holds holdsToo alike
    have next := isLocal.after soundToo holdsToo
    rw [run, run]
    rw [← same] at next ⊢
    exact (nextLocal _).agrees (isLocal.sound divided sound holds)
      (isLocal.sound divided soundToo holdsToo) (isLocal.after sound holds) next alikeAfter

/-- An operation that only looks, and only at its places. -/
theorem look (looks : ∀ disk, (act disk).2 = disk)
    (agrees : ∀ {disk other}, Sound ground disk → Sound ground other →
      Alike ground disk other → (act disk).1 = (act other).1) :
    Local ground before act fun _ => before where
  leaves := fun _ _ => by
    rw [looks]
    exact .refl
  plain := fun sound _ => by
    rw [looks]
    exact sound.plain
  after := fun _ isBefore => by rwa [looks]
  agrees := fun sound soundToo _ _ alike => by
    rw [looks, looks]
    exact ⟨agrees sound soundToo alike, alike⟩

/-- What is not touched stays as it is. -/
theorem frame {kept : Disk → Prop} (isLocal : Local ground before act after)
    (keeps : ∀ {disk other}, kept disk → Leaves ground disk other → kept other) :
    Local ground (fun disk => before disk ∧ kept disk) act
      fun value disk => after value disk ∧ kept disk where
  leaves := fun sound holds => isLocal.leaves sound holds.1
  plain := fun sound holds => isLocal.plain sound holds.1
  after := fun sound holds =>
    ⟨isLocal.after sound holds.1, keeps holds.2 (isLocal.leaves sound holds.1)⟩
  agrees := fun sound soundToo holds holdsToo => isLocal.agrees sound soundToo holds.1 holdsToo.1

/-- What is known before may be used. -/
theorem assuming {fact : Prop} (known : ∀ {disk}, before disk → fact)
    (isLocal : fact → Local ground before act after) : Local ground before act after where
  leaves := fun sound holds => (isLocal (known holds)).leaves sound holds
  plain := fun sound holds => (isLocal (known holds)).plain sound holds
  after := fun sound holds => (isLocal (known holds)).after sound holds
  agrees := fun sound soundToo holds holdsToo =>
    (isLocal (known holds)).agrees sound soundToo holds holdsToo

theorem weaken {before' : Disk → Prop} {after' : α → Disk → Prop}
    (isLocal : Local ground before act after) (first : ∀ {disk}, before' disk → before disk)
    (last : ∀ {value disk}, after value disk → after' value disk) :
    Local ground before' act after' where
  leaves := fun sound holds => isLocal.leaves sound (first holds)
  plain := fun sound holds => isLocal.plain sound (first holds)
  after := fun sound holds => last (isLocal.after sound (first holds))
  agrees := fun sound soundToo holds holdsToo =>
    isLocal.agrees sound soundToo (first holds) (first holdsToo)

end Local

end

/-! ## Edits and new directories -/

section

variable {tree otherTree : FileTree} {root place first second : Place} {clock otherClock : Int}

open FileTree

/-- The same edit keeps what looks alike alike. -/
theorem FileTree.Edit.apply_alike (edit : Edit)
    (same : (tree.nodes.find? place).map FileNode.timeless =
      (otherTree.nodes.find? place).map FileNode.timeless) :
    ((edit.apply tree root clock).nodes.find? place).map FileNode.timeless =
      ((edit.apply otherTree root otherClock).nodes.find? place).map FileNode.timeless := by
  cases edit with
  | nothing => exact same
  | write bytes =>
      simp only [Edit.apply, find?_put]
      split
      · rfl
      · exact same
  | remove =>
      simp only [Edit.apply, find?_without]
      split
      · rfl
      · exact same

/-- Removing something leaves the order among the files that are left. -/
theorem FileTree.older_without :
    (tree.without root).Older first second ↔
      ¬ root <+: first ∧ ¬ root <+: second ∧ tree.Older first second := by
  by_cases below : root <+: first
  · simp [Older, changedAt?, find?_without, below]
  · by_cases belowToo : root <+: second
    · simp [Older, changedAt?, find?_without, belowToo]
    · simp [Older, changedAt?, find?_without, below, belowToo]

/-- The same edit keeps the order, if it is not among the files that it writes. -/
theorem FileTree.Edit.older_apply (edit : Edit)
    (spared : ∀ bytes, edit = .write bytes → ¬ root <+: first ∧ ¬ root <+: second)
    (same : tree.Older first second ↔ otherTree.Older first second) :
    (edit.apply tree root clock).Older first second ↔
      (edit.apply otherTree root otherClock).Older first second := by
  cases edit with
  | nothing => exact same
  | write bytes =>
      obtain ⟨notFirst, notSecond⟩ := spared bytes rfl
      simp only [Older, changedAt?, Edit.find?_apply _ notFirst, Edit.find?_apply _ notSecond]
      exact same
  | remove =>
      rw [Edit.apply, Edit.apply, older_without, older_without, same]

end

section

variable {ground : Ground} {before : Disk → Prop}

open FileTree

/-! What comes of an operation does not depend on when a file was changed. -/

theorem writing_timeless (name : String) (bytes : Text.Bytes) (allowed : Bool)
    (node : Option FileNode) :
    writing name bytes allowed (node.map FileNode.timeless) = writing name bytes allowed node := by
  cases node with
  | none => rfl
  | some node => cases node <;> rfl

theorem removingFile_timeless (name : String) (node : Option FileNode) :
    removingFile name (node.map FileNode.timeless) = removingFile name node := by
  cases node with
  | none => rfl
  | some node => cases node <;> rfl

theorem removingTree_timeless (name : String) (node : Option FileNode) :
    removingTree name (node.map FileNode.timeless) = removingTree name node := by
  cases node with
  | none => rfl
  | some node => cases node <;> rfl

/-- **Edits** of what the ground owns are local, if they are chosen by what is seen there and no
files of the report are written. -/
theorem Local.of_does (divided : ground.Divided) {root : Place}
    {act : StateM Disk (Except FileFault Unit)} {outcome : Disk → Except FileFault Unit × Edit}
    (owned : ground.Owns root)
    (sees : ∀ {disk other}, Sound ground disk → Sound ground other → Alike ground disk other →
      outcome disk = outcome other)
    (spares : ∀ {disk bytes}, (outcome disk).2 = .write bytes → ¬ ground.report <+: root)
    (does : ∀ {disk}, Sound ground disk → before disk → disk.Does root (outcome disk) (act disk)) :
    Local ground before act fun result disk => ∃ former,
      Sound ground former ∧ before former ∧ former.Does root (outcome former) (result, disk) := by
  have leaves : ∀ {disk}, Sound ground disk → before disk → Leaves ground disk (act disk).2 := by
    intro disk sound isBefore
    have becomes := (does sound isBefore).becomes
    have outside : ∀ {place}, ¬ ground.Owns place → ¬ root <+: place := fun notOwned below =>
      notOwned <| owned.imp (·.trans below) fun ⟨name, isName, inFile⟩ =>
        ⟨name, isName, inFile.trans below⟩
    refine ⟨becomes.workingPlace, becomes.shared, becomes.superuser, fun {place} notOwned => ?_,
      fun {place} notOwned => .inl ?_⟩
    · exact ((does sound isBefore).modes place).trans (Edit.modeAfter_eq _ (outside notOwned))
    · rw [becomes.tree]
      exact Edit.find?_apply _ (outside notOwned)
  refine ⟨leaves, fun sound isBefore => (does sound isBefore).plain,
    fun sound isBefore => ⟨_, sound, isBefore, does sound isBefore⟩, ?_⟩
  intro disk other sound soundToo isBefore isBeforeToo alike
  have run := does sound isBefore
  have runToo := does soundToo isBeforeToo
  rw [← sees sound soundToo alike] at runToo
  refine ⟨run.result.trans runToo.result.symm, ?_⟩
  constructor
  · rw [run.becomes.workingPlace, runToo.becomes.workingPlace, alike.workingPlace]
  · rw [run.becomes.superuser, runToo.becomes.superuser, alike.superuser]
  · intro place owns
    rw [run.becomes.tree, runToo.becomes.tree]
    exact Edit.apply_alike _ (alike.own owns)
  · intro place owns
    rw [run.modes, runToo.modes, alike.modes owns]
  · intro first second below belowToo
    rw [run.becomes.tree, runToo.becomes.tree]
    refine Edit.older_apply _ (fun bytes isWrite => ?_) (alike.order below belowToo)
    obtain ⟨name, -, inFile⟩ := owned.resolve_left (spares isWrite)
    exact ⟨fun isPrefix => (divided.apart name).not_below below (inFile.trans isPrefix),
      fun isPrefix => (divided.apart name).not_below belowToo (inFile.trans isPrefix)⟩
  · intro place onWay
    have notOwned := onWay.not_owns divided
    rw [← (leaves sound isBefore).blocked_iff notOwned,
      ← (leaves soundToo isBeforeToo).blocked_iff notOwned]
    exact alike.ways onWay

/-- Making directories on the way changes nothing that is seen. -/
theorem alike_of_wayMade (divided : ground.Divided) {disk after : Disk} {place : Place}
    (wayMade : WayMade disk.tree after.tree place) (onWay : ground.OnWay place)
    (workingPlace : disk.workingPlace = after.workingPlace)
    (superuser : disk.superuser = after.superuser)
    (modes : ∀ place, disk.mode? place = after.mode? place) : Alike ground disk after := by
  have same : ∀ {other}, ground.Owns other →
      after.tree.nodes.find? other = disk.tree.nodes.find? other := by
    intro other owns
    refine (wayMade other).resolve_right ?_
    rintro ⟨-, -, onWayToo⟩
    exact Ground.OnWay.not_owns divided (onWay.imp onWayToo.trans onWayToo.trans) owns
  exact
    { workingPlace
      superuser
      own := fun owns => by rw [same owns]
      modes := fun _ => modes _
      order := fun below belowToo => by
        simp only [Older, changedAt?, same (.inl below), same (.inl belowToo)]
      ways := fun _ => wayMade.blocked_iff.symm }

/-- **Making directories** on the way is local. -/
theorem Local.makeDirectories (divided : ground.Divided) {path : Path} {here : Place}
    {names : List String} (leads : FileTree.Leads ground.base path here names)
    (usable : path = "" ∨ path.fault? = none) (onWay : ground.OnWay (here ++ names))
    (start : ∀ {disk}, Sound ground disk → disk.tree.HasDirectory here)
    (keeps : ∀ {disk after}, before disk → Alike ground disk after → before after) :
    Local ground before (Disk.makeDirectories path) fun result disk =>
      before disk ∧ (result = .ok () → disk.tree.HasDirectory (here ++ names)) := by
  have made : ∀ {disk}, Sound ground disk →
      MakesWay disk.tree here names (disk.tree.makeDirectories disk.workingPlace path) := by
    intro disk sound
    rw [sound.base]
    refine makeDirectoriesUpTo_spec sound.plain (start sound) leads usable ?_
    rw [← leads.steps]
    exact Nat.lt_succ_of_le (Path.length_steps_le path)
  have leaves : ∀ {disk}, Sound ground disk →
      Leaves ground disk (Disk.makeDirectories path disk).2 := by
    intro disk sound
    refine ⟨rfl, rfl, rfl, fun _ => rfl, fun {place} _ => ?_⟩
    rcases (made sound).kept place with same | ⟨missing, directory, onWayToo⟩
    · exact .inl same
    · exact .inr ⟨missing, directory, onWay.imp onWayToo.trans onWayToo.trans⟩
  have unnoticed : ∀ {disk}, Sound ground disk →
      Alike ground disk (Disk.makeDirectories path disk).2 := fun sound =>
    alike_of_wayMade divided (made sound).kept onWay rfl rfl fun _ => rfl
  constructor
  · exact fun sound _ => leaves sound
  · exact fun sound _ => (made sound).plain
  · intro disk sound isBefore
    refine ⟨keeps isBefore (unnoticed sound), fun isOk => (made sound).directory ?_⟩
    have result := (made sound).result
    have isOk : (disk.tree.makeDirectories disk.workingPlace path).2 = .ok () := isOk
    rw [isOk] at result
    cases fault : disk.tree.wayFault? here names with
    | none => rfl
    | some fault' =>
        rw [fault] at result
        exact absurd result nofun
  · intro disk other sound soundToo _ _ alike
    have sameWay : disk.tree.wayFault? here names = other.tree.wayFault? here names :=
      wayFault?_congr fun front isFront =>
        alike.ways (onWay.imp isFront.trans isFront.trans)
    constructor
    · have result := (made sound).result
      rw [sameWay, ← (made soundToo).result] at result
      exact result
    · exact ((unnoticed sound).symm.trans alike).trans (unnoticed soundToo)

end

end TestAmplification
