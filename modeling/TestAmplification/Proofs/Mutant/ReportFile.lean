import TestAmplification.Proofs.Files.Locality
import TestAmplification.Tooling.MutationTool

/-!
# Reading a report is local

Which report counts and what it says depends on what stands at the report directory and below it,
and of the moments of last changes there only on their order (`MutationReport.find_eq`,
`MutationReport.collect_local`).
-/

set_option autoImplicit false

namespace TestAmplification

open FileTree

/-! ## Reading reports -/

namespace MutationReport

/-- Which report is the newest depends on the order of the moments only. -/
theorem newest?_congr {paths : List Path} {time otherTime : Path → Int}
    (same : ∀ first ∈ paths, ∀ second ∈ paths,
      (time first < time second ↔ otherTime first < otherTime second)) :
    paths = [] ∨ ∃ path ∈ paths,
      newest? (paths.map fun path => (path, time path)) = some (path, time path) ∧
      newest? (paths.map fun path => (path, otherTime path)) = some (path, otherTime path) := by
  induction paths with
  | nil => exact .inl rfl
  | cons first rest ih =>
      right
      have sameRest := ih fun path member other otherMember =>
        same path (List.mem_cons_of_mem _ member) other (List.mem_cons_of_mem _ otherMember)
      simp only [List.map_cons, newest?]
      rcases sameRest with rfl | ⟨later, inRest, newest, newestToo⟩
      · exact ⟨first, List.mem_cons_self, rfl, rfl⟩
      · have order := same later (List.mem_cons_of_mem _ inRest) first List.mem_cons_self
        rw [newest, newestToo]
        by_cases older : time later < time first
        · exact ⟨first, List.mem_cons_self, if_pos older, if_pos (order.1 older)⟩
        · exact ⟨later, List.mem_cons_of_mem _ inRest, if_neg older, if_neg (mt order.2 older)⟩

/-- The paths that reports in subdirectories have. -/
def nestedPaths (directory : Path) (names : List String) : List Path :=
  names.map fun name => Path.join (Path.join directory name) fileName

theorem nestedReports_eq (disk : Disk) (directory : Path) (names : List String) :
    nestedReports disk directory names =
      ((nestedPaths directory names).filter fun path => (disk.lastChange? path).isSome).map
        fun path => (path, (disk.lastChange? path).getD 0) := by
  induction names with
  | nil => rfl
  | cons name rest ih =>
      have rest' : nestedReports disk directory rest = _ := ih
      cases change : disk.lastChange? (Path.join (Path.join directory name) fileName) <;>
        simp_all [nestedReports, nestedPaths]

theorem fileName_ordinary : Path.Ordinary fileName :=
  ⟨by decide, by decide, by decide, by decide⟩

end MutationReport

/-- The path leads to a place of the report. -/
def Ground.Reaches (ground : Ground) (path : Path) (place : Place) : Prop :=
  ∃ front name, FileTree.Leads ground.base path ground.reportStart (front ++ [name]) ∧
    namesDirectory path = false ∧ place = ground.reportStart ++ front ++ [name] ∧
    ground.report <+: place

section

variable {ground : Ground} {disk other : Disk} {path : Path} {place : Place}

/-- What is in the directory at a place of the report is reached, too. -/
theorem Ground.Reaches.join (straight : ".." ∉ Path.names path)
    (reaches : ground.Reaches path place)
    {name : String} (ordinary : Path.Ordinary name) :
    ground.Reaches (Path.join path name) (place ++ [name]) := by
  obtain ⟨front, last, leads, -, rfl, inReport⟩ := reaches
  have further : FileTree.Leads ground.base (Path.join path name) (startOf ground.base path)
    (Path.steps path ++ [name]) := FileTree.Leads.join straight ordinary
  rw [leads.start, leads.steps] at further
  exact ⟨front ++ [last], name, further, namesDirectory_join ordinary, by simp,
    inReport.trans (List.prefix_append _ _)⟩

theorem Ground.Reaches.below (reaches : ground.Reaches path place) : ground.report <+: place := by
  obtain ⟨-, -, -, -, -, inReport⟩ := reaches
  exact inReport

theorem Ground.Reaches.owns (reaches : ground.Reaches path place) : ground.Owns place :=
  .inl reaches.below

theorem Sound.lastChange?_eq (sound : Sound ground disk) (reaches : ground.Reaches path place) :
    disk.lastChange? path = if path.fault? = none then disk.tree.changedAt? place else none := by
  obtain ⟨front, name, leads, written, rfl, -⟩ := reaches
  rw [Disk.lastChange?, sound.base]
  cases fault : path.fault? with
  | none =>
      rw [if_pos rfl]
      exact leads.lastChange?_eq sound.plain fault written sound.reports
  | some isFault =>
      rw [if_neg nofun, FileTree.lastChange?, inspect_of_fault fault]

theorem Alike.isSome_lastChange? (sound : Sound ground disk) (soundToo : Sound ground other)
    (alike : Alike ground disk other) (reaches : ground.Reaches path place) :
    (disk.lastChange? path).isSome = (other.lastChange? path).isSome := by
  rw [sound.lastChange?_eq reaches, soundToo.lastChange?_eq reaches]
  split
  · rw [Bool.eq_iff_iff, isSome_changedAt?, isSome_changedAt?]
    exact alike.hasFile_iff reaches.owns
  · rfl

/-- A file is what has a moment of its last change. -/
theorem Disk.isFile_eq (disk : Disk) (path : Path) :
    disk.isFile path = (disk.lastChange? path).isSome := by
  unfold Disk.isFile Disk.lastChange? FileTree.isFile FileTree.lastChange?
  split <;> simp_all

/-- A report that is found is read alike wherever it looks alike. -/
theorem Alike.read_eq (sound : Sound ground disk) (soundToo : Sound ground other)
    (alike : Alike ground disk other) (reaches : ground.Reaches path place)
    (isThere : (disk.lastChange? path).isSome = true) :
    (Disk.read path disk).1 = (Disk.read path other).1 := by
  rw [sound.lastChange?_eq reaches] at isThere
  have noFault : path.fault? = none := by
    by_contra fault
    rw [if_neg fault] at isThere
    exact Bool.false_ne_true isThere
  rw [if_pos noFault, isSome_changedAt?] at isThere
  obtain ⟨bytes, changed, found⟩ := isThere
  obtain ⟨moment, foundToo⟩ := alike.find?_eq_file reaches.owns found
  have allowed := alike.allows_eq reaches.owns .read
  obtain ⟨front, name, leads, written, rfl, -⟩ := reaches
  rw [Disk.read_of_file sound.plain (sound.base ▸ leads) noFault written sound.reports found,
    Disk.read_of_file soundToo.plain (soundToo.base ▸ leads) noFault written soundToo.reports
      foundToo, allowed]

/-- The name of a place that is in a directory. -/
def Place.nameIn? (directory place : Place) : Option String :=
  match place.drop directory.length with
  | [name] => some name
  | _ => none

/-- The names in a directory of the report are the same wherever it looks alike. -/
theorem Alike.namesIn_eq (alike : Alike ground disk other) (inReport : ground.report <+: place) :
    disk.tree.namesIn place = other.tree.namesIn place := by
  have byKeys : ∀ tree : FileTree, tree.namesIn place =
      (tree.nodes.keys.filter fun key => place.isPrefixOf key && key != place).filterMap
        place.nameIn? := by
    intro tree
    rw [namesIn, below, Table.keys, List.filter_map, List.filterMap_map, List.filterMap_filterMap,
      List.filterMap_filter]
    refine List.filterMap_congr fun entry _ => ?_
    simp only [Function.comp, Place.nameIn?]
    split <;> rfl
  rw [byKeys, byKeys, Table.filter_keys_congr]
  intro key passes
  have below : place <+: key :=
    List.isPrefixOf_iff_prefix.1 ((Bool.and_eq_true _ _).mp passes).1
  exact alike.contains_iff (.inl (inReport.trans below))

theorem Sound.inspect_eq_directory_iff (sound : Sound ground disk)
    (reaches : ground.Reaches path place) (other : Place) :
    disk.tree.inspect disk.workingPlace path = .ok (other, some .directory) ↔
      other = place ∧ path.fault? = none ∧ disk.tree.nodes.find? place = some .directory := by
  obtain ⟨front, name, leads, written, rfl, -⟩ := reaches
  rw [sound.base]
  cases fault : path.fault? with
  | none =>
      rw [leads.inspect_eq_directory_iff sound.plain fault written sound.reports]
      simp only [true_and]
  | some isFault =>
      rw [inspect_of_fault fault]
      simp

theorem Alike.namesIn?_eq (sound : Sound ground disk) (soundToo : Sound ground other)
    (alike : Alike ground disk other) (reaches : ground.Reaches path place) :
    disk.namesIn? path = other.namesIn? path := by
  have seen := sound.inspect_eq_directory_iff reaches
  have seenToo := soundToo.inspect_eq_directory_iff reaches
  rw [Disk.namesIn?, Disk.namesIn?]
  by_cases isDirectory : path.fault? = none ∧ disk.tree.nodes.find? place = some .directory
  · have isDirectoryToo := isDirectory
    rw [alike.find?_eq_directory_iff reaches.owns] at isDirectoryToo
    rw [(seen place).2 ⟨rfl, isDirectory⟩, (seenToo place).2 ⟨rfl, isDirectoryToo⟩]
    exact congrArg some (alike.namesIn_eq reaches.below)
  · have isNoneToo := isDirectory
    rw [alike.find?_eq_directory_iff reaches.owns] at isNoneToo
    split
    · next other looked => exact absurd ((seen other).1 looked).2 isDirectory
    · split
      · next other looked => exact absurd ((seenToo other).1 looked).2 isNoneToo
      · rfl

end

/-! ## Collecting the report -/

section

variable {ground : Ground} {disk other : Disk} {directory : Path}

/-- The order of moments is the order of the files at the places of their paths. -/
theorem Sound.lt_iff_older (sound : Sound ground disk) {path pathToo : Path}
    {place placeToo : Place}
    (reaches : ground.Reaches path place) (reachesToo : ground.Reaches pathToo placeToo)
    (isThere : (disk.lastChange? path).isSome = true)
    (isThereToo : (disk.lastChange? pathToo).isSome = true) :
    (disk.lastChange? path).getD 0 < (disk.lastChange? pathToo).getD 0 ↔
      disk.tree.Older place placeToo := by
  have moment : ∀ {path : Path} {place : Place}, ground.Reaches path place →
      (disk.lastChange? path).isSome = true →
      ∃ time, disk.lastChange? path = some time ∧ disk.tree.changedAt? place = some time := by
    intro path place reaches isThere
    obtain ⟨time, isTime⟩ := Option.isSome_iff_exists.1 isThere
    refine ⟨time, isTime, ?_⟩
    rw [sound.lastChange?_eq reaches] at isTime
    split at isTime
    · exact isTime
    · exact absurd isTime nofun
  obtain ⟨time, isTime, atPlace⟩ := moment reaches isThere
  obtain ⟨later, isLater, atPlaceToo⟩ := moment reachesToo isThereToo
  simp [Older, isTime, isLater, atPlace, atPlaceToo]

/-- What is in a directory of a plain tree has a name. -/
theorem FileTree.Plain.ordinary_of_mem_namesIn {tree : FileTree} (plain : tree.Plain)
    {place : Place}
    {name : String} (member : name ∈ tree.namesIn place) : Path.Ordinary name := by
  obtain ⟨⟨way, node⟩, inBelow, isName⟩ := List.mem_filterMap.1 member
  obtain ⟨⟨other, node'⟩, inEntries, isBelow⟩ := List.mem_filterMap.1 inBelow
  have isWay : way = [name] := by
    simp only at isName
    split at isName
    · simpa using isName
    · exact absurd isName nofun
  have inOther : name ∈ other := by
    simp only at isBelow
    split at isBelow
    · obtain rfl : other.drop place.length = way := congrArg Prod.fst (Option.some.inj isBelow)
      exact List.mem_of_mem_drop (isWay ▸ List.mem_singleton_self name)
    · exact absurd isBelow nofun
  have found := (Table.find?_eq_some_iff _ _ _).2 inEntries
  exact ((plain.named found).2 name inOther).toOrdinary

/-- The report that counts is the same wherever it looks alike, and then it is one that is read
alike. -/
theorem MutationReport.find_eq (sound : Sound ground disk) (soundToo : Sound ground other)
    (alike : Alike ground disk other) (straight : ".." ∉ Path.names directory)
    (reaches : ground.Reaches directory ground.report) :
    find disk directory = find other directory ∧ ∀ path, find disk directory = .ok path →
      (disk.lastChange? path).isSome = true ∧ ∃ place, ground.Reaches path place := by
  have direct := reaches.join straight fileName_ordinary
  have sameDirect := alike.isSome_lastChange? sound soundToo direct
  simp only [find, Disk.isFile_eq, ← sameDirect, ← alike.namesIn?_eq sound soundToo reaches]
  split
  · next isThere =>
      refine ⟨rfl, fun path isPath => ?_⟩
      obtain rfl := Except.ok.inj isPath
      exact ⟨isThere, _, direct⟩
  · cases listed : disk.namesIn? directory with
    | none => exact ⟨rfl, nofun⟩
    | some names =>
        have ordinary : ∀ name ∈ names, Path.Ordinary name := by
          intro name member
          unfold Disk.namesIn? at listed
          split at listed
          · obtain rfl := Option.some.inj listed
            exact sound.plain.ordinary_of_mem_namesIn member
          · exact absurd listed nofun
        have nested : ∀ path ∈ nestedPaths directory names, ∃ place, ground.Reaches path place := by
          intro path member
          obtain ⟨name, inNames, rfl⟩ := List.mem_map.1 member
          have isOrdinary := ordinary name inNames
          exact ⟨_, (reaches.join straight isOrdinary).join (straight_join straight isOrdinary)
            fileName_ordinary⟩
        have sameThere : (nestedPaths directory names).filter
              (fun path => (other.lastChange? path).isSome) =
            (nestedPaths directory names).filter fun path => (disk.lastChange? path).isSome := by
          refine List.filter_congr fun path member => ?_
          obtain ⟨place, reachesPath⟩ := nested path member
          exact (alike.isSome_lastChange? sound soundToo reachesPath).symm
        simp only [Option.bind_some, nestedReports_eq, sameThere]
        generalize counted : (nestedPaths directory names).filter
          (fun path => (disk.lastChange? path).isSome) = paths
        have member : ∀ path ∈ paths,
            (disk.lastChange? path).isSome = true ∧ ∃ place, ground.Reaches path place := by
          intro path inPaths
          rw [← counted, List.mem_filter] at inPaths
          exact ⟨inPaths.2, nested path inPaths.1⟩
        have order : ∀ first ∈ paths, ∀ second ∈ paths,
            ((disk.lastChange? first).getD 0 < (disk.lastChange? second).getD 0 ↔
              (other.lastChange? first).getD 0 < (other.lastChange? second).getD 0) := by
          intro first inPaths second inPathsToo
          obtain ⟨isThere, place, reachesFirst⟩ := member first inPaths
          obtain ⟨isThereToo, placeToo, reachesSecond⟩ := member second inPathsToo
          rw [sound.lt_iff_older reachesFirst reachesSecond isThere isThereToo]
          rw [alike.isSome_lastChange? sound soundToo reachesFirst] at isThere
          rw [alike.isSome_lastChange? sound soundToo reachesSecond] at isThereToo
          rw [soundToo.lt_iff_older reachesFirst reachesSecond isThere isThereToo]
          exact alike.order reachesFirst.below reachesSecond.below
        rcases newest?_congr order with rfl | ⟨path, inPaths, newest, newestToo⟩
        · exact ⟨rfl, nofun⟩
        · rw [newest, newestToo]
          refine ⟨rfl, fun found isFound => ?_⟩
          obtain rfl := Except.ok.inj isFound
          exact member path inPaths

/-- What the bytes of a file say as a report. -/
def MutationReport.ofBytes (path : Path) (read : Except FileFault Text.Bytes) :
    Except MutationReportError (List MutantOutcome) :=
  match read with
  | .error fault => .error (.io path fault.message)
  | .ok bytes =>
      match Text.decode? bytes with
      | some text => parse text
      | none => .error (.io path "stream did not contain valid UTF-8")

theorem MutationReport.load_eq (path : Path) (disk : Disk) :
    load path disk = (ofBytes path (Disk.read path disk).1, disk) := by
  rcases reads : Disk.read path disk with ⟨answer, after⟩
  obtain rfl : disk = after := congrArg Prod.snd ((Disk.read_eq disk path).symm.trans reads)
  simp only [load, Disk.readText, ofBytes, bind, StateT.bind, reads]
  cases answer with
  | error fault => rfl
  | ok bytes =>
      dsimp only
      cases Text.decode? bytes <;> rfl

/-- **Collecting** the report is local. -/
theorem MutationReport.collect_local {before : Disk → Prop} (straight : ".." ∉ Path.names directory)
    (reaches : ground.Reaches directory ground.report) :
    Local ground before (collect directory) fun _ => before := by
  have run : ∀ disk, collect directory disk =
      ((find disk directory).bind fun path =>
        ofBytes path (Disk.read path disk).1, disk) := by
    intro disk
    simp only [collect, bind, StateT.bind, get, getThe, MonadStateOf.get, StateT.get, pure]
    cases find disk directory with
    | error error => rfl
    | ok path => exact load_eq path disk
  refine .look (fun disk => by rw [run]) fun {disk other} sound soundToo alike => ?_
  obtain ⟨same, found⟩ := find_eq sound soundToo alike straight reaches
  rw [run, run, ← same]
  cases report : find disk directory with
  | error error => rfl
  | ok path =>
      obtain ⟨isThere, place, reachesPath⟩ := found path report
      simp only [Except.bind, alike.read_eq sound soundToo reachesPath isThere]

end

end TestAmplification
