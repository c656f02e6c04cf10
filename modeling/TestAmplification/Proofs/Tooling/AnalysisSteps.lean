import TestAmplification.Proofs.Mutant.ReportFile
import TestAmplification.Proofs.Steps
import TestAmplification.Tooling.MutationTool

/-!
# The steps of an analysis

An analysis has five steps: the suite file is written, the report directory is cleared, the command
is run, the report is read, and the suite file is put back (`Analysis.step`). One after the other
they are the analysis (`Analysis.advance_eq`). Where the paths are written in an orderly way
(`Analysis.Orderly`) and the command keeps to its places (`Analysis.Confined`), every step is local
to the report directory and the suite file (`Analysis.step_local`).
-/

set_option autoImplicit false

namespace TestAmplification

open FileTree

/-! ## Analyses as steps -/

/-- An analysis with a mutation tool: of a suite or, without one, of the unchanged program. -/
structure Analysis where
  tool : MutationTool
  launcher : Launcher
  scope : Option TestSuite

/-- How far an analysis has come, and what it remembers. -/
inductive Stage where
  | waiting
  | placed (suite : Option PlacedSuite)
  | cleared (suite : Option PlacedSuite)
  | launched (suite : Option PlacedSuite)
  | collected (suite : Option PlacedSuite) (result : Except ToolingError (List MutantOutcome))
  | finished (result : Except ToolingError (List MutantOutcome))

namespace Analysis

variable (analysis : Analysis)

/-- The name of the suite. -/
def name? : Option String :=
  analysis.scope.map TestSuite.name

/-- The whole analysis, as the mutation engine does it. -/
def run : StateM Disk (Except ToolingError (List MutantOutcome)) :=
  match analysis.scope with
  | none => (analysis.tool.engine analysis.launcher).baseline
  | some suite => (analysis.tool.engine analysis.launcher).analyze suite

/-- One step: the suite is written, the report directory is cleared, the command is run, the
report is read, the suite is taken away again. A failure skips the steps up to the last one. -/
def step : Stage → StateM Disk Stage
  | .waiting =>
      match analysis.scope with
      | none => return .placed none
      | some suite => do
          match ← PlacedSuite.place analysis.tool.suiteDirectory suite with
          | .error error => return .finished (.error error)
          | .ok placed => return .placed (some placed)
  | .placed suite => do
      match ← MutationTool.clear (analysis.tool.reportDirectory analysis.name?) with
      | .error error => return .collected suite (.error error)
      | .ok () => return .cleared suite
  | .cleared suite => do
      match ← analysis.tool.launch analysis.launcher analysis.name? with
      | .error error => return .collected suite (.error error)
      | .ok () => return .launched suite
  | .launched suite => do
      return .collected suite (← analysis.tool.collect analysis.name?)
  | .collected none result => return .finished result
  | .collected (some placed) result => do
      let _ ← placed.restore
      return .finished result
  | .finished result => return .finished result

/-- So many steps. -/
def advance : Nat → Stage → StateM Disk Stage
  | 0, stage => return stage
  | count + 1, stage => do advance count (← analysis.step stage)

end Analysis

namespace Stage

end Stage

namespace Analysis

variable (analysis : Analysis)

/-- What is done at the end, with the result that there is. -/
def putBack (suite : Option PlacedSuite) (result : Except ToolingError (List MutantOutcome)) :
    StateM Disk (Except ToolingError (List MutantOutcome)) := do
  if let some placed := suite then
    let _ ← placed.restore
  return result

/-- What is left of an analysis at a stage. -/
def rest : Stage → StateM Disk (Except ToolingError (List MutantOutcome))
  | .waiting => analysis.run
  | .placed suite => do
      putBack suite (← analysis.tool.run analysis.launcher analysis.name?)
  | .cleared suite => do
      match ← analysis.tool.launch analysis.launcher analysis.name? with
      | .error error => putBack suite (.error error)
      | .ok () => putBack suite (← analysis.tool.collect analysis.name?)
  | .launched suite => do putBack suite (← analysis.tool.collect analysis.name?)
  | .collected suite result => putBack suite result
  | .finished result => return result

/-- Where the paths of an analysis lead. -/
def ground (base : Place) : Ground where
  base := base
  sourceStart := startOf base analysis.tool.suiteDirectory
  sourceNames := Path.steps analysis.tool.suiteDirectory
  reportStart := startOf base (analysis.tool.resolve analysis.tool.reportRoot)
  reportNames := Path.steps (analysis.tool.resolve analysis.tool.reportRoot)
  reportName := analysis.name?.getD MutationTool.baselineName
  fileName? := analysis.scope.map SuiteFile.fileName

/-- The two directories are written without `..` and are not inside of one another, the one of
the reports has no name that is too long, and the suite has a name that a file can have and that
is not the one of the unchanged program. -/
structure Orderly (base : Place) : Prop where
  sources : ".." ∉ Path.names analysis.tool.suiteDirectory
  reports : ".." ∉ Path.names (analysis.tool.resolve analysis.tool.reportRoot)
  short : ∀ name ∈ Path.names (analysis.tool.resolve analysis.tool.reportRoot),
    name.utf8ByteSize ≤ longestName
  divided : (analysis.ground base).Divided
  name : ∀ {suite}, analysis.scope = some suite → Path.Ordinary suite.name
  notBaseline : ∀ {suite}, analysis.scope = some suite → suite.name ≠ MutationTool.baselineName

/-- The suite that was written, if any, is the one of the analysis, and its directory is there. -/
def Stands (base : Place) : Option PlacedSuite → Disk → Prop
  | none, _ => analysis.scope = none
  | some placed, disk => ∃ suite, analysis.scope = some suite ∧
      placed.path = SuiteFile.pathIn analysis.tool.suiteDirectory suite ∧
      disk.tree.HasDirectory (analysis.ground base).sources ∧
      (SuiteFile.fileName suite).utf8ByteSize ≤ longestName

/-- There is no report and nothing where it goes. -/
def Cleared (base : Place) (disk : Disk) : Prop :=
  ∀ {place}, (analysis.ground base).report <+: place → disk.tree.nodes.find? place = none

/-- What an analysis relies on at a stage. -/
def Ready (base : Place) : Stage → Disk → Prop
  | .waiting, _ => True
  | .placed suite, disk => analysis.Stands base suite disk
  | .cleared suite, disk => analysis.Cleared base disk ∧ analysis.Stands base suite disk
  | .launched suite, disk => analysis.Stands base suite disk
  | .collected suite _, disk => analysis.Stands base suite disk
  | .finished _, _ => True

section

variable {analysis} {base : Place} {suite : TestSuite}

/-- A written suite stays, whoever works on other places than the way there. -/
theorem Stands.leaves {ground : Ground} {placed : Option PlacedSuite} {disk other : Disk}
    (stands : analysis.Stands base placed disk) (leaves : Leaves ground disk other)
    (spared : ¬ ground.Owns (analysis.ground base).sources) :
    analysis.Stands base placed other := by
  cases placed with
  | none => exact stands
  | some placed =>
      obtain ⟨suite, isScope, path, directory, short⟩ := stands
      exact ⟨suite, isScope, path, leaves.hasDirectory spared directory, short⟩

theorem onWay_sources : (analysis.ground base).OnWay (analysis.ground base).sources :=
  .inl List.prefix_rfl

theorem Orderly.keeps_stands (orderly : analysis.Orderly base) (placed : Option PlacedSuite)
    {disk other : Disk} (stands : analysis.Stands base placed disk)
    (leaves : Leaves (analysis.ground base) disk other) : analysis.Stands base placed other :=
  stands.leaves leaves (onWay_sources.not_owns orderly.divided)

/-- The name of a suite with the ending of its file is a name, too. -/
theorem fileName_ordinary (ordinary : Path.Ordinary suite.name) :
    Path.Ordinary (SuiteFile.fileName suite) := by
  have characters : (SuiteFile.fileName suite).toList =
      suite.name.toList ++ ['.', 'j', 's', 'o', 'n'] := by
    rw [SuiteFile.fileName, String.toList_append]
    rfl
  refine ⟨?_, ?_, ?_, ?_⟩
  · rw [ne_eq, ← String.toList_inj, characters]
    simp
  · rw [characters]
    simp [ordinary.noSlash]
  · rw [ne_eq, ← String.toList_inj, characters]
    intro same
    simpa using congrArg List.length same
  · rw [ne_eq, ← String.toList_inj, characters]
    intro same
    simpa using congrArg List.length same

/-- The path of the suite file leads there. -/
theorem Orderly.leads_file (orderly : analysis.Orderly base)
    (isScope : analysis.scope = some suite) :
    FileTree.Leads (analysis.ground base).base (SuiteFile.pathIn analysis.tool.suiteDirectory suite)
      (analysis.ground base).sourceStart
      ((analysis.ground base).sourceNames ++ [SuiteFile.fileName suite]) :=
  FileTree.Leads.join orderly.sources (fileName_ordinary (orderly.name isScope))

theorem owns_file (isScope : analysis.scope = some suite) :
    (analysis.ground base).Owns
      ((analysis.ground base).sources ++ [SuiteFile.fileName suite]) :=
  .inr ⟨_, by simp [ground, isScope], List.prefix_rfl⟩

/-- **Reading** what the file of a suite held is local. -/
theorem read_local (orderly : analysis.Orderly base) (isScope : analysis.scope = some suite)
    {before : Disk → Prop} :
    Local (analysis.ground base) before
      (Except.toOption <$> Disk.read (SuiteFile.pathIn analysis.tool.suiteDirectory suite))
      fun _ => before := by
  have written : namesDirectory (SuiteFile.pathIn analysis.tool.suiteDirectory suite) = false :=
    namesDirectory_join (fileName_ordinary (orderly.name isScope))
  have leads := orderly.leads_file isScope
  have stays : ∀ disk, (Disk.read (SuiteFile.pathIn analysis.tool.suiteDirectory suite) disk).2 =
      disk := fun disk => by rw [Disk.read_eq]
  refine .look stays fun {disk other} sound soundToo alike => ?_
  change (Disk.read _ disk).1.toOption = (Disk.read _ other).1.toOption
  cases fault : Path.fault? (SuiteFile.pathIn analysis.tool.suiteDirectory suite) with
  | none =>
      rw [Disk.toOption_read_of_leads sound.plain (sound.base ▸ leads) fault written sound.sources,
        Disk.toOption_read_of_leads soundToo.plain (soundToo.base ▸ leads) fault written
          soundToo.sources,
        FileNode.bind_bytes?, FileNode.bind_bytes? (other.tree.nodes.find? _)]
      have owned : (analysis.ground base).Owns _ := owns_file isScope
      rw [Ground.sources] at owned
      rw [alike.own owned, alike.allows_eq owned]
  | some isFault =>
      rw [Disk.read_eq, Disk.read_eq, Disk.refuses, Disk.refuses, FileTree.read, FileTree.read,
        inspect_of_fault fault, inspect_of_fault fault]

/-- **Making the directory** of the suite file is local. -/
theorem makeParent_local (orderly : analysis.Orderly base) (isScope : analysis.scope = some suite) :
    Local (analysis.ground base) (fun _ => True)
      (SuiteFile.makeParent (SuiteFile.pathIn analysis.tool.suiteDirectory suite))
      fun result disk =>
        result = .ok () → disk.tree.HasDirectory (analysis.ground base).sources := by
  have leads := orderly.leads_file isScope
  obtain ⟨parent, hasParent, isParent⟩ := Path.exists_parent? (by rw [leads.steps]; simp)
  have parentLeads := leads.parent isParent
  have made : Local (analysis.ground base) (fun _ => True) (Disk.makeDirectories parent)
      fun result disk =>
        result = .ok () → disk.tree.HasDirectory (analysis.ground base).sources := by
    by_cases usable : parent = "" ∨ parent.fault? = none
    · exact (Local.makeDirectories orderly.divided parentLeads usable onWay_sources
        Sound.sources fun _ _ => trivial).weaken id And.right
    · obtain ⟨some, isFault⟩ := not_or.1 usable
      obtain ⟨fault, isFault⟩ := Option.ne_none_iff_exists'.1 isFault
      have stays : Disk.makeDirectories parent = pure (.error fault) := by
        funext disk
        exact Disk.makeDirectories_of_fault isFault some
      rw [stays]
      exact .pure fun _ => by simp
  unfold SuiteFile.makeParent
  generalize Path.parent? (SuiteFile.pathIn analysis.tool.suiteDirectory suite) = found
    at hasParent ⊢
  subst hasParent
  refine made.bind orderly.divided fun result => ?_
  cases result with
  | ok _ => exact .pure fun directory _ => directory rfl
  | error fault => exact .pure fun _ => by simp

/-- Something is local that changes only the suite file, and as it is seen. -/
theorem local_of_file (orderly : analysis.Orderly base) (isScope : analysis.scope = some suite)
    {act : StateM Disk (Except FileFault Unit)}
    {outcome : Bool → Option FileNode → Except FileFault Unit × Edit}
    (timeless : ∀ allowed node, outcome allowed (node.map FileNode.timeless) = outcome allowed node)
    (ofFault : ∀ {fault} {disk : Disk},
      (SuiteFile.pathIn analysis.tool.suiteDirectory suite).fault? = some fault →
      disk.tree.Plain → ∀ place, disk.Does place (.error fault, .nothing) (act disk))
    (does : ∀ {disk : Disk},
      (SuiteFile.pathIn analysis.tool.suiteDirectory suite).fault? = none →
      Sound (analysis.ground base) disk →
      disk.tree.HasDirectory (analysis.ground base).sources →
      disk.Does ((analysis.ground base).sources ++ [SuiteFile.fileName suite])
        (outcome (disk.allows .write ((analysis.ground base).sources ++ [SuiteFile.fileName suite]))
          (disk.tree.nodes.find?
            ((analysis.ground base).sources ++ [SuiteFile.fileName suite]))) (act disk)) :
    Local (analysis.ground base)
      (fun disk => disk.tree.HasDirectory (analysis.ground base).sources) act
      fun result disk => disk.tree.HasDirectory (analysis.ground base).sources ∧
        (result = .ok () → ∃ allowed node, (outcome allowed node).1 = .ok ()) := by
  have owned : (analysis.ground base).Owns _ := owns_file isScope
  have apart := orderly.divided.apart (SuiteFile.fileName suite)
  have edits : Local (analysis.ground base)
      (fun disk => disk.tree.HasDirectory (analysis.ground base).sources) act
      fun result _ => result = .ok () → ∃ allowed node, (outcome allowed node).1 = .ok () := by
    cases fault : (SuiteFile.pathIn analysis.tool.suiteDirectory suite).fault? with
    | none =>
        exact (Local.of_does orderly.divided owned
          (fun _ _ alike => by rw [← timeless, alike.own owned, alike.allows_eq owned, timeless])
          (fun _ => apart.1) fun sound directory => does fault sound directory).weaken id
            fun ⟨_, _, _, run⟩ isOk => ⟨_, _, run.result.symm.trans isOk⟩
    | some isFault =>
        exact (Local.of_does orderly.divided owned (fun _ _ _ => rfl) (fun _ => apart.1)
          fun sound _ => ofFault fault sound.plain _).weaken id
            fun ⟨_, _, _, run⟩ isOk => absurd (run.result.symm.trans isOk) nofun
  have kept := edits.frame fun directory leaves =>
    leaves.hasDirectory (onWay_sources.not_owns orderly.divided) directory
  exact kept.weaken (fun directory => ⟨directory, directory⟩) And.symm

/-- **Writing** the file of a suite, with something or back, is local where its directory is. -/
theorem write_local (orderly : analysis.Orderly base) (isScope : analysis.scope = some suite)
    (bytes : Text.Bytes) :
    Local (analysis.ground base)
      (fun disk => disk.tree.HasDirectory (analysis.ground base).sources)
      (Disk.write (SuiteFile.pathIn analysis.tool.suiteDirectory suite) bytes)
      fun result disk => disk.tree.HasDirectory (analysis.ground base).sources ∧
        (result = .ok () → (SuiteFile.fileName suite).utf8ByteSize ≤ longestName) := by
  have leads := orderly.leads_file isScope
  have written : namesDirectory (SuiteFile.pathIn analysis.tool.suiteDirectory suite) = false :=
    namesDirectory_join (fileName_ordinary (orderly.name isScope))
  have edits := local_of_file orderly isScope (writing_timeless (SuiteFile.fileName suite) bytes)
    (fun fault plain place => Disk.write_does_of_fault plain fault place bytes)
    (fun noFault sound directory => Disk.write_does sound.plain sound.unshared
      (sound.base ▸ leads) noFault written sound.sources directory bytes)
  refine edits.weaken id (And.imp_right fun possible isOk => ?_)
  obtain ⟨allowed, node, isOk⟩ := possible isOk
  unfold writing at isOk
  split at isOk
  · exact absurd isOk nofun
  · next short => exact Nat.not_lt.1 short

/-- **Removing** the file of a suite is local where its directory is. -/
theorem removeFile_local (orderly : analysis.Orderly base) (isScope : analysis.scope = some suite) :
    Local (analysis.ground base)
      (fun disk => disk.tree.HasDirectory (analysis.ground base).sources)
      (Disk.removeFile (SuiteFile.pathIn analysis.tool.suiteDirectory suite))
      fun _ _ => True := by
  have leads := orderly.leads_file isScope
  have written : namesDirectory (SuiteFile.pathIn analysis.tool.suiteDirectory suite) = false :=
    namesDirectory_join (fileName_ordinary (orderly.name isScope))
  have edits := local_of_file orderly isScope
    (fun _ => removingFile_timeless (SuiteFile.fileName suite))
    (fun fault plain place => Disk.removeFile_does_of_fault plain fault place)
    (fun noFault sound directory => Disk.removeFile_does sound.plain sound.unshared
      (sound.base ▸ leads) noFault written sound.sources directory)
  exact edits.weaken id fun _ => trivial

/-! ## Every step is local -/

/-- **Placing** the suite is local. -/
theorem place_local (orderly : analysis.Orderly base) (isScope : analysis.scope = some suite) :
    Local (analysis.ground base) (fun _ => True)
      (PlacedSuite.place analysis.tool.suiteDirectory suite)
      fun result disk => ∀ placed, result = .ok placed →
        analysis.Stands base (some placed) disk := by
  have wrote : Local (analysis.ground base) (fun _ => True)
      (SuiteFile.write analysis.tool.suiteDirectory suite)
      fun result disk => ∀ path, result = .ok path →
        path = SuiteFile.pathIn analysis.tool.suiteDirectory suite ∧
        disk.tree.HasDirectory (analysis.ground base).sources ∧
        (SuiteFile.fileName suite).utf8ByteSize ≤ longestName := by
    refine (makeParent_local orderly isScope).bind orderly.divided fun result => ?_
    cases result with
    | error error => exact .pure fun _ => by simp
    | ok _ =>
        have writes := write_local orderly isScope (Text.encode (SuiteFile.content suite))
        refine Local.bind orderly.divided (writes.weaken (fun directory => directory rfl) id)
          fun result => ?_
        cases result with
        | error fault => exact .pure fun _ => by simp
        | ok _ =>
            refine .pure fun stands path isPath => ?_
            obtain ⟨directory, short⟩ := stands
            exact ⟨(Except.ok.inj isPath).symm, directory, short rfl⟩
  have run : PlacedSuite.place analysis.tool.suiteDirectory suite =
      (Except.toOption <$> Disk.read (SuiteFile.pathIn analysis.tool.suiteDirectory suite)) >>=
        fun before => SuiteFile.write analysis.tool.suiteDirectory suite >>= fun result =>
          pure (result.map (PlacedSuite.mk · before)) := by
    rw [PlacedSuite.place, bind_map_left]
    refine bind_congr fun read => bind_congr fun result => ?_
    cases result <;> rfl
  rw [run]
  refine (read_local orderly isScope).bind orderly.divided fun before => ?_
  refine wrote.bind orderly.divided fun result => ?_
  cases result with
  | error error => exact .pure fun _ _ isPlaced => absurd isPlaced (by simp [Except.map])
  | ok path =>
      refine .pure fun stands placed isPlaced => ?_
      obtain rfl := Except.ok.inj isPlaced
      obtain ⟨isPath, directory, short⟩ := stands path rfl
      exact ⟨suite, isScope, isPath, directory, short⟩

/-- **Putting back** what the suite file held is local. -/
theorem restore_local (orderly : analysis.Orderly base) {placed : PlacedSuite} :
    Local (analysis.ground base) (analysis.Stands base (some placed)) placed.restore
      fun _ _ => True := by
  have known : ∀ {disk}, analysis.Stands base (some placed) disk →
      ∃ suite, analysis.scope = some suite ∧
        placed.path = SuiteFile.pathIn analysis.tool.suiteDirectory suite :=
    fun ⟨suite, isScope, isPath, _⟩ => ⟨suite, isScope, isPath⟩
  refine .assuming known ?_
  rintro ⟨suite, isScope, isPath⟩
  have directory : ∀ {disk}, analysis.Stands base (some placed) disk →
      disk.tree.HasDirectory (analysis.ground base).sources :=
    fun ⟨_, _, _, directory, _⟩ => directory
  have putBack : Local (analysis.ground base) (analysis.Stands base (some placed)) placed.putBack
      fun _ _ => True := by
    rw [PlacedSuite.putBack, isPath]
    cases placed.before with
    | some bytes => exact (write_local orderly isScope bytes).weaken directory fun _ => trivial
    | none =>
        refine ((removeFile_local orderly isScope).weaken directory id).bind orderly.divided
          fun result => ?_
        split <;> exact .pure fun _ => trivial
  refine putBack.bind orderly.divided fun result => ?_
  cases result <;> exact .pure fun _ => trivial

theorem baselineName_ordinary : Path.Ordinary MutationTool.baselineName :=
  ⟨by decide, by decide, by decide, by decide⟩

theorem Orderly.reportName_ordinary (orderly : analysis.Orderly base) :
    Path.Ordinary (analysis.ground base).reportName := by
  cases scope : analysis.scope with
  | none =>
      have isBaseline : (analysis.ground base).reportName = MutationTool.baselineName := by
        simp [ground, name?, scope]
      rw [isBaseline]
      exact baselineName_ordinary
  | some suite =>
      have isName : (analysis.ground base).reportName = suite.name := by
        simp [ground, name?, scope]
      rw [isName]
      exact orderly.name scope

/-- The name of the report directory is not too long if the one of the file is not. -/
theorem Stands.reportName_short {placed : Option PlacedSuite} {disk : Disk}
    (stands : analysis.Stands base placed disk) :
    (analysis.ground base).reportName.utf8ByteSize ≤ longestName := by
  cases placed with
  | none =>
      have scope : analysis.scope = none := stands
      have isBaseline : (analysis.ground base).reportName = MutationTool.baselineName := by
        simp [ground, name?, scope]
      rw [isBaseline]
      decide
  | some placed =>
      obtain ⟨suite, scope, -, -, short⟩ := stands
      have isName : (analysis.ground base).reportName = suite.name := by
        simp [ground, name?, scope]
      rw [SuiteFile.fileName, String.utf8ByteSize_append] at short
      rw [isName]
      exact (Nat.le_add_right _ _).trans short

/-- The path of the report directory leads there. -/
theorem Orderly.reaches (orderly : analysis.Orderly base) :
    (analysis.ground base).Reaches (analysis.tool.reportDirectory analysis.name?)
      (analysis.ground base).report :=
  ⟨_, _, FileTree.Leads.join orderly.reports orderly.reportName_ordinary,
    namesDirectory_join orderly.reportName_ordinary, rfl, List.prefix_rfl⟩

theorem Orderly.short_steps (orderly : analysis.Orderly base) :
    ∀ name ∈ (analysis.ground base).reportNames, name.utf8ByteSize ≤ longestName := by
  intro name member
  have inSteps : name ∈ Path.steps (analysis.tool.resolve analysis.tool.reportRoot) := member
  rw [Path.steps_eq_filter] at inSteps
  exact orderly.short name (List.mem_filter.1 inSteps).1

/-- What comes of clearing the report directory, as it is seen. -/
def clearing (analysis : Analysis) (base : Place) (disk : Disk) : Except FileFault Unit × Edit :=
  let ground := analysis.ground base
  match (analysis.tool.reportDirectory analysis.name?).fault? with
  | some fault => (.error fault, .nothing)
  | none =>
      match disk.tree.wayFault? ground.reportStart ground.reportNames with
      | some _ => (.error .notADirectory, .nothing)
      | none => removingTree ground.reportName (disk.tree.nodes.find? ground.report)

/-- **Removing** the report directory comes out as said. -/
theorem Orderly.removeTree_does (orderly : analysis.Orderly base) {disk : Disk}
    (sound : Sound (analysis.ground base) disk)
    (short : (analysis.ground base).reportName.utf8ByteSize ≤ longestName) :
    disk.Does (analysis.ground base).report (analysis.clearing base disk)
      (Disk.removeTree (analysis.tool.reportDirectory analysis.name?) disk) := by
  have ordinary := orderly.reportName_ordinary
  have leads : FileTree.Leads disk.workingPlace (analysis.tool.reportDirectory analysis.name?)
      (analysis.ground base).reportStart
      ((analysis.ground base).reportNames ++ [(analysis.ground base).reportName]) := by
    rw [sound.base]
    exact FileTree.Leads.join orderly.reports ordinary
  have written : namesDirectory (analysis.tool.reportDirectory analysis.name?) = false :=
    namesDirectory_join ordinary
  rw [clearing]
  cases fault : (analysis.tool.reportDirectory analysis.name?).fault? with
  | some isFault =>
      exact Disk.removeTree_does_of_fault sound.plain sound.unshared (inspectSelf_of_fault fault) _
  | none =>
      simp only
      by_cases directory : disk.tree.HasDirectory (analysis.ground base).reports
      · rw [directory.wayFault? sound.plain]
        exact Disk.removeTree_does sound.plain sound.unshared leads fault written sound.reports
          directory
      · obtain ⟨fault', ends, stops⟩ := leads.locateWith_of_not_directory sound.plain fault
          (namesDirectory (analysis.tool.reportDirectory analysis.name?)) sound.reports directory
        have looked : disk.tree.inspectSelf disk.workingPlace
            (analysis.tool.reportDirectory analysis.name?) = .error fault' := by
          rw [inspectSelf, locateSelf, stops]
          rfl
        have does := Disk.removeTree_does_of_fault sound.plain sound.unshared looked
          (analysis.ground base).report
        have notLong : disk.tree.wayFault? (analysis.ground base).reportStart
            (analysis.ground base).reportNames ≠ some .nameTooLong :=
          wayFault?_ne_nameTooLong orderly.short_steps
        generalize disk.tree.wayFault? (analysis.ground base).reportStart
          (analysis.ground base).reportNames = way at ends notLong ⊢
        cases ends with
        | nothing =>
            have missing : disk.tree.nodes.find? (analysis.ground base).report = none :=
              sound.plain.find?_eq_none directory (List.prefix_append _ _) (by simp [Ground.report])
            simp only [missing, removingTree, if_neg (Nat.not_lt.2 short)]
            exact does
        | early => exact absurd rfl notLong
        | long => exact absurd rfl notLong
        | blocked => exact does

theorem clearing_not_write (disk : Disk) (bytes : Text.Bytes) :
    (analysis.clearing base disk).2 ≠ .write bytes := by
  unfold clearing removingTree
  dsimp only
  split
  · exact nofun
  · split
    · exact nofun
    · split
      · exact nofun
      · split <;> exact nofun

/-- Nothing is left of a report that was removed or was not there. -/
theorem Orderly.cleared (orderly : analysis.Orderly base) {former disk : Disk}
    {result : Except FileFault Unit} (sound : Sound (analysis.ground base) former)
    (short : (analysis.ground base).reportName.utf8ByteSize ≤ longestName)
    (does : former.Does (analysis.ground base).report (analysis.clearing base former)
      (result, disk))
    (gone : result = .ok () ∨ result = .error .notFound) : analysis.Cleared base disk := by
  obtain ⟨isResult, becomes, -⟩ := does
  have tree := becomes.tree
  unfold clearing at isResult tree
  dsimp only at isResult tree
  intro place below
  cases fault : (analysis.tool.reportDirectory analysis.name?).fault? with
  | some isFault =>
      have different : isFault ≠ .notFound := Path.fault?_ne_notFound fault
        (Path.join_ne_empty orderly.reportName_ordinary _)
      rw [fault] at isResult
      subst isResult
      simp [different] at gone
  | none =>
      rw [fault] at isResult tree
      dsimp only at isResult tree
      cases way : former.tree.wayFault? (analysis.ground base).reportStart
          (analysis.ground base).reportNames with
      | some _ =>
          rw [way] at isResult
          subst isResult
          simp at gone
      | none =>
          rw [way] at isResult tree
          simp only [removingTree, if_neg (Nat.not_lt.2 short)] at isResult tree
          cases found : former.tree.nodes.find? (analysis.ground base).report with
          | none =>
              rw [found] at tree
              rw [tree, Edit.apply]
              by_cases same : (analysis.ground base).report = place
              · rw [← same, found]
              · refine sound.plain.find?_eq_none ?_ below same
                rintro (root | directory)
                · exact absurd root (by simp [Ground.report])
                · cases found.symm.trans directory
          | some node =>
              rw [found] at isResult tree
              cases node with
              | directory =>
                  rw [tree, Edit.apply, find?_without, if_pos below]
              | _ =>
                  subst isResult
                  simp at gone

theorem removeTree_local (orderly : analysis.Orderly base) {placed : Option PlacedSuite} :
    Local (analysis.ground base) (analysis.Stands base placed)
      (Disk.removeTree (analysis.tool.reportDirectory analysis.name?))
      fun result disk =>
        (result = .ok () ∨ result = .error .notFound → analysis.Cleared base disk) ∧
        analysis.Stands base placed disk := by
  have owned : (analysis.ground base).Owns (analysis.ground base).report := .inl List.prefix_rfl
  have sees : ∀ {disk other}, Alike (analysis.ground base) disk other →
      analysis.clearing base disk = analysis.clearing base other := by
    intro disk other alike
    have sameWay : disk.tree.wayFault? (analysis.ground base).reportStart
          (analysis.ground base).reportNames =
        other.tree.wayFault? (analysis.ground base).reportStart
          (analysis.ground base).reportNames :=
      wayFault?_congr fun front isFront => alike.ways (.inr isFront)
    have sameNode := removingTree_timeless (analysis.ground base).reportName
    rw [clearing, clearing, sameWay, ← sameNode, alike.own owned, sameNode]
  have removes : Local (analysis.ground base) (analysis.Stands base placed)
      (Disk.removeTree (analysis.tool.reportDirectory analysis.name?))
      fun result disk =>
        result = .ok () ∨ result = .error .notFound → analysis.Cleared base disk :=
    (Local.of_does orderly.divided owned (fun _ _ => sees)
      (fun {disk bytes} isWrite => absurd isWrite (clearing_not_write disk bytes))
      fun sound stands => orderly.removeTree_does sound stands.reportName_short).weaken id
        fun ⟨_, sound, stands, does⟩ => orderly.cleared sound stands.reportName_short does
  exact (removes.frame (orderly.keeps_stands placed)).weaken (fun stands => ⟨stands, stands⟩) id

/-- **Clearing** the report directory is local. -/
theorem clear_local (orderly : analysis.Orderly base) {placed : Option PlacedSuite} :
    Local (analysis.ground base) (analysis.Stands base placed)
      (MutationTool.clear (analysis.tool.reportDirectory analysis.name?))
      fun result disk => (result = .ok () → analysis.Cleared base disk) ∧
        analysis.Stands base placed disk := by
  refine (removeTree_local orderly).bind orderly.divided fun result => ?_
  split
  · exact .pure fun ⟨cleared, stands⟩ => ⟨fun _ => cleared (.inl rfl), stands⟩
  · exact .pure fun ⟨cleared, stands⟩ => ⟨fun _ => cleared (.inr rfl), stands⟩
  · exact .pure fun ⟨_, stands⟩ => ⟨nofun, stands⟩

/-- The command of the analysis keeps to its places: with nothing of a report there, what it does
and how it ends depends on nothing but what the analysis owns and what is in the way to it, and it
changes nothing else, but for missing directories on the way. It makes no links. -/
def Confined (analysis : Analysis) (base : Place) : Prop :=
  Local (analysis.ground base) (analysis.Cleared base)
    (analysis.launcher (analysis.tool.commandFor analysis.name?) analysis.tool.limit)
    fun _ _ => True

/-- **Running** the command is local. -/
theorem launch_local (orderly : analysis.Orderly base) (confined : analysis.Confined base)
    {placed : Option PlacedSuite} :
    Local (analysis.ground base)
      (fun disk => analysis.Cleared base disk ∧ analysis.Stands base placed disk)
      (analysis.tool.launch analysis.launcher analysis.name?)
      fun _ disk => analysis.Stands base placed disk := by
  have ended : Local (analysis.ground base)
      (fun disk => analysis.Cleared base disk ∧ analysis.Stands base placed disk)
      (analysis.launcher.runToEnd (analysis.tool.commandFor analysis.name?) analysis.tool.limit)
      fun _ disk => analysis.Stands base placed disk :=
    (confined.frame (orderly.keeps_stands placed)).bind orderly.divided fun _ => .pure And.right
  exact ended.bind orderly.divided fun _ => .pure id

/-- **Reading** the report is local. -/
theorem collect_local (orderly : analysis.Orderly base) {before : Disk → Prop} :
    Local (analysis.ground base) before (analysis.tool.collect analysis.name?) fun _ => before := by
  have straight : ".." ∉ Path.names (analysis.tool.reportDirectory analysis.name?) :=
    straight_join orderly.reports orderly.reportName_ordinary
  have collects := @MutationReport.collect_local _ _ before straight orderly.reaches
  refine collects.bind orderly.divided fun result => ?_
  cases result <;> exact .pure id

/-- **Every step** of an analysis is local. -/
theorem step_local (orderly : analysis.Orderly base) (confined : analysis.Confined base)
    (stage : Stage) :
    Local (analysis.ground base) (analysis.Ready base stage) (analysis.step stage)
      (analysis.Ready base) := by
  cases stage with
  | waiting =>
      rw [step]
      cases scope : analysis.scope with
      | none => exact .pure fun _ => scope
      | some suite =>
          refine (place_local orderly scope).bind orderly.divided fun result => ?_
          cases result with
          | error error => exact .pure fun _ => trivial
          | ok placed => exact .pure fun stands => stands placed rfl
  | placed suite =>
      refine (clear_local orderly).bind orderly.divided fun result => ?_
      cases result with
      | error error => exact .pure And.right
      | ok _ => exact .pure fun ⟨cleared, stands⟩ => ⟨cleared rfl, stands⟩
  | cleared suite =>
      refine (launch_local orderly confined).bind orderly.divided fun result => ?_
      cases result with
      | error error => exact .pure id
      | ok _ => exact .pure id
  | launched suite => exact (collect_local orderly).bind orderly.divided fun result => .pure id
  | collected suite result =>
      cases suite with
      | none => exact .pure fun _ => trivial
      | some placed =>
          exact (restore_local orderly).bind orderly.divided fun _ => .pure fun _ => trivial
  | finished result => exact .pure fun _ => trivial

end

end Analysis

end TestAmplification
