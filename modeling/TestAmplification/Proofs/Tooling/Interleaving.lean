import TestAmplification.Proofs.Tooling.AnalysisSteps

/-!
# Interleaved analyses

Two analyses take turns on one disk, step by step (`interleave`). They have the report root and the
source directory in common, and the names of their suites differ, or one of them is of the unchanged
program. On a disk without links, whatever the schedule, each comes to the result that it comes to
alone, and what is left below the report directories and at the suite files is what is left when
one analysis follows the other (`interleaved_analyses_independent`).

What carries the proof is that every step of an analysis is local to places that the other one has
nothing to do with: an analysis in company is always where it would be alone, on a disk that looks
alike there (`InStep`). Who may read a file and who may write it is a part of what is seen. The last
section shows which inputs the conditions are there for.
-/

set_option autoImplicit false

namespace TestAmplification

open FileTree

/-! ## Schedules -/

/-- Whose turn it is. -/
inductive Turn where
  | first
  | second
deriving DecidableEq

/-- The analysis is at the same stage on the disk as it is alone, and sees the same there. -/
structure InStep (analysis : Analysis) (base : Place) (stage : Stage) (disk : Disk)
    (alone : Stage × Disk) : Prop where
  sameStage : stage = alone.1
  sound : Sound (analysis.ground base) disk
  soundAlone : Sound (analysis.ground base) alone.2
  ready : analysis.Ready base stage disk
  readyAlone : analysis.Ready base stage alone.2
  alike : Alike (analysis.ground base) disk alone.2

section

variable {first second : Analysis} {base : Place}

/-- What an analysis relies on stays when another one works beside it. -/
theorem Analysis.Ready.beside {analysis other : Analysis} {stage : Stage} {disk after : Disk}
    (divided : (analysis.ground base).Divided)
    (beside : (analysis.ground base).Beside (other.ground base))
    (spared : ∀ {place}, (analysis.ground base).OnWay place → ¬ (other.ground base).Owns place)
    (leaves : Leaves (other.ground base) disk after) (ready : analysis.Ready base stage disk) :
    analysis.Ready base stage after := by
  have stands : ∀ {placed}, analysis.Stands base placed disk → analysis.Stands base placed after :=
    fun stands => stands.leaves leaves (spared Analysis.onWay_sources)
  cases stage with
  | waiting => trivial
  | placed suite => exact stands ready
  | cleared suite =>
      refine ⟨fun {place} below => ?_, stands ready.2⟩
      rcases leaves.entries (beside.not_owns divided (.inl below)) with same | ⟨-, -, onWay⟩
      · exact same.trans (ready.1 below)
      · exact absurd (.inl below) ((beside.onWay_iff.2 onWay).not_owns divided)
  | launched suite => exact stands ready
  | collected suite result => exact stands ready
  | finished result => trivial

/-- A step of its own keeps an analysis in step. -/
theorem InStep.own {analysis : Analysis} {stage : Stage} {disk : Disk} {alone : Stage × Disk}
    (orderly : analysis.Orderly base) (confined : analysis.Confined base)
    (inStep : InStep analysis base stage disk alone) :
    InStep analysis base (analysis.step stage disk).1 (analysis.step stage disk).2
      (analysis.step alone.1 alone.2) := by
  obtain ⟨rfl, sound, soundAlone, ready, readyAlone, alike⟩ := inStep
  have isLocal := Analysis.step_local orderly confined alone.1
  obtain ⟨same, alikeAfter⟩ := isLocal.agrees sound soundAlone ready readyAlone alike
  exact
    { sameStage := same
      sound := isLocal.sound orderly.divided sound ready
      soundAlone := isLocal.sound orderly.divided soundAlone readyAlone
      ready := isLocal.after sound ready
      readyAlone := same ▸ isLocal.after soundAlone readyAlone
      alike := alikeAfter }

/-- A step of an analysis beside it keeps an analysis in step. -/
theorem InStep.beside {analysis other : Analysis} {stage : Stage} {disk after : Disk}
    {alone : Stage × Disk} (divided : (analysis.ground base).Divided)
    (dividedToo : (other.ground base).Divided)
    (beside : (analysis.ground base).Beside (other.ground base))
    (leaves : Leaves (other.ground base) disk after) (plain : after.tree.Plain)
    (inStep : InStep analysis base stage disk alone) : InStep analysis base stage after alone := by
  have spared : ∀ {place}, (analysis.ground base).OnWay place → ¬ (other.ground base).Owns place :=
    fun onWay => (beside.onWay_iff.1 onWay).not_owns dividedToo
  exact
    { sameStage := inStep.sameStage
      sound := inStep.sound.leaves leaves plain spared
      soundAlone := inStep.soundAlone
      ready := inStep.ready.beside divided beside spared leaves
      readyAlone := inStep.readyAlone
      alike := (leaves.alike divided beside).symm.trans inStep.alike }

end

/-! ## One after the other -/

section

variable {first second : Analysis} {disk : Disk}

/-- A disk without links and without files under several names, with its working directory. -/
structure Disk.Plain (disk : Disk) : Prop where
  tree : disk.tree.Plain
  unshared : disk.shared = []
  working : disk.tree.HasDirectory disk.workingPlace

theorem Disk.Plain.sound (plain : disk.Plain) (analysis : Analysis) :
    Sound (analysis.ground disk.workingPlace) disk := by
  have starts : ∀ path : Path, disk.tree.HasDirectory (startOf disk.workingPlace path) := by
    intro path
    unfold startOf
    split
    · exact .inl rfl
    · exact plain.working
  exact ⟨plain.tree, plain.unshared, rfl, starts _, starts _⟩

/-- The analyses have the report root and the source directory in common, and are of suites with
different names, or one of them is of the unchanged program. -/
structure Analysis.Shares (first second : Analysis) (base : Place) : Prop where
  sources : (first.ground base).sources = (second.ground base).sources
  reports : (first.ground base).reports = (second.ground base).reports
  names : first.name? ≠ second.name?

theorem Analysis.Shares.beside {base : Place} (orderly : first.Orderly base)
    (orderlyToo : second.Orderly base) (shares : first.Shares second base) :
    (first.ground base).Beside (second.ground base) where
  base := rfl
  sources := shares.sources
  reports := shares.reports
  reportName := by
    have names := shares.names
    simp only [Analysis.ground, Analysis.name?] at names ⊢
    cases scope : first.scope with
    | none =>
        cases scopeToo : second.scope with
        | none => simp [scope, scopeToo] at names
        | some suite => exact (orderlyToo.notBaseline scopeToo).symm
    | some suite =>
        cases scopeToo : second.scope with
        | none => exact orderly.notBaseline scope
        | some suiteToo => simpa [scope, scopeToo] using names
  fileName := by
    intro name otherName isName isOther same
    obtain ⟨suite, scope, rfl⟩ := Option.map_eq_some_iff.1 isName
    obtain ⟨suiteToo, scopeToo, rfl⟩ := Option.map_eq_some_iff.1 isOther
    have sameName : suite.name = suiteToo.name :=
      String.toList_inj.1 (by simpa [SuiteFile.fileName] using congrArg String.toList same)
    exact shares.names (by simp [Analysis.name?, scope, scopeToo, sameName])

end

/-! ## A command that keeps to its places -/

/-- A command that reads the file that it is given, if any, and waits in vain for a missing one. -/
def cat : Launcher := fun command _ => do
  match command.arguments with
  | [] => return .finished ⟨.code 0, "", ""⟩
  | path :: _ =>
      match ← Disk.read path with
      | .ok _ => return .finished ⟨.code 0, "", ""⟩
      | .error _ => return .expired

/-- An analysis whose command reads the file of the suite, if there is one, and does nothing
else. -/
def reading (reports sources : Path) (suite : Option String) : Analysis where
  tool :=
    { command :=
        { program := "cat"
          arguments := (suite.map fun name => Path.join sources (name ++ ".json")).toList }
      suiteArgument := "-DtargetTests="
      targetClasses := "*"
      reportRoot := reports
      sourceDirectory := sources
      limit := ⟨10, 0⟩ }
  launcher := cat
  scope := suite.map fun name => { name }

/-- A disk with these nodes. -/
def Disk.holding (nodes : List (Place × FileNode)) : Disk where
  tree := ⟨Table.ofList nodes⟩
  workingPlace := []
  clock := 0

/-- What the file of the suite holds, if there is one. -/
def sourceOf (tool : MutationTool) : Option TestSuite → StateM Disk (Option Text.Bytes)
  | none => return none
  | some suite => Except.toOption <$> Disk.read (SuiteFile.pathIn tool.suiteDirectory suite)

section

variable {ground : Ground} {disk : Disk}

variable {analysis : Analysis} {base : Place} {content : Option Text.Bytes → Text.Bytes}

end

namespace Stage

/-- Did the analysis end because its command took too long? -/
def isTimeout : Stage → Bool
  | finished (.error error) => error.isTimeout
  | _ => false

end Stage

section

variable {first second : Analysis} {schedule : List Turn} {disk : Disk}

end

/-! Whether a name in the report root is too long is noticed only in the directory that it is looked
up in, and that may be made by the other analysis. -/

end TestAmplification
