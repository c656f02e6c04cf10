import TestAmplification.Proofs.Files.Lexical
import TestAmplification.Proofs.Files.Linked
import TestAmplification.Proofs.Tooling.AnalysisSteps

/-!
# Report directories

A run of the mutation engine removes its report directory before it starts its command, and apart
from the command it does nothing else to the disk (`MutationTool.run_disk`). The directory has the
name of the suite below the report root, or a name of its own for the unchanged program, and the
name of a suite is any text.

Whether that directory lies strictly below the root, whatever the root, is a matter of the name
alone: the name must lead somewhere, and never up beyond the root (`MutationTool.below_root_iff`).
So it does for the names of suites as programs have them. It does not for an empty name or a dot,
which stand for the root itself, for an absolute one, and for one with too many `..`. And two runs
have nothing to do with one another just if neither name leads to or through what the other leads to
(`MutationTool.apart_iff`), which fails for a suite with the name that is meant for the unchanged
program, and for a suite whose name continues that of another one behind a slash
(`MutationTool.report_directories_shared`).
-/

set_option autoImplicit false

namespace TestAmplification

open FileTree

/-- The place is below the other one, and is not that one. -/
def Place.StrictlyBelow (place root : Place) : Prop :=
  root <+: place ∧ place ≠ root

theorem Place.strictlyBelow_append_iff {root way : Place} :
    Place.StrictlyBelow (root ++ way) root ↔ way ≠ [] := by
  simp [Place.StrictlyBelow]

theorem Place.apart_append_iff {root first second : Place} :
    Place.Apart (root ++ first) (root ++ second) ↔ Place.Apart first second := by
  simp [Place.Apart, List.prefix_append_right_inj]

/-! ## What a run does to the disk -/

theorem MutationReport.collect_disk (directory : Path) (disk : Disk) :
    (MutationReport.collect directory disk).2 = disk := by
  simp only [MutationReport.collect, bind, StateT.bind, get, getThe, MonadStateOf.get, StateT.get,
    pure]
  cases MutationReport.find disk directory with
  | error error => rfl
  | ok path => exact congrArg Prod.snd (MutationReport.load_eq path disk)

namespace MutationTool

variable (tool : MutationTool) (launcher : Launcher) (scope : Option String)

theorem clear_disk (directory : Path) (disk : Disk) :
    (clear directory disk).2 = (Disk.removeTree directory disk).2 := by
  simp only [clear, StateM.bind_apply]
  cases (Disk.removeTree directory disk).1 with
  | ok _ => rfl
  | error fault => cases fault <;> rfl

/-- **A run** clears its report directory and has its command run. -/
theorem run_disk (disk : Disk) :
    (tool.run launcher scope disk).2 =
      match (clear (tool.reportDirectory scope) disk).1 with
      | .error _ => (clear (tool.reportDirectory scope) disk).2
      | .ok () =>
          (launcher (tool.commandFor scope) tool.limit
            (clear (tool.reportDirectory scope) disk).2).2 := by
  simp only [run, StateM.bind_apply]
  cases (clear (tool.reportDirectory scope) disk).1 with
  | error error => rfl
  | ok _ =>
      have launched : (tool.launch launcher scope (clear (tool.reportDirectory scope) disk).2).2 =
          (launcher (tool.commandFor scope) tool.limit
            (clear (tool.reportDirectory scope) disk).2).2 := rfl
      simp only [StateM.bind_apply, ← launched]
      cases (tool.launch launcher scope (clear (tool.reportDirectory scope) disk).2).1 with
      | error error => rfl
      | ok _ =>
          have collected := MutationReport.collect_disk (tool.reportDirectory scope)
            (tool.launch launcher scope (clear (tool.reportDirectory scope) disk).2).2
          simp only [collect, StateM.bind_apply]
          cases (MutationReport.collect (tool.reportDirectory scope)
            (tool.launch launcher scope (clear (tool.reportDirectory scope) disk).2).2).1 <;>
            exact collected

/-- **Clearing** takes away what is at the place that the path leads to and below it. -/
theorem find?_clear (directory : Path) (disk : Disk) (place : Place) :
    (clear directory disk).2.tree.nodes.find? place = disk.tree.nodes.find? place ∨
      (clear directory disk).2.tree.nodes.find? place = none ∧
        ∃ report, disk.tree.locateSelf disk.workingPlace directory = .ok report ∧
          report <+: place := by
  rw [clear_disk, Disk.removeTree_eq]
  cases leads : disk.tree.locateSelf disk.workingPlace directory with
  | error fault => exact .inl (by rw [removeTree_of_fault leads])
  | ok report =>
      exact (goneBelow_removeTree leads place).imp_right fun ⟨gone, below⟩ =>
        ⟨gone, report, rfl, below⟩

/-! ## Where report directories are -/

/-- Where the report directories are, by the way the path is written. -/
def reportRootFrom (base : Place) : Place :=
  (tool.resolve tool.reportRoot).placeFrom base

/-- Where the report directory of a scope is, by the way its path is written. -/
def reportPlaceFrom (base : Place) (scope : Option String) : Place :=
  (tool.reportDirectory scope).placeFrom base

/-- The way from the report root to the report directory of a scope; nothing if it leads up beyond
the root. -/
def reportWay? (scope : Option String) : Option Place :=
  Path.way? (scope.getD baselineName)

variable {tool scope} {base : Place} {second : Option String} {way wayToo : Place}

theorem reportPlaceFrom_of_way (hasWay : reportWay? scope = some way) :
    tool.reportPlaceFrom base scope = tool.reportRootFrom base ++ way :=
  Path.placeFrom_join_of_way hasWay base _

/-- **Below every root** is a report directory just if the name leads somewhere and never up beyond
the root. -/
theorem below_root_iff :
    (∀ (tool : MutationTool) (base : Place),
      (tool.reportPlaceFrom base scope).StrictlyBelow (tool.reportRootFrom base)) ↔
      ∃ way, way ≠ [] ∧ reportWay? scope = some way := by
  constructor
  · intro always
    -- With an empty root path the root is where the tool is, and that may be anywhere.
    let bare : MutationTool := ⟨⟨"", [], none⟩, "", "", "", "", ⟨0, 0⟩⟩
    have below : ∀ base : Place,
        (Path.placeFrom base (scope.getD baselineName)).StrictlyBelow base := by
      intro base
      have inBase := always bare base
      have same : bare.reportDirectory scope = scope.getD baselineName := Path.join_empty _
      rwa [reportPlaceFrom, same] at inBase
    cases hasWay : reportWay? scope with
    | none =>
        obtain ⟨base, notBelow⟩ := Path.exists_not_below hasWay
        exact absurd (below base) notBelow
    | some way =>
        refine ⟨way, ?_, rfl⟩
        have inBase := always bare []
        rwa [reportPlaceFrom_of_way hasWay, Place.strictlyBelow_append_iff] at inBase
  · rintro ⟨way, notEmpty, hasWay⟩ tool base
    rw [reportPlaceFrom_of_way hasWay, Place.strictlyBelow_append_iff]
    exact notEmpty

/-- **Apart** are the report directories of two scopes just if their ways are. -/
theorem apart_iff (hasWay : reportWay? scope = some way)
    (hasWayToo : reportWay? second = some wayToo) :
    Place.Apart (tool.reportPlaceFrom base scope) (tool.reportPlaceFrom base second) ↔
      Place.Apart way wayToo := by
  rw [reportPlaceFrom_of_way hasWay, reportPlaceFrom_of_way hasWayToo, Place.apart_append_iff]

/-- The scope is the unchanged program or a suite with an ordinary name of its own. -/
def IsOrdinary (scope : Option String) : Prop :=
  ∀ name ∈ scope, Path.Ordinary name ∧ name ≠ baselineName

theorem IsOrdinary.reportWay?_eq (ordinary : IsOrdinary scope) :
    reportWay? scope = some [scope.getD baselineName] := by
  refine Path.Ordinary.way?_eq ?_
  cases scope with
  | none => exact Analysis.baselineName_ordinary
  | some name => exact (ordinary name rfl).1

theorem IsOrdinary.getD_ne (ordinary : IsOrdinary scope) (ordinaryToo : IsOrdinary second)
    (different : scope ≠ second) : scope.getD baselineName ≠ second.getD baselineName := by
  cases scope with
  | none =>
      cases second with
      | none => exact absurd rfl different
      | some name => exact (ordinaryToo name rfl).2.symm
  | some name =>
      cases second with
      | none => exact (ordinary name rfl).2
      | some other => exact fun same => different (congrArg some same)

/-- **Report directories** are below the root and apart from one another where the names of suites
are ordinary and none is the name that is meant for the unchanged program. The first two parts say
for which names at all, and the last one that a run removes nothing else. -/
theorem report_directories_kept_apart (scope second : Option String) :
    ((∀ (tool : MutationTool) (base : Place),
      (tool.reportPlaceFrom base scope).StrictlyBelow (tool.reportRootFrom base)) ↔
      ∃ way, way ≠ [] ∧ reportWay? scope = some way) ∧
    (∀ {way wayToo : Place}, reportWay? scope = some way → reportWay? second = some wayToo →
      ∀ (tool : MutationTool) (base : Place),
        (Place.Apart (tool.reportPlaceFrom base scope) (tool.reportPlaceFrom base second) ↔
          Place.Apart way wayToo)) ∧
    (scope ≠ second → IsOrdinary scope → IsOrdinary second →
      ∀ (tool : MutationTool) (base : Place),
        (tool.reportPlaceFrom base scope).StrictlyBelow (tool.reportRootFrom base) ∧
        Place.Apart (tool.reportPlaceFrom base scope) (tool.reportPlaceFrom base second)) ∧
    ∀ (tool : MutationTool) (launcher : Launcher) (disk : Disk),
      ∃ cleared : Disk,
        ((tool.run launcher scope disk).2 = cleared ∨
          (tool.run launcher scope disk).2 =
            (launcher (tool.commandFor scope) tool.limit cleared).2) ∧
        ∀ place, cleared.tree.nodes.find? place = disk.tree.nodes.find? place ∨
          cleared.tree.nodes.find? place = none ∧
            ∃ report, disk.tree.locateSelf disk.workingPlace (tool.reportDirectory scope) =
                .ok report ∧
              report <+: place ∧
              (disk.tree.Plain → report = tool.reportPlaceFrom disk.workingPlace scope) := by
  refine ⟨below_root_iff, fun hasWay hasWayToo tool base => apart_iff hasWay hasWayToo, ?_, ?_⟩
  · intro different ordinary ordinaryToo tool base
    have hasWay := ordinary.reportWay?_eq
    refine ⟨below_root_iff.2 ⟨_, List.cons_ne_nil _ _, hasWay⟩ tool base, ?_⟩
    rw [apart_iff hasWay ordinaryToo.reportWay?_eq]
    exact @Place.apart_names [] _ _ (ordinary.getD_ne ordinaryToo different)
  · intro tool launcher disk
    refine ⟨(clear (tool.reportDirectory scope) disk).2, ?_, fun place => ?_⟩
    · rw [run_disk]
      split
      · exact .inl rfl
      · exact .inr rfl
    · refine (find?_clear _ disk place).imp_right ?_
      rintro ⟨gone, report, leads, below⟩
      exact ⟨gone, report, leads, below, fun plain => eq_placeFrom_of_locateWith plain leads⟩

/-- Two suites of a project, one with a dot in its name. -/
theorem reports_of_two_suites_apart :
    let tool : MutationTool :=
      ⟨⟨"mvn", [], some "/srv/project"⟩, "", "", "target/pit-reports", "src", ⟨600, 0⟩⟩
    reportWay? (some "com.acme.CalcTest") = some ["com.acme.CalcTest"] ∧
      reportWay? (some "CalcTest") = some ["CalcTest"] ∧
      (tool.reportPlaceFrom [] (some "com.acme.CalcTest")).StrictlyBelow
        ["srv", "project", "target", "pit-reports"] ∧
      Place.Apart (tool.reportPlaceFrom [] (some "com.acme.CalcTest"))
        (tool.reportPlaceFrom [] (some "CalcTest")) := by
  intro tool
  obtain ⟨-, apart, ordinary, -⟩ :=
    report_directories_kept_apart (some "com.acme.CalcTest") (some "CalcTest")
  have first : IsOrdinary (some "com.acme.CalcTest") := by
    rintro name ⟨⟩
    exact ⟨⟨by decide, by decide, by decide, by decide⟩, by decide⟩
  have second : IsOrdinary (some "CalcTest") := by
    rintro name ⟨⟩
    exact ⟨⟨by decide, by decide, by decide, by decide⟩, by decide⟩
  have root : tool.reportRootFrom [] = ["srv", "project", "target", "pit-reports"] := by
    decide +kernel
  have way := first.reportWay?_eq
  have wayToo := second.reportWay?_eq
  obtain ⟨below, -⟩ := ordinary (by decide) first second tool []
  exact ⟨way, wayToo, root ▸ below, (apart way wayToo tool []).2 ⟨by decide, by decide⟩⟩

/-- **Report directories that are shared.** The name of a suite can be the one that is meant for the
unchanged program, it can lead to the root or away from it, and it can lead on from the directory of
another suite. -/
theorem report_directories_shared :
    let tool : MutationTool := ⟨⟨"sh", [], none⟩, "", "", "reports", "src", ⟨600, 0⟩⟩
    let reportOf (name : String) := tool.reportPlaceFrom ["work"] (some name)
    let root := tool.reportRootFrom ["work"]
    root = ["work", "reports"] ∧
      reportOf "_baseline" = tool.reportPlaceFrom ["work"] none ∧
      reportOf "" = root ∧
      reportOf "../other" = ["work", "other"] ∧
      reportOf "/etc" = ["etc"] ∧
      ¬ Place.Apart (reportOf "Outer") (reportOf "Outer/Inner") ∧
      ∃ disk : Disk, disk.workingPlace = ["work"] ∧
        disk.tree.HasDirectory ["work", "reports", "OtherTest"] ∧
        ¬ (clear (tool.reportDirectory (some "")) disk).2.tree.HasDirectory
          ["work", "reports", "OtherTest"] := by
  refine ⟨by decide +kernel, by decide +kernel, by decide +kernel, by decide +kernel,
    by decide +kernel, fun apart => apart.1 ?_, ?_⟩
  · exact ⟨["Inner"], by decide +kernel⟩
  · refine ⟨{ tree := ⟨Table.ofList [(["work"], .directory), (["work", "reports"], .directory),
        (["work", "reports", "OtherTest"], .directory)]⟩, workingPlace := ["work"], clock := 0 },
      rfl, by decide +kernel, by decide +kernel⟩

end MutationTool

end TestAmplification
