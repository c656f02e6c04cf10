import TestAmplification.Proofs.Files.Views
import TestAmplification.Proofs.Steps
import TestAmplification.Tooling.Toolchain

/-!
# Paths that are handed to commands

The commands of a project are started in its root. Two of them are handed a path of something that
the tools work with themselves: the mutation engine gets its report directory, which is cleared
before and searched afterwards, and the compiler gets the file of the suite, which is written
before. The tools see these paths from the directory that they are in, and the commands see them
from the root (`Disk.startingPlace`).

Both paths are joined behind the root (`relative_behind_root`), since this is how the tools see a
directory of the project. If such a path is absolute, all see the same. But if it is relative, then
the root is relative too, and the command goes along the root a second time. What it finds is the
same if the root leads back to itself, and without links only if it leads nowhere, like a dot
(`handed_paths_denote`). A command that is started in `project` is handed
`project/target/pit-reports` for its reports, and from where it is, that is another directory
(`handed_paths_lost`).
-/

set_option autoImplicit false

namespace TestAmplification

open FileTree

/-! ## The file of a suite -/

theorem SuiteFile.path_of_write {suite : TestSuite} {directory path : Path} {disk later : Disk}
    (written : SuiteFile.write directory suite disk = (.ok path, later)) :
    path = SuiteFile.pathIn directory suite := by
  obtain ⟨_, _, -, made⟩ := StateM.exists_of_bind_eq_ok (fun _ _ => ⟨_, rfl⟩) written
  obtain ⟨_, _, -, wrote⟩ := StateM.exists_of_bind_eq_ok (fun _ _ => ⟨_, rfl⟩) made
  exact (Except.ok.inj (congrArg Prod.fst wrote)).symm

/-- A suite that is placed stands in its file. -/
theorem PlacedSuite.path_of_place {suite : TestSuite} {directory : Path} {disk later : Disk}
    {placed : PlacedSuite}
    (written : PlacedSuite.place directory suite disk = (.ok placed, later)) :
    placed.path = SuiteFile.pathIn directory suite := by
  simp only [PlacedSuite.place, bind, StateT.bind] at written
  rcases read : Disk.read (SuiteFile.pathIn directory suite) disk with ⟨before, between⟩
  rcases run : SuiteFile.write directory suite between with ⟨answer, after⟩
  rw [read] at written
  simp only [run] at written
  cases answer with
  | error error => cases written
  | ok path =>
      rw [← Except.ok.inj (congrArg Prod.fst written)]
      exact SuiteFile.path_of_write run

/-! ## What commands are handed -/

namespace SuiteCompiler

/-- The command for a suite. -/
def commandFor (compiler : SuiteCompiler) (suite : TestSuite) (paths : OutputPaths) : CommandLine :=
  compiler.command.expanded
    (compiler.placeholders suite (SuiteFile.pathIn compiler.sourceDirectory suite) paths)

end SuiteCompiler

/-- The arguments of the command are the given ones with variables filled in, and perhaps more. One
of the variables stands for the path. -/
def FillsIn (command : CommandLine) (arguments : List String) (name : String) (path : Path) :
    Prop :=
  ∃ (values : Variables) (added : List String), values.lookup name = some path ∧
    command.arguments = arguments.map (fillInAll values) ++ added

/-- The step starts no other command than the given one: launchers that do the same with that one
make no difference. -/
def StartsOnly {α : Type} (command : CommandLine) (step : Launcher → StateM Disk α) : Prop :=
  ∀ launcher other : Launcher, launcher command = other command → step launcher = step other

theorem runToEnd_congr {launcher other : Launcher} {command : CommandLine}
    (same : launcher command = other command) (limit : Duration) :
    launcher.runToEnd command limit = other.runToEnd command limit := by
  rw [Launcher.runToEnd, Launcher.runToEnd, same]

namespace MutationTool

variable (tool : MutationTool)

theorem commandFor_fillsIn (scope : Option String) :
    FillsIn (tool.commandFor scope) tool.command.arguments "report_dir"
      (tool.reportDirectory scope) := by
  cases scope with
  | none => exact ⟨_, [], rfl, (List.append_nil _).symm⟩
  | some suite => exact ⟨_, [tool.suiteArgument ++ suite], rfl, rfl⟩

theorem commandFor_workingDirectory (scope : Option String) :
    (tool.commandFor scope).workingDirectory = tool.command.workingDirectory := by
  cases scope <;> rfl

theorem run_startsOnly (scope : Option String) :
    StartsOnly (tool.commandFor scope) fun launcher => tool.run launcher scope := by
  intro launcher other same
  have launch : tool.launch launcher scope = tool.launch other scope := by
    rw [MutationTool.launch, MutationTool.launch, runToEnd_congr same]
  simp only [run, launch]

/-- A run that ends well has cleared the report directory, and it has found there what the command
left. -/
theorem run_eq_ok_iff {tool : MutationTool} {launcher : Launcher} {scope : Option String}
    {disk later : Disk} {outcomes : List MutantOutcome} :
    tool.run launcher scope disk = (.ok outcomes, later) ↔ ∃ cleared ran,
      clear (tool.reportDirectory scope) disk = (.ok (), cleared) ∧
        tool.launch launcher scope cleared = (.ok (), ran) ∧
          MutationReport.collect (tool.reportDirectory scope) ran = (.ok outcomes, later) := by
  constructor
  · intro ended
    obtain ⟨_, cleared, isCleared, behind⟩ :=
      StateM.exists_of_bind_eq_ok (fun _ _ => ⟨_, rfl⟩) ended
    obtain ⟨_, ran, launched, last⟩ := StateM.exists_of_bind_eq_ok (fun _ _ => ⟨_, rfl⟩) behind
    obtain ⟨found, _, collected, same⟩ :=
      StateM.exists_of_bind_eq_ok (fun _ _ => ⟨_, rfl⟩) last
    cases same
    exact ⟨cleared, ran, isCleared, launched, collected⟩
  · rintro ⟨cleared, ran, isCleared, launched, collected⟩
    simp only [run, bind, StateT.bind, isCleared, launched, collect, collected]
    rfl

end MutationTool

namespace SuiteCompiler

variable (compiler : SuiteCompiler) (suite : TestSuite) (paths : OutputPaths)

theorem commandFor_fillsIn :
    FillsIn (compiler.commandFor suite paths) compiler.command.arguments "source"
      (SuiteFile.pathIn compiler.sourceDirectory suite) :=
  ⟨_, [], rfl, (List.append_nil _).symm⟩

theorem compile_startsOnly :
    StartsOnly (compiler.commandFor suite paths) fun launcher =>
      compiler.compile launcher suite paths := by
  intro launcher other same
  funext disk
  simp only [compile, bind, StateT.bind]
  rcases written : PlacedSuite.place compiler.sourceDirectory suite disk with ⟨answer, later⟩
  cases answer with
  | error error => rfl
  | ok placed =>
      have ran := runToEnd_congr same compiler.limit
      rw [commandFor, ← PlacedSuite.path_of_place written] at ran
      simp only [ran]

end SuiteCompiler

/-! ## Paths behind the root -/

section

variable {disk : Disk} {root directory name : Path} {place : Place}

/-- The command is in the directory that its root leads to. -/
theorem locate_of_startingPlace (start : disk.startingPlace (some root) = .ok place) :
    disk.tree.locate disk.workingPlace root = .ok place := by
  simp only [Disk.startingPlace, inspect] at start
  cases found : disk.tree.locate disk.workingPlace root with
  | error fault =>
      rw [found] at start
      cases start
  | ok goal =>
      rw [found] at start
      simp only [bind, Except.bind, checked] at start
      cases node : disk.tree.node? goal with
      | none => simp [node] at start
      | some kind =>
          cases kind with
          | directory => simpa [node] using start
          | _ =>
              rw [node] at start
              cases written : namesDirectory root <;> simp [written] at start

/-- A relative path behind the root has the names of the root and then others. -/
theorem relative_behind_root
    (relative : Path.isAbsolute (Path.join (Path.join root directory) name) = false) :
    Path.isAbsolute root = false ∧
      Path.names (Path.join (Path.join root directory) name) =
        Path.names root ++ (Path.names directory ++ Path.names name) ∧
      (root ≠ "" → Path.names directory ++ Path.names name = [] →
        namesDirectory (Path.join (Path.join root directory) name) = true) := by
  rw [Path.isAbsolute_join_eq, Path.isAbsolute_join_eq, Bool.or_eq_false_iff,
    Bool.or_eq_false_iff] at relative
  obtain ⟨nameRelative, directoryRelative, rootRelative⟩ := relative
  refine ⟨rootRelative, ?_, fun some none => ?_⟩
  · rw [Path.names_join_of_relative nameRelative, Path.names_join_of_relative directoryRelative,
      List.append_assoc]
  · obtain ⟨noDirectory, noName⟩ := List.append_eq_nil_iff.1 none
    obtain rfl := Path.eq_empty_of_names_eq_nil directoryRelative noDirectory
    obtain rfl := Path.eq_empty_of_names_eq_nil nameRelative noName
    refine namesDirectory_of_slash (Path.getLast?_join_empty fun empty => ?_)
    have slash := Path.getLast?_join_empty some
    rw [empty] at slash
    cases slash

/-- **Behind the root** the command finds what its tool finds, at an absolute path or if the root
leads back to itself. -/
theorem alike_behind_root (start : disk.startingPlace (some root) = .ok place)
    (reason : Path.isAbsolute (Path.join (Path.join root directory) name) = true ∨
      disk.tree.locate place root = .ok place) :
    SeenAlike disk.tree disk.workingPlace place (Path.join (Path.join root directory) name) := by
  have there := locate_of_startingPlace start
  cases absolute : Path.isAbsolute (Path.join (Path.join root directory) name) with
  | true => exact .of_isAbsolute absolute
  | false =>
      obtain ⟨rootRelative, behind, closed⟩ := relative_behind_root absolute
      have back := reason.resolve_left (by simp [absolute])
      refine .of_returns absolute rootRelative behind (closed ?_) there back
      rintro rfl
      cases there

theorem alike_of_root (start : disk.startingPlace (some root) = .ok place)
    (reason : Path.isAbsolute root = true ∨ Path.steps root = []) :
    SeenAlike disk.tree disk.workingPlace place (Path.join (Path.join root directory) name) := by
  have there := locate_of_startingPlace start
  cases rootAbsolute : Path.isAbsolute root with
  | true =>
      refine .of_isAbsolute ?_
      rw [Path.isAbsolute_join_eq, Path.isAbsolute_join_eq, rootAbsolute, Bool.or_true,
        Bool.or_true]
  | false =>
      have nowhere := reason.resolve_left (by simp [rootAbsolute])
      rw [eq_of_locate rootAbsolute nowhere there]
      exact ⟨rfl, rfl⟩

/-- **Without links**, the command finds what its tool finds only if the path is absolute or the
root leads nowhere. -/
theorem locate_behind_root_iff {goal : Place}
    (start : disk.startingPlace (some root) = .ok place) (plain : disk.tree.Plain)
    (straight : ".." ∉ Path.names (Path.join (Path.join root directory) name))
    (leads : disk.tree.locate disk.workingPlace (Path.join (Path.join root directory) name) =
      .ok goal) :
    disk.tree.locate place (Path.join (Path.join root directory) name) = .ok goal ↔
      Path.isAbsolute (Path.join (Path.join root directory) name) = true ∨
        Path.steps root = [] := by
  cases absolute : Path.isAbsolute (Path.join (Path.join root directory) name) with
  | true =>
      have same : SeenAlike disk.tree disk.workingPlace place _ := .of_isAbsolute absolute
      exact iff_of_true (same.locate.trans leads) (.inl rfl)
  | false =>
      obtain ⟨rootRelative, behind, -⟩ := relative_behind_root absolute
      rw [locate_eq_iff plain absolute rootRelative straight behind
        (locate_of_startingPlace start) leads]
      simp

end

/-! ## The tools of a project -/

/-- A step starts a command in the root and hands a path over to it, in place of one of the
variables of its arguments. The command may find something else there than the tool, and the last
three fields say when it does not. -/
structure HandsOver {α : Type} (step : Launcher → StateM Disk α) (command : CommandLine)
    (arguments : List String) (name : String) (root path : Path) : Prop where
  /-- The step starts the command and no other one. -/
  startsOnly : StartsOnly command step
  /-- The path is what the variable stands for. -/
  fillsIn : FillsIn command arguments name path
  /-- Tool and command find the same at an absolute path, or if the root leads back to itself. -/
  alike : ∀ {disk : Disk} {place}, disk.startingPlace command.workingDirectory = .ok place →
    Path.isAbsolute path = true ∨ disk.tree.locate place root = .ok place →
      SeenAlike disk.tree disk.workingPlace place path
  /-- They do so if the root is absolute or leads nowhere. -/
  alike_of_root : ∀ {disk : Disk} {place},
    disk.startingPlace command.workingDirectory = .ok place →
    Path.isAbsolute root = true ∨ Path.steps root = [] →
      SeenAlike disk.tree disk.workingPlace place path
  /-- Without links and ways back, they do so only if the path is absolute or the root leads
  nowhere. -/
  locate_iff : ∀ {disk : Disk} {place goal},
    disk.startingPlace command.workingDirectory = .ok place →
    disk.tree.Plain → ".." ∉ Path.names path →
    disk.tree.locate disk.workingPlace path = .ok goal →
      (disk.tree.locate place path = .ok goal ↔
        Path.isAbsolute path = true ∨ Path.steps root = [])

theorem handsOver_behind_root {α : Type} {step : Launcher → StateM Disk α} {command : CommandLine}
    {arguments : List String} {name : String} {root directory last : Path}
    (inRoot : command.workingDirectory = some root) (startsOnly : StartsOnly command step)
    (fillsIn : FillsIn command arguments name (Path.join (Path.join root directory) last)) :
    HandsOver step command arguments name root (Path.join (Path.join root directory) last) where
  startsOnly := startsOnly
  fillsIn := fillsIn
  alike start := alike_behind_root (inRoot ▸ start)
  alike_of_root start := alike_of_root (inRoot ▸ start)
  locate_iff start := locate_behind_root_iff (inRoot ▸ start)

/-- **Handed paths.** With all commands set there are tools for a project, whatever its root. A run
of the mutation engine hands over to the command the report directory that it clears before and
searches afterwards, and a run of the compiler the file that the suite is written into. The command
finds there what the tool finds if the path is absolute or the root, as seen from itself, leads back
to itself. Without links and ways back, it finds that only if the path is absolute or the root leads
nowhere. -/
theorem handed_paths_denote (config : Config) (root : Path)
    (compiles : config.execution.compileCommand.isSome)
    (tests : config.execution.testCommand.isSome) (mutates : config.mutation.command.isSome) :
    ∃ tools, Toolchain.ofConfig config root = .ok tools ∧
      (∀ scope, HandsOver (fun launcher => tools.engine.run launcher scope)
        (tools.engine.commandFor scope) config.mutation.args "report_dir" root
        (tools.engine.reportDirectory scope) ∧
        ∀ launcher disk outcomes later,
          tools.engine.run launcher scope disk = (.ok outcomes, later) ↔ ∃ cleared ran,
            MutationTool.clear (tools.engine.reportDirectory scope) disk = (.ok (), cleared) ∧
              tools.engine.launch launcher scope cleared = (.ok (), ran) ∧
                MutationReport.collect (tools.engine.reportDirectory scope) ran =
                  (.ok outcomes, later)) ∧
      ∀ suite paths, HandsOver (fun launcher => tools.compiler.compile launcher suite paths)
        (tools.compiler.commandFor suite paths) config.execution.compileArgs "source" root
        (SuiteFile.pathIn tools.compiler.sourceDirectory suite) ∧
        ∀ disk placed later,
          PlacedSuite.place tools.compiler.sourceDirectory suite disk = (.ok placed, later) →
            placed.path = SuiteFile.pathIn tools.compiler.sourceDirectory suite := by
  obtain ⟨compiler, isCompiler⟩ := Option.isSome_iff_exists.1 compiles
  obtain ⟨runner, isRunner⟩ := Option.isSome_iff_exists.1 tests
  obtain ⟨engine, isEngine⟩ := Option.isSome_iff_exists.1 mutates
  refine ⟨_, by
    simp only [Toolchain.ofConfig, Toolchain.compilerOf, Toolchain.runnerOf, Toolchain.engineOf,
      Toolchain.commandOf, isCompiler, isRunner, isEngine]
    rfl, fun scope => ?_, fun suite paths => ?_⟩
  · refine ⟨handsOver_behind_root ?_ (MutationTool.run_startsOnly _ scope)
      (MutationTool.commandFor_fillsIn _ scope), fun _ _ _ _ => MutationTool.run_eq_ok_iff⟩
    rw [MutationTool.commandFor_workingDirectory]
  · exact ⟨handsOver_behind_root rfl (SuiteCompiler.compile_startsOnly _ suite paths)
      (SuiteCompiler.commandFor_fillsIn _ suite paths), fun _ _ _ => PlacedSuite.path_of_place⟩

/-- With an absolute root the command finds the report directory and the suite file from wherever
the tools are. -/
theorem absolute_root_seen_alike :
    let config : Config :=
      { execution := { compileCommand := some "sh", testCommand := some "sh" }
        mutation := { command := some "sh" } }
    let suite : TestSuite := ⟨"Suite", [], []⟩
    let disk : Disk :=
      { tree := ⟨Table.ofList [(["srv"], .directory), (["srv", "project"], .directory),
          (["work"], .directory)]⟩
        workingPlace := ["work"]
        clock := 0 }
    ∃ tools, Toolchain.ofConfig config "/srv/project" = .ok tools ∧
      disk.startingPlace (some "/srv/project") = .ok ["srv", "project"] ∧
      SeenAlike disk.tree ["work"] ["srv", "project"] (tools.engine.reportDirectory none) ∧
      SeenAlike disk.tree ["work"] ["srv", "project"]
        (SuiteFile.pathIn tools.compiler.sourceDirectory suite) := by
  intro config suite disk
  obtain ⟨tools, isTools, engine, compiler⟩ :=
    handed_paths_denote config "/srv/project" rfl rfl rfl
  have start : disk.startingPlace (some "/srv/project") = .ok ["srv", "project"] := by
    decide +kernel
  have absolute : Path.isAbsolute "/srv/project" = true := by decide
  obtain rfl : _ = tools := Except.ok.inj isTools
  exact ⟨_, rfl, start, (engine none).1.alike_of_root start (.inl absolute),
    (compiler suite ⟨"", ""⟩).1.alike_of_root start (.inl absolute)⟩

/-- With a relative root the command finds neither the report directory nor the suite file, although
both are there. -/
theorem handed_paths_lost :
    let config : Config :=
      { execution := { compileCommand := some "sh", testCommand := some "sh" }
        mutation := { command := some "sh" } }
    let suite : TestSuite := ⟨"Suite", [], []⟩
    let disk : Disk :=
      { tree := ⟨Table.ofList [(["project"], .directory), (["project", "target"], .directory),
          (["project", "target", "pit-reports"], .directory),
          (["project", "target", "pit-reports", "_baseline"], .directory),
          (["project", "src"], .directory), (["project", "src", "test"], .directory),
          (["project", "src", "test", "amplify"], .directory),
          (["project", "src", "test", "amplify", "Suite.json"], .file ⟨#[]⟩ 0)]⟩
        workingPlace := []
        clock := 0 }
    ∃ tools, Toolchain.ofConfig config "project" = .ok tools ∧
      disk.startingPlace (some "project") = .ok ["project"] ∧
      disk.tree.isDirectory [] (tools.engine.reportDirectory none) = true ∧
      ¬ disk.tree.isThere ["project"] (tools.engine.reportDirectory none) ∧
      disk.tree.isFile [] (SuiteFile.pathIn tools.compiler.sourceDirectory suite) = true ∧
      ¬ disk.tree.isThere ["project"] (SuiteFile.pathIn tools.compiler.sourceDirectory suite) :=
  ⟨_, rfl, by decide +kernel, by decide +kernel, by decide +kernel, by decide +kernel,
    by decide +kernel⟩

end TestAmplification
