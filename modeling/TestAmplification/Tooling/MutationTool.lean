import TestAmplification.Mutant.Report
import TestAmplification.Selection.Selector
import TestAmplification.Tooling.Launch
import TestAmplification.Tooling.SuiteFile

/-!
# Mutation analysis with a command

Every analysis gets a report directory of its own below a common root, named
for the suite or, for the unchanged program, with a name of its own. The
directory is cleared, the command is run, and the report that it leaves there
is read.

Relative directories are seen from the directory that the command is started
in. Placeholders in the command are `target_classes`, `suite` and `report_dir`;
an argument that names the suite is added at the end.
-/

set_option autoImplicit false

namespace TestAmplification

/-- A mutation engine that runs a command. -/
structure MutationTool where
  /-- The command. -/
  command : CommandLine
  /-- What stands before the suite in the argument that names it. -/
  suiteArgument : String
  /-- Which classes are mutated. -/
  targetClasses : String
  /-- Below which directory reports go. -/
  reportRoot : Path
  /-- Where the files of suites go. -/
  sourceDirectory : Path
  /-- How long the command may take. -/
  limit : Duration
deriving DecidableEq, Inhabited

namespace MutationTool

/-- The number of lines of diagnostics in the text of a failure. -/
def diagnosticLines : Nat := 20

/-- The name of the report directory of the unchanged program. -/
def baselineName : String := "_baseline"

/-- A path as the command sees it. -/
def resolve (tool : MutationTool) (path : Path) : Path :=
  match tool.command.workingDirectory with
  | some root => Path.join root path
  | none => path

/-- The report directory of an analysis of a suite or, without one, of the
unchanged program. -/
def reportDirectory (tool : MutationTool) (suite : Option String) : Path :=
  Path.join (tool.resolve tool.reportRoot) (suite.getD baselineName)

/-- Where the files of suites go, as the command sees it. -/
def suiteDirectory (tool : MutationTool) : Path :=
  tool.resolve tool.sourceDirectory

/-- The command of an analysis. -/
def commandFor (tool : MutationTool) (suite : Option String) : CommandLine :=
  let command := tool.command.expanded
    [("target_classes", tool.targetClasses), ("suite", suite.getD ""),
      ("report_dir", tool.reportDirectory suite)]
  match suite with
  | some name => command.withArgument (tool.suiteArgument ++ name)
  | none => command

/-- Removes a report directory. One that is not there is as good. -/
def clear (directory : Path) : StateM Disk (Except ToolingError Unit) := do
  match ← Disk.removeTree directory with
  | .ok () => return .ok ()
  | .error .notFound => return .ok ()
  | .error fault => return .error (.io ("clearing " ++ directory) fault.message)

/-- An analysis needs its command to succeed. -/
def verdict (command : CommandLine) (process : ProcessOutput) : Except ToolingError Unit :=
  if process.status.isSuccess then .ok ()
  else
    .error (.analysisFailed ("\x60" ++ command.render ++ "\x60 exited with "
      ++ process.status.render ++ ": " ++ process.diagnostics diagnosticLines))

/-- Runs the command of an analysis. -/
def launch (tool : MutationTool) (launcher : Launcher) (suite : Option String) :
    StateM Disk (Except ToolingError Unit) := do
  let command := tool.commandFor suite
  return (← launcher.runToEnd command tool.limit).bind (verdict command)

/-- Reads the report of an analysis. -/
def collect (tool : MutationTool) (suite : Option String) :
    StateM Disk (Except ToolingError (List MutantOutcome)) := do
  match ← MutationReport.collect (tool.reportDirectory suite) with
  | .ok outcomes => return .ok outcomes
  | .error error => return .error (.analysisFailed error.message)

/-- Clears the report directory, runs the command and reads the report. -/
def run (tool : MutationTool) (launcher : Launcher) (suite : Option String) :
    StateM Disk (Except ToolingError (List MutantOutcome)) := do
  match ← clear (tool.reportDirectory suite) with
  | .error error => return .error error
  | .ok () =>
      match ← tool.launch launcher suite with
      | .error error => return .error error
      | .ok () => tool.collect suite

/-- Analyzes a suite. Its file stands in the source directory while the command
runs; a file that cannot be put back changes nothing about the result. -/
def analyze (tool : MutationTool) (launcher : Launcher) (suite : TestSuite) :
    StateM Disk (Except ToolingError (List MutantOutcome)) := do
  match ← PlacedSuite.place tool.suiteDirectory suite with
  | .error error => return .error error
  | .ok placed =>
      let result ← tool.run launcher (some suite.name)
      let _ ← placed.restore
      return result

/-- The tool as a mutation engine. -/
def engine (tool : MutationTool) (launcher : Launcher) : MutationEngine Disk where
  baseline := tool.run launcher none
  analyze := tool.analyze launcher

end MutationTool

end TestAmplification
