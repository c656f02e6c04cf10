import TestAmplification.Tooling.Launch
import TestAmplification.Tooling.SuiteFile

/-!
# Compiling with a command

The compiler puts the suite into its file, runs its command and takes the file
away again. A suite compiles when the command succeeds.

Placeholders in the command are `suite`, `source` (the file), `classes_dir`,
`test_classes_dir` and `classpath`.
-/

set_option autoImplicit false

namespace TestAmplification

/-- A compiler that runs a command. -/
structure SuiteCompiler where
  /-- The command. -/
  command : CommandLine
  /-- Where the files of suites go. -/
  sourceDirectory : Path
  /-- The class path. -/
  classpath : String
  /-- How long the command may take. -/
  limit : Duration
deriving DecidableEq, Inhabited

namespace SuiteCompiler

/-- The number of lines of diagnostics in the text of a failure. -/
def diagnosticLines : Nat := 20

/-- What the placeholders of the command stand for. -/
def placeholders (compiler : SuiteCompiler) (suite : TestSuite) (source : Path)
    (paths : OutputPaths) : Variables :=
  [("suite", suite.name), ("source", source), ("classes_dir", paths.classesDir),
    ("test_classes_dir", paths.testClassesDir), ("classpath", compiler.classpath)]

/-- A suite compiles when the command succeeds. -/
def verdict (suite : TestSuite) (process : ProcessOutput) : Except ToolingError Unit :=
  if process.status.isSuccess then .ok ()
  else .error (.compilationFailed suite.name (process.diagnostics diagnosticLines))

/-- Compiles a suite. A file that cannot be put back is a failure of its
own. -/
def compile (compiler : SuiteCompiler) (launcher : Launcher) (suite : TestSuite)
    (paths : OutputPaths) : StateM Disk (Except ToolingError Unit) := do
  match ← PlacedSuite.place compiler.sourceDirectory suite with
  | .error error => return .error error
  | .ok placed =>
      let command :=
        compiler.command.expanded (compiler.placeholders suite placed.path paths)
      let result ← launcher.runToEnd command compiler.limit
      match ← placed.restore with
      | .error error => return .error error
      | .ok () => return result.bind (verdict suite)

end SuiteCompiler

end TestAmplification
