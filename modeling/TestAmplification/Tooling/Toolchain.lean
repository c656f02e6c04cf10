import TestAmplification.Config.Basic
import TestAmplification.Tooling.MutationTool
import TestAmplification.Tooling.SuiteCompiler
import TestAmplification.Tooling.TestRunner

/-!
# The tools of a project

A configuration names a command for each of the three tools: compiler, test
runner and mutation engine. All commands are started in the root of the
project.
-/

set_option autoImplicit false

namespace TestAmplification

/-- The three tools of a project. -/
structure Toolchain where
  /-- The compiler. -/
  compiler : SuiteCompiler
  /-- The test runner. -/
  runner : TestRunner
  /-- The mutation engine. -/
  engine : MutationTool
deriving DecidableEq, Inhabited

namespace Toolchain

/-- A configured command, started in the root of the project. -/
def commandOf (root : Path) (field : String) (program : Option String)
    (arguments : List String) : Except ConfigError CommandLine :=
  match program with
  | some program => .ok ⟨program, arguments, some root⟩
  | none =>
      .error (.validationFailed field "a command is required for process-backed tooling")

/-- The configured compiler. -/
def compilerOf (config : Config) (root : Path) : Except ConfigError SuiteCompiler := do
  let execution := config.execution
  return {
    command := ← commandOf root "execution.compile_command" execution.compileCommand
      execution.compileArgs
    sourceDirectory := Path.join root execution.effectiveTestSourceDir
    classpath := execution.effectiveClasspath
    limit := execution.effectiveTimeout }

/-- The configured test runner. -/
def runnerOf (config : Config) (root : Path) : Except ConfigError TestRunner := do
  let execution := config.execution
  return {
    command := ← commandOf root "execution.test_command" execution.testCommand
      execution.testArgs
    limit := execution.effectiveTimeout }

/-- The configured mutation engine. -/
def engineOf (config : Config) (root : Path) : Except ConfigError MutationTool := do
  let mutation := config.mutation
  return {
    command := ← commandOf root "mutation.command" mutation.command mutation.args
    suiteArgument := mutation.effectiveTargetTestsPrefix
    targetClasses := mutation.targetClasses.getD ""
    reportRoot := mutation.effectiveReportDir
    sourceDirectory := config.execution.effectiveTestSourceDir
    limit := mutation.effectiveTimeout }

/-- The configured tools of the project at a root. The first command that is
missing is the failure. -/
def ofConfig (config : Config) (root : Path) : Except ConfigError Toolchain := do
  return {
    compiler := ← compilerOf config root
    runner := ← runnerOf config root
    engine := ← engineOf config root }

/-- The tools with one limit for all commands. -/
def withLimit (tools : Toolchain) (limit : Duration) : Toolchain where
  compiler := { tools.compiler with limit }
  runner := { tools.runner with limit }
  engine := { tools.engine with limit }

end Toolchain

end TestAmplification
