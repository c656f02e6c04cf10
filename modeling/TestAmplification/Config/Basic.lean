import TestAmplification.Amplification.Workshop
import TestAmplification.Failure
import TestAmplification.Files.Path

/-!
# Configurations

A configuration chooses values for the amplification, for the compiler and the
test runner, for the mutation engine and for the output. Everything is
optional, and what is not chosen has an effective value. A layer that is put on
top of another overrides what it chooses itself; a list of arguments is chosen
when it is not empty.
-/

set_option autoImplicit false

namespace TestAmplification

/-- The choices about the amplification. -/
structure AmplificationConfig where
  /-- The number of iterations for a seed test. -/
  maxIterations : Option UInt32 := none
  /-- Are assertions added before the first iteration? -/
  preAmplification : Option Bool := none
  /-- How the names of tests start. -/
  testPrefix : Option String := none
deriving DecidableEq, Inhabited

/-- The choices about compiling and running tests. -/
structure ExecutionConfig where
  /-- The program that compiles. -/
  compileCommand : Option String := none
  /-- Its arguments. -/
  compileArgs : List String := []
  /-- The program that runs tests. -/
  testCommand : Option String := none
  /-- Its arguments. -/
  testArgs : List String := []
  /-- Where the sources of tests are written. -/
  testSourceDir : Option Path := none
  /-- Where compiled classes go. -/
  classesDir : Option Path := none
  /-- Where compiled tests go. -/
  testClassesDir : Option Path := none
  /-- The class path. -/
  classpath : Option String := none
  /-- The limit for both programs, in seconds. -/
  timeoutSecs : Option UInt64 := none
deriving DecidableEq, Inhabited

/-- The choices about mutation analysis. -/
structure MutationConfig where
  /-- The program that analyzes. -/
  command : Option String := none
  /-- Its arguments. -/
  args : List String := []
  /-- What stands before the suite in the argument that names it. -/
  targetTestsPrefix : Option String := none
  /-- The classes to mutate. -/
  targetClasses : Option String := none
  /-- Where reports go. -/
  reportDir : Option Path := none
  /-- A report to take the baseline from. -/
  baselinePath : Option Path := none
  /-- The limit for the program, in seconds. -/
  timeoutSecs : Option UInt64 := none
deriving DecidableEq, Inhabited

/-- The choices about the output. -/
structure OutputConfig where
  /-- Where reports on selections go. -/
  directory : Option Path := none
deriving DecidableEq, Inhabited

/-- A configuration. -/
structure Config where
  /-- The amplification. -/
  amplification : AmplificationConfig := {}
  /-- Compiling and running tests. -/
  execution : ExecutionConfig := {}
  /-- Mutation analysis. -/
  mutation : MutationConfig := {}
  /-- The output. -/
  output : OutputConfig := {}
deriving DecidableEq, Inhabited

/-! ## Effective values -/

namespace AmplificationConfig

/-- Three iterations, unless chosen otherwise. -/
def effectiveMaxIterations (config : AmplificationConfig) : UInt32 :=
  config.maxIterations.getD 3

/-- Assertions are added before the first iteration, unless chosen
otherwise. -/
def effectivePreAmplification (config : AmplificationConfig) : Bool :=
  config.preAmplification.getD true

/-- Names of tests start with `test`, unless chosen otherwise. -/
def effectiveTestPrefix (config : AmplificationConfig) : String :=
  config.testPrefix.getD "test"

end AmplificationConfig

namespace ExecutionConfig

/-- Two minutes, unless chosen otherwise. -/
def effectiveTimeoutSecs (config : ExecutionConfig) : UInt64 :=
  config.timeoutSecs.getD 120

/-- The limit as a duration. -/
def effectiveTimeout (config : ExecutionConfig) : Duration :=
  ⟨config.effectiveTimeoutSecs.toNat, 0⟩

/-- Where the sources of tests are written, unless chosen otherwise. -/
def effectiveTestSourceDir (config : ExecutionConfig) : Path :=
  config.testSourceDir.getD "src/test/amplify"

/-- Where compiled classes go, unless chosen otherwise. -/
def outputPaths (config : ExecutionConfig) : OutputPaths :=
  ⟨config.classesDir.getD "target/classes", config.testClassesDir.getD "target/test-classes"⟩

/-- The class path is empty, unless chosen otherwise. -/
def effectiveClasspath (config : ExecutionConfig) : String :=
  config.classpath.getD ""

end ExecutionConfig

namespace MutationConfig

/-- Half an hour, unless chosen otherwise. -/
def effectiveTimeoutSecs (config : MutationConfig) : UInt64 :=
  config.timeoutSecs.getD 1800

/-- The limit as a duration. -/
def effectiveTimeout (config : MutationConfig) : Duration :=
  ⟨config.effectiveTimeoutSecs.toNat, 0⟩

/-- Where reports go, unless chosen otherwise. -/
def effectiveReportDir (config : MutationConfig) : Path :=
  config.reportDir.getD "target/pit-reports"

/-- What stands before the suite, unless chosen otherwise. -/
def effectiveTargetTestsPrefix (config : MutationConfig) : String :=
  config.targetTestsPrefix.getD "-DtargetTests="

end MutationConfig

/-- Where reports on selections go, unless chosen otherwise. -/
def OutputConfig.effectiveDirectory (config : OutputConfig) : Path :=
  config.directory.getD "amplify-out"

/-- The settings of an amplification that a configuration gives. -/
def Settings.ofConfig (config : Config) : Settings where
  outputPaths := config.execution.outputPaths
  classpath := config.execution.effectiveClasspath
  preAmplification := config.amplification.effectivePreAmplification
  maxIterations := config.amplification.effectiveMaxIterations

namespace Config

/-! ## Checks -/

/-- The fields that must not be zero, and whether they are, in the order in
which they are checked. -/
def zeroFields (config : Config) : List (String × Bool) :=
  [("amplification.max_iterations", config.amplification.maxIterations == some 0),
    ("execution.timeout_secs", config.execution.timeoutSecs == some 0),
    ("mutation.timeout_secs", config.mutation.timeoutSecs == some 0)]

/-- Refuses a configuration in which one of these fields is zero. -/
def validate (config : Config) : Except ConfigError Unit :=
  match config.zeroFields.find? Prod.snd with
  | some (field, _) => .error (.validationFailed field "must be greater than 0")
  | none => .ok ()

/-! ## Layers -/

/-- What the upper layer chooses, or else what the lower one does. -/
def upper {α : Type} (base top : Option α) : Option α :=
  top <|> base

/-- The upper list, or the lower one when the upper is empty. -/
def upperList {α : Type} (base top : List α) : List α :=
  if top.isEmpty then base else top

/-- The configuration with a layer put on top. -/
def merge (base top : Config) : Config where
  amplification := {
    maxIterations := upper base.amplification.maxIterations top.amplification.maxIterations
    preAmplification :=
      upper base.amplification.preAmplification top.amplification.preAmplification
    testPrefix := upper base.amplification.testPrefix top.amplification.testPrefix }
  execution := {
    compileCommand := upper base.execution.compileCommand top.execution.compileCommand
    compileArgs := upperList base.execution.compileArgs top.execution.compileArgs
    testCommand := upper base.execution.testCommand top.execution.testCommand
    testArgs := upperList base.execution.testArgs top.execution.testArgs
    testSourceDir := upper base.execution.testSourceDir top.execution.testSourceDir
    classesDir := upper base.execution.classesDir top.execution.classesDir
    testClassesDir := upper base.execution.testClassesDir top.execution.testClassesDir
    classpath := upper base.execution.classpath top.execution.classpath
    timeoutSecs := upper base.execution.timeoutSecs top.execution.timeoutSecs }
  mutation := {
    command := upper base.mutation.command top.mutation.command
    args := upperList base.mutation.args top.mutation.args
    targetTestsPrefix := upper base.mutation.targetTestsPrefix top.mutation.targetTestsPrefix
    targetClasses := upper base.mutation.targetClasses top.mutation.targetClasses
    reportDir := upper base.mutation.reportDir top.mutation.reportDir
    baselinePath := upper base.mutation.baselinePath top.mutation.baselinePath
    timeoutSecs := upper base.mutation.timeoutSecs top.mutation.timeoutSecs }
  output := {
    directory := upper base.output.directory top.output.directory }

end Config

end TestAmplification
