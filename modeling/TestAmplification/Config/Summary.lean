import TestAmplification.Config.Document
import TestAmplification.Json.Record
import TestAmplification.Test.Document

/-!
# A configuration at a glance

The summary of a configuration is a JSON document with every choice as it is
made, every value that is in effect, and the settings that follow for an
amplification.
-/

set_option autoImplicit false

namespace TestAmplification

open Json (ofText ofNat ofMembers ofTexts orNull)

namespace Config

/-- The choices as they are made. -/
def choicesJson (config : Config) : Json :=
  let text := orNull ofText
  let seconds := orNull fun number : UInt64 => ofNat number.toNat
  ofMembers [
    ("amplification", ofMembers [
      ("max_iterations",
        orNull (fun number : UInt32 => ofNat number.toNat) config.amplification.maxIterations),
      ("pre_amplification", orNull .bool config.amplification.preAmplification),
      ("test_prefix", text config.amplification.testPrefix)]),
    ("execution", ofMembers [
      ("compile_command", text config.execution.compileCommand),
      ("compile_args", ofTexts config.execution.compileArgs),
      ("test_command", text config.execution.testCommand),
      ("test_args", ofTexts config.execution.testArgs),
      ("test_source_dir", text config.execution.testSourceDir),
      ("classes_dir", text config.execution.classesDir),
      ("test_classes_dir", text config.execution.testClassesDir),
      ("classpath", text config.execution.classpath),
      ("timeout_secs", seconds config.execution.timeoutSecs)]),
    ("mutation", ofMembers [
      ("command", text config.mutation.command),
      ("args", ofTexts config.mutation.args),
      ("target_tests_prefix", text config.mutation.targetTestsPrefix),
      ("target_classes", text config.mutation.targetClasses),
      ("report_dir", text config.mutation.reportDir),
      ("baseline_path", text config.mutation.baselinePath),
      ("timeout_secs", seconds config.mutation.timeoutSecs)]),
    ("output", ofMembers [("directory", text config.output.directory)])]

/-- The values that are in effect. -/
def effectiveJson (config : Config) : Json :=
  let amplification := config.amplification
  let execution := config.execution
  let mutation := config.mutation
  ofMembers [
    ("max_iterations", ofNat amplification.effectiveMaxIterations.toNat),
    ("pre_amplification", .bool amplification.effectivePreAmplification),
    ("test_prefix", ofText amplification.effectiveTestPrefix),
    ("execution_timeout_secs", ofNat execution.effectiveTimeoutSecs.toNat),
    ("test_source_dir", ofText execution.effectiveTestSourceDir),
    ("output_paths", execution.outputPaths.toJson),
    ("classpath", ofText execution.effectiveClasspath),
    ("mutation_timeout_secs", ofNat mutation.effectiveTimeoutSecs.toNat),
    ("report_dir", ofText mutation.effectiveReportDir),
    ("target_tests_prefix", ofText mutation.effectiveTargetTestsPrefix),
    ("output_dir", ofText config.output.effectiveDirectory)]

end Config

namespace Settings

/-- The document of settings. -/
def toJson (settings : Settings) : Json :=
  ofMembers [("output_paths", settings.outputPaths.toJson),
    ("classpath", ofText settings.classpath),
    ("pre_amplification", .bool settings.preAmplification),
    ("max_iterations", ofNat settings.maxIterations.toNat)]

/-- Reads settings: a configuration that they follow from, or the values that
differ from the defaults. -/
def ofJson? (value : Json) : Option (Except ConfigError Settings) := do
  match ← value.given? "toml" Json.text? with
  | some document => return (Config.ofToml document).map Settings.ofConfig
  | none =>
      let settings : Settings := {}
      return .ok {
        outputPaths := ← value.givenOr? "output_paths" OutputPaths.ofJson? settings.outputPaths
        classpath := ← value.givenOr? "classpath" Json.text? settings.classpath
        preAmplification :=
          ← value.givenOr? "pre_amplification" Json.bool? settings.preAmplification
        maxIterations :=
          ← value.givenOr? "max_iterations" Json.word32? settings.maxIterations }

end Settings

end TestAmplification
