import TestAmplification.Config.Basic
import TestAmplification.Toml.Printer
import TestAmplification.Toml.Reader

/-!
# Configurations as TOML documents

A document has up to four sections. A section is a table with the fields as
keys, or an array that lists the fields in order, where the last ones may be
missing; further keys and elements are passed over. A moment in place of a
section has none of the keys, so it is an empty section. Values must have the
type of their field: nothing is converted.

Writing gives every section, every chosen field and every list. A number above
the greatest whole number of TOML cannot be written.
-/

set_option autoImplicit false

namespace TestAmplification

open Toml (Value)

namespace Config

/-! ## Reading -/

/-- The values of the fields of a section, in order. -/
def sectionFields? (names : List String) : Value → Option (List (Option Value))
  | .table entries => some (names.map fun name => entries.lookup name)
  | .array elements => some ((List.range names.length).map fun position => elements[position]?)
  | .moment _ => some (names.map fun _ => none)
  | _ => none

/-- Reads a field that may be missing. -/
def chosen? {α : Type} (read : Value → Option α) : Option Value → Option (Option α)
  | none => some none
  | some value => (read value).map some

/-- Reads a list that may be missing. -/
def listed? (read : Value → Option String) : Option Value → Option (List String)
  | none => some []
  | some (.array elements) => elements.mapM read
  | some _ => none

/-- Reads a text. -/
def text? : Value → Option String
  | .text text => some text
  | _ => none

/-- Reads a truth value. -/
def bool? : Value → Option Bool
  | .bool value => some value
  | _ => none

/-- Reads a whole number of at most 32 bits. -/
def word32? : Value → Option UInt32
  | .integer number =>
      if 0 ≤ number ∧ number ≤ Text.greatestWord32 then some (UInt32.ofNat number.toNat) else none
  | _ => none

/-- Reads a whole number that is not negative. -/
def word64? : Value → Option UInt64
  | .integer number =>
      if 0 ≤ number ∧ number ≤ Text.greatestWord64 then some (UInt64.ofNat number.toNat) else none
  | _ => none

/-- Reads the section about the amplification. -/
def amplificationOf? (value : Value) : Option AmplificationConfig :=
  match sectionFields? ["max_iterations", "pre_amplification", "test_prefix"] value with
  | some [maxIterations, preAmplification, testPrefix] => do
      return {
        maxIterations := ← chosen? word32? maxIterations
        preAmplification := ← chosen? bool? preAmplification
        testPrefix := ← chosen? text? testPrefix }
  | _ => none

/-- Reads the section about compiling and running tests. -/
def executionOf? (value : Value) : Option ExecutionConfig :=
  match sectionFields? ["compile_command", "compile_args", "test_command", "test_args",
      "test_source_dir", "classes_dir", "test_classes_dir", "classpath", "timeout_secs"] value with
  | some [compileCommand, compileArgs, testCommand, testArgs, testSourceDir, classesDir,
      testClassesDir, classpath, timeoutSecs] => do
      return {
        compileCommand := ← chosen? text? compileCommand
        compileArgs := ← listed? text? compileArgs
        testCommand := ← chosen? text? testCommand
        testArgs := ← listed? text? testArgs
        testSourceDir := ← chosen? text? testSourceDir
        classesDir := ← chosen? text? classesDir
        testClassesDir := ← chosen? text? testClassesDir
        classpath := ← chosen? text? classpath
        timeoutSecs := ← chosen? word64? timeoutSecs }
  | _ => none

/-- Reads the section about mutation analysis. -/
def mutationOf? (value : Value) : Option MutationConfig :=
  match sectionFields? ["command", "args", "target_tests_prefix", "target_classes", "report_dir",
      "baseline_path", "timeout_secs"] value with
  | some [command, args, targetTestsPrefix, targetClasses, reportDir, baselinePath,
      timeoutSecs] => do
      return {
        command := ← chosen? text? command
        args := ← listed? text? args
        targetTestsPrefix := ← chosen? text? targetTestsPrefix
        targetClasses := ← chosen? text? targetClasses
        reportDir := ← chosen? text? reportDir
        baselinePath := ← chosen? text? baselinePath
        timeoutSecs := ← chosen? word64? timeoutSecs }
  | _ => none

/-- Reads the section about the output. -/
def outputOf? (value : Value) : Option OutputConfig :=
  match sectionFields? ["directory"] value with
  | some [directory] => do
      return { directory := ← chosen? text? directory }
  | _ => none

/-- Reads a section that may be missing. -/
def sectionOr? {α : Type} (default : α) (read : Value → Option α) : Option Value → Option α
  | none => some default
  | some value => read value

/-- Reads a configuration. -/
def ofValue? (value : Value) : Option Config :=
  match sectionFields? ["amplification", "execution", "mutation", "output"] value with
  | some [amplification, execution, mutation, output] => do
      return {
        amplification := ← sectionOr? {} amplificationOf? amplification
        execution := ← sectionOr? {} executionOf? execution
        mutation := ← sectionOr? {} mutationOf? mutation
        output := ← sectionOr? {} outputOf? output }
  | _ => none

/-- Reads a layer from a document; the path is for the refusal. -/
def parseLayer (path : Path) (document : String) : Except ConfigError Config :=
  match (Toml.parse? document).bind ofValue? with
  | some config => .ok config
  | none => .error (.parseError path "not a configuration")

/-- Reads and checks a configuration from a document. -/
def ofToml (document : String) : Except ConfigError Config := do
  let config ← parseLayer "<string>" document
  config.validate
  return config

/-! ## Writing -/

/-- A field that is written if it is chosen. -/
def entry {α : Type} (key : String) (write : α → String) (value : Option α) :
    List (String × String) :=
  match value with
  | some value => [(key, write value)]
  | none => []

/-- A number that is not negative. -/
def writeWord64 (number : UInt64) : String :=
  Text.decimal number.toNat

/-- The sections of a configuration with their fields as they are written. -/
def sections (config : Config) : List (String × List (String × String)) :=
  let { amplification, execution, mutation, output } := config
  [("amplification",
      entry "max_iterations" (fun number : UInt32 => Text.decimal number.toNat)
          amplification.maxIterations
        ++ entry "pre_amplification" Toml.boolValue amplification.preAmplification
        ++ entry "test_prefix" Toml.textValue amplification.testPrefix),
    ("execution",
      entry "compile_command" Toml.textValue execution.compileCommand
        ++ [("compile_args", Toml.listValue execution.compileArgs)]
        ++ entry "test_command" Toml.textValue execution.testCommand
        ++ [("test_args", Toml.listValue execution.testArgs)]
        ++ entry "test_source_dir" Toml.textValue execution.testSourceDir
        ++ entry "classes_dir" Toml.textValue execution.classesDir
        ++ entry "test_classes_dir" Toml.textValue execution.testClassesDir
        ++ entry "classpath" Toml.textValue execution.classpath
        ++ entry "timeout_secs" writeWord64 execution.timeoutSecs),
    ("mutation",
      entry "command" Toml.textValue mutation.command
        ++ [("args", Toml.listValue mutation.args)]
        ++ entry "target_tests_prefix" Toml.textValue mutation.targetTestsPrefix
        ++ entry "target_classes" Toml.textValue mutation.targetClasses
        ++ entry "report_dir" Toml.textValue mutation.reportDir
        ++ entry "baseline_path" Toml.textValue mutation.baselinePath
        ++ entry "timeout_secs" writeWord64 mutation.timeoutSecs),
    ("output", entry "directory" Toml.textValue output.directory)]

/-- Can the number be written? -/
def isWritable (number : Option UInt64) : Bool :=
  number.all fun number => number.toNat ≤ Text.greatestSigned64

/-- Writes a configuration as a document. -/
def toToml (config : Config) : Except ConfigError String :=
  if isWritable config.execution.timeoutSecs && isWritable config.mutation.timeoutSecs then
    .ok (Toml.writeSections config.sections)
  else .error (.parseError "<serialization>" "out-of-range value for u64 type")

end Config

end TestAmplification
