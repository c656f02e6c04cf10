import TestAmplification.Config.Document
import TestAmplification.Files.Disk

/-!
# Loading a configuration

A configuration is put together from four layers, each on top of the one
before: the file of the user, the file of the project, the environment, and
what the caller asks for. Only the result is checked, so a value that makes no
sense does no harm below a better one.

The file of the user may be missing or unreadable, but if it can be read it
must be a configuration. The file of the project may be missing, too, but not
unreadable.
-/

set_option autoImplicit false

namespace TestAmplification

/-- The variables of an environment. A value need not be a text. -/
structure Environment where
  /-- The variables with their values. -/
  bindings : List (String × Text.Bytes) := []
deriving Inhabited

namespace Environment

/-- The value of a variable. -/
def value? (environment : Environment) (name : String) : Option Text.Bytes :=
  environment.bindings.lookup name

/-- The value of a variable, if it is a text. -/
def text? (environment : Environment) (name : String) : Option String :=
  (environment.value? name).bind Text.decode?

/-- The home directory of the user; the first variable that is there
counts. Its value need not be a text. -/
def home? (environment : Environment) : Option SystemPath :=
  (environment.value? "HOME" <|> environment.value? "USERPROFILE").map SystemPath.ofBytes

/-- The file of the user. -/
def userFile? (environment : Environment) : Option SystemPath :=
  environment.home?.map fun home => (home.join ".amplify").join "config.toml"

example : userFile? ⟨[("HOME", Text.encode "/home")]⟩ =
    some (.text "/home/.amplify/config.toml") := by
  decide +kernel
example : userFile? ⟨[("HOME", [0x2F, 0xFF])]⟩ =
    some (.bytes ([0x2F, 0xFF] ++ Text.encode "/.amplify/config.toml")) := by
  decide +kernel

/-- The layer of the environment. A number that cannot be read chooses
nothing. -/
def layer (environment : Environment) : Config where
  amplification := {
    maxIterations :=
      (environment.text? "AMPLIFY_MAX_ITERATIONS").bind fun text => Text.word32? text.toList }
  execution := {
    classpath := environment.text? "AMPLIFY_CLASSPATH"
    timeoutSecs :=
      (environment.text? "AMPLIFY_EXECUTION_TIMEOUT_SECS").bind fun text =>
        Text.word64? text.toList }
  mutation := {
    baselinePath := environment.text? "AMPLIFY_MUTATION_BASELINE"
    timeoutSecs :=
      (environment.text? "AMPLIFY_MUTATION_TIMEOUT_SECS").bind fun text =>
        Text.word64? text.toList }
  output := {
    directory := environment.text? "AMPLIFY_OUTPUT_DIR" }

end Environment

/-- What the caller asks for. -/
structure Overrides where
  /-- The number of iterations for a seed test. -/
  maxIterations : Option UInt32 := none
  /-- Where reports on selections go. -/
  outputDir : Option Path := none
  /-- A report to take the baseline from. -/
  baselinePath : Option Path := none
  /-- The limit for mutation analysis, in seconds. -/
  mutationTimeoutSecs : Option UInt64 := none
deriving DecidableEq, Inhabited

/-- The layer of the caller. -/
def Overrides.layer (overrides : Overrides) : Config where
  amplification := { maxIterations := overrides.maxIterations }
  mutation := {
    baselinePath := overrides.baselinePath
    timeoutSecs := overrides.mutationTimeoutSecs }
  output := { directory := overrides.outputDir }

namespace Config

/-- The name of the file of a project. -/
def projectFileName : String := "amplify.toml"

/-- Reads a layer from a file. -/
def readLayer (disk : Disk) (path : SystemPath) : Except ConfigError Config :=
  match (Disk.readTextAt path disk).1 with
  | .error _ => .error (.fileNotFound path.render)
  | .ok document => parseLayer path.render document

/-- The layer of the user. -/
def userLayer (disk : Disk) (environment : Environment) : Except ConfigError Config :=
  match environment.userFile? with
  | none => .ok {}
  | some path =>
      if disk.isThereAt path then
        match readLayer disk path with
        | .error (.fileNotFound _) => .ok {}
        | layer => layer
      else .ok {}

/-- The layer of the project in a directory. -/
def projectLayer (disk : Disk) (root : Path) : Except ConfigError Config :=
  let path := .text (Path.join root projectFileName)
  if disk.isThereAt path then readLayer disk path else .ok {}

/-- Loads the configuration of the project in a directory. -/
def load (disk : Disk) (environment : Environment) (root : Path) (overrides : Option Overrides) :
    Except ConfigError Config := do
  let user ← userLayer disk environment
  let project ← projectLayer disk root
  let caller := (overrides.map Overrides.layer).getD {}
  let config := ((user.merge project).merge environment.layer).merge caller
  config.validate
  return config

end Config

end TestAmplification
