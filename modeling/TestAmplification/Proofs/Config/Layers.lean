import TestAmplification.Proofs.Config.Fields

/-!
# Which layer a loaded configuration follows

Four sources may say something about a field: the caller, the environment, the file of the project
and the file of the user. The first of them that does decides (`Field.resolved`), for each field by
itself.

Loading gives the configuration with these choices (`load_resolves`), unless one of the three
fields that must not be zero comes out as zero. A zero that a better source overrides is no
obstacle, since nothing but the outcome is looked at.

The files are taken to be absent or to hold a configuration. What an unreadable file does to a
loading is not said here.
-/

set_option autoImplicit false

namespace TestAmplification.Config

open Toml (Value)

/-! ## Sources -/

namespace Field

variable {α : Type}

/-- What the caller asks for. -/
def asked : Field α → Overrides → Option α
  | maxIterations, overrides => overrides.maxIterations
  | outputDirectory, overrides => overrides.outputDir
  | baselinePath, overrides => overrides.baselinePath
  | mutationTimeoutSecs, overrides => overrides.mutationTimeoutSecs
  | _, _ => none

/-- What the variable of the field says, where it has one. A number that cannot be read says
nothing. -/
def inEnvironment : Field α → Environment → Option α
  | maxIterations, environment =>
      (environment.text? "AMPLIFY_MAX_ITERATIONS").bind fun text => Text.word32? text.toList
  | executionTimeoutSecs, environment =>
      (environment.text? "AMPLIFY_EXECUTION_TIMEOUT_SECS").bind fun text => Text.word64? text.toList
  | mutationTimeoutSecs, environment =>
      (environment.text? "AMPLIFY_MUTATION_TIMEOUT_SECS").bind fun text => Text.word64? text.toList
  | outputDirectory, environment => environment.text? "AMPLIFY_OUTPUT_DIR"
  | classpath, environment => environment.text? "AMPLIFY_CLASSPATH"
  | baselinePath, environment => environment.text? "AMPLIFY_MUTATION_BASELINE"
  | _, _ => none

/-- What the first source says that says anything: the caller, the environment, the document of
the project, the document of the user. -/
def resolved (field : Field α) (overrides : Option Overrides) (environment : Environment)
    (project user : Option Value) : Option α :=
  (overrides.bind field.asked).or <| (field.inEnvironment environment).or <|
    (project.bind field.inDocument).or (user.bind field.inDocument)

theorem choice_overrides (field : Field α) (overrides : Option Overrides) :
    field.choice ((overrides.map Overrides.layer).getD {}) = overrides.bind field.asked := by
  cases overrides with
  | none => exact choice_default field
  | some overrides => cases field <;> rfl

theorem choice_environment (field : Field α) (environment : Environment) :
    field.choice environment.layer = field.inEnvironment environment := by
  cases field <;> rfl

end Field

/-! ## Files -/

/-- What a file says: nothing when it is not there, and otherwise what its document says, which is
one of a configuration. -/
inductive FileSays (disk : Disk) (path : SystemPath) : Option Value → Prop where
  | nothing (absent : disk.isThereAt path = false) : FileSays disk path none
  | document {text : String} {document : Value} {layer : Config}
      (present : disk.isThereAt path = true) (readable : (Disk.readTextAt path disk).1 = .ok text)
      (wellFormed : Toml.parse? text = some document) (ofSchema : ofValue? document = some layer) :
      FileSays disk path (some document)

/-- What the file of the user says: nothing when no variable says where that is. -/
inductive UserSays (disk : Disk) (environment : Environment) : Option Value → Prop where
  | homeless (noHome : environment.userFile? = none) : UserSays disk environment none
  | file {path : SystemPath} {document : Option Value} (home : environment.userFile? = some path)
      (tells : FileSays disk path document) : UserSays disk environment document

/-- The layer chooses what the document says, if there is one. -/
def Follows (layer : Config) (document : Option Value) : Prop :=
  ∀ {α : Type} (field : Field α), field.choice layer = document.bind field.inDocument

theorem FileSays.readLayer {disk : Disk} {path : SystemPath} {document : Value}
    (tells : FileSays disk path (some document)) :
    disk.isThereAt path = true ∧
      ∃ layer, readLayer disk path = .ok layer ∧ Follows layer (some document) := by
  cases tells with
  | @document _ _ layer present readable wellFormed ofSchema =>
      refine ⟨present, layer, ?_, fun field => choice_of_ofValue? ofSchema field⟩
      simp [Config.readLayer, readable, parseLayer, wellFormed, ofSchema]

theorem FileSays.projectLayer {disk : Disk} {root : Path} {document : Option Value}
    (tells : FileSays disk (.text (Path.join root projectFileName)) document) :
    ∃ layer, projectLayer disk root = .ok layer ∧ Follows layer document := by
  cases document with
  | none =>
      cases tells with
      | nothing absent => exact ⟨{}, by simp [Config.projectLayer, absent], choice_default⟩
  | some document =>
      obtain ⟨present, layer, read, follows⟩ := tells.readLayer
      exact ⟨layer, by simp [Config.projectLayer, present, read], follows⟩

theorem UserSays.userLayer {disk : Disk} {environment : Environment} {document : Option Value}
    (tells : UserSays disk environment document) :
    ∃ layer, userLayer disk environment = .ok layer ∧ Follows layer document := by
  cases tells with
  | homeless noHome => exact ⟨{}, by simp [Config.userLayer, noHome], choice_default⟩
  | file home tells =>
      cases document with
      | none =>
          cases tells with
          | nothing absent => exact ⟨{}, by simp [Config.userLayer, home, absent], choice_default⟩
      | some document =>
          obtain ⟨present, layer, read, follows⟩ := tells.readLayer
          exact ⟨layer, by simp [Config.userLayer, home, present, read], follows⟩

/-! ## Loading -/

/-- The text about a field that must not be zero. -/
def zeroRefused : String := "must be greater than 0"

/-- The first of the three fields that is zero is refused. -/
theorem validate_eq (config : Config) :
    config.validate =
      if Field.maxIterations.choice config = some 0 then
        .error (.validationFailed "amplification.max_iterations" zeroRefused)
      else if Field.executionTimeoutSecs.choice config = some 0 then
        .error (.validationFailed "execution.timeout_secs" zeroRefused)
      else if Field.mutationTimeoutSecs.choice config = some 0 then
        .error (.validationFailed "mutation.timeout_secs" zeroRefused)
      else .ok () := by
  unfold validate zeroFields Field.choice
  by_cases iterations : config.amplification.maxIterations = some 0
  · simp [iterations, zeroRefused]
  by_cases execution : config.execution.timeoutSecs = some 0
  · simp [iterations, execution, zeroRefused]
  by_cases mutation : config.mutation.timeoutSecs = some 0
  · simp [iterations, execution, mutation, zeroRefused]
  · simp [iterations, execution, mutation]

/-- **Each field follows the first source that says anything about it**, and the configuration with
these choices is what is loaded, unless a field comes out as zero that must not be. The first such
field is refused then. Layers are put together by merging, which is associative and has the
configuration without choices as its identity. -/
theorem load_resolves {disk : Disk} {environment : Environment} {root : Path}
    {user project : Option Value} (userSays : UserSays disk environment user)
    (projectSays : FileSays disk (.text (Path.join root projectFileName)) project)
    (overrides : Option Overrides) :
    (∃ config : Config,
      (∀ {α : Type} (field : Field α),
        field.choice config = field.resolved overrides environment project user) ∧
      load disk environment root overrides =
        if Field.maxIterations.resolved overrides environment project user = some 0 then
          .error (.validationFailed "amplification.max_iterations" zeroRefused)
        else if Field.executionTimeoutSecs.resolved overrides environment project user = some 0 then
          .error (.validationFailed "execution.timeout_secs" zeroRefused)
        else if Field.mutationTimeoutSecs.resolved overrides environment project user = some 0 then
          .error (.validationFailed "mutation.timeout_secs" zeroRefused)
        else .ok config) ∧
    (∀ first second third : Config,
      (first.merge second).merge third = first.merge (second.merge third)) ∧
    ∀ config : Config, merge {} config = config ∧ config.merge {} = config := by
  refine ⟨?_, merge_assoc, fun config => ⟨default_merge config, merge_default config⟩⟩
  obtain ⟨userLayer, userRead, userFollows⟩ := userSays.userLayer
  obtain ⟨projectLayer, projectRead, projectFollows⟩ := projectSays.projectLayer
  let caller := (overrides.map Overrides.layer).getD {}
  let config := ((userLayer.merge projectLayer).merge environment.layer).merge caller
  have choices : ∀ {α : Type} (field : Field α),
      field.choice config = field.resolved overrides environment project user := by
    intro α field
    simp only [config, caller, choice_merge, Field.choice_overrides, Field.choice_environment,
      userFollows field, projectFollows field, Field.resolved]
  have loaded : load disk environment root overrides =
      config.validate.bind fun _ => .ok config := by
    simp only [load, userRead, projectRead]
    rfl
  refine ⟨config, choices, ?_⟩
  rw [loaded, validate_eq, choices, choices, choices]
  split
  · rfl
  split
  · rfl
  split <;> rfl

/-! ## A zero that does no harm -/

/-- A disk with a file of the user that asks for no time at all and names arguments, and a file of
the project that asks for a minute and lists no arguments. -/
def layeredDisk : Disk where
  tree := ⟨Table.ofList [(["home"], .directory), (["home", ".amplify"], .directory),
    (["home", ".amplify", "config.toml"],
      .file (Text.encode "[mutation]\ntimeout_secs = 0\nargs = [\"-o\"]\n").toByteArray 0),
    (["work"], .directory),
    (["work", "amplify.toml"],
      .file (Text.encode "[mutation]\ntimeout_secs = 60\nargs = []\n").toByteArray 0)]⟩
  workingPlace := []
  clock := 0

/-- A file that a layer is read from says what its document says. -/
theorem fileSays_of_readLayer {disk : Disk} {path : SystemPath} {layer : Config}
    (present : disk.isThereAt path = true) (read : (readLayer disk path).toOption = some layer) :
    ∃ document, ofValue? document = some layer ∧ FileSays disk path (some document) := by
  unfold readLayer parseLayer at read
  split at read
  · exact absurd read nofun
  · next text readable =>
      split at read
      · next config parsed =>
          obtain ⟨document, wellFormed, ofSchema⟩ := Option.bind_eq_some_iff.1 parsed
          obtain rfl := Option.some.inj read
          exact ⟨document, ofSchema, .document present readable wellFormed ofSchema⟩
      · exact absurd read nofun

/-- The time of the project overrides the zero of the user, an empty list overrides nothing, and
the caller overrides the zero of the environment. -/
theorem load_layeredDisk :
    load layeredDisk ⟨[("HOME", Text.encode "/home"), ("AMPLIFY_MAX_ITERATIONS", Text.encode "0")]⟩
        "/work" (some { maxIterations := some 7 }) =
      .ok {
        amplification := { maxIterations := some 7 }
        mutation := { timeoutSecs := some 60, args := ["-o"] } } := by
  let environment : Environment :=
    ⟨[("HOME", Text.encode "/home"), ("AMPLIFY_MAX_ITERATIONS", Text.encode "0")]⟩
  obtain ⟨user, userRead, userSays⟩ := @fileSays_of_readLayer layeredDisk
    (.text "/home/.amplify/config.toml") { mutation := { timeoutSecs := some 0, args := ["-o"] } }
    (by decide +kernel) (by decide +kernel)
  obtain ⟨project, projectRead, projectSays⟩ := @fileSays_of_readLayer layeredDisk
    (.text (Path.join "/work" projectFileName)) { mutation := { timeoutSecs := some 60 } }
    (by decide +kernel) (by decide +kernel)
  have home : environment.userFile? = some (.text "/home/.amplify/config.toml") := by decide +kernel
  have layer : environment.layer = { amplification := { maxIterations := some 0 } } := by
    decide +kernel
  obtain ⟨⟨config, choices, loaded⟩, -⟩ :=
    load_resolves (.file home userSays) projectSays (some { maxIterations := some 7 })
  have outcome : config = {
      amplification := { maxIterations := some 7 }
      mutation := { timeoutSecs := some 60, args := ["-o"] } } := by
    refine ext_choice fun field => ?_
    rw [choices, Field.resolved, ← Field.choice_overrides, ← Field.choice_environment, layer,
      Option.bind_some, Option.bind_some, ← choice_of_ofValue? projectRead,
      ← choice_of_ofValue? userRead]
    cases field <;> rfl
  rw [← choices, ← choices, ← choices, outcome] at loaded
  exact loaded

end TestAmplification.Config
