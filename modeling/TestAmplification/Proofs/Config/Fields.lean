import TestAmplification.Config.Load

/-!
# The fields of a configuration

A configuration is given by what it chooses for each of its fields (`Field.choice`): two
configurations with the same choices are equal (`ext_choice`). Lists of arguments count as chosen
when they are not empty.

What a merged configuration chooses is what the upper layer chooses, or else what the lower one
does, for each field by itself (`choice_merge`). Merging is therefore associative, with the
configuration that chooses nothing as its identity.

A document chooses for each field what stands under the key of the field in the section of the
field, and nothing else in it matters to the field (`choice_of_ofValue?`).
-/

set_option autoImplicit false

namespace TestAmplification.Config

open Toml (Value)

/-- A field of a configuration, with the type of its values. -/
inductive Field : Type → Type where
  | maxIterations : Field UInt32
  | preAmplification : Field Bool
  | testPrefix : Field String
  | compileCommand : Field String
  | compileArgs : Field (List String)
  | testCommand : Field String
  | testArgs : Field (List String)
  | testSourceDir : Field Path
  | classesDir : Field Path
  | testClassesDir : Field Path
  | classpath : Field String
  | executionTimeoutSecs : Field UInt64
  | mutationCommand : Field String
  | mutationArgs : Field (List String)
  | targetTestsPrefix : Field String
  | targetClasses : Field String
  | reportDir : Field Path
  | baselinePath : Field Path
  | mutationTimeoutSecs : Field UInt64
  | outputDirectory : Field Path

/-- A list of arguments that is not empty. -/
def chosenList (arguments : List String) : Option (List String) :=
  if arguments.isEmpty then none else some arguments

/-- What a configuration chooses for a field. -/
def Field.choice {α : Type} : Field α → Config → Option α
  | maxIterations, config => config.amplification.maxIterations
  | preAmplification, config => config.amplification.preAmplification
  | testPrefix, config => config.amplification.testPrefix
  | compileCommand, config => config.execution.compileCommand
  | compileArgs, config => chosenList config.execution.compileArgs
  | testCommand, config => config.execution.testCommand
  | testArgs, config => chosenList config.execution.testArgs
  | testSourceDir, config => config.execution.testSourceDir
  | classesDir, config => config.execution.classesDir
  | testClassesDir, config => config.execution.testClassesDir
  | classpath, config => config.execution.classpath
  | executionTimeoutSecs, config => config.execution.timeoutSecs
  | mutationCommand, config => config.mutation.command
  | mutationArgs, config => chosenList config.mutation.args
  | targetTestsPrefix, config => config.mutation.targetTestsPrefix
  | targetClasses, config => config.mutation.targetClasses
  | reportDir, config => config.mutation.reportDir
  | baselinePath, config => config.mutation.baselinePath
  | mutationTimeoutSecs, config => config.mutation.timeoutSecs
  | outputDirectory, config => config.output.directory

/-! ## Choices determine a configuration -/

theorem chosenList_inj {first second : List String} (same : chosenList first = chosenList second) :
    first = second := by
  cases first <;> cases second <;> simp_all [chosenList]

/-- **Extensionality.** Configurations that choose the same for every field are equal. -/
theorem ext_choice {first second : Config}
    (same : ∀ {α : Type} (field : Field α), field.choice first = field.choice second) :
    first = second := by
  obtain ⟨⟨_, _, _⟩, ⟨_, _, _, _, _, _, _, _, _⟩, ⟨_, _, _, _, _, _, _⟩, ⟨_⟩⟩ := first
  obtain ⟨⟨_, _, _⟩, ⟨_, _, _, _, _, _, _, _, _⟩, ⟨_, _, _, _, _, _, _⟩, ⟨_⟩⟩ := second
  simp only [mk.injEq, AmplificationConfig.mk.injEq, ExecutionConfig.mk.injEq,
    MutationConfig.mk.injEq, OutputConfig.mk.injEq]
  exact ⟨⟨same .maxIterations, same .preAmplification, same .testPrefix⟩,
    ⟨same .compileCommand, chosenList_inj (same .compileArgs), same .testCommand,
      chosenList_inj (same .testArgs), same .testSourceDir, same .classesDir, same .testClassesDir,
      same .classpath, same .executionTimeoutSecs⟩,
    ⟨same .mutationCommand, chosenList_inj (same .mutationArgs), same .targetTestsPrefix,
      same .targetClasses, same .reportDir, same .baselinePath, same .mutationTimeoutSecs⟩,
    same .outputDirectory⟩

/-! ## Merging -/

theorem upper_eq_or {α : Type} (base top : Option α) : upper base top = top.or base := by
  cases top <;> rfl

theorem chosenList_upperList (base top : List String) :
    chosenList (upperList base top) = (chosenList top).or (chosenList base) := by
  cases top <;> rfl

/-- **Each field by itself** is chosen by the upper layer, or else by the lower one. -/
theorem choice_merge {α : Type} (field : Field α) (base top : Config) :
    field.choice (base.merge top) = (field.choice top).or (field.choice base) := by
  cases field <;>
    first | exact upper_eq_or _ _ | exact chosenList_upperList _ _

theorem choice_default {α : Type} (field : Field α) : field.choice {} = none := by
  cases field <;> rfl

theorem merge_assoc (first second third : Config) :
    (first.merge second).merge third = first.merge (second.merge third) := by
  refine ext_choice fun field => ?_
  simp only [choice_merge, Option.or_assoc]

theorem default_merge (config : Config) : merge {} config = config := by
  refine ext_choice fun field => ?_
  rw [choice_merge, choice_default, Option.or_none]

theorem merge_default (config : Config) : config.merge {} = config := by
  refine ext_choice fun field => ?_
  rw [choice_merge, choice_default, Option.none_or]

/-! ## Documents -/

/-- A section of a document. -/
inductive Section where
  | amplification
  | execution
  | mutation
  | output

/-- The keys of all sections, in order. -/
def sectionKeys : List String :=
  ["amplification", "execution", "mutation", "output"]

namespace Section

/-- The key of a section. -/
def key : Section → String
  | amplification => "amplification"
  | execution => "execution"
  | mutation => "mutation"
  | output => "output"

/-- The keys of the fields of a section, in order. -/
def fieldKeys : Section → List String
  | amplification => ["max_iterations", "pre_amplification", "test_prefix"]
  | execution => ["compile_command", "compile_args", "test_command", "test_args",
      "test_source_dir", "classes_dir", "test_classes_dir", "classpath", "timeout_secs"]
  | mutation => ["command", "args", "target_tests_prefix", "target_classes", "report_dir",
      "baseline_path", "timeout_secs"]
  | output => ["directory"]

end Section

/-- What stands under a key: in a table the value of the key, and in an array the element at the
position of the key. -/
def member? (keys : List String) (key : String) : Value → Option Value
  | .table entries => entries.lookup key
  | .array elements => elements[keys.idxOf key]?
  | _ => none

/-- Reads a list of arguments that is not empty. -/
def arguments? : Value → Option (List String)
  | .array elements => (elements.mapM text?).bind chosenList
  | _ => none

namespace Field

/-- The section of a field and the key of the field in that section. -/
def address {α : Type} : Field α → Section × String
  | maxIterations => (.amplification, "max_iterations")
  | preAmplification => (.amplification, "pre_amplification")
  | testPrefix => (.amplification, "test_prefix")
  | compileCommand => (.execution, "compile_command")
  | compileArgs => (.execution, "compile_args")
  | testCommand => (.execution, "test_command")
  | testArgs => (.execution, "test_args")
  | testSourceDir => (.execution, "test_source_dir")
  | classesDir => (.execution, "classes_dir")
  | testClassesDir => (.execution, "test_classes_dir")
  | classpath => (.execution, "classpath")
  | executionTimeoutSecs => (.execution, "timeout_secs")
  | mutationCommand => (.mutation, "command")
  | mutationArgs => (.mutation, "args")
  | targetTestsPrefix => (.mutation, "target_tests_prefix")
  | targetClasses => (.mutation, "target_classes")
  | reportDir => (.mutation, "report_dir")
  | baselinePath => (.mutation, "baseline_path")
  | mutationTimeoutSecs => (.mutation, "timeout_secs")
  | outputDirectory => (.output, "directory")

/-- Reads a value of the type of the field. -/
def read? {α : Type} : Field α → Value → Option α
  | maxIterations => word32?
  | preAmplification => bool?
  | compileArgs | testArgs | mutationArgs => arguments?
  | executionTimeoutSecs | mutationTimeoutSecs => word64?
  | testPrefix | compileCommand | testCommand | testSourceDir | classesDir | testClassesDir
  | classpath | mutationCommand | targetTestsPrefix | targetClasses | reportDir | baselinePath
  | outputDirectory => text?

/-- What stands under the key of the field in its section. -/
def inSection {α : Type} (field : Field α) (value : Value) : Option α :=
  (member? field.address.1.fieldKeys field.address.2 value).bind field.read?

/-- What a document says about the field. -/
def inDocument {α : Type} (field : Field α) (document : Value) : Option α :=
  (member? sectionKeys field.address.1.key document).bind field.inSection

end Field

theorem fields_of_sectionFields? {keys : List String} (distinct : keys.Nodup) {value : Value}
    {fields : List (Option Value)} (read : sectionFields? keys value = some fields) :
    fields = keys.map fun key => member? keys key value := by
  unfold sectionFields? at read
  split at read
  · exact (Option.some.inj read).symm
  · rw [← Option.some.inj read]
    refine List.ext_getElem (by simp) fun position inRange inKeys => ?_
    simp [member?, distinct.idxOf_getElem]
  · exact (Option.some.inj read).symm
  · exact absurd read nofun

theorem choice_of_chosen? {α : Type} {read : Value → Option α} {value : Option Value}
    {choice : Option α} (chosen : chosen? read value = some choice) : choice = value.bind read := by
  cases value with
  | none => exact (Option.some.inj chosen).symm
  | some value =>
      obtain ⟨result, isResult, rfl⟩ := Option.map_eq_some_iff.1 chosen
      exact isResult.symm

theorem choice_of_listed? {value : Option Value} {arguments : List String}
    (listed : listed? text? value = some arguments) :
    chosenList arguments = value.bind arguments? := by
  unfold listed? at listed
  split at listed
  · rw [← Option.some.inj listed]
    rfl
  · next elements => simp [arguments?, listed]
  · exact absurd listed nofun

/-- A section that is missing chooses nothing, and one that is there what it says. -/
theorem choice_of_sectionOr? {α β : Type} {default part : β} {read : Value → Option β}
    {value : Option Value} (choice : β → Option α) {inside : Value → Option α}
    (isRead : sectionOr? default read value = some part) (nothing : choice default = none)
    (something : ∀ value, read value = some part → choice part = inside value) :
    choice part = value.bind inside := by
  cases value with
  | none =>
      obtain rfl := Option.some.inj isRead
      exact nothing
  | some value => exact something value isRead

section

variable {α : Type} {value : Value} {config : Config}

theorem choice_of_amplificationOf? (read : amplificationOf? value = some config.amplification)
    (field : Field α) (inside : field.address.1 = .amplification) :
    field.choice config = field.inSection value := by
  unfold amplificationOf? at read
  split at read
  · next fields =>
      have members := fields_of_sectionFields? (by decide) fields
      simp only [List.map_cons, List.map_nil, List.cons.injEq, and_true] at members
      obtain ⟨rfl, rfl, rfl⟩ := members
      simp only [Option.bind_eq_bind, Option.bind_eq_some_iff, Option.pure_def,
        Option.some.injEq] at read
      obtain ⟨_, maxIterations, _, preAmplification, _, testPrefix, whole⟩ := read
      cases field <;> cases inside <;> simp only [Field.choice, ← whole]
      · exact choice_of_chosen? maxIterations
      · exact choice_of_chosen? preAmplification
      · exact choice_of_chosen? testPrefix
  · exact absurd read nofun

theorem choice_of_executionOf? (read : executionOf? value = some config.execution)
    (field : Field α) (inside : field.address.1 = .execution) :
    field.choice config = field.inSection value := by
  unfold executionOf? at read
  split at read
  · next fields =>
      have members := fields_of_sectionFields? (by decide) fields
      simp only [List.map_cons, List.map_nil, List.cons.injEq, and_true] at members
      obtain ⟨rfl, rfl, rfl, rfl, rfl, rfl, rfl, rfl, rfl⟩ := members
      simp only [Option.bind_eq_bind, Option.bind_eq_some_iff, Option.pure_def,
        Option.some.injEq] at read
      obtain ⟨_, compileCommand, _, compileArgs, _, testCommand, _, testArgs, _, testSourceDir, _,
        classesDir, _, testClassesDir, _, classpath, _, timeoutSecs, whole⟩ := read
      cases field <;> cases inside <;> simp only [Field.choice, ← whole]
      · exact choice_of_chosen? compileCommand
      · exact choice_of_listed? compileArgs
      · exact choice_of_chosen? testCommand
      · exact choice_of_listed? testArgs
      · exact choice_of_chosen? testSourceDir
      · exact choice_of_chosen? classesDir
      · exact choice_of_chosen? testClassesDir
      · exact choice_of_chosen? classpath
      · exact choice_of_chosen? timeoutSecs
  · exact absurd read nofun

theorem choice_of_mutationOf? (read : mutationOf? value = some config.mutation)
    (field : Field α) (inside : field.address.1 = .mutation) :
    field.choice config = field.inSection value := by
  unfold mutationOf? at read
  split at read
  · next fields =>
      have members := fields_of_sectionFields? (by decide) fields
      simp only [List.map_cons, List.map_nil, List.cons.injEq, and_true] at members
      obtain ⟨rfl, rfl, rfl, rfl, rfl, rfl, rfl⟩ := members
      simp only [Option.bind_eq_bind, Option.bind_eq_some_iff, Option.pure_def,
        Option.some.injEq] at read
      obtain ⟨_, command, _, arguments, _, targetTestsPrefix, _, targetClasses, _, reportDir, _,
        baselinePath, _, timeoutSecs, whole⟩ := read
      cases field <;> cases inside <;> simp only [Field.choice, ← whole]
      · exact choice_of_chosen? command
      · exact choice_of_listed? arguments
      · exact choice_of_chosen? targetTestsPrefix
      · exact choice_of_chosen? targetClasses
      · exact choice_of_chosen? reportDir
      · exact choice_of_chosen? baselinePath
      · exact choice_of_chosen? timeoutSecs
  · exact absurd read nofun

theorem choice_of_outputOf? (read : outputOf? value = some config.output)
    (field : Field α) (inside : field.address.1 = .output) :
    field.choice config = field.inSection value := by
  unfold outputOf? at read
  split at read
  · next fields =>
      have members := fields_of_sectionFields? (by decide) fields
      simp only [List.map_cons, List.map_nil, List.cons.injEq, and_true] at members
      subst members
      simp only [Option.bind_eq_bind, Option.bind_eq_some_iff, Option.pure_def,
        Option.some.injEq] at read
      obtain ⟨_, directory, whole⟩ := read
      cases field <;> cases inside
      simp only [Field.choice, ← whole]
      exact choice_of_chosen? directory
  · exact absurd read nofun

/-- **A document chooses for each field** what stands under the key of the field. -/
theorem choice_of_ofValue? {document : Value} (read : ofValue? document = some config)
    (field : Field α) : field.choice config = field.inDocument document := by
  unfold ofValue? at read
  split at read
  · next sections =>
      have members := fields_of_sectionFields? (by decide) sections
      simp only [List.map_cons, List.map_nil, List.cons.injEq, and_true] at members
      obtain ⟨rfl, rfl, rfl, rfl⟩ := members
      simp only [Option.bind_eq_bind, Option.bind_eq_some_iff, Option.pure_def,
        Option.some.injEq] at read
      obtain ⟨_, amplification, _, execution, _, mutation, _, output, whole⟩ := read
      obtain rfl := whole
      cases inside : field.address.1 with
      | amplification =>
          rw [Field.inDocument, inside]
          exact choice_of_sectionOr? (fun part => field.choice ⟨part, _, _, _⟩) amplification
            (by cases field <;> cases inside <;> rfl)
            fun value read => choice_of_amplificationOf? read field inside
      | execution =>
          rw [Field.inDocument, inside]
          exact choice_of_sectionOr? (fun part => field.choice ⟨_, part, _, _⟩) execution
            (by cases field <;> cases inside <;> rfl)
            fun value read => choice_of_executionOf? read field inside
      | mutation =>
          rw [Field.inDocument, inside]
          exact choice_of_sectionOr? (fun part => field.choice ⟨_, _, part, _⟩) mutation
            (by cases field <;> cases inside <;> rfl)
            fun value read => choice_of_mutationOf? read field inside
      | output =>
          rw [Field.inDocument, inside]
          exact choice_of_sectionOr? (fun part => field.choice ⟨_, _, _, part⟩) output
            (by cases field <;> cases inside; rfl)
            fun value read => choice_of_outputOf? read field inside
  · exact absurd read nofun

end

end TestAmplification.Config
