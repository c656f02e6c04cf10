import TestAmplification.Json.Record
import TestAmplification.Mutant
import TestAmplification.Test.Result
import TestAmplification.Test.Suite

/-!
# Tests, mutants and results as JSON documents

Each record is written with its fields in declared order. A test without an
origin is written without that field; everything else is always written. Sets
are written as arrays in ascending order and read from arrays in any order.
-/

set_option autoImplicit false

namespace TestAmplification

open Json (ofText ofNat ofMembers)

/-! ## Identities -/

namespace TestId

/-- The document of a test identity. -/
def toJson (id : TestId) : Json :=
  ofMembers [("suite", ofText id.suite), ("method", ofText id.method)]

/-- Reads a test identity. -/
def ofJson? (value : Json) : Option TestId :=
  match Json.fieldValues? [⟨"suite", .required⟩, ⟨"method", .required⟩] value with
  | some [some suite, some method] => do return ⟨← suite.text?, ← method.text?⟩
  | _ => none

end TestId

namespace MutantId

/-- The document of a mutant identity. -/
def toJson (mutant : MutantId) : Json :=
  ofMembers [("operator", ofText mutant.operator), ("class", ofText mutant.className),
    ("location", ofText mutant.location), ("line", ofNat mutant.line.toNat)]

/-- Reads a mutant identity. -/
def ofJson? (value : Json) : Option MutantId :=
  match Json.fieldValues? [⟨"operator", .required⟩, ⟨"class", .required⟩,
      ⟨"location", .required⟩, ⟨"line", .required⟩] value with
  | some [some operator, some className, some location, some line] => do
      return ⟨← operator.text?, ← className.text?, ← location.text?, ← line.word32?⟩
  | _ => none

end MutantId

/-! ## Outcomes of mutants -/

namespace MutantState

/-- The document of a state: its name. -/
def toJson (state : MutantState) : Json :=
  ofText state.name

/-- Reads a state: its exact name, or an object that maps the name to
`null`. -/
def ofJson? : Json → Option MutantState
  | .string spelling => (Json.textOf? spelling).bind ofName?
  | .object [(spelling, .null)] => (Json.textOf? spelling).bind ofName?
  | _ => none

end MutantState

namespace MutantOutcome

/-- The document of an outcome. -/
def toJson (outcome : MutantOutcome) : Json :=
  ofMembers [("mutant", outcome.mutant.toJson), ("state", outcome.state.toJson),
    ("killing_test", (outcome.killingTest.map TestId.toJson).getD .null)]

/-- Reads an outcome. -/
def ofJson? (value : Json) : Option MutantOutcome :=
  match Json.fieldValues? [⟨"mutant", .required⟩, ⟨"state", .required⟩,
      ⟨"killing_test", .nullable⟩] value with
  | some [some mutant, some state, killingTest] => do
      return ⟨← MutantId.ofJson? mutant, ← MutantState.ofJson? state,
        ← Json.optional? TestId.ofJson? killingTest⟩
  | _ => none

end MutantOutcome

/-! ## Tests and suites -/

namespace TestCase

/-- The document of a test. -/
def toJson (test : TestCase) : Json :=
  let origin :=
    match test.derivedFrom with
    | some id => [("derived_from", id.toJson)]
    | none => []
  ofMembers ([("id", test.id.toJson), ("body", ofText test.body)] ++ origin ++
    [("assertions_added", ofNat test.assertionsAdded.toNat),
      ("inputs_added", ofNat test.inputsAdded.toNat)])

/-- Reads a test. -/
def ofJson? (value : Json) : Option TestCase :=
  match Json.fieldValues? [⟨"id", .required⟩, ⟨"body", .required⟩, ⟨"derived_from", .defaulted⟩,
      ⟨"assertions_added", .defaulted⟩, ⟨"inputs_added", .defaulted⟩] value with
  | some [some id, some body, derivedFrom, assertionsAdded, inputsAdded] => do
      return {
        id := ← TestId.ofJson? id
        body := ← body.text?
        derivedFrom := ← Json.optional? TestId.ofJson? derivedFrom
        assertionsAdded := ← Json.withDefault? 0 Json.word32? assertionsAdded
        inputsAdded := ← Json.withDefault? 0 Json.word32? inputsAdded }
  | _ => none

end TestCase

namespace TestSuite

/-- The document of a suite. -/
def toJson (suite : TestSuite) : Json :=
  ofMembers [("name", ofText suite.name), ("fixtures", .array (suite.fixtures.map ofText)),
    ("methods", .array (suite.methods.map TestCase.toJson))]

/-- Reads a suite. -/
def ofJson? (value : Json) : Option TestSuite :=
  match Json.fieldValues? [⟨"name", .required⟩, ⟨"fixtures", .defaulted⟩,
      ⟨"methods", .defaulted⟩] value with
  | some [some name, fixtures, methods] => do
      return {
        name := ← name.text?
        fixtures := ← Json.withDefault? [] (Json.list? Json.text?) fixtures
        methods := ← Json.withDefault? [] (Json.list? TestCase.ofJson?) methods }
  | _ => none

end TestSuite

/-! ## Results -/

namespace ExecutionResult

/-- The document of a result. -/
def toJson (result : ExecutionResult) : Json :=
  ofMembers [("tests_run", .array (result.testsRun.toList.map TestId.toJson)),
    ("failures", .array (result.failures.toList.map TestId.toJson))]

/-- Reads a result. -/
def ofJson? (value : Json) : Option ExecutionResult :=
  match Json.fieldValues? [⟨"tests_run", .required⟩, ⟨"failures", .required⟩] value with
  | some [some testsRun, some failures] => do
      return ofLists (← Json.list? TestId.ofJson? testsRun) (← Json.list? TestId.ofJson? failures)
  | _ => none

end ExecutionResult

namespace OutputPaths

/-- The document of the output paths. -/
def toJson (paths : OutputPaths) : Json :=
  ofMembers [("classes_dir", ofText paths.classesDir),
    ("test_classes_dir", ofText paths.testClassesDir)]

/-- Reads output paths. -/
def ofJson? (value : Json) : Option OutputPaths :=
  match Json.fieldValues? [⟨"classes_dir", .required⟩, ⟨"test_classes_dir", .required⟩] value with
  | some [some classesDir, some testClassesDir] => do
      return ⟨← classesDir.text?, ← testClassesDir.text?⟩
  | _ => none

end OutputPaths

end TestAmplification
