import TestAmplification.Files.Path
import TestAmplification.Json.Printer
import TestAmplification.Mutant
import TestAmplification.Table

/-!
# The kill report

The kill report of a suite says how many mutants the initial suite kills, how
many tests were added and how many further mutants these kill. It has two
forms: a short text, and a JSON document that lists for every added test the
mutants credited to it. The document maps the suite to an object that maps
method names, in ascending order, to their entries; of two tests with one
method name the later one is listed.
-/

set_option autoImplicit false

namespace TestAmplification

/-- The kills of one added test. -/
structure TestKills where
  /-- The test. -/
  test : TestId
  /-- The assertions added to it since its origin. -/
  assertionsAdded : Nat
  /-- The inputs added to it since its origin. -/
  inputsAdded : Nat
  /-- The outcomes of the mutants it is credited with. -/
  mutants : List MutantOutcome
deriving DecidableEq, Inhabited

/-- What a selection achieved for a suite. -/
structure KillReport where
  /-- The name of the selector. -/
  selector : String
  /-- The name of the suite. -/
  suite : String
  /-- The number of mutants that the initial suite kills. -/
  baselineKilled : Nat
  /-- The kills of the added tests. -/
  tests : List TestKills
deriving DecidableEq, Inhabited

namespace KillReport

/-- The mutants that the added tests kill, each once. -/
def newMutants (report : KillReport) : KeySet MutantId :=
  KeySet.ofList <| report.tests.flatMap fun kills => kills.mutants.map MutantOutcome.mutant

/-- The number of mutants that the added tests kill. -/
def newMutantsKilled (report : KillReport) : Nat :=
  report.newMutants.size

/-- The text form of a report. -/
def text (report : KillReport) : String :=
  "\n======= REPORT =======\n" ++ report.selector ++ ":\n"
    ++ "The original test suite kills " ++ Text.decimal report.baselineKilled ++ " mutants\n"
    ++ "The amplification results with " ++ Text.decimal report.tests.length ++ " new tests\n"
    ++ "it kills " ++ Text.decimal report.newMutantsKilled ++ " more mutants\n"

/-- The document of one credited mutant. -/
def mutantDocument (outcome : MutantOutcome) : Json :=
  .ofMembers [("ID", .ofText outcome.mutant.operator),
    ("lineNumber", .ofText (Text.decimal outcome.line.toNat)),
    ("location", .ofText outcome.location)]

/-- The document of one added test. -/
def testDocument (kills : TestKills) : Json :=
  .ofMembers [("#AssertionAdded", .ofNat kills.assertionsAdded),
    ("#InputAdded", .ofNat kills.inputsAdded),
    ("#MutantKilled", .ofNat kills.mutants.length),
    ("MutantsKilled", .array (kills.mutants.map mutantDocument))]

/-- The added tests by method name. -/
def byMethod (report : KillReport) : Table String TestKills :=
  Table.ofList (report.tests.map fun kills => (kills.test.method, kills))

/-- The document form of a report. -/
def document (report : KillReport) : Json :=
  .ofMembers [(report.suite,
    .ofMembers (report.byMethod.entries.map fun (method, kills) => (method, testDocument kills)))]

/-- The file name of the text form. -/
def textFileName (suite : String) : String :=
  suite ++ "_mutants_report.txt"

/-- The file name of the document form. -/
def documentFileName (suite : String) : String :=
  suite ++ "_mutants_killed.json"

/-- The files of a report in a directory, in the order in which they are
written. -/
def files (report : KillReport) (directory : Path) : List (Path × String) :=
  [(Path.join directory (textFileName report.suite), report.text),
    (Path.join directory (documentFileName report.suite), report.document.indented)]

end KillReport

end TestAmplification
