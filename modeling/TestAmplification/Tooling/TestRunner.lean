import TestAmplification.Json.Reader
import TestAmplification.Json.Record
import TestAmplification.Test.Result
import TestAmplification.Test.Suite
import TestAmplification.Text.Shown
import TestAmplification.Tooling.Launch

/-!
# Running tests with a command

The command prints a report on one line: a JSON object that lists the tests
that ran and those that failed. It may print whatever it likes before and after
it, as long as no later line starts with a brace. Whether the command succeeds
does not matter, since failing tests make most commands fail.

Placeholders in the command are `suite`, `tests` (the method names with commas
between them) and `classpath`.

Why a line is no report is told in the words of the reader of JSON documents,
which are not part of this library. Those about a text in place of a list repeat
the text, and so can hold whatever the command printed: they are known here. A
mark stands in place of all the others.
-/

set_option autoImplicit false

namespace TestAmplification

/-- Why an output holds no report. -/
inductive RunnerReportFault where
  /-- No line starts like a report. -/
  | missing
  /-- The line that starts like a report is none, for the given reason where its
  words are known. -/
  | invalid (reason : Option String)
deriving DecidableEq, Inhabited

namespace RunnerReportFault

/-- How the text about an invalid report starts. -/
def opening : String := "invalid runner report: "

/-- What stands in front of the output of a runner in a text about it. -/
def outputOpening : String := "; runner said: "

/-- The text of a fault. -/
def message : RunnerReportFault → String
  | missing => "no JSON report on stdout"
  | invalid reason => opening ++ reason.getD sourceMark

end RunnerReportFault

namespace RunnerReport

/-- The last line that starts with a brace, without the blanks around it. -/
def line? (output : String) : Option (List Char) :=
  ((Text.lineChars output.toList).reverse.map Text.trimChars).find? fun line =>
    line.head? == some '\x7b'

/-- The names of the lists in a report. -/
def listNames : List String := ["tests_run", "failures"]

/-- The names in a report: of the tests that ran, and of those that failed.
Either list may be left out. -/
def names? (value : Json) : Option (List String × List String) :=
  match Json.fieldValues? (listNames.map fun name => ⟨name, .defaulted⟩) value with
  | some [testsRun, failures] => do
      return (← Json.withDefault? [] (Json.list? Json.text?) testsRun,
        ← Json.withDefault? [] (Json.list? Json.text?) failures)
  | _ => none

/-- The first text that stands in place of a list of names, among the members of
an object of at most so many, and what follows it. Members after it are not
looked at, and neither is anything after a member that cannot be read, has a
name without a text, or names a list for the second time. -/
def misplacedText? (lists : List String) : Nat → List Char → Option (List Char × List Char)
  | 0, _ => none
  | steps + 1, characters =>
      match Json.skipBlanks characters with
      | '"' :: rest =>
          (Json.readSpelling rest).bind fun (spelling, rest) =>
          (Json.textOf? spelling).bind fun name =>
            match Json.skipBlanks rest with
            | ':' :: rest =>
                match lists.contains name, Json.skipBlanks rest with
                | true, '"' :: rest =>
                    (Json.readSpelling rest).bind fun (spelling, rest) =>
                      (Json.textOf? spelling).map fun text => (text.toList, rest)
                | isList, rest =>
                    (Json.readValue (2 * rest.length + 2) rest).bind fun (value, rest) =>
                      match Json.skipBlanks rest with
                      | ',' :: rest =>
                          if isList && (Json.list? Json.text? value).isNone
                              || !isList && listNames.contains name then none
                          else misplacedText? (lists.erase name) steps rest
                      | _ => none
            | _ => none
      | _ => none

/-- Why a line that starts like a report is none, in the words of the reader of
JSON documents, where a text stands in place of a list. -/
def knownReason? (line : List Char) : Option String :=
  (misplacedText? listNames line.length line.tail).map fun (text, rest) =>
    let column := (String.ofList (line.take (line.length - rest.length))).utf8ByteSize
    "invalid type: string \"" ++ String.ofList (Text.shown text)
      ++ "\", expected a sequence at line 1 column " ++ Text.decimal column

/-- The identities that names denote. A name without a suite belongs to the
given one, and names that denote no identity are passed over. -/
def identities (suite : String) (names : List String) : List TestId :=
  names.filterMap fun name => TestId.parse name suite

/-- The result that an output reports. -/
def parse (output suite : String) : Except RunnerReportFault ExecutionResult :=
  match line? output with
  | none => .error .missing
  | some line =>
      match (Json.parse? (String.ofList line)).bind names? with
      | none => .error (.invalid (knownReason? line))
      | some (testsRun, failures) =>
          .ok (.ofLists (identities suite testsRun) (identities suite failures))

end RunnerReport

/-- A test runner that runs a command. -/
structure TestRunner where
  /-- The command. -/
  command : CommandLine
  /-- How long the command may take. -/
  limit : Duration
deriving DecidableEq, Inhabited

namespace TestRunner

/-- The number of lines of diagnostics in the text of a failure. -/
def diagnosticLines : Nat := 5

/-- What the placeholders of the command stand for. -/
def placeholders (suite : TestSuite) (tests : List TestCase) (classpath : String) : Variables :=
  [("suite", suite.name), ("tests", ",".intercalate (tests.map TestCase.name)),
    ("classpath", classpath)]

/-- The result that a finished command reports. -/
def verdict (suite : TestSuite) (process : ProcessOutput) :
    Except ToolingError ExecutionResult :=
  match RunnerReport.parse process.output suite.name with
  | .ok result => .ok result
  | .error fault =>
      .error (.executionFailed suite.name
        (fault.message ++ RunnerReportFault.outputOpening ++ process.diagnostics diagnosticLines))

/-- Runs tests of a suite. -/
def run (runner : TestRunner) (launcher : Launcher) (suite : TestSuite)
    (tests : List TestCase) (classpath : String) :
    StateM Disk (Except ToolingError ExecutionResult) := do
  let command := runner.command.expanded (placeholders suite tests classpath)
  return (← launcher.runToEnd command runner.limit).bind (verdict suite)

end TestRunner

end TestAmplification
