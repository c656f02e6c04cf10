import TestAmplification.Failure
import TestAmplification.Files.Disk
import TestAmplification.Mutant
import TestAmplification.Mutant.KillingTest
import TestAmplification.Text.Lines

/-!
# Mutation reports

A report has one record a line, and blank lines between records do not count.
The fields of a record are separated by commas:

    file, class, operator, location, line, state, killing test

The first six must be there. Everything after the sixth comma is the killing
test, also when it holds commas itself, and blanks around fields do not count.
A report with a line that is no record is refused as a whole; the refusal gives
the number of the first such line, counting all lines from one.

The report stands in a directory, either directly or in one of its
subdirectories. Of several reports in subdirectories the one that was changed
last counts.
-/

set_option autoImplicit false

namespace TestAmplification.MutationReport

/-- The name of a report file. -/
def fileName : String := "mutations.csv"

/-- The number of commas that separate fields. -/
def separators : Nat := 6

/-- The fields of a record, without the blanks around them. -/
def fieldsOf (line : List Char) : List (List Char) :=
  (Text.fields ',' separators line).map Text.trimChars

/-- The outcome that the fields of a record describe, or what is wrong with
them. -/
def outcomeOf : List (List Char) → Except String MutantOutcome
  | _ :: className :: operator :: location :: line :: state :: rest =>
      match Text.word32? line with
      | none => .error ("invalid line number `" ++ String.ofList line ++ "`")
      | some number =>
          match MutantState.parse (String.ofList state) with
          | .error message => .error message
          | .ok state => .ok {
              mutant := {
                operator := String.ofList operator
                className := String.ofList className
                location := String.ofList location
                line := number }
              state
              killingTest := rest.head?.bind fun raw => KillingTest.ofText? (String.ofList raw) }
  | fields =>
      .error ("expected at least 6 fields, found " ++ Text.decimal fields.length)

/-- Does the line hold nothing but blanks? -/
def isBlankLine (line : List Char) : Bool :=
  (Text.trimChars line).isEmpty

/-- The outcomes of lines, the first of which has the given number. -/
def outcomesFrom : Nat → List (List Char) → Except MutationReportError (List MutantOutcome)
  | _, [] => .ok []
  | number, line :: rest =>
      if isBlankLine line then outcomesFrom (number + 1) rest
      else
        match outcomeOf (fieldsOf line) with
        | .error message => .error (.malformed number message)
        | .ok outcome => (outcomesFrom (number + 1) rest).map (outcome :: ·)

/-- The outcomes of a report. -/
def parse (content : String) : Except MutationReportError (List MutantOutcome) :=
  outcomesFrom 1 (Text.lineChars content.toList)

/-! ## Reports as files -/

/-- The reports in the subdirectories of a directory, with the moments of their
last change. -/
def nestedReports (disk : Disk) (directory : Path) (names : List String) : List (Path × Int) :=
  names.filterMap fun name =>
    let path := Path.join (Path.join directory name) fileName
    (disk.lastChange? path).map (path, ·)

/-- The newest of the reports; of equally new ones the last. -/
def newest? : List (Path × Int) → Option (Path × Int)
  | [] => none
  | first :: rest =>
      match newest? rest with
      | none => some first
      | some later => if later.2 < first.2 then some first else some later

/-- The report in a directory. -/
def find (disk : Disk) (directory : Path) : Except MutationReportError Path :=
  let direct := Path.join directory fileName
  if disk.isFile direct then .ok direct
  else
    match (disk.namesIn? directory).bind fun names =>
        newest? (nestedReports disk directory names) with
    | some (path, _) => .ok path
    | none => .error (.missing directory)

/-- The outcomes of the report at a path. -/
def load (path : Path) : StateM Disk (Except MutationReportError (List MutantOutcome)) := do
  match ← Disk.readText path with
  | .error source => return .error (.io path source)
  | .ok content => return parse content

/-- The outcomes of the report in a directory. -/
def collect (directory : Path) :
    StateM Disk (Except MutationReportError (List MutantOutcome)) := do
  match find (← get) directory with
  | .error error => return .error error
  | .ok path => load path

end TestAmplification.MutationReport
