import TestAmplification.Duration

/-!
# Failures and their texts

Everything that can go wrong is a cause with the values that belong to it. The
wording of a cause is given by one function `message`, and every cause has a
short code by which machines tell kinds of failures apart. A cause that stems
from the operating system keeps the text of the system as its source.
-/

set_option autoImplicit false

namespace TestAmplification

/-- The mark for a text that comes from elsewhere. -/
def sourceMark : String := "<source>"

/-! ## Tools -/

/-- Why a compiler, a test runner or a mutation engine gave no answer. -/
inductive ToolingError where
  /-- The suite does not compile. -/
  | compilationFailed (suite message : String)
  /-- The tests of the suite could not be run. -/
  | executionFailed (suite message : String)
  /-- The mutation engine gave no usable report. -/
  | analysisFailed (message : String)
  /-- A command outlived its limit. -/
  | timeout (command : String) (limit : Duration)
  /-- A command could not be started. -/
  | spawn (command source : String)
  /-- A file could not be read or written. -/
  | io (context source : String)
deriving DecidableEq, Inhabited

namespace ToolingError

/-- The text of the failure. -/
def message : ToolingError → String
  | compilationFailed suite message => "compilation of " ++ suite ++ " failed: " ++ message
  | executionFailed suite message => "test execution of " ++ suite ++ " failed: " ++ message
  | analysisFailed message => "mutation analysis failed: " ++ message
  | timeout command limit => "`" ++ command ++ "` timed out after " ++ limit.render
  | spawn command source => "failed to spawn `" ++ command ++ "`: " ++ source
  | io context source => "I/O error in " ++ context ++ ": " ++ source

/-- Did a command outlive its limit? -/
def isTimeout : ToolingError → Bool
  | timeout .. => true
  | _ => false

/-- The code of the failure. -/
def code (error : ToolingError) : String :=
  if error.isTimeout then "TOOLING_TIMEOUT" else "TOOLING_FAILURE"

/-- The underlying cause, where there is one. -/
def source? : ToolingError → Option String
  | io _ source => some source
  | _ => none

end ToolingError

/-! ## Configuration -/

/-- Why a configuration is not usable. -/
inductive ConfigError where
  /-- The file at the path cannot be read. -/
  | fileNotFound (path : String)
  /-- The text at the path is not a configuration. -/
  | parseError (path message : String)
  /-- A field has a value that makes no sense. -/
  | validationFailed (field message : String)
deriving DecidableEq, Inhabited

namespace ConfigError

/-- The text of the failure. -/
def message : ConfigError → String
  | fileNotFound path => "Config file not found: " ++ path
  | parseError path message => "Config parse error in " ++ path ++ ": " ++ message
  | validationFailed field message =>
      "Config validation failed for " ++ field ++ ": " ++ message

/-- The code of the failure. -/
def code (_ : ConfigError) : String := "CONFIG_ERROR"

end ConfigError

/-! ## Lineage -/

/-- Why a test cannot be recorded as derived from another. -/
inductive GenealogyError where
  /-- The child has another parent already. -/
  | alreadyParented (child existing requested : String)
  /-- The child is the parent itself or one of its ancestors. -/
  | cycle (child parent : String)
deriving DecidableEq, Inhabited

namespace GenealogyError

/-- The text of the failure. -/
def message : GenealogyError → String
  | alreadyParented child existing requested =>
      child ++ " already derives from " ++ existing ++ ", cannot re-parent to " ++ requested
  | cycle child parent =>
      "recording " ++ child ++ " -> " ++ parent ++ " would create a cycle"

/-- The code of the failure. -/
def code (_ : GenealogyError) : String := "GENEALOGY_ERROR"

end GenealogyError

/-! ## Mutation reports -/

/-- Why a mutation report cannot be read. -/
inductive MutationReportError where
  /-- A line is not a record. -/
  | malformed (line : Nat) (message : String)
  /-- There is no report at the place. -/
  | missing (path : String)
  /-- The report at the path cannot be read. -/
  | io (path source : String)
deriving DecidableEq, Inhabited

namespace MutationReportError

/-- The text of the failure. -/
def message : MutationReportError → String
  | malformed line message =>
      "malformed mutation record at line " ++ Text.decimal line ++ ": " ++ message
  | missing path => "no mutation report found under " ++ path
  | io path source => "failed to read mutation report " ++ path ++ ": " ++ source

/-- The code of the failure. -/
def code (_ : MutationReportError) : String := "MUTATION_REPORT_ERROR"

/-- The underlying cause, where there is one. -/
def source? : MutationReportError → Option String
  | io _ source => some source
  | _ => none

end MutationReportError

/-! ## Reports on a selection -/

/-- A count that does not fit into the width it is kept in. -/
structure AdditionOverflow where
deriving DecidableEq, Inhabited

/-- The text of an overflow. -/
def AdditionOverflow.message (_ : AdditionOverflow) : String :=
  "attempt to add with overflow"

/-- Why there is no report on a selection. -/
inductive ReportError where
  /-- No suite is being amplified. -/
  | noActiveSuite
  /-- A file of the report cannot be written. -/
  | io (path source : String)
  /-- The additions of a reported test cannot be counted. -/
  | overflow (cause : AdditionOverflow)
deriving DecidableEq, Inhabited

namespace ReportError

/-- The text of the failure. -/
def message : ReportError → String
  | noActiveSuite => "no suite is being amplified, nothing to report"
  | io path source => "failed to write report " ++ path ++ ": " ++ source
  | overflow cause => cause.message

/-- The code of the failure. -/
def code (_ : ReportError) : String := "REPORT_ERROR"

/-- The underlying cause, where there is one. -/
def source? : ReportError → Option String
  | io _ source => some source
  | _ => none

end ReportError

/-! ## All failures together -/

/-- Any failure of an amplification. -/
inductive AmplificationError where
  | tooling (error : ToolingError)
  | config (error : ConfigError)
  | genealogy (error : GenealogyError)
  | mutationReport (error : MutationReportError)
  | report (error : ReportError)
deriving DecidableEq, Inhabited

namespace AmplificationError

/-- The text of the wrapped failure alone. -/
def innerMessage : AmplificationError → String
  | tooling error => error.message
  | config error => error.message
  | genealogy error => error.message
  | mutationReport error => error.message
  | report error => error.message

/-- The area that a failure belongs to. -/
def area : AmplificationError → String
  | tooling _ => "Tooling"
  | config _ => "Configuration"
  | genealogy _ => "Genealogy"
  | mutationReport _ => "Mutation report"
  | report _ => "Report"

/-- The text of a failure, with its area in front. -/
def message (error : AmplificationError) : String :=
  error.area ++ " error: " ++ error.innerMessage

/-- The code of the wrapped failure. -/
def code : AmplificationError → String
  | tooling error => error.code
  | config error => error.code
  | genealogy error => error.code
  | mutationReport error => error.code
  | report error => error.code

/-- The underlying cause of the wrapped failure, where there is one. -/
def innerSource? : AmplificationError → Option String
  | tooling error => error.source?
  | mutationReport error => error.source?
  | report error => error.source?
  | _ => none

end AmplificationError

/-- A text with a code in front. -/
def coded (code message : String) : String :=
  "[" ++ code ++ "] " ++ message

end TestAmplification
