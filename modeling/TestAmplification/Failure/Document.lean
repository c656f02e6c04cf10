import TestAmplification.Failure
import TestAmplification.Json.Record
import TestAmplification.Tooling.TestRunner

/-!
# Failures as JSON documents

A failure is written with its kind, its code and its text. What the operating
system or a reader of documents says about it differs from place to place, so
a mark stands in its place. These documents are for an onlooker: the library
itself hands failures on as they are.
-/

set_option autoImplicit false

namespace TestAmplification

open Json (ofText ofMembers)

/-- A text with a mark in place of the reason why a report of a runner is
invalid. The reason goes on to the output of the runner or to the end. -/
def withoutReason (message : String) : String :=
  let opening := RunnerReportFault.opening.toList
  let output := RunnerReportFault.outputOpening.toList
  match Text.cutAt opening message.toList with
  | none => message
  | some (before, after) =>
      let said := ((Text.cutAt output after).map fun (_, said) => output ++ said).getD []
      String.ofList (before ++ opening ++ sourceMark.toList ++ said)

/-- Reads a failure of a tool. Texts that are left out are empty. -/
def ToolingError.ofJson? (value : Json) : Option ToolingError := do
  let text (name : String) : Option String := value.givenOr? name Json.text? ""
  let number (name : String) : Option Nat := value.givenOr? name Json.nat? 0
  match ← value.required? "kind" Json.text? with
  | "CompilationFailed" => return .compilationFailed (← text "suite") (← text "message")
  | "ExecutionFailed" => return .executionFailed (← text "suite") (← text "message")
  | "AnalysisFailed" => return .analysisFailed (← text "message")
  | "Timeout" =>
      return .timeout (← text "command") (.ofParts (← number "secs") (← number "nanos"))
  | "Spawn" => return .spawn (← text "command") (← text "message")
  | "Io" => return .io (← text "context") (← text "source")
  | _ => none

namespace AmplificationError

/-- Reads a failure. Texts that are left out are empty. -/
def ofJson? (value : Json) : Option AmplificationError := do
  let text (name : String) : Option String := value.givenOr? name Json.text? ""
  match ← value.required? "type" Json.text?, ← value.required? "kind" Json.text? with
  | "Tooling", _ => return .tooling (← ToolingError.ofJson? value)
  | "Config", "FileNotFound" => return .config (.fileNotFound (← text "path"))
  | "Config", "ParseError" => return .config (.parseError (← text "path") (← text "message"))
  | "Config", "ValidationFailed" =>
      return .config (.validationFailed (← text "field") (← text "message"))
  | "Genealogy", "Cycle" => return .genealogy (.cycle (← text "child") (← text "parent"))
  | "Genealogy", "AlreadyParented" =>
      return .genealogy
        (.alreadyParented (← text "child") (← text "existing") (← text "requested"))
  | "MutationReport", "Malformed" =>
      return .mutationReport
        (.malformed (← value.givenOr? "line" Json.nat? 0) (← text "message"))
  | "MutationReport", "Missing" => return .mutationReport (.missing (← text "path"))
  | "MutationReport", "Io" => return .mutationReport (.io (← text "path") (← text "source"))
  | "Report", "NoActiveSuite" => return .report .noActiveSuite
  | "Report", "Io" => return .report (.io (← text "path") (← text "source"))
  | _, _ => none

/-- The name of the kind of a failure. -/
def kind : AmplificationError → String
  | tooling (.compilationFailed ..) => "ToolingError.CompilationFailed"
  | tooling (.executionFailed ..) => "ToolingError.ExecutionFailed"
  | tooling (.analysisFailed ..) => "ToolingError.AnalysisFailed"
  | tooling (.timeout ..) => "ToolingError.Timeout"
  | tooling (.spawn ..) => "ToolingError.Spawn"
  | tooling (.io ..) => "ToolingError.Io"
  | config (.fileNotFound ..) => "ConfigError.FileNotFound"
  | config (.parseError ..) => "ConfigError.ParseError"
  | config (.validationFailed ..) => "ConfigError.ValidationFailed"
  | genealogy (.alreadyParented ..) => "GenealogyError.AlreadyParented"
  | genealogy (.cycle ..) => "GenealogyError.Cycle"
  | mutationReport (.malformed ..) => "MutationReportError.Malformed"
  | mutationReport (.missing ..) => "MutationReportError.Missing"
  | mutationReport (.io ..) => "MutationReportError.Io"
  | report .noActiveSuite => "ReportError.NoActiveSuite"
  | report (.io ..) => "ReportError.Io"
  | report (.overflow ..) => "ReportError.Overflow"

/-- The failure with a mark in place of the text of the operating system. -/
def withoutSource : AmplificationError → AmplificationError
  | tooling (.spawn command _) => tooling (.spawn command sourceMark)
  | tooling (.io context _) => tooling (.io context sourceMark)
  | mutationReport (.io path _) => mutationReport (.io path sourceMark)
  | report (.io path _) => report (.io path sourceMark)
  | error => error

/-- The document of a failure. Of a text that is no configuration only the place
is written. -/
def toJson (error : AmplificationError) : Json :=
  let error := error.withoutSource
  let start := [("error", ofText error.kind), ("code", ofText error.code)]
  let text :=
    match error with
    | tooling (.executionFailed ..) => withoutReason error.innerMessage
    | _ => error.innerMessage
  let message := ("message", ofText text)
  match error with
  | tooling inner => ofMembers (start ++ [message, ("is_timeout", .bool inner.isTimeout)])
  | config (.parseError path _) => ofMembers (start ++ [("path", ofText path)])
  | config (.validationFailed field _) => ofMembers (start ++ [("field", ofText field), message])
  | _ => ofMembers (start ++ [message])

/-- The document of a failure inside the one that can be any. -/
def wrappedJson (error : AmplificationError) : Json :=
  ofMembers [("error", ofText "AmplifyError"), ("code", ofText error.code),
    ("inner", error.toJson)]

/-- The document of all texts of a failure, alone and with its area. -/
def textsJson (error : AmplificationError) : Json :=
  let timeout :=
    match error with
    | tooling inner => [("is_timeout", Json.bool inner.isTimeout)]
    | _ => []
  ofMembers ([("display", ofText error.innerMessage), ("code", ofText error.code),
    ("coded", ofText (coded error.code error.innerMessage)),
    ("source", Json.orNull ofText error.innerSource?), ("amplify", ofText error.message),
    ("amplify_coded", ofText (coded error.code error.message)),
    ("amplify_source", ofText error.innerMessage)] ++ timeout)

end AmplificationError

end TestAmplification
