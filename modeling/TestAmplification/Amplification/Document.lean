import TestAmplification.Amplification.Loop
import TestAmplification.Selection.Document

/-!
# Amplifications as JSON documents

Documents that show events, the journal of a run and what became of a suite. They
are for an onlooker: no function of an amplification reads or writes them.
-/

set_option autoImplicit false

namespace TestAmplification

open Json (ofText ofNat ofMembers orNull)

/-! ## Events -/

/-- The name of a reason. -/
def SkipReason.name : SkipReason → String
  | nothingNominated => "NothingNominated"
  | noCandidates => "NoCandidates"
  | compilationFailed => "CompilationFailed"
  | executionFailed => "ExecutionFailed"
  | incompleteRun => "IncompleteRun"

/-- All reasons. -/
def SkipReason.all : List SkipReason :=
  [nothingNominated, noCandidates, compilationFailed, executionFailed, incompleteRun]

/-- Reads a reason. -/
def SkipReason.ofJson? (value : Json) : Option SkipReason :=
  value.text?.bind fun name => SkipReason.all.find? fun reason => reason.name == name

/-- The name of a kind of events. -/
def EventKind.name : EventKind → String
  | suiteStarted => "suite_started"
  | seedExcluded => "seed_excluded"
  | iterationSkipped => "iteration_skipped"
  | testsKept => "tests_kept"
  | suiteComplete => "suite_complete"

namespace Event

/-- The values of an event, with identities as documents. -/
def payload : Event → List Json
  | suiteStarted suite seedTests maxIterations =>
      [ofText suite, ofNat seedTests, ofNat maxIterations.toNat]
  | seedExcluded suite test => [ofText suite, test.toJson]
  | iterationSkipped test iteration reason =>
      [test.toJson, ofNat iteration, ofText reason.name]
  | testsKept test iteration candidates kept =>
      [test.toJson, ofNat iteration, ofNat candidates, .array (kept.map TestId.toJson)]
  | suiteComplete suite amplifiedTests duration =>
      [ofText suite, ofNat amplifiedTests, ofNat duration]

/-- Reads an event from an object that gives its kind under the name `do`. -/
def ofJson? (value : Json) : Option Event := do
  let suite := value.required? "suite" Json.text?
  let test := value.required? "test" TestId.ofJson?
  let number (name : String) : Option Nat := value.required? name Json.nat?
  match ← value.required? "do" Json.text? with
  | "suite_started" =>
      return suiteStarted (← suite) (← number "seed_tests")
        (← value.required? "max_iterations" Json.word32?)
  | "seed_excluded" => return seedExcluded (← suite) (← test)
  | "iteration_skipped" =>
      return iterationSkipped (← test) (← number "iteration")
        (← value.required? "reason" SkipReason.ofJson?)
  | "tests_kept" =>
      return testsKept (← test) (← number "iteration") (← number "candidates")
        (← value.required? "kept" (Json.list? TestId.ofJson?))
  | "suite_complete" =>
      return suiteComplete (← suite) (← number "amplified_tests") (← number "duration_ms")
  | _ => none

/-- The entry of an event in the document of a journal: its name and its values,
without the duration of a suite. -/
def entryJson (event : Event) : Json :=
  let values :=
    match event with
    | suiteStarted suite seedTests maxIterations =>
        [ofText suite, ofNat seedTests, ofNat maxIterations.toNat]
    | seedExcluded suite test => [ofText suite, test.textJson]
    | iterationSkipped seed iteration reason =>
        [seed.textJson, ofNat iteration, ofText reason.name]
    | testsKept seed iteration candidates kept =>
        [seed.textJson, ofNat iteration, ofNat candidates, .array (kept.map TestId.textJson)]
    | suiteComplete suite amplifiedTests _ => [ofText suite, ofNat amplifiedTests]
  .array (ofText ("on_" ++ event.kind.name) :: values)

end Event

/-! ## Journals -/

namespace JournalEntry

/-- Does the entry note a call of the compiler, the runner or the engine? -/
def isToolCall : JournalEntry → Bool
  | compiled .. | ran .. | engine _ => true
  | _ => false

/-- The document of an entry. -/
def toJson : JournalEntry → Json
  | applied amplifier test => .array [ofText "apply", ofText amplifier, test.id.textJson]
  | amplifierReset amplifier suite =>
      .array [ofText "amplifier_reset", ofText amplifier, ofText suite]
  | assertionsAsked suite tests => .array [ofText "assertions", ofText suite.name, idsJson tests]
  | compiled suite paths =>
      .array [ofText "compile", ofText suite.name, idsJson suite.methods, paths.toJson]
  | ran suite tests classpath =>
      .array [ofText "run", ofText suite.name, idsJson tests, ofText classpath]
  | engine call => call.toJson
  | announced event => event.entryJson

end JournalEntry

/-! ## Results -/

/-- The document of a tally: its numbers in order. -/
def Tally.toJson (tally : Tally) : Json :=
  .array ([tally.suitesAmplified, tally.amplifiedTests, tally.compileFailures,
    tally.executionFailures, tally.failingCandidates].map ofNat)

/-- The document of what became of a suite. -/
def SuiteOutcome.toJson (disk : Disk) (outcome : SuiteOutcome) : Json :=
  ofMembers [("suite", outcome.suite.toJson),
    ("report", orNull (SelectionReport.toJson disk) outcome.report)]

/-- The document of the lineage of a test: its parent, its depth, its root and
the additions since then. -/
def Genealogy.lineageJson (genealogy : Genealogy) (id : TestId) :
    Except AdditionOverflow Json := do
  return .array [id.textJson, orNull TestId.textJson (genealogy.parentOf? id),
    ofNat (genealogy.depth id), (genealogy.rootOf id).textJson,
    ofNat (← genealogy.assertionsSinceOrigin id), ofNat (← genealogy.inputsSinceOrigin id)]

end TestAmplification
