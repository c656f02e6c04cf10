import TestAmplification.Files.Document
import TestAmplification.Selection.MutationScore
import TestAmplification.Selection.Selector
import TestAmplification.Test.Document

/-!
# Selections as JSON documents

Documents that show what a selector asked, what it remembers and what it
reports. Tests and mutants stand there in their written form. They are for an
onlooker: no selector reads or writes them.
-/

set_option autoImplicit false

namespace TestAmplification

open Json (ofText ofNat ofMembers ofTexts orNull)

/-- The written form of an identity as a document. -/
def TestId.textJson (id : TestId) : Json :=
  ofText id.render

/-- The written forms of the identities of tests. -/
def idsJson (tests : List TestCase) : Json :=
  .array (tests.map fun test => test.id.textJson)

/-- The document of a question to the engine. -/
def EngineCall.toJson : EngineCall → Json
  | .baseline => .array [ofText "analyze_baseline"]
  | .suite submitted =>
      .array [ofText "analyze", ofText submitted.name, idsJson submitted.methods,
        ofNat submitted.fixtures.length]

/-- The written forms of mutants in ascending order. -/
def mutantsJson (mutants : KeySet MutantId) : Json :=
  ofTexts (sorted (mutants.toList.map MutantId.render))

/-- The document of a baseline. -/
def Baseline.toJson (baseline : Baseline) : Json :=
  ofMembers [("total", ofNat baseline.total), ("killed", mutantsJson baseline.killed),
    ("never_exercised", mutantsJson baseline.neverExercised)]

/-- The document of credits: for every test its mutants, each with the test that
is named as its killer. -/
def Credits.toJson (credits : Credits) : Json :=
  .array (credits.entries.map fun (test, mutants) =>
    .array [test.textJson, .array (mutants.entries.map fun (mutant, outcome) =>
      .array [ofText mutant.render, orNull TestId.textJson outcome.killingTest])])

/-- The name of a phase. -/
def SelectionPhase.name : SelectionPhase → String
  | uninitialized => "Uninitialized"
  | baselined => "Baselined"
  | scoring => "Scoring"
  | reported => "Reported"

/-- The document of what a selector by mutation score remembers. -/
def MutationScore.toJson (state : MutationScore) : Json :=
  ofMembers [("count", ofNat state.credits.size), ("phase", ofText state.phase.name),
    ("credits", Credits.toJson state.credits), ("baseline", orNull Baseline.toJson state.baseline)]

/-- The document of what a selector that keeps everything remembers. -/
def TakeAll.toJson (state : TakeAll) : Json :=
  ofMembers [("count", ofNat state.kept.length),
    ("kept", .array (state.kept.map TestId.textJson))]

/-- The document of a report, together with the files that are there. -/
def SelectionReport.toJson (disk : Disk) (report : SelectionReport) : Json :=
  ofMembers [("selector", ofText report.selector), ("suite", ofText report.suite),
    ("amplified_tests", ofNat report.amplifiedTests),
    ("original_killed", ofNat report.baselineKilled),
    ("newly_killed", ofNat report.newlyKilled), ("summary", ofText report.summary),
    ("artifacts", ofTexts report.artifacts), ("files", disk.toJson)]

end TestAmplification
