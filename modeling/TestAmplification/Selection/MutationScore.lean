import TestAmplification.Mutant
import TestAmplification.Selection.KillReport
import TestAmplification.Selection.Selector
import TestAmplification.Table

/-!
# Keeping the tests that kill new mutants

A new test is kept when the mutation engine names it as the killer of a mutant
that the initial suite neither kills nor leaves without a reliable result, and
that none of the test's ancestors is credited with. The mutant is then credited
to the test. Credits are never taken back, and the first outcome credited for a
test and a mutant stays.

The suite that is analyzed consists of the suite under amplification without
its tests, extended with the candidates, so every kill is a kill by a
candidate.
-/

set_option autoImplicit false

/-!
## The baseline of a selection

The baseline is what the initial suite achieves: the mutants it kills and
those for which the analysis came to no reliable result. Neither can be
credited to a new test.
-/

namespace TestAmplification

/-- What the initial suite achieves. -/
structure Baseline where
  /-- The number of outcomes. -/
  total : Nat
  /-- The mutants that the initial suite kills. -/
  killed : KeySet MutantId
  /-- The mutants without a reliable outcome. -/
  neverExercised : KeySet MutantId
deriving Inhabited

namespace Baseline

/-- The baseline of an analysis of the initial suite. -/
def ofOutcomes (outcomes : List MutantOutcome) : Baseline where
  total := outcomes.length
  killed := KeySet.ofList <|
    (outcomes.filter MutantOutcome.isKilled).map MutantOutcome.mutant
  neverExercised := KeySet.ofList <|
    (outcomes.filter fun outcome => !outcome.state.isReliable).map MutantOutcome.mutant

/-- A mutant can be credited unless the initial suite kills it or came to no
reliable result for it. -/
def isCreditable (baseline : Baseline) (mutant : MutantId) : Bool :=
  !baseline.killed.contains mutant && !baseline.neverExercised.contains mutant

end Baseline

end TestAmplification

namespace TestAmplification

/-- How far a selection by mutation score has come. -/
inductive SelectionPhase where
  /-- There is no baseline yet. -/
  | uninitialized
  /-- There is a baseline, and nothing was scored with it. -/
  | baselined
  /-- Candidates were scored. -/
  | scoring
  /-- A report was made. -/
  | reported
deriving DecidableEq, Inhabited

/-! ## Credits -/

/-- The mutants credited to each kept test, with the outcomes that earned the
credit. -/
abbrev Credits := Table TestId (Table MutantId MutantOutcome)

namespace Credits

/-- The outcome that a test is credited with for a mutant. -/
def outcome? (credits : Credits) (test : TestId) (mutant : MutantId) : Option MutantOutcome :=
  (credits.find? test).bind fun mutants => mutants.find? mutant

/-- Is the mutant credited to the test? -/
def holds (credits : Credits) (test : TestId) (mutant : MutantId) : Bool :=
  (credits.outcome? test mutant).isSome

/-- The credits with one more, unless the test holds it already. -/
def grant (credits : Credits) (test : TestId) (outcome : MutantOutcome) : Credits :=
  credits.insert test <|
    ((credits.find? test).getD ∅).insertIfAbsent outcome.mutant outcome

/-- The mutants credited to a test, in their order. -/
def mutantsOf (credits : Credits) (test : TestId) : List MutantId :=
  ((credits.find? test).map Table.keys).getD []

end Credits

/-! ## The decision -/

/-- The test that an outcome earns a credit: a killer among the candidates, of
a creditable mutant that no ancestor of the killer is credited with. -/
def earner? (baseline : Baseline) (genealogy : Genealogy) (candidates : List TestCase)
    (credits : Credits) (outcome : MutantOutcome) : Option TestId :=
  if outcome.isKilled && baseline.isCreditable outcome.mutant then
    outcome.killingTest.filter fun killer =>
      candidates.any (fun candidate => candidate.id == killer) &&
        (genealogy.ancestors killer).all fun ancestor => !credits.holds ancestor outcome.mutant
  else none

/-- Credits the outcomes one after the other. The answer also lists the tests
that earned a credit. -/
def creditOutcomes (baseline : Baseline) (genealogy : Genealogy) (candidates : List TestCase) :
    List MutantOutcome → Credits → Credits × List TestId
  | [], credits => (credits, [])
  | outcome :: rest, credits =>
      match earner? baseline genealogy candidates credits outcome with
      | none => creditOutcomes baseline genealogy candidates rest credits
      | some killer =>
          let (credits, earners) :=
            creditOutcomes baseline genealogy candidates rest (credits.grant killer outcome)
          (credits, killer :: earners)

/-! ## The selector -/

/-- What the selector by mutation score remembers. -/
structure MutationScore where
  /-- What the initial suite achieves. -/
  baseline : Option Baseline := none
  /-- The credits granted so far. -/
  credits : Credits := ∅
  /-- The suite that is being amplified. -/
  currentSuite : Option TestSuite := none
  /-- How far the selection has come. -/
  phase : SelectionPhase := .uninitialized
deriving Inhabited

namespace MutationScore

/-- The name of this selector. -/
def name : String := "MutationScoreSelector"

/-- What the selector works with. -/
structure Setting (W : Type) where
  /-- The engine that scores suites. -/
  engine : MutationEngine W
  /-- Which methods of a suite are tests. -/
  isTest : TestPredicate
  /-- Where reports are written. -/
  outputDirectory : Path
  /-- Writes a file of a report; a refusal comes with its reason. -/
  publish : Path → String → StateM W (Except String Unit)

/-- The state with the given baseline outcomes in place of earlier ones. -/
def loadBaseline (state : MutationScore) (outcomes : List MutantOutcome) : MutationScore :=
  { state with baseline := some (Baseline.ofOutcomes outcomes), phase := .baselined }

/-- The state before any step, with a baseline that is known in advance. -/
def withBaseline (outcomes : List MutantOutcome) : MutationScore :=
  loadBaseline {} outcomes

/-- Remembers the suite, unless one is being amplified already or there is no
test to amplify. -/
def enter (state : MutationScore) (suite : TestSuite) (tests : List TestCase) : MutationScore :=
  if state.currentSuite.isNone && !tests.isEmpty then
    { state with currentSuite := some suite }
  else state

/-- The kills of one kept test. -/
def killsOf (genealogy : Genealogy) (test : TestId) (mutants : Table MutantId MutantOutcome) :
    Except AdditionOverflow TestKills := do
  return {
    test
    assertionsAdded := ← genealogy.assertionsSinceOrigin test
    inputsAdded := ← genealogy.inputsSinceOrigin test
    mutants := mutants.values }

/-- The kill report on the kept tests of a suite. -/
def killReport (state : MutationScore) (suite : String) (genealogy : Genealogy) :
    Except AdditionOverflow KillReport := do
  let credited := state.credits.entries.filter fun entry => entry.1.suite == suite
  return {
    selector := name
    suite
    baselineKilled := (state.baseline.map fun baseline => baseline.killed.size).getD 0
    tests := ← credited.mapM fun entry => killsOf genealogy entry.1 entry.2 }

/-- The report on a selection whose files are written. -/
def reportOn (kills : KillReport) (artifacts : List Path) : SelectionReport where
  selector := name
  suite := kills.suite
  amplifiedTests := kills.tests.length
  baselineKilled := kills.baselineKilled
  newlyKilled := kills.newMutantsKilled
  summary := kills.text
  artifacts := artifacts

/-- The state after a report. -/
def close (state : MutationScore) : MutationScore :=
  { state with currentSuite := none, phase := .reported }

variable {W : Type}

/-- Fetches the baseline from the engine, unless it is there. -/
def prepare (setting : Setting W) : Select MutationScore W (Except ToolingError Unit) := do
  match (← Select.state).baseline with
  | some _ => return .ok ()
  | none =>
      match ← Select.ask .baseline setting.engine.baseline with
      | .error error => return .error error
      | .ok outcomes =>
          Select.modifyState (·.loadBaseline outcomes)
          return .ok ()

/-- Scores the candidates and keeps those that earn a credit. -/
def keep (setting : Setting W) (candidates : List TestCase) (genealogy : Genealogy) :
    Select MutationScore W (List TestCase) := do
  if candidates.isEmpty then return []
  let state ← Select.state
  match state.baseline, state.currentSuite with
  | some baseline, some initial =>
      let suite := (initial.withoutTests setting.isTest).extendedWith candidates
      match ← Select.ask (.suite suite) (setting.engine.analyze suite) with
      | .error _ => return []
      | .ok outcomes =>
          let (credits, earners) :=
            creditOutcomes baseline genealogy candidates outcomes state.credits
          Select.modifyState fun state => { state with credits, phase := .scoring }
          return candidates.filter fun candidate => earners.contains candidate.id
  | _, _ => return []

/-- Writes files one after the other, up to the first that cannot be
written. -/
def publishAll (publish : Path → String → StateM W (Except String Unit)) :
    List (Path × String) → StateM W (Except ReportError Unit)
  | [] => return .ok ()
  | (path, content) :: rest => do
      match ← publish path content with
      | .error source => return .error (.io path source)
      | .ok () => publishAll publish rest

/-- Writes the kill report on the current suite and closes the suite. -/
def report (setting : Setting W) (genealogy : Genealogy) :
    Select MutationScore W (Except ReportError SelectionReport) := do
  let state ← Select.state
  match state.currentSuite with
  | none => return .error .noActiveSuite
  | some suite =>
      match state.killReport suite.name genealogy with
      | .error overflow => return .error (.overflow overflow)
      | .ok kills =>
          let files := kills.files setting.outputDirectory
          match ← Select.onWorld (publishAll setting.publish files) with
          | .error error => return .error error
          | .ok () =>
              Select.modifyState close
              return .ok (reportOn kills (files.map Prod.fst))

/-- The selector by mutation score. -/
def selector (setting : Setting W) : Selector MutationScore W where
  name := name
  init := prepare setting
  reset := return
  nominate suite tests := do
    Select.modifyState (·.enter suite tests)
    return tests
  keep := keep setting
  update := return
  report := report setting
  keptCount state := state.credits.size

end MutationScore

end TestAmplification
