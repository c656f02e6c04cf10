import TestAmplification.Amplification.Workshop

/-!
# The amplification loop

For every green seed test the loop nominates tests, makes variants of them,
adds assertions, compiles and runs the variants, and lets the selector decide
which of the passing ones to keep. The passing variants are the tests to start
from in the next iteration. A batch that does not compile or run is dropped,
and the next iteration starts from the tests nominated in this one.

A new test is usable when its body is not empty and its identity does not occur
in the suite, since a test of a taken identity would never be compiled. Lineage
is recorded for every new test before it is run, and a test whose lineage
contradicts what is recorded is dropped.

Suites that have nothing to do with each other are amplified independently,
each with an orchestrator of its own. However the work is distributed, the
results come in the order of the suites.
-/

set_option autoImplicit false

namespace TestAmplification

/-- An amplification: the tools, a selector and the settings. -/
structure Orchestrator (σ W : Type) where
  /-- The tools. -/
  workshop : Workshop W
  /-- The selector. -/
  selector : Selector σ W
  /-- The settings. -/
  settings : Settings := {}

/-- Why a batch of tests gave no usable result. -/
inductive BatchFailure where
  /-- The batch does not compile. -/
  | compile (error : ToolingError)
  /-- The batch could not be run. -/
  | execution (error : ToolingError)
  /-- Fewer tests ran than were submitted. -/
  | incomplete (ran submitted : Nat)
deriving DecidableEq, Inhabited

/-- The reason for skipping an iteration that a batch failure is. -/
def BatchFailure.reason : BatchFailure → SkipReason
  | compile _ => .compilationFailed
  | execution _ => .executionFailed
  | incomplete .. => .incompleteRun

/-- A suite with the tests that were kept for it, and what the selector says
about them. -/
structure SuiteOutcome where
  /-- The extended suite. -/
  suite : TestSuite
  /-- The report; nothing when no test was ever nominated. -/
  report : Option SelectionReport
deriving DecidableEq, Inhabited

/-- Is the identity of the test free in the suite? -/
def isNewTo (suite : TestSuite) (test : TestCase) : Bool :=
  !suite.contains test.id

/-- The parent that a new test is recorded under: the origin it names itself,
unless that is the test, else the given one, else the one recorded before. -/
def parentFor (genealogy : Genealogy) (test : TestCase) (given : Option TestId) :
    Option TestId :=
  (test.derivedFrom.filter (· != test.id)) <|> given <|> genealogy.parentOf? test.id

namespace Orchestrator

variable {σ W : Type} (orchestrator : Orchestrator σ W)

/-- Announces an event to the handlers. -/
def announce (event : Event) : Amplify σ W Unit :=
  Amplify.announce orchestrator.workshop.handlers event

/-! ## Lineage of new tests -/

/-- Records the lineage of a test. Says whether the test can stay: a test
without any parent can, one whose parent is refused cannot. -/
def adopt (test : TestCase) (given : Option TestId) : Amplify σ W Bool := fun run =>
  match parentFor run.genealogy test given with
  | none => (true, run)
  | some parent =>
      match run.genealogy.record test parent with
      | .ok genealogy => (true, run.withGenealogy genealogy)
      | .error _ => (false, run)

/-- Records the lineage of tests one after the other and drops those that
cannot stay. -/
def adoptAll : List (TestCase × Option TestId) → Amplify σ W (List TestCase)
  | [] => return []
  | (test, given) :: rest => do
      let stays ← adopt test given
      let others ← adoptAll rest
      return if stays then test :: others else others

/-! ## Making candidates -/

/-- The usable variants of a test, with the test as their parent. -/
def variantsOf (suite : TestSuite) (test : TestCase) :
    List (Amplifier W) → Amplify σ W (List (TestCase × TestId))
  | [] => return []
  | amplifier :: rest => do
      let children ← Amplify.ask (.applied amplifier.name test) (amplifier.apply test)
      let usable := children.filter fun child => !child.hasEmptyBody && isNewTo suite child
      let others ← variantsOf suite test rest
      return usable.map (·, test.id) ++ others

/-- The usable variants of all nominated tests. -/
def variantsOfAll (suite : TestSuite) :
    List TestCase → Amplify σ W (List (TestCase × TestId))
  | [] => return []
  | test :: rest => do
      let variants ← variantsOf suite test orchestrator.workshop.amplifiers
      let others ← variantsOfAll suite rest
      return variants ++ others

/-- Makes candidates out of the nominated tests: their usable variants, reduced
and with recorded lineage. -/
def expand (suite : TestSuite) (nominated : List TestCase) :
    Amplify σ W (List TestCase) := do
  let variants ← orchestrator.variantsOfAll suite nominated
  adoptAll ((reducePairs variants).map fun (child, parent) => (child, some parent))

/-- Asks for assertions. The answer lists the tests whose body is not
empty. -/
def assertedTests (suite : TestSuite) (tests : List TestCase) : Amplify σ W (List TestCase) := do
  let answered ← Amplify.ask (.assertionsAsked suite tests)
    (orchestrator.workshop.addAssertions suite tests)
  return answered.filter fun test => !test.hasEmptyBody

/-- Records the lineage of those tests that are new to the suite. -/
def adoptNew (suite : TestSuite) (tests : List TestCase) : Amplify σ W (List TestCase) :=
  adoptAll ((tests.filter (isNewTo suite)).map fun test => (test, none))

/-- The candidates with assertions, or the bare candidates when no usable test
with assertions comes back. -/
def injectAssertions (suite : TestSuite) (candidates : List TestCase) :
    Amplify σ W (List TestCase) := do
  let answered ← orchestrator.assertedTests suite candidates
  let asserted ← adoptNew suite answered
  return if asserted.isEmpty then candidates else asserted

/-! ## Compiling and running -/

/-- Compiles the suite extended with the tests, whatever the selector is, and runs
the tests. The result counts only when at least as many tests ran as were
submitted. -/
def compileAndRun (suite : TestSuite) (tests : List TestCase) :
    Amplify σ W (Except BatchFailure ExecutionResult) := do
  let extended := suite.extendedWith tests
  let settings := orchestrator.settings
  let compiled ← Amplify.ask (.compiled extended settings.outputPaths)
    (orchestrator.workshop.compile extended settings.outputPaths)
  Amplify.hear (.compiled extended compiled)
  match compiled with
  | .error error =>
      Amplify.count fun tally => { tally with compileFailures := tally.compileFailures + 1 }
      return .error (.compile error)
  | .ok () =>
      let ran ← Amplify.ask (.ran extended tests settings.classpath)
        (orchestrator.workshop.run extended tests settings.classpath)
      Amplify.hear (.ran extended tests ran)
      match ran with
      | .error error =>
          Amplify.count fun tally =>
            { tally with executionFailures := tally.executionFailures + 1 }
          return .error (.execution error)
      | .ok result =>
          if result.testsRun.size < tests.length then
            Amplify.count fun tally =>
              { tally with executionFailures := tally.executionFailures + 1 }
            return .error (.incomplete result.testsRun.size tests.length)
          else
            Amplify.consult orchestrator.selector.update
            return .ok result

/-! ## Decisions -/

/-- Lets the selector choose among candidates which tests to keep, in an iteration
for a seed test or, without one, before the first iteration. -/
def judge (seed : Option TestCase) (candidates : List TestCase) :
    Amplify σ W (List TestCase) := do
  let genealogy ← Amplify.genealogy
  let kept ← Amplify.consult (orchestrator.selector.keep candidates genealogy)
  modify fun run => run.chronicled (.decision seed candidates genealogy kept)
  return kept

/-! ## Seed tests -/

/-- Announces the tests that are left out. -/
def announceExcluded (suite : TestSuite) : List TestCase → Amplify σ W Unit
  | [] => return
  | test :: rest => do
      orchestrator.announce (.seedExcluded suite.name test.id)
      announceExcluded suite rest

/-- The tests that a result names as failed. -/
def failedAmong (result : ExecutionResult) (tests : List TestCase) : List TestCase :=
  tests.filter fun test => result.hasFailed test.id

/-- The tests that a result does not name as failed. -/
def notFailedAmong (result : ExecutionResult) (tests : List TestCase) : List TestCase :=
  tests.filter fun test => !result.hasFailed test.id

/-- Leaves out failing tests until the others pass together. There are none
when a batch fails as a whole, when the failures name none of the tests, or
when no test is left. -/
def preflight (suite : TestSuite) (tests : List TestCase) :
    Amplify σ W (Option (List TestCase)) := do
  if tests.isEmpty then return none
  match ← orchestrator.compileAndRun suite tests with
  | .error _ => return none
  | .ok result =>
      if result.failures.isEmpty then return some tests
      orchestrator.announceExcluded suite (failedAmong result tests)
      if _fewer : (notFailedAmong result tests).length < tests.length then
        preflight suite (notFailedAmong result tests)
      else return none
termination_by tests.length

/-- Adds assertions to the green seed tests and lets the selector decide about
the results. A test that has the body of a seed test is no improvement. -/
def preAmplify (suite : TestSuite) (seeds : List TestCase) : Amplify σ W (List TestCase) := do
  Amplify.consult orchestrator.selector.update
  let nominated ← Amplify.consult (orchestrator.selector.nominate suite seeds)
  if nominated.isEmpty then return []
  let answered ← orchestrator.assertedTests suite nominated
  let improved ← adoptNew suite
    (answered.filter fun test => !seeds.any fun seed => seed.sameBody test)
  if improved.isEmpty then return []
  orchestrator.judge none improved

/-! ## Iterations -/

/-- The iterations for one seed test: how many are left, the number of the next
one, and the tests to start from. The answer lists the kept tests. -/
def iterate (suite : TestSuite) (seed : TestCase) :
    Nat → Nat → List TestCase → Amplify σ W (List TestCase)
  | 0, _, _ => return []
  | left + 1, iteration, working => do
      let nominated ← Amplify.consult (orchestrator.selector.nominate suite working)
      if nominated.isEmpty then
        orchestrator.announce (.iterationSkipped seed.id iteration .nothingNominated)
        return []
      let expanded ← orchestrator.expand suite nominated
      if expanded.isEmpty then
        orchestrator.announce (.iterationSkipped seed.id iteration .noCandidates)
        return []
      let candidates ← orchestrator.injectAssertions suite expanded
      match ← orchestrator.compileAndRun suite candidates with
      | .error failure =>
          orchestrator.announce (.iterationSkipped seed.id iteration failure.reason)
          iterate suite seed left (iteration + 1) nominated
      | .ok result =>
          let passing := candidates.filter fun candidate => result.passed candidate.id
          let failing := candidates.length - passing.length
          Amplify.count fun tally =>
            { tally with failingCandidates := tally.failingCandidates + failing }
          let kept ← orchestrator.judge (some seed) passing
          orchestrator.announce
            (.testsKept seed.id iteration passing.length (kept.map TestCase.id))
          let later ← iterate suite seed left (iteration + 1) passing
          return kept ++ later

/-- Notes that tests were kept. -/
def countKept (kept : List TestCase) : Amplify σ W Unit :=
  Amplify.count fun tally => { tally with amplifiedTests := tally.amplifiedTests + kept.length }

/-- Amplifies one seed test, provided that it passes on its own. -/
def amplifySeed (suite : TestSuite) (maxIterations : UInt32) (seed : TestCase) :
    Amplify σ W (List TestCase) := do
  Amplify.consult orchestrator.selector.reset
  match ← orchestrator.compileAndRun suite [seed] with
  | .error _ => return []
  | .ok result =>
      if result.isGreen then
        let kept ← orchestrator.iterate suite seed maxIterations.toNat 0 [seed]
        countKept kept
        return kept
      else return []

/-- Amplifies seed tests one after the other. -/
def amplifySeeds (suite : TestSuite) (maxIterations : UInt32) :
    List TestCase → Amplify σ W (List TestCase)
  | [] => return []
  | seed :: rest => do
      let kept ← orchestrator.amplifySeed suite maxIterations seed
      let later ← amplifySeeds suite maxIterations rest
      return kept ++ later

/-! ## Suites -/

/-- Prepares every amplifier for the suite. -/
def resetAmplifiers (suite : TestSuite) : List (Amplifier W) → Amplify σ W Unit
  | [] => return
  | amplifier :: rest => do
      Amplify.ask (.amplifierReset amplifier.name suite.name) (amplifier.reset suite)
      resetAmplifiers suite rest

/-- The round of assertions before the first iteration, if it is wanted. -/
def preAmplifyIfWanted (suite : TestSuite) (green : List TestCase) :
    Amplify σ W (List TestCase) := do
  if orchestrator.settings.preAmplification then
    let kept ← orchestrator.preAmplify suite green
    countKept kept
    return kept
  else return []

/-- Amplifies tests of a suite. The answer is the suite extended with the kept
tests, or nothing when there is no test to amplify or the tests cannot be made
to pass. -/
def amplify (suite : TestSuite) (seedTests : List TestCase) (maxIterations : UInt32) :
    Amplify σ W (Option TestSuite) := do
  let tests := seedTests.filter orchestrator.workshop.isTest
  if tests.isEmpty then return none
  let started := orchestrator.workshop.clock (← get).world
  orchestrator.announce (.suiteStarted suite.name tests.length maxIterations)
  match ← Amplify.consult orchestrator.selector.init with
  | .error _ => return none
  | .ok () =>
      modify fun run => run.withGenealogy .empty
      Amplify.consult orchestrator.selector.reset
      match ← orchestrator.preflight suite tests with
      | none => return none
      | some green =>
          resetAmplifiers suite orchestrator.workshop.amplifiers
          let before ← orchestrator.preAmplifyIfWanted suite green
          let during ← orchestrator.amplifySeeds suite maxIterations green
          let amplified := before ++ during
          Amplify.count fun tally => { tally with suitesAmplified := tally.suitesAmplified + 1 }
          let duration := orchestrator.workshop.clock (← get).world - started
          orchestrator.announce (.suiteComplete suite.name amplified.length duration)
          return some (suite.extendedWith amplified)

/-- Lets the selector report on the current suite. -/
def report : Amplify σ W (Except ReportError SelectionReport) := do
  Amplify.consult (orchestrator.selector.report (← Amplify.genealogy))

/-- Amplifies all tests of a suite and reports on it. There is no report when
no test was ever nominated. -/
def runSuite (suite : TestSuite) (maxIterations : UInt32) :
    Amplify σ W (Except ReportError (Option SuiteOutcome)) := do
  match ← orchestrator.amplify suite suite.methods maxIterations with
  | none => return .ok none
  | some amplified =>
      match ← orchestrator.report with
      | .ok report => return .ok (some ⟨amplified, some report⟩)
      | .error .noActiveSuite => return .ok (some ⟨amplified, none⟩)
      | .error error => return .error error

/-- Amplifies a suite with the number of iterations that the settings give. -/
def run (suite : TestSuite) : Amplify σ W (Except ReportError (Option SuiteOutcome)) :=
  orchestrator.runSuite suite orchestrator.settings.maxIterations

end Orchestrator

/-! ## Several suites -/

/-- What became of one suite. -/
structure SuiteRun where
  /-- The name of the suite. -/
  suite : String
  /-- The result of its amplification. -/
  outcome : Except ReportError (Option SuiteOutcome)

/-- The amplification of one suite from the start, as a step in the world of its
tools. -/
def Orchestrator.amplifyAlone {σ W : Type} (orchestrator : Orchestrator σ W) (start : σ)
    (suite : TestSuite) (maxIterations : UInt32) :
    StateM W (Except ReportError (Option SuiteOutcome)) := fun world =>
  let (outcome, run) :=
    orchestrator.runSuite suite maxIterations { selector := start, world }
  (outcome, run.world)

/-- Amplifies suites, each in its own way. -/
def amplifySuites {W : Type}
    (amplifyOne : TestSuite → StateM W (Except ReportError (Option SuiteOutcome))) :
    List TestSuite → StateM W (List SuiteRun)
  | [] => return []
  | suite :: rest => do
      let outcome ← amplifyOne suite
      let others ← amplifySuites amplifyOne rest
      return ⟨suite.name, outcome⟩ :: others

end TestAmplification
