import TestAmplification.Files.Path
import TestAmplification.Genealogy
import TestAmplification.Mutant
import TestAmplification.Test.Suite

/-!
# Selectors

A selector decides which tests are worth amplifying and which of the new tests
are worth keeping. It has a state of its own and may consult a mutation engine,
which acts on a world that it shares with the other tools. Every question to
the engine is written down, so what a selector asked is part of what it did.

The simplest selector keeps every test that it is shown. It consults no
engine, so its report counts the kept tests of the suite and no mutants.

A selector has no say in how the suite of a batch is put together: this is always
the suite extended with the tests of the batch. Nor does it choose what the
engine analyzes in place of such a suite.
-/

set_option autoImplicit false

namespace TestAmplification

/-- A mutation engine that acts on a world. -/
structure MutationEngine (W : Type) where
  /-- Analyzes the unchanged program and its tests. -/
  baseline : StateM W (Except ToolingError (List MutantOutcome))
  /-- Analyzes a suite. -/
  analyze : TestSuite → StateM W (Except ToolingError (List MutantOutcome))

/-- A question to the mutation engine. -/
inductive EngineCall where
  /-- What does the unchanged program achieve? -/
  | baseline
  /-- What does the suite achieve? -/
  | suite (suite : TestSuite)
deriving DecidableEq, Inhabited

/-- What a selector reports at the end. -/
structure SelectionReport where
  /-- The name of the selector. -/
  selector : String
  /-- The suite that was amplified. -/
  suite : String
  /-- The number of tests kept for it. -/
  amplifiedTests : Nat
  /-- The number of mutants that the initial suite kills. -/
  baselineKilled : Nat
  /-- The number of further mutants that the kept tests kill. -/
  newlyKilled : Nat
  /-- A text for the reader. -/
  summary : String
  /-- The files that were written. -/
  artifacts : List Path
deriving DecidableEq, Inhabited

/-- A selection under way: the state of the selector, the world of its engine,
and the questions asked so far. -/
structure Selection (σ W : Type) where
  /-- The state of the selector. -/
  state : σ
  /-- The world of the engine. -/
  world : W
  /-- The questions asked, in order. -/
  calls : List EngineCall

/-- Steps of a selection. -/
abbrev Select (σ W : Type) := StateM (Selection σ W)

namespace Select

variable {σ W : Type}

/-- Acts on the world. -/
def onWorld {α : Type} (action : StateM W α) : Select σ W α := fun selection =>
  let (result, world) := action selection.world
  (result, { selection with world })

/-- Writes down a question and asks it. -/
def ask {α : Type} (call : EngineCall) (action : StateM W α) : Select σ W α := do
  modify fun selection => { selection with calls := selection.calls ++ [call] }
  onWorld action

/-- The state of the selector. -/
def state : Select σ W σ :=
  Selection.state <$> get

/-- Changes the state of the selector. -/
def modifyState (change : σ → σ) : Select σ W Unit :=
  modify fun selection => { selection with state := change selection.state }

end Select

/-- A selector with states of one type, in a world of another. -/
structure Selector (σ W : Type) where
  /-- The name that reports give. -/
  name : String
  /-- Prepares for a suite. -/
  init : Select σ W (Except ToolingError Unit)
  /-- Forgets what belongs to one seed test. -/
  reset : Select σ W Unit
  /-- Chooses among the tests of a suite those to amplify next. -/
  nominate : TestSuite → List TestCase → Select σ W (List TestCase)
  /-- Chooses among new tests those to keep. -/
  keep : List TestCase → Genealogy → Select σ W (List TestCase)
  /-- Takes note that a batch was run. -/
  update : Select σ W Unit
  /-- Reports on the current suite and closes it. -/
  report : Genealogy → Select σ W (Except ReportError SelectionReport)
  /-- The number of tests kept so far. -/
  keptCount : σ → Nat

/-! ## Keeping every test -/

/-- What the selector that keeps everything remembers. -/
structure TakeAll where
  /-- The kept tests, in the order in which they were shown. -/
  kept : List TestId := []
  /-- The name of the suite that is being amplified. -/
  currentSuite : Option String := none
deriving DecidableEq, Inhabited

namespace TakeAll

/-- The name of this selector. -/
def name : String := "TakeAllSelector"

/-- Remembers the suite, unless one is being amplified already. -/
def enter (state : TakeAll) (suite : TestSuite) : TakeAll :=
  { state with currentSuite := state.currentSuite <|> some suite.name }

/-- Remembers tests as kept. -/
def take (state : TakeAll) (candidates : List TestCase) : TakeAll :=
  { state with kept := state.kept ++ candidates.map TestCase.id }

/-- The report on a suite. -/
def reportOn (state : TakeAll) (suite : String) : SelectionReport :=
  let count := (state.kept.filter fun test => test.suite == suite).length
  { selector := name
    suite
    amplifiedTests := count
    baselineKilled := 0
    newlyKilled := 0
    summary := name ++ ": kept " ++ Text.decimal count ++ " new tests for " ++ suite
    artifacts := [] }

variable {W : Type}

/-- The selector that keeps everything. -/
def selector : Selector TakeAll W where
  name := name
  init := return .ok ()
  reset := return
  nominate suite tests := do
    Select.modifyState (·.enter suite)
    return tests
  keep candidates _ := do
    Select.modifyState (·.take candidates)
    return candidates
  update := return
  report _ := do
    let state ← Select.state
    match state.currentSuite with
    | none => return .error .noActiveSuite
    | some suite =>
        Select.modifyState fun state => { state with currentSuite := none }
        return .ok (state.reportOn suite)
  keptCount state := state.kept.length

end TakeAll

end TestAmplification
