import TestAmplification.Amplification.Event
import TestAmplification.Selection.Selector
import TestAmplification.Test.Result

/-!
# The tools of an amplification and a run of it

The tools are the amplifiers that make new tests out of old ones, a generator
of assertions, a compiler and a runner. All of them act on one world and may do
there whatever they like.

A run is the state of an amplification under way. Besides the states of the
selector and of the world it holds the genealogy of the suite, the tally of
what happened, and three records. The journal holds everything that was asked of
a tool and every event, in order. The answers are those of compiler and runner.
The chronicle holds every genealogy that the run came to and every decision of
the selector. Nothing reads answers or chronicle during a run; they are there to
say what was true at each of these points.
-/

set_option autoImplicit false

namespace TestAmplification

/-! ## Tools -/

/-- Makes variants of tests. -/
structure Amplifier (W : Type) where
  /-- The name of the amplifier. -/
  name : String
  /-- The variants of a test. -/
  apply : TestCase → StateM W (List TestCase)
  /-- Prepares for a suite. -/
  reset : TestSuite → StateM W Unit

/-- The tools that an amplification works with. -/
structure Workshop (W : Type) where
  /-- The amplifiers, in the order of their use. -/
  amplifiers : List (Amplifier W)
  /-- Returns the tests with assertions added to them. -/
  addAssertions : TestSuite → List TestCase → StateM W (List TestCase)
  /-- Compiles a suite. -/
  compile : TestSuite → OutputPaths → StateM W (Except ToolingError Unit)
  /-- Runs tests of a compiled suite with a class path. -/
  run : TestSuite → List TestCase → String → StateM W (Except ToolingError ExecutionResult)
  /-- Which methods of a suite are tests. -/
  isTest : TestPredicate
  /-- Who is told of events. -/
  handlers : List (EventHandler W)
  /-- The time in a world, in milliseconds. -/
  clock : W → Nat

/-- What can be chosen for an amplification. -/
structure Settings where
  /-- Where compiled classes go. -/
  outputPaths : OutputPaths := ⟨"", ""⟩
  /-- The class path of test runs. -/
  classpath : String := ""
  /-- Are assertions added to the seed tests before the first iteration? -/
  preAmplification : Bool := false
  /-- The number of iterations for a seed test. -/
  maxIterations : UInt32 := 3
deriving DecidableEq, Inhabited

/-! ## Runs -/

/-- The tally of all amplifications of a run. -/
structure Tally where
  /-- Suites that were amplified to the end. -/
  suitesAmplified : Nat := 0
  /-- Tests that were kept. -/
  amplifiedTests : Nat := 0
  /-- Batches that did not compile. -/
  compileFailures : Nat := 0
  /-- Batches that compiled but were not run to the end. -/
  executionFailures : Nat := 0
  /-- Candidates that did not pass. -/
  failingCandidates : Nat := 0
deriving DecidableEq, Inhabited

/-- What a journal notes. -/
inductive JournalEntry where
  /-- An amplifier was applied to a test. -/
  | applied (amplifier : String) (test : TestCase)
  /-- An amplifier was prepared for a suite. -/
  | amplifierReset (amplifier suite : String)
  /-- Assertions were asked for. -/
  | assertionsAsked (suite : TestSuite) (tests : List TestCase)
  /-- A suite was handed to the compiler. -/
  | compiled (suite : TestSuite) (paths : OutputPaths)
  /-- Tests were handed to the runner. -/
  | ran (suite : TestSuite) (tests : List TestCase) (classpath : String)
  /-- The selector asked the mutation engine. -/
  | engine (call : EngineCall)
  /-- An event was announced. -/
  | announced (event : Event)
deriving DecidableEq, Inhabited

/-- What compiler and runner answer, with what they were asked about. -/
inductive ToolAnswer where
  /-- The compiler took or refused a suite. -/
  | compiled (suite : TestSuite) (answer : Except ToolingError Unit)
  /-- The runner ran tests of a suite, or it failed. -/
  | ran (suite : TestSuite) (tests : List TestCase)
      (answer : Except ToolingError ExecutionResult)

/-- What a chronicle holds. -/
inductive ChronicleEntry where
  /-- The genealogy became the given one. -/
  | lineage (genealogy : Genealogy)
  /-- The selector chose among candidates which tests to keep, in an iteration for a seed
  test or, without one, before the first iteration. -/
  | decision (seed : Option TestCase) (candidates : List TestCase) (genealogy : Genealogy)
      (kept : List TestCase)

/-- The state of an amplification under way. -/
structure Run (σ W : Type) where
  /-- The state of the selector. -/
  selector : σ
  /-- The world of the tools. -/
  world : W
  /-- Who was derived from whom. -/
  genealogy : Genealogy := .empty
  /-- What happened so far, in numbers. -/
  tally : Tally := {}
  /-- What happened so far, in order. -/
  journal : List JournalEntry := []
  /-- The genealogies and decisions so far, in order. -/
  chronicle : List ChronicleEntry := []
  /-- The answers of compiler and runner so far, in order. -/
  answers : List ToolAnswer := []

namespace Run

variable {σ W : Type}

/-- The run with one more entry in its chronicle. -/
def chronicled (run : Run σ W) (entry : ChronicleEntry) : Run σ W :=
  { run with chronicle := run.chronicle ++ [entry] }

/-- The run with another genealogy. -/
def withGenealogy (run : Run σ W) (genealogy : Genealogy) : Run σ W :=
  { run with genealogy }.chronicled (.lineage genealogy)

end Run

/-- Steps of an amplification. -/
abbrev Amplify (σ W : Type) := StateM (Run σ W)

namespace Amplify

variable {σ W : Type}

/-- Makes a note in the journal. -/
def note (entry : JournalEntry) : Amplify σ W Unit :=
  modify fun run => { run with journal := run.journal ++ [entry] }

/-- Acts on the world. -/
def onWorld {α : Type} (action : StateM W α) : Amplify σ W α := fun run =>
  let (result, world) := action run.world
  (result, { run with world })

/-- Notes what is asked of a tool, then asks it. -/
def ask {α : Type} (entry : JournalEntry) (action : StateM W α) : Amplify σ W α := do
  note entry
  onWorld action

/-- Keeps an answer of the compiler or the runner. -/
def hear (answer : ToolAnswer) : Amplify σ W Unit :=
  modify fun run => { run with answers := run.answers ++ [answer] }

/-- Lets the selector take a step. Its questions go into the journal. -/
def consult {α : Type} (step : Select σ W α) : Amplify σ W α := fun run =>
  let (result, selection) := step { state := run.selector, world := run.world, calls := [] }
  (result, { run with
    selector := selection.state
    world := selection.world
    journal := run.journal ++ selection.calls.map .engine })

/-- The genealogy as it is now. -/
def genealogy : Amplify σ W Genealogy :=
  Run.genealogy <$> get

/-- Changes the tally. -/
def count (change : Tally → Tally) : Amplify σ W Unit :=
  modify fun run => { run with tally := change run.tally }

/-- Notes an event and tells the handlers of it. -/
def announce (handlers : List (EventHandler W)) (event : Event) : Amplify σ W Unit :=
  ask (.announced event) (announceTo event handlers)

end Amplify

end TestAmplification
