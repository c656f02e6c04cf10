import TestAmplification.Test.Identity

/-!
# Events of an amplification

An amplification announces what happens to a suite: the start, each seed test
that is left out, what each iteration came to, and the end. Handlers are told
of every event in the order in which they were registered. A handler that
breaks down keeps nobody else from being told.
-/

set_option autoImplicit false

namespace TestAmplification

/-- Why an iteration kept nothing. -/
inductive SkipReason where
  /-- The selector chose no test to amplify. -/
  | nothingNominated
  /-- The amplifiers made no usable test. -/
  | noCandidates
  /-- The candidates did not compile. -/
  | compilationFailed
  /-- The candidates could not be run. -/
  | executionFailed
  /-- Some candidates were not run. -/
  | incompleteRun
deriving DecidableEq, Inhabited

/-- What an amplification announces. -/
inductive Event where
  /-- The amplification of a suite starts. -/
  | suiteStarted (suite : String) (seedTests : Nat) (maxIterations : UInt32)
  /-- A seed test fails and is left out. -/
  | seedExcluded (suite : String) (test : TestId)
  /-- An iteration for a seed test kept nothing. -/
  | iterationSkipped (seedTest : TestId) (iteration : Nat) (reason : SkipReason)
  /-- The selector decided which passing candidates to keep. -/
  | testsKept (seedTest : TestId) (iteration : Nat) (candidates : Nat) (kept : List TestId)
  /-- The amplification of a suite ends. -/
  | suiteComplete (suite : String) (amplifiedTests : Nat) (durationMilliseconds : Nat)
deriving DecidableEq, Inhabited

/-- The kinds of events. -/
inductive EventKind where
  | suiteStarted
  | seedExcluded
  | iterationSkipped
  | testsKept
  | suiteComplete
deriving DecidableEq, Inhabited

/-- The kind of an event. -/
def Event.kind : Event → EventKind
  | suiteStarted .. => .suiteStarted
  | seedExcluded .. => .seedExcluded
  | iterationSkipped .. => .iterationSkipped
  | testsKept .. => .testsKept
  | suiteComplete .. => .suiteComplete

/-! ## Telling handlers -/

/-- How a handler took an event. -/
inductive Reaction where
  /-- The handler is done with the event. -/
  | handled
  /-- The handler broke down. -/
  | brokeDown
deriving DecidableEq, Inhabited

/-- Someone who is told of events. -/
abbrev EventHandler (W : Type) := Event → StateM W Reaction

/-- Tells every handler of the event, in order and whatever the others do. -/
def announceTo {W : Type} (event : Event) : List (EventHandler W) → StateM W Unit
  | [] => return
  | handler :: rest => do
      let _ ← handler event
      announceTo event rest

end TestAmplification
