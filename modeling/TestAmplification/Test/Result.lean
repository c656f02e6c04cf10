import TestAmplification.Table
import TestAmplification.Test.Identity

/-!
# Results of running tests

A run of tests reports which tests it ran and which of them failed. Nothing
ties the two sets together: a runner may name a failed test that it did not
run.
-/

set_option autoImplicit false

namespace TestAmplification

/-- What a run of tests reports. -/
structure ExecutionResult where
  /-- The tests that ran. -/
  testsRun : KeySet TestId
  /-- The tests that failed. -/
  failures : KeySet TestId

namespace ExecutionResult

/-- The result that names the given tests, in any order and with
repetitions. -/
def ofLists (testsRun failures : List TestId) : ExecutionResult :=
  ⟨KeySet.ofList testsRun, KeySet.ofList failures⟩

/-- The result of a run in which no test failed. -/
def allPassed (tests : List TestId) : ExecutionResult :=
  ofLists tests []

/-- A run is green when some test ran and none failed. -/
def isGreen (result : ExecutionResult) : Bool :=
  result.failures.isEmpty && !result.testsRun.isEmpty

/-- Is the test named as failed? -/
def hasFailed (result : ExecutionResult) (id : TestId) : Bool :=
  result.failures.contains id

/-- Is the test named as run? -/
def ran (result : ExecutionResult) (id : TestId) : Bool :=
  result.testsRun.contains id

/-- A test passed when it ran and did not fail. -/
def passed (result : ExecutionResult) (id : TestId) : Bool :=
  result.ran id && !result.hasFailed id

end ExecutionResult

/-- Where compiled classes go. -/
structure OutputPaths where
  /-- The directory of the classes under test. -/
  classesDir : String
  /-- The directory of the compiled tests. -/
  testClassesDir : String
deriving DecidableEq, Inhabited

end TestAmplification
