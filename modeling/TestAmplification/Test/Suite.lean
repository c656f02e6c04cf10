import TestAmplification.Test.Identity

/-!
# Test cases and suites

A test case is the source of one test method under an identity. A derived test
may name the test that it was made from and says how many assertions and
inputs were added on the way.

A suite has a name, the fixtures that its tests share, and methods: tests
among helpers. Extending a suite never replaces a method. A method is added
only when no method of its identity is there yet, so a suite stays a beginning
of every extension of it.
-/

set_option autoImplicit false

namespace TestAmplification

/-- One test method. -/
structure TestCase where
  /-- The identity of the test. -/
  id : TestId
  /-- The source of the method's body. -/
  body : String
  /-- The test it says it was derived from. -/
  derivedFrom : Option TestId := none
  /-- The assertions that the derivation added. -/
  assertionsAdded : UInt32 := 0
  /-- The inputs that the derivation added. -/
  inputsAdded : UInt32 := 0
deriving DecidableEq, Inhabited

namespace TestCase

/-- The test, derived from the given one. -/
def withOrigin (test : TestCase) (origin : TestId) : TestCase :=
  { test with derivedFrom := some origin }

/-- The test with its counts of additions. -/
def withAdditions (test : TestCase) (assertions inputs : UInt32) : TestCase :=
  { test with assertionsAdded := assertions, inputsAdded := inputs }

/-- The name of the method. -/
def name (test : TestCase) : String :=
  test.id.method

/-- The body without blanks at its ends; two bodies count as the same when
these agree. -/
def trimmedBody (test : TestCase) : String :=
  Text.trim test.body

/-- Does the body hold nothing but blanks? -/
def hasEmptyBody (test : TestCase) : Bool :=
  test.trimmedBody.isEmpty

/-- Do two tests have the same body, apart from blanks at its ends? -/
def sameBody (test other : TestCase) : Bool :=
  test.trimmedBody == other.trimmedBody

/-- A test without additions and origin is given by its identity and body. -/
def plain (id : TestId) (body : String) : TestCase :=
  { id, body }

end TestCase

/-! ## Telling tests from other methods -/

/-- Decides which methods of a suite are tests. -/
abbrev TestPredicate := TestCase → Bool

/-- Tests are the methods whose name starts in the given way. -/
def namedFrom (start : String) : TestPredicate :=
  fun candidate => Text.beginsWith candidate.name start

/-! ## Dropping repeated tests -/

/-- Two tests clash when they share the identity or the body. -/
def clashes (test other : TestCase) : Bool :=
  test.id == other.id || test.sameBody other

/-- Keeps an item unless the test of an item that was kept before clashes with
its own. The first argument lists the tests kept so far. -/
def reduceAfter {α : Type} (testOf : α → TestCase) (kept : List TestCase) :
    List α → List α
  | [] => []
  | item :: rest =>
      if kept.any (clashes (testOf item)) then reduceAfter testOf kept rest
      else item :: reduceAfter testOf (testOf item :: kept) rest

/-- The tests without those that clash with an earlier kept one. -/
def reduce (tests : List TestCase) : List TestCase :=
  reduceAfter id [] tests

/-- Pairs of a test and its parent, reduced by the tests. -/
def reducePairs (pairs : List (TestCase × TestId)) : List (TestCase × TestId) :=
  reduceAfter Prod.fst [] pairs

/-! ## Suites -/

/-- A test suite. -/
structure TestSuite where
  /-- The qualified name of the suite. -/
  name : String
  /-- The declarations that the methods share. -/
  fixtures : List String := []
  /-- The methods in source order. -/
  methods : List TestCase := []
deriving DecidableEq, Inhabited

namespace TestSuite

/-- The suite with one more fixture. -/
def withFixture (suite : TestSuite) (fixture : String) : TestSuite :=
  { suite with fixtures := suite.fixtures ++ [fixture] }

/-- The suite with one more method, also when its identity is taken. -/
def withMethod (suite : TestSuite) (method : TestCase) : TestSuite :=
  { suite with methods := suite.methods ++ [method] }

/-- The identity of a method of this suite. -/
def testId (suite : TestSuite) (method : String) : TestId :=
  ⟨suite.name, method⟩

/-- The first method with the identity. -/
def method? (suite : TestSuite) (id : TestId) : Option TestCase :=
  suite.methods.find? fun method => method.id == id

/-- Does the suite have a method with the identity? -/
def contains (suite : TestSuite) (id : TestId) : Bool :=
  (suite.method? id).isSome

/-- The tests of the suite. -/
def tests (suite : TestSuite) (isTest : TestPredicate) : List TestCase :=
  suite.methods.filter isTest

/-- The suite without its tests. -/
def withoutTests (suite : TestSuite) (isTest : TestPredicate) : TestSuite :=
  { suite with methods := suite.methods.filter fun method => !isTest method }

/-- The suite with the method, unless its identity is taken. -/
def extendedByOne (suite : TestSuite) (method : TestCase) : TestSuite :=
  if suite.contains method.id then suite else suite.withMethod method

/-- The suite with those methods whose identity is not taken yet, neither by
a method of the suite nor by an earlier one of the list. -/
def extendedWith (suite : TestSuite) (extra : List TestCase) : TestSuite :=
  extra.foldl extendedByOne suite

end TestSuite

end TestAmplification
