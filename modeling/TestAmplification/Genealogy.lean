import TestAmplification.Failure
import TestAmplification.Table
import TestAmplification.Test.Suite

/-!
# Which test was derived from which

A genealogy gives every derived test its parent and the additions of the last
derivation step. A test without an entry is an origin. Recording refuses what
would make a test its own ancestor and never moves a test to another parent;
recording an edge again brings its counts up to date.

Walking up from a test passes each entry at most once, since no test is its
own ancestor. The number of entries therefore bounds every walk.
-/

set_option autoImplicit false

namespace TestAmplification

/-- The last derivation step of a test. -/
structure Lineage where
  /-- The test it was derived from. -/
  parent : TestId
  /-- The assertions that the step added. -/
  assertionsAdded : UInt32
  /-- The inputs that the step added. -/
  inputsAdded : UInt32
deriving DecidableEq, Inhabited

/-- The derivation steps of all derived tests. -/
structure Genealogy where
  /-- The last step of each derived test. -/
  steps : Table TestId Lineage
deriving Inhabited

namespace Genealogy

/-- The genealogy without derived tests. -/
def empty : Genealogy := ⟨∅⟩

/-- The number of derived tests. -/
def size (genealogy : Genealogy) : Nat :=
  genealogy.steps.size

/-- Is there no derived test? -/
def isEmpty (genealogy : Genealogy) : Bool :=
  genealogy.size == 0

/-- The parent of a derived test. -/
def parentOf? (genealogy : Genealogy) (id : TestId) : Option TestId :=
  (genealogy.steps.find? id).map Lineage.parent

/-- Was the test derived from another? -/
def isDerived (genealogy : Genealogy) (id : TestId) : Bool :=
  genealogy.steps.contains id

/-! ## Walking up -/

/-- The derivation steps from a test upwards, at most as many as given. -/
def walkUp (steps : Table TestId Lineage) : Nat → TestId → List Lineage
  | 0, _ => []
  | limit + 1, id =>
      match steps.find? id with
      | none => []
      | some lineage => lineage :: walkUp steps limit lineage.parent

/-- The derivation steps from an origin to the test, the last one first. -/
def chain (genealogy : Genealogy) (id : TestId) : List Lineage :=
  walkUp genealogy.steps genealogy.size id

/-- The tests that a test was derived from, the parent first. -/
def ancestors (genealogy : Genealogy) (id : TestId) : List TestId :=
  (genealogy.chain id).map Lineage.parent

/-- The origin that a test goes back to; an origin goes back to itself. -/
def rootOf (genealogy : Genealogy) (id : TestId) : TestId :=
  (genealogy.ancestors id).getLastD id

/-- The number of ancestors. -/
def depth (genealogy : Genealogy) (id : TestId) : Nat :=
  (genealogy.ancestors id).length

/-! ## Counting additions -/

/-- A sum of 32 bits with one more count, if it fits. -/
def addCount (sum count : UInt32) : Except AdditionOverflow UInt32 :=
  if sum.toNat + count.toNat ≤ Text.greatestWord32 then .ok (sum + count) else .error ⟨⟩

/-- The sum of counts, which are added one after the other in 32 bits. -/
def total (counts : List UInt32) : Except AdditionOverflow Nat :=
  UInt32.toNat <$> counts.foldlM addCount 0

/-- The assertions that were added since the origin. -/
def assertionsSinceOrigin (genealogy : Genealogy) (id : TestId) : Except AdditionOverflow Nat :=
  total ((genealogy.chain id).map Lineage.assertionsAdded)

/-- The inputs that were added since the origin. -/
def inputsSinceOrigin (genealogy : Genealogy) (id : TestId) : Except AdditionOverflow Nat :=
  total ((genealogy.chain id).map Lineage.inputsAdded)

/-! ## Recording -/

/-- Would the step make the child its own ancestor? -/
def closesCycle (genealogy : Genealogy) (child parent : TestId) : Bool :=
  child == parent || (genealogy.ancestors parent).contains child

/-- The genealogy with the child's step from the parent put in place. -/
def withStep (genealogy : Genealogy) (child : TestCase) (parent : TestId) : Genealogy :=
  ⟨genealogy.steps.insert child.id ⟨parent, child.assertionsAdded, child.inputsAdded⟩⟩

/-- Records that the child was derived from the parent. A cycle is refused
first, then a second parent. -/
def record (genealogy : Genealogy) (child : TestCase) (parent : TestId) :
    Except GenealogyError Genealogy :=
  if genealogy.closesCycle child.id parent then
    .error (.cycle child.id.render parent.render)
  else
    match genealogy.parentOf? child.id with
    | some existing =>
        if existing = parent then .ok (genealogy.withStep child parent)
        else .error (.alreadyParented child.id.render existing.render parent.render)
    | none => .ok (genealogy.withStep child parent)

end Genealogy

end TestAmplification
