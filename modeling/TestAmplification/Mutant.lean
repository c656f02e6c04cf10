import TestAmplification.Test.Identity
import TestAmplification.Text.Decimal

/-!
# Mutants and what became of them

A mutant is one small change of the program under test, identified by the
operator that made it and by the place of the change. A mutation analysis ends
each mutant in a state; a killed mutant usually comes with the test that
noticed it.
-/

set_option autoImplicit false

namespace TestAmplification

open Std

/-- The identity of a mutant: the operator and the place it changes. -/
structure MutantId where
  /-- The mutation operator. -/
  operator : String
  /-- The class that is changed. -/
  className : String
  /-- The place in the class, usually a method. -/
  location : String
  /-- The source line. -/
  line : UInt32
deriving DecidableEq, Inhabited, Hashable

namespace MutantId

/-- Mutants are ordered by operator, class, location and line. -/
instance : Ord MutantId :=
  ⟨compareLex (compareOn MutantId.operator)
    (compareLex (compareOn MutantId.className)
      (compareLex (compareOn MutantId.location) (compareOn MutantId.line)))⟩

instance : TransOrd MutantId :=
  inferInstanceAs (TransCmp (compareLex (compareOn MutantId.operator)
    (compareLex (compareOn MutantId.className)
      (compareLex (compareOn MutantId.location) (compareOn MutantId.line)))))

instance : LawfulEqOrd MutantId where
  eq_of_compare {first second} same := by
    have ⟨sameOperator, sameRest⟩ := Ordering.then_eq_eq.mp same
    have ⟨sameClass, samePlace⟩ := Ordering.then_eq_eq.mp sameRest
    have ⟨sameLocation, sameLine⟩ := Ordering.then_eq_eq.mp samePlace
    obtain ⟨firstOperator, firstClass, firstLocation, firstLine⟩ := first
    obtain ⟨secondOperator, secondClass, secondLocation, secondLine⟩ := second
    obtain rfl : firstOperator = secondOperator := LawfulEqOrd.eq_of_compare sameOperator
    obtain rfl : firstClass = secondClass := LawfulEqOrd.eq_of_compare sameClass
    obtain rfl : firstLocation = secondLocation := LawfulEqOrd.eq_of_compare sameLocation
    obtain rfl : firstLine = secondLine := LawfulEqOrd.eq_of_compare sameLine
    rfl

/-- The written form of a mutant: its place, then its operator. -/
def render (mutant : MutantId) : String :=
  mutant.className ++ "." ++ mutant.location ++ ":" ++ Text.decimal mutant.line.toNat
    ++ " [" ++ mutant.operator ++ "]"

end MutantId

/-! ## States -/

/-- What an analysis found out about a mutant. -/
inductive MutantState where
  | killed
  | survived
  | noCoverage
  | timedOut
  | memoryError
  | runError
  | nonViable
  | started
  | notStarted
deriving DecidableEq, Inhabited

namespace MutantState

/-- All states, in their order. -/
def all : List MutantState :=
  [killed, survived, noCoverage, timedOut, memoryError, runError, nonViable, started, notStarted]

/-- The name of a state in reports. -/
def name : MutantState → String
  | killed => "KILLED"
  | survived => "SURVIVED"
  | noCoverage => "NO_COVERAGE"
  | timedOut => "TIMED_OUT"
  | memoryError => "MEMORY_ERROR"
  | runError => "RUN_ERROR"
  | nonViable => "NON_VIABLE"
  | started => "STARTED"
  | notStarted => "NOT_STARTED"

/-- The state of a name, which must be written exactly. -/
def ofName? (name : String) : Option MutantState :=
  all.find? fun state => state.name == name

/-- Reads a state; blanks around its name do not count. -/
def parse (raw : String) : Except String MutantState :=
  match ofName? (Text.trim raw) with
  | some state => .ok state
  | none => .error ("unknown mutant state `" ++ Text.trim raw ++ "`")

/-- A state is reliable when the tests decided about the mutant: they killed
it, they let it live, or none of them reached it. -/
def isReliable : MutantState → Bool
  | killed | survived | noCoverage => true
  | _ => false

/-- The position of a state in the order of states. -/
def rank : MutantState → Nat
  | killed => 0
  | survived => 1
  | noCoverage => 2
  | timedOut => 3
  | memoryError => 4
  | runError => 5
  | nonViable => 6
  | started => 7
  | notStarted => 8

instance : Ord MutantState := ⟨compareOn rank⟩

instance : TransOrd MutantState := inferInstanceAs (TransCmp (compareOn rank))

theorem ofName?_name (state : MutantState) : ofName? state.name = some state := by
  cases state <;> decide

end MutantState

/-! ## Outcomes -/

/-- The result of an analysis for one mutant. -/
structure MutantOutcome where
  /-- The mutant. -/
  mutant : MutantId
  /-- What became of it. -/
  state : MutantState
  /-- The test that killed it, if one is named. -/
  killingTest : Option TestId
deriving DecidableEq, Inhabited

namespace MutantOutcome

/-- Outcomes are ordered by mutant, state and killing test. -/
instance : Ord MutantOutcome :=
  ⟨compareLex (compareOn MutantOutcome.mutant)
    (compareLex (compareOn MutantOutcome.state) (compareOn MutantOutcome.killingTest))⟩

/-- The outcome of a mutant that a test killed. -/
def killedBy (mutant : MutantId) (test : TestId) : MutantOutcome :=
  ⟨mutant, .killed, some test⟩

/-- Was the mutant killed? -/
def isKilled (outcome : MutantOutcome) : Bool :=
  outcome.state == .killed

/-- The source line of the mutant. -/
def line (outcome : MutantOutcome) : UInt32 :=
  outcome.mutant.line

/-- The place of the mutant in its class. -/
def location (outcome : MutantOutcome) : String :=
  outcome.mutant.location

end MutantOutcome

/-! ## Sorting -/

/-- A list in ascending order; equal members keep their order. -/
def sorted {α : Type} [Ord α] (members : List α) : List α :=
  members.mergeSort fun earlier later => compare earlier later != .gt

/-- A sorted list with one of each run of equal members. -/
def withoutRepeats {α : Type} [Ord α] : List α → List α
  | [] => []
  | [member] => [member]
  | first :: second :: rest =>
      if compare first second = .eq then withoutRepeats (second :: rest)
      else first :: withoutRepeats (second :: rest)

end TestAmplification
