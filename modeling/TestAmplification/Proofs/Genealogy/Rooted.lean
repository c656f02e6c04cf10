import TestAmplification.Proofs.Genealogy.Ancestry
import TestAmplification.Proofs.Test.Extension

/-!
# Genealogies rooted in a suite

A genealogy is rooted in a suite when its chains start at the methods of the suite: these
have no parent, and every recorded parent is one of them or has a parent itself. A test is
anchored when it is such a method or has a parent.

A step that gives a parent to a new test, under an anchored one, keeps the genealogy
rooted, and nothing anchored changes its origin (`Rooted.record`). The reason is that
a new test without a parent is nobody's ancestor yet.
-/

set_option autoImplicit false

namespace TestAmplification

namespace Genealogy

variable {suite : TestSuite} {genealogy later last : Genealogy}

/-- The test is a method of the suite or has a parent. -/
def Anchored (suite : TestSuite) (genealogy : Genealogy) (id : TestId) : Prop :=
  id ∈ suite.ids ∨ genealogy.isDerived id = true

/-- The chains of the genealogy start at methods of the suite. -/
structure Rooted (suite : TestSuite) (genealogy : Genealogy) : Prop where
  acyclic : genealogy.Acyclic
  origins : ∀ id ∈ suite.ids, genealogy.parentOf? id = none
  anchored : ∀ child parent, genealogy.HasParent child parent → Anchored suite genealogy parent

/-- Parents stay, and what is anchored keeps its origin. -/
structure Grows (suite : TestSuite) (genealogy later : Genealogy) : Prop where
  stays : genealogy.Extends later
  sameRoot : ∀ id, Anchored suite genealogy id → later.rootOf id = genealogy.rootOf id

theorem isDerived_eq_false_iff (id : TestId) :
    genealogy.isDerived id = false ↔ genealogy.parentOf? id = none := by
  rw [← Bool.not_eq_true, isDerived_iff, Option.eq_none_iff_forall_not_mem, not_exists]
  rfl

theorem Extends.isDerived (grows : genealogy.Extends later) {id : TestId}
    (derived : genealogy.isDerived id = true) : later.isDerived id = true := by
  obtain ⟨parent, step⟩ := (isDerived_iff id).1 derived
  exact (isDerived_iff id).2 ⟨parent, grows id parent step⟩

theorem Grows.anchored (grows : Grows suite genealogy later) {id : TestId}
    (anchored : Anchored suite genealogy id) : Anchored suite later id :=
  anchored.imp_right grows.stays.isDerived

theorem Grows.refl (suite : TestSuite) (genealogy : Genealogy) :
    Grows suite genealogy genealogy :=
  ⟨fun _ _ step => step, fun _ _ => rfl⟩

theorem Grows.trans (first : Grows suite genealogy later) (second : Grows suite later last) :
    Grows suite genealogy last where
  stays child parent step := second.stays child parent (first.stays child parent step)
  sameRoot id anchored :=
    (second.sameRoot id (first.anchored anchored)).trans (first.sameRoot id anchored)

theorem rooted_empty (suite : TestSuite) : Rooted suite .empty where
  acyclic := acyclic_empty
  origins _ _ := rfl
  anchored _ _ step := by cases step

namespace Rooted

theorem isDerived_of_mem (rooted : Rooted suite genealogy) {method : TestCase}
    (member : method ∈ suite.methods) : genealogy.isDerived method.id = false :=
  (isDerived_eq_false_iff _).2 (rooted.origins method.id (List.mem_map_of_mem member))

/-- A method of the suite is its own origin. -/
theorem rootOf_of_mem (rooted : Rooted suite genealogy) {method : TestCase}
    (member : method ∈ suite.methods) : genealogy.rootOf method.id = method.id :=
  rootOf_of_origin (rooted.origins method.id (List.mem_map_of_mem member))

/-- All ancestors are anchored. -/
theorem anchored_of_mem_ancestors (rooted : Rooted suite genealogy) {id ancestor : TestId}
    (above : ancestor ∈ genealogy.ancestors id) : Anchored suite genealogy ancestor := by
  rw [rooted.acyclic.mem_ancestors_iff] at above
  cases above with
  | single step => exact rooted.anchored _ _ step
  | tail _ step => exact rooted.anchored _ _ step

/-- **Recording under an anchored test.** A genealogy stays rooted when a new test gets an
anchored parent, no origin changes, and the test gets the origin of its parent. -/
theorem record (rooted : Rooted suite genealogy) {child : TestCase} {parent : TestId}
    (recorded : genealogy.record child parent = .ok later) (fresh : child.id ∉ suite.ids)
    (anchored : Anchored suite genealogy parent) :
    Rooted suite later ∧ Grows suite genealogy later ∧ later.isDerived child.id = true ∧
      later.rootOf child.id = genealogy.rootOf parent := by
  have acyclic := rooted.acyclic.record recorded
  have grows : Grows suite genealogy later := by
    refine ⟨extends_record recorded, ?_⟩
    intro id itsAnchor
    rw [rootOf, rootOf, rooted.acyclic.ancestors_record recorded]
    intro missing
    have loose : ¬ Anchored suite genealogy child.id := by
      rintro (member | derived)
      · exact fresh member
      · rw [(isDerived_eq_false_iff _).2 missing] at derived
        cases derived
    refine ⟨?_, ?_⟩
    · rintro rfl
      exact loose itsAnchor
    · intro above
      exact loose (rooted.anchored_of_mem_ancestors above)
  obtain ⟨-, -, rfl⟩ := record_eq_ok_iff.1 recorded
  have step : (genealogy.withStep child parent).HasParent child.id parent := by
    rw [HasParent, parentOf?_withStep, if_pos rfl]
  refine ⟨⟨acyclic, ?_, ?_⟩, grows, (isDerived_iff _).2 ⟨parent, step⟩, ?_⟩
  · intro id member
    have differs : id ≠ child.id := by
      rintro rfl
      exact fresh member
    rw [parentOf?_withStep, if_neg differs]
    exact rooted.origins id member
  · intro other itsParent itsStep
    rw [HasParent, parentOf?_withStep] at itsStep
    by_cases same : other = child.id
    · rw [if_pos same] at itsStep
      exact grows.anchored (Option.some.inj itsStep ▸ anchored)
    · rw [if_neg same] at itsStep
      exact grows.anchored (rooted.anchored other itsParent itsStep)
  · rw [acyclic.rootOf_of_parent step, grows.sameRoot parent anchored]

end Rooted

end Genealogy

end TestAmplification
