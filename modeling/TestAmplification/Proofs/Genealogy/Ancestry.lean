import Mathlib.Logic.Relation
import TestAmplification.Genealogy
import TestAmplification.Proofs.Table

/-!
# Ancestry

A test descends from another when derivation steps lead up from it to the
other. The relation is defined without a bound on the number of steps, while
the walk that lists ancestors is bounded by the number of entries. In an acyclic
genealogy the bound is never felt: a walk passes each entry at most once
(`walkUp_eq_of_le`), so the ancestors of a derived test are its parent and the
ancestors of that (`Acyclic.ancestors_of_parent`). Hence the listed ancestors
are those from which the test descends (`Acyclic.mem_ancestors_iff`).

Recording refuses a parent that descends from the child, and this keeps a
genealogy acyclic (`Acyclic.record`). What is recorded stays recorded
(`extends_record`), and only tests that lead up to the child can get further
ancestors (`descends_of_withStep`).
-/

set_option autoImplicit false

namespace TestAmplification

open Relation

namespace Genealogy

/-- The parent of the first test is the second. -/
def HasParent (genealogy : Genealogy) (child parent : TestId) : Prop :=
  genealogy.parentOf? child = some parent

/-- One or more derivation steps lead up from the first test to the second. -/
abbrev Descends (genealogy : Genealogy) : TestId → TestId → Prop :=
  TransGen genealogy.HasParent

/-- No or more derivation steps lead up from the first test to the second. -/
abbrev LeadsUp (genealogy : Genealogy) : TestId → TestId → Prop :=
  ReflTransGen genealogy.HasParent

/-- No test descends from itself. -/
def Acyclic (genealogy : Genealogy) : Prop :=
  ∀ id, ¬ genealogy.Descends id id

variable {genealogy later : Genealogy}

theorem HasParent.unique {child first second : TestId}
    (one : genealogy.HasParent child first) (other : genealogy.HasParent child second) :
    first = second :=
  Option.some.inj (one.symm.trans other)

theorem hasParent_iff_find? (child parent : TestId) :
    genealogy.HasParent child parent ↔
      ∃ lineage, genealogy.steps.find? child = some lineage ∧ lineage.parent = parent := by
  simp [HasParent, parentOf?]

theorem isDerived_iff (id : TestId) :
    genealogy.isDerived id = true ↔ ∃ parent, genealogy.HasParent id parent := by
  simp [isDerived, Table.contains_iff, hasParent_iff_find?]

/-- A test that descends from another has a parent, from which steps lead up to
the other. -/
theorem descends_iff (child ancestor : TestId) :
    genealogy.Descends child ancestor ↔
      ∃ parent, genealogy.HasParent child parent ∧ genealogy.LeadsUp parent ancestor :=
  TransGen.head'_iff

/-! ## The walk upwards -/

theorem walkUp_of_none (limit : Nat) {id : TestId} (origin : genealogy.steps.find? id = none) :
    walkUp genealogy.steps limit id = [] := by
  cases limit with
  | zero => rfl
  | succ limit => rw [walkUp, origin]

theorem walkUp_of_some (limit : Nat) {id : TestId} {lineage : Lineage}
    (derived : genealogy.steps.find? id = some lineage) :
    walkUp genealogy.steps (limit + 1) id =
      lineage :: walkUp genealogy.steps limit lineage.parent := by
  rw [walkUp, derived]

/-- A walk passes only the derived tests that steps lead up to, each once. A
bound on the walk that is not below their number makes no difference. -/
theorem Acyclic.walkUp_eq_of_le (acyclic : genealogy.Acyclic) {limit : Nat} {id : TestId}
    {passed : List TestId}
    (complete : ∀ other, genealogy.LeadsUp id other → genealogy.isDerived other = true →
      other ∈ passed)
    (bound : passed.length ≤ limit) :
    walkUp genealogy.steps limit id = walkUp genealogy.steps passed.length id := by
  induction size : passed.length generalizing passed limit id with
  | zero =>
      cases derived : genealogy.steps.find? id with
      | none => rw [walkUp_of_none _ derived, walkUp_of_none _ derived]
      | some lineage =>
          have member := complete id .refl (by simp [isDerived, Table.contains, derived])
          rw [List.eq_nil_of_length_eq_zero size] at member
          cases member
  | succ number ih =>
      cases derived : genealogy.steps.find? id with
      | none => rw [walkUp_of_none _ derived, walkUp_of_none _ derived]
      | some lineage =>
          have parent : genealogy.HasParent id lineage.parent :=
            (hasParent_iff_find? _ _).2 ⟨lineage, derived, rfl⟩
          have member := complete id .refl (by simp [isDerived, Table.contains, derived])
          have fewer : (passed.erase id).length = number := by
            rw [List.length_erase_of_mem member, size, Nat.add_sub_cancel]
          obtain ⟨rest, rfl⟩ : ∃ rest, limit = rest + 1 :=
            Nat.exists_eq_add_one_of_ne_zero (by omega)
          rw [walkUp_of_some _ derived, walkUp_of_some _ derived]
          congr 1
          refine ih ?_ (by omega) fewer
          intro other leads otherDerived
          have different : other ≠ id := by
            rintro rfl
            exact acyclic other ((descends_iff _ _).2 ⟨_, parent, leads⟩)
          exact (List.mem_erase_of_ne different).2
            (complete other (.head parent leads) otherDerived)

theorem chain_of_none {id : TestId} (origin : genealogy.steps.find? id = none) :
    genealogy.chain id = [] :=
  walkUp_of_none _ origin

/-- The steps above a derived test are its own step and those above its
parent. -/
theorem Acyclic.chain_of_some (acyclic : genealogy.Acyclic) {id : TestId} {lineage : Lineage}
    (derived : genealogy.steps.find? id = some lineage) :
    genealogy.chain id = lineage :: genealogy.chain lineage.parent := by
  have parent : genealogy.HasParent id lineage.parent :=
    (hasParent_iff_find? _ _).2 ⟨lineage, derived, rfl⟩
  have member : id ∈ genealogy.steps.keys := by
    simp [Table.mem_keys_iff, Table.contains, derived]
  have sizeEq : genealogy.size = (genealogy.steps.keys.erase id).length + 1 := by
    rw [List.length_erase_of_mem member]
    have positive : 0 < genealogy.steps.keys.length := List.length_pos_of_mem member
    simp only [size, Table.size, Table.keys, List.length_map] at positive ⊢
    omega
  have enough : walkUp genealogy.steps genealogy.size lineage.parent =
      walkUp genealogy.steps (genealogy.steps.keys.erase id).length lineage.parent := by
    refine acyclic.walkUp_eq_of_le ?_ (by omega)
    intro other leads otherDerived
    have different : other ≠ id := by
      rintro rfl
      exact acyclic other ((descends_iff _ _).2 ⟨_, parent, leads⟩)
    exact (List.mem_erase_of_ne different).2 ((Table.mem_keys_iff _ _).2 otherDerived)
  rw [chain, chain, enough, sizeEq, walkUp_of_some _ derived]

/-! ## Ancestors -/

theorem ancestors_of_origin {id : TestId} (origin : genealogy.parentOf? id = none) :
    genealogy.ancestors id = [] := by
  have missing : genealogy.steps.find? id = none := by simpa [parentOf?] using origin
  rw [ancestors, chain_of_none missing, List.map_nil]

/-- The ancestors of a derived test are its parent and the ancestors of that. -/
theorem Acyclic.ancestors_of_parent (acyclic : genealogy.Acyclic) {id parent : TestId}
    (step : genealogy.HasParent id parent) :
    genealogy.ancestors id = parent :: genealogy.ancestors parent := by
  obtain ⟨lineage, derived, rfl⟩ := (hasParent_iff_find? _ _).1 step
  rw [ancestors, acyclic.chain_of_some derived, List.map_cons, ancestors]

/-- What holds of origins and passes from parents to children holds of all
tests. -/
theorem Acyclic.induction (acyclic : genealogy.Acyclic) {motive : TestId → Prop}
    (origin : ∀ id, genealogy.parentOf? id = none → motive id)
    (derived : ∀ id parent, genealogy.HasParent id parent → motive parent → motive id)
    (id : TestId) : motive id := by
  induction number : (genealogy.ancestors id).length generalizing id with
  | zero =>
      cases step : genealogy.parentOf? id with
      | none => exact origin id step
      | some parent => simp [acyclic.ancestors_of_parent step] at number
  | succ rest ih =>
      cases step : genealogy.parentOf? id with
      | none => exact origin id step
      | some parent =>
          rw [acyclic.ancestors_of_parent step, List.length_cons] at number
          exact derived id parent step (ih parent (Nat.succ.inj number))

/-- **Listed ancestors.** The walk lists exactly the tests from which the test
descends. -/
theorem Acyclic.mem_ancestors_iff (acyclic : genealogy.Acyclic) (id ancestor : TestId) :
    ancestor ∈ genealogy.ancestors id ↔ genealogy.Descends id ancestor := by
  induction id using acyclic.induction with
  | origin id origin =>
      rw [ancestors_of_origin origin, descends_iff]
      simp [HasParent, origin]
  | derived id parent step ih =>
      rw [acyclic.ancestors_of_parent step, List.mem_cons, ih]
      constructor
      · rintro (rfl | above)
        · exact .single step
        · exact .head step above
      · intro descends
        obtain ⟨other, otherStep, leads⟩ := (descends_iff _ _).1 descends
        obtain rfl := step.unique otherStep
        exact reflTransGen_iff_eq_or_transGen.1 leads

/-- The ancestors of a test depend only on the parents of the tests that steps
lead up to from it. -/
theorem Acyclic.ancestors_congr (acyclic : genealogy.Acyclic) (laterAcyclic : later.Acyclic)
    (id : TestId)
    (sameParents : ∀ other, genealogy.LeadsUp id other →
      later.parentOf? other = genealogy.parentOf? other) :
    later.ancestors id = genealogy.ancestors id := by
  induction id using acyclic.induction with
  | origin id origin =>
      have laterOrigin : later.parentOf? id = none := (sameParents id .refl).trans origin
      rw [ancestors_of_origin origin, ancestors_of_origin laterOrigin]
  | derived id parent step ih =>
      have laterStep : later.HasParent id parent := (sameParents id .refl).trans step
      rw [acyclic.ancestors_of_parent step, laterAcyclic.ancestors_of_parent laterStep]
      rw [ih fun other leads => sameParents other (.head step leads)]

/-! ## Origins -/

theorem rootOf_of_origin {id : TestId} (origin : genealogy.parentOf? id = none) :
    genealogy.rootOf id = id := by
  rw [rootOf, ancestors_of_origin origin, List.getLastD_nil]

/-- A derived test goes back to the same origin as its parent. -/
theorem Acyclic.rootOf_of_parent (acyclic : genealogy.Acyclic) {id parent : TestId}
    (step : genealogy.HasParent id parent) :
    genealogy.rootOf id = genealogy.rootOf parent := by
  rw [rootOf, acyclic.ancestors_of_parent step, List.getLastD_cons, rootOf]

/-! ## Recording -/

theorem acyclic_empty : Genealogy.empty.Acyclic := by
  intro id descends
  obtain ⟨parent, step, -⟩ := (descends_iff _ _).1 descends
  cases step

theorem parentOf?_withStep (child : TestCase) (parent id : TestId) :
    (genealogy.withStep child parent).parentOf? id =
      if id = child.id then some parent else genealogy.parentOf? id := by
  by_cases same : id = child.id
  · subst same
    simp [parentOf?, withStep]
  · simp [parentOf?, withStep, Table.find?_insert_of_ne _ _ same, same]

theorem Acyclic.closesCycle_iff (acyclic : genealogy.Acyclic) (child parent : TestId) :
    genealogy.closesCycle child parent = true ↔ genealogy.LeadsUp parent child := by
  rw [closesCycle, Bool.or_eq_true, beq_iff_eq, List.contains_iff_mem,
    acyclic.mem_ancestors_iff]
  exact reflTransGen_iff_eq_or_transGen.symm

/-- What the walk lists leads up from the test, also where there are cycles. -/
theorem descends_of_mem_walkUp {limit : Nat} {id ancestor : TestId}
    (member : ancestor ∈ (walkUp genealogy.steps limit id).map Lineage.parent) :
    genealogy.Descends id ancestor := by
  induction limit generalizing id with
  | zero => cases member
  | succ limit ih =>
      cases derived : genealogy.steps.find? id with
      | none =>
          rw [walkUp_of_none _ derived] at member
          cases member
      | some lineage =>
          have step : genealogy.HasParent id lineage.parent :=
            (hasParent_iff_find? _ _).2 ⟨lineage, derived, rfl⟩
          rw [walkUp_of_some _ derived, List.map_cons, List.mem_cons] at member
          rcases member with rfl | further
          · exact .single step
          · exact .head step (ih further)

theorem leadsUp_of_closesCycle {child parent : TestId}
    (cycle : genealogy.closesCycle child parent = true) : genealogy.LeadsUp parent child := by
  rw [closesCycle, Bool.or_eq_true, beq_iff_eq, List.contains_iff_mem] at cycle
  rcases cycle with rfl | above
  · exact .refl
  · exact (descends_of_mem_walkUp above).to_reflTransGen

/-- A step is recorded exactly when it closes no cycle and the child has no
other parent. Then the child's step is put in place and nothing else. -/
theorem record_eq_ok_iff {child : TestCase} {parent : TestId} :
    genealogy.record child parent = .ok later ↔
      genealogy.closesCycle child.id parent = false ∧
        (∀ existing, genealogy.HasParent child.id existing → existing = parent) ∧
          later = genealogy.withStep child parent := by
  unfold record HasParent
  cases cycle : genealogy.closesCycle child.id parent with
  | true => simp
  | false =>
      cases present : genealogy.parentOf? child.id with
      | none => simp [eq_comm]
      | some existing =>
          by_cases same : existing = parent
          · simp [same, eq_comm]
          · simp [same]

/-- A descent in the genealogy with a further step is a descent without it, or it
uses the step. -/
theorem descends_of_withStep {child : TestCase} {parent id ancestor : TestId}
    (descends : (genealogy.withStep child parent).Descends id ancestor) :
    genealogy.Descends id ancestor ∨
      genealogy.LeadsUp id child.id ∧ genealogy.LeadsUp parent ancestor := by
  have stepCases : ∀ {first second : TestId},
      (genealogy.withStep child parent).HasParent first second →
        genealogy.HasParent first second ∨ first = child.id ∧ second = parent := by
    intro first second step
    rw [HasParent, parentOf?_withStep] at step
    by_cases same : first = child.id
    · rw [if_pos same] at step
      exact .inr ⟨same, (Option.some.inj step).symm⟩
    · rw [if_neg same] at step
      exact .inl step
  induction descends with
  | single step =>
      rcases stepCases step with old | ⟨rfl, rfl⟩
      · exact .inl (.single old)
      · exact .inr ⟨.refl, .refl⟩
  | tail _ step ih =>
      rcases ih with below | ⟨toChild, fromParent⟩
      · rcases stepCases step with old | ⟨rfl, rfl⟩
        · exact .inl (below.tail old)
        · exact .inr ⟨below.to_reflTransGen, .refl⟩
      · rcases stepCases step with old | ⟨rfl, rfl⟩
        · exact .inr ⟨toChild, fromParent.tail old⟩
        · exact .inr ⟨toChild, .refl⟩

/-- **Recording keeps a genealogy acyclic.** -/
theorem Acyclic.record (acyclic : genealogy.Acyclic) {child : TestCase} {parent : TestId}
    (recorded : genealogy.record child parent = .ok later) : later.Acyclic := by
  obtain ⟨allowed, -, rfl⟩ := record_eq_ok_iff.1 recorded
  intro id descends
  rcases descends_of_withStep descends with old | ⟨toChild, fromParent⟩
  · exact acyclic id old
  · have closes := (acyclic.closesCycle_iff child.id parent).2 (fromParent.trans toChild)
    rw [allowed] at closes
    cases closes

/-- Every parent in the first genealogy is the parent in the second. -/
def Extends (genealogy later : Genealogy) : Prop :=
  ∀ child parent, genealogy.HasParent child parent → later.HasParent child parent

theorem Extends.descends (grows : genealogy.Extends later) {id ancestor : TestId}
    (descends : genealogy.Descends id ancestor) : later.Descends id ancestor :=
  TransGen.mono grows id ancestor descends

/-- What is recorded stays recorded. -/
theorem extends_record {child : TestCase} {parent : TestId}
    (recorded : genealogy.record child parent = .ok later) : genealogy.Extends later := by
  obtain ⟨-, sameParent, rfl⟩ := record_eq_ok_iff.1 recorded
  intro other itsParent step
  rw [HasParent, parentOf?_withStep]
  by_cases same : other = child.id
  · subst same
    rw [if_pos rfl, sameParent itsParent step]
  · rw [if_neg same]
    exact step

/-- Recording a step again changes no parent. -/
theorem parentOf?_record_of_hasParent {child : TestCase} {parent existing : TestId}
    (recorded : genealogy.record child parent = .ok later)
    (present : genealogy.HasParent child.id existing) (id : TestId) :
    later.parentOf? id = genealogy.parentOf? id := by
  obtain ⟨-, sameParent, rfl⟩ := record_eq_ok_iff.1 recorded
  rw [parentOf?_withStep]
  by_cases same : id = child.id
  · rw [if_pos same, same, ← sameParent existing present]
    exact present.symm
  · rw [if_neg same]

/-- A test keeps its ancestors when a step is recorded, unless the step gives a first
parent to the test or to one of them. -/
theorem Acyclic.ancestors_record (acyclic : genealogy.Acyclic) {child : TestCase}
    {parent id : TestId} (recorded : genealogy.record child parent = .ok later)
    (apart : genealogy.parentOf? child.id = none →
      child.id ≠ id ∧ child.id ∉ genealogy.ancestors id) :
    later.ancestors id = genealogy.ancestors id := by
  refine acyclic.ancestors_congr (acyclic.record recorded) id ?_
  intro other leads
  cases present : genealogy.parentOf? child.id with
  | some existing => exact parentOf?_record_of_hasParent recorded present other
  | none =>
      obtain ⟨differs, notAbove⟩ := apart present
      have otherThanChild : other ≠ child.id := by
        rintro rfl
        rcases reflTransGen_iff_eq_or_transGen.1 leads with same | descends
        · exact differs same
        · exact notAbove ((acyclic.mem_ancestors_iff _ _).2 descends)
      obtain ⟨-, -, rfl⟩ := record_eq_ok_iff.1 recorded
      rw [parentOf?_withStep, if_neg otherThanChild]

end Genealogy

end TestAmplification
