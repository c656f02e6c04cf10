import TestAmplification.Proofs.Genealogy.Walks

/-!
# What recording a step does

A step is refused for one of two reasons. It would close a cycle, which is the case just when
derivation steps already lead up from the parent to the child, or the child has another parent
(`Acyclic.record_eq_error_iff`). A refused step changes nothing. A recorded one puts the entry
of the child in place and leaves all other entries as they are (`find?_withStep`).

One new entry can still change the ancestors of many tests, since the child may have been the
origin of all of them. Their lists only get longer, and at their ends: the ancestors of a
test stay where they are, and if the child had no parent and steps lead up from the test to
the child, the parent and its ancestors come after them (`Acyclic.ancestors_record_of_leadsUp`).
-/

set_option autoImplicit false

namespace TestAmplification

open Relation

namespace Genealogy

variable {genealogy later : Genealogy} {child : TestCase} {parent : TestId}

/-! ## Refusals -/

/-- **A step is refused** for a cycle or else for another parent. -/
theorem Acyclic.record_eq_error_iff (acyclic : genealogy.Acyclic) (child : TestCase)
    (parent : TestId) (error : GenealogyError) :
    genealogy.record child parent = .error error ↔
      genealogy.LeadsUp parent child.id ∧ error = .cycle child.id.render parent.render ∨
        ¬ genealogy.LeadsUp parent child.id ∧ ∃ existing,
          genealogy.HasParent child.id existing ∧ existing ≠ parent ∧
            error = .alreadyParented child.id.render existing.render parent.render := by
  rw [← acyclic.closesCycle_iff]
  unfold Genealogy.record HasParent
  cases cycle : genealogy.closesCycle child.id parent with
  | true => simp [@eq_comm _ error]
  | false =>
      cases present : genealogy.parentOf? child.id with
      | none => simp
      | some existing =>
          by_cases same : existing = parent
          · simp [same]
          · simp [same, @eq_comm _ error]

/-- A step is recorded exactly when it closes no cycle and the child has no other parent. -/
theorem Acyclic.exists_record_iff (acyclic : genealogy.Acyclic) :
    (∃ later, genealogy.record child parent = .ok later) ↔
      ¬ genealogy.LeadsUp parent child.id ∧
        ∀ existing, genealogy.HasParent child.id existing → existing = parent := by
  simp only [record_eq_ok_iff, ← acyclic.closesCycle_iff, Bool.not_eq_true, exists_and_left,
    exists_eq, and_true]

theorem after_of_record (recorded : genealogy.record child parent = .ok later) :
    genealogy.after (.record child parent) = later := by
  rw [after, recorded]

theorem after_of_refusal {error : GenealogyError}
    (refused : genealogy.record child parent = .error error) :
    genealogy.after (.record child parent) = genealogy := by
  rw [after, refused]

/-! ## The new entry -/

/-- The entry of the child is put in place, and no other one changes. -/
theorem find?_withStep (child : TestCase) (parent id : TestId) :
    (genealogy.withStep child parent).steps.find? id =
      if id = child.id then some ⟨parent, child.assertionsAdded, child.inputsAdded⟩
      else genealogy.steps.find? id := by
  by_cases same : id = child.id
  · rw [if_pos same, same, withStep, Table.find?_insert_self]
  · rw [if_neg same, withStep, Table.find?_insert_of_ne _ _ same]

/-- A child without a parent becomes the child of the recorded one. -/
theorem hasParent_of_record (recorded : genealogy.record child parent = .ok later) :
    later.HasParent child.id parent := by
  obtain ⟨-, -, rfl⟩ := record_eq_ok_iff.1 recorded
  rw [HasParent, parentOf?_withStep, if_pos rfl]

/-! ## Longer lists of ancestors -/

/-- The recorded parent keeps its ancestors: the child is not among them. -/
theorem Acyclic.ancestors_record_parent (acyclic : genealogy.Acyclic)
    (recorded : genealogy.record child parent = .ok later) :
    later.ancestors parent = genealogy.ancestors parent := by
  have notAbove : ¬ genealogy.LeadsUp parent child.id :=
    (acyclic.exists_record_iff.1 ⟨later, recorded⟩).1
  refine acyclic.ancestors_record recorded fun _ => ⟨?_, ?_⟩
  · intro same
    exact notAbove (same ▸ .refl)
  · intro above
    exact notAbove ((acyclic.mem_ancestors_iff _ _).1 above).to_reflTransGen

/-- **A new parent** and its ancestors come after the ancestors of every test from which steps
lead up to the child. -/
theorem Acyclic.ancestors_record_of_leadsUp (acyclic : genealogy.Acyclic)
    (recorded : genealogy.record child parent = .ok later)
    (origin : genealogy.parentOf? child.id = none) {id : TestId}
    (leads : genealogy.LeadsUp id child.id) :
    later.ancestors id = genealogy.ancestors id ++ parent :: genealogy.ancestors parent := by
  have laterAcyclic := acyclic.record recorded
  induction leads using ReflTransGen.head_induction_on with
  | refl =>
      rw [ancestors_of_origin origin, List.nil_append,
        laterAcyclic.ancestors_of_parent (hasParent_of_record recorded),
        acyclic.ancestors_record_parent recorded]
  | head step _ ih =>
      rw [acyclic.ancestors_of_parent step, List.cons_append, ← ih,
        laterAcyclic.ancestors_of_parent (extends_record recorded _ _ step)]

/-- A test keeps its ancestors unless the child had no parent and steps lead up to it. -/
theorem Acyclic.ancestors_record_of_not (acyclic : genealogy.Acyclic)
    (recorded : genealogy.record child parent = .ok later) {id : TestId}
    (apart : ¬ (genealogy.parentOf? child.id = none ∧ genealogy.LeadsUp id child.id)) :
    later.ancestors id = genealogy.ancestors id := by
  refine acyclic.ancestors_record recorded fun origin => ⟨?_, ?_⟩
  · rintro rfl
    exact apart ⟨origin, .refl⟩
  · intro above
    exact apart ⟨origin, ((acyclic.mem_ancestors_iff _ _).1 above).to_reflTransGen⟩

/-- **Ancestors stay** at the beginning of the list, which gets longer just for the tests that go
back to a child without a parent. -/
theorem Acyclic.ancestors_prefix_record (acyclic : genealogy.Acyclic)
    (recorded : genealogy.record child parent = .ok later) (id : TestId) :
    genealogy.ancestors id <+: later.ancestors id ∧
      ((genealogy.ancestors id).length < (later.ancestors id).length ↔
        genealogy.parentOf? child.id = none ∧ genealogy.LeadsUp id child.id) := by
  by_cases fresh : genealogy.parentOf? child.id = none ∧ genealogy.LeadsUp id child.id
  · rw [acyclic.ancestors_record_of_leadsUp recorded fresh.1 fresh.2, List.length_append,
      List.length_cons]
    exact ⟨List.prefix_append _ _, iff_of_true (by omega) fresh⟩
  · rw [acyclic.ancestors_record_of_not recorded fresh]
    exact ⟨List.prefix_refl _, iff_of_false (Nat.lt_irrefl _) fresh⟩

/-- **What recording does** after any calls. The step is refused for a cycle exactly when steps
lead up from the parent to the child, that is when the child is the parent or one of its
ancestors, otherwise for a second parent exactly when the child has another one, and otherwise it
is recorded. A refusal changes nothing. A recorded step gives the child its parent and its
counts, no other entry changes, and no test gets another parent. The ancestors of every test
begin with those that it had before, and there are more of them just if the child had no
entry and is the test or one of its ancestors. -/
theorem record_after_calls (calls : List Call) (child : TestCase) (parent : TestId) :
    let genealogy := replay calls
    (∀ error, genealogy.record child parent = .error error ↔
      genealogy.LeadsUp parent child.id ∧ error = .cycle child.id.render parent.render ∨
        ¬ genealogy.LeadsUp parent child.id ∧ ∃ existing,
          genealogy.HasParent child.id existing ∧ existing ≠ parent ∧
            error = .alreadyParented child.id.render existing.render parent.render) ∧
    ((∃ later, genealogy.record child parent = .ok later) ↔
      ¬ genealogy.LeadsUp parent child.id ∧
        ∀ existing, genealogy.HasParent child.id existing → existing = parent) ∧
    (∀ id, genealogy.LeadsUp parent id ↔ id = parent ∨ id ∈ genealogy.ancestors parent) ∧
    (∀ error, genealogy.record child parent = .error error →
      genealogy.after (.record child parent) = genealogy) ∧
    ∀ later, genealogy.record child parent = .ok later →
      genealogy.after (.record child parent) = later ∧
      (∀ id, later.steps.find? id =
        if id = child.id then some ⟨parent, child.assertionsAdded, child.inputsAdded⟩
        else genealogy.steps.find? id) ∧
      (∀ id existing, genealogy.HasParent id existing → later.HasParent id existing) ∧
      ∀ id, genealogy.ancestors id <+: later.ancestors id ∧
        ((genealogy.ancestors id).length < (later.ancestors id).length ↔
          genealogy.parentOf? child.id = none ∧
            (child.id = id ∨ child.id ∈ genealogy.ancestors id)) := by
  intro genealogy
  have acyclic : genealogy.Acyclic := acyclic_replay calls
  have leadsUp_iff : ∀ id above, genealogy.LeadsUp id above ↔
      above = id ∨ above ∈ genealogy.ancestors id := by
    intro id above
    rw [acyclic.mem_ancestors_iff]
    exact reflTransGen_iff_eq_or_transGen
  refine ⟨acyclic.record_eq_error_iff child parent, acyclic.exists_record_iff, leadsUp_iff parent,
    fun error => after_of_refusal, fun later recorded => ?_⟩
  refine ⟨after_of_record recorded, ?_, extends_record recorded, fun id => ?_⟩
  · obtain ⟨-, -, rfl⟩ := record_eq_ok_iff.1 recorded
    exact find?_withStep child parent
  · rw [← leadsUp_iff]
    exact acyclic.ancestors_prefix_record recorded id

/-- An origin gets a parent, and the test that goes back to it gets a further ancestor. -/
theorem origin_with_child_gets_parent :
    let origin : TestCase := .plain ⟨"Suite", "testFirst"⟩ ""
    let child : TestCase := .plain ⟨"Suite", "testSecond"⟩ ""
    let genealogy := replay [.record child origin.id]
    ∃ later, genealogy.record origin ⟨"Suite", "test"⟩ = .ok later ∧
      genealogy.ancestors child.id <+: later.ancestors child.id ∧
      (genealogy.ancestors child.id).length < (later.ancestors child.id).length := by
  intro origin child genealogy
  have unparented : genealogy.parentOf? origin.id = none := by decide
  have recorded : genealogy.record origin ⟨"Suite", "test"⟩ =
      .ok (genealogy.withStep origin ⟨"Suite", "test"⟩) :=
    record_eq_ok_iff.2 ⟨by decide, fun _ step => (nomatch unparented.symm.trans step), rfl⟩
  obtain ⟨-, -, -, grows⟩ := (record_after_calls _ origin _).2.2.2.2 _ recorded
  obtain ⟨beginning, longer⟩ := grows child.id
  exact ⟨_, recorded, beginning, longer.2 ⟨unparented, by decide⟩⟩

end Genealogy

end TestAmplification
