import TestAmplification.Proofs.Genealogy.Ancestry

/-!
# Walks that end

A walk goes from a test to its parent, from there to the parent of that, and so on, until
it comes to a test without an entry. Nothing else stops it: it remembers no test and
counts no steps (`Walk`). There are two such walks, one that lists tests (`AncestorWalk`) and
one that lists entries (`EntryWalk`). The rules have no bound on the number of steps, so
they reach a list only when the walk ends.

In an acyclic genealogy both walks end, and the listed ancestors and the chain are what they
come to (`Acyclic.ancestorWalk_iff`, `Acyclic.entryWalk_iff`). Every genealogy that calls lead
to is acyclic, since a refused step changes nothing and a recorded one closes no cycle
(`acyclic_replay`).
-/

set_option autoImplicit false

namespace TestAmplification

namespace Genealogy

variable {genealogy : Genealogy}

/-! ## Walks without a bound -/

/-- The walk from a test ends, after the listed items. A step gives an item and the test
to go on from; without a step the walk is over. -/
inductive Walk {α : Type} (step? : TestId → Option (α × TestId)) : TestId → List α → Prop where
  | stop {id : TestId} (ended : step? id = none) : Walk step? id []
  | next {id above : TestId} {item : α} {rest : List α} (step : step? id = some (item, above))
      (walk : Walk step? above rest) : Walk step? id (item :: rest)

theorem Walk.unique {α : Type} {step? : TestId → Option (α × TestId)} {id : TestId}
    {items other : List α} (walk : Walk step? id items) (otherWalk : Walk step? id other) :
    items = other := by
  induction walk generalizing other with
  | stop ended =>
      cases otherWalk with
      | stop _ => rfl
      | next step _ => cases ended.symm.trans step
  | next step _ ih =>
      cases otherWalk with
      | stop ended => cases ended.symm.trans step
      | next otherStep rest =>
          cases step.symm.trans otherStep
          rw [ih rest]

/-- The walk that lists the tests it comes to. -/
abbrev AncestorWalk (genealogy : Genealogy) : TestId → List TestId → Prop :=
  Walk fun id => (genealogy.parentOf? id).map fun parent => (parent, parent)

/-- The walk that lists the entries it passes. -/
abbrev EntryWalk (genealogy : Genealogy) : TestId → List Lineage → Prop :=
  Walk fun id => (genealogy.steps.find? id).map fun lineage => (lineage, lineage.parent)

/-- The two walks take the same way. -/
theorem EntryWalk.ancestorWalk {id : TestId} {entries : List Lineage}
    (walk : EntryWalk genealogy id entries) :
    AncestorWalk genealogy id (entries.map Lineage.parent) := by
  induction walk with
  | stop ended => exact .stop (by simpa [parentOf?] using ended)
  | next step _ ih =>
      obtain ⟨lineage, derived, same⟩ := Option.map_eq_some_iff.1 step
      cases same
      exact .next (by simp [parentOf?, derived]) ih

namespace Acyclic

variable (acyclic : genealogy.Acyclic)

include acyclic

theorem entryWalk_chain (id : TestId) : EntryWalk genealogy id (genealogy.chain id) := by
  induction id using acyclic.induction with
  | origin id origin =>
      have missing : genealogy.steps.find? id = none := by simpa [parentOf?] using origin
      rw [chain_of_none missing]
      exact .stop (by rw [missing, Option.map_none])
  | derived id parent step ih =>
      obtain ⟨lineage, derived, rfl⟩ := (hasParent_iff_find? _ _).1 step
      rw [acyclic.chain_of_some derived]
      exact .next (by rw [derived, Option.map_some]) ih

/-- The walk through the entries ends, and it lists exactly the chain. -/
theorem entryWalk_iff (id : TestId) (entries : List Lineage) :
    EntryWalk genealogy id entries ↔ entries = genealogy.chain id := by
  constructor
  · exact fun walk => walk.unique (acyclic.entryWalk_chain id)
  · rintro rfl
    exact acyclic.entryWalk_chain id

/-- The walk through the ancestors ends, and it lists exactly the ancestors. -/
theorem ancestorWalk_iff (id : TestId) (above : List TestId) :
    AncestorWalk genealogy id above ↔ above = genealogy.ancestors id := by
  have ends : AncestorWalk genealogy id (genealogy.ancestors id) :=
    (acyclic.entryWalk_chain id).ancestorWalk
  constructor
  · exact fun walk => walk.unique ends
  · rintro rfl
    exact ends

/-! ## What the walks list -/

theorem not_mem_ancestors (id : TestId) : id ∉ genealogy.ancestors id := by
  rw [acyclic.mem_ancestors_iff]
  exact acyclic id

theorem nodup_ancestors (id : TestId) : (genealogy.ancestors id).Nodup := by
  induction id using acyclic.induction with
  | origin id origin =>
      rw [ancestors_of_origin origin]
      exact .nil
  | derived id parent step ih =>
      rw [acyclic.ancestors_of_parent step]
      exact List.nodup_cons.2 ⟨acyclic.not_mem_ancestors parent, ih⟩

/-- The origin that a test goes back to has no entry. -/
theorem isDerived_rootOf (id : TestId) : genealogy.isDerived (genealogy.rootOf id) = false := by
  induction id using acyclic.induction with
  | origin id origin =>
      rw [rootOf_of_origin origin, ← Bool.not_eq_true, isDerived_iff]
      rintro ⟨parent, step⟩
      cases origin.symm.trans step
  | derived id parent step ih =>
      rw [acyclic.rootOf_of_parent step]
      exact ih

end Acyclic

theorem length_walkUp_le (steps : Table TestId Lineage) (limit : Nat) (id : TestId) :
    (walkUp steps limit id).length ≤ limit := by
  induction limit generalizing id with
  | zero => exact Nat.le_refl 0
  | succ limit ih =>
      rw [walkUp]
      split
      · exact Nat.zero_le _
      · exact Nat.succ_le_succ (ih _)

theorem length_ancestors_le (id : TestId) : (genealogy.ancestors id).length ≤ genealogy.size := by
  rw [ancestors, List.length_map]
  exact length_walkUp_le _ _ _

/-- The ancestors lead up to the origin of the test. -/
theorem getLast?_cons_ancestors (id : TestId) :
    (id :: genealogy.ancestors id).getLast? = some (genealogy.rootOf id) := by
  rw [List.getLast?_cons, rootOf, List.getLastD_eq_getLast?]

/-! ## Calls -/

/-- A call that may change a genealogy. -/
inductive Call where
  /-- Record that the child was derived from the parent. -/
  | record (child : TestCase) (parent : TestId)
  /-- Forget all steps. -/
  | clear

/-- The genealogy after a call. A refused step leaves it as it is. -/
def after (genealogy : Genealogy) : Call → Genealogy
  | .record child parent =>
      match genealogy.record child parent with
      | .ok later => later
      | .error _ => genealogy
  | .clear => .empty

/-- The genealogy after calls, from the one without entries. -/
def replay (calls : List Call) : Genealogy :=
  calls.foldl after .empty

theorem Acyclic.after (acyclic : genealogy.Acyclic) (call : Call) :
    (genealogy.after call).Acyclic := by
  cases call with
  | clear => exact acyclic_empty
  | record child parent =>
      rw [Genealogy.after]
      split
      · next recorded => exact acyclic.record recorded
      · exact acyclic

/-- No sequence of calls leads to a cycle. -/
theorem acyclic_replay (calls : List Call) : (replay calls).Acyclic := by
  have each : ∀ genealogy : Genealogy, genealogy.Acyclic →
      (calls.foldl Genealogy.after genealogy).Acyclic := by
    induction calls with
    | nil => exact fun _ acyclic => acyclic
    | cons call rest ih => exact fun _ acyclic => ih _ (acyclic.after call)
  exact each _ acyclic_empty

/-- **Walks end.** Whatever calls were made, no test descends from itself, and from every test
both walks end. The ancestors are pairwise distinct and not the test itself, there are no more
of them than entries, they lead up to a test without an entry, and their number is the
number of entries that the other walk lists. -/
theorem walks_end_after_calls (calls : List Call) :
    (replay calls).Acyclic ∧ ∀ id,
      (∀ above, AncestorWalk (replay calls) id above ↔ above = (replay calls).ancestors id) ∧
      (∀ entries, EntryWalk (replay calls) id entries ↔ entries = (replay calls).chain id) ∧
      ((replay calls).ancestors id).Nodup ∧ id ∉ (replay calls).ancestors id ∧
      ((replay calls).ancestors id).length ≤ (replay calls).size ∧
      (id :: (replay calls).ancestors id).getLast? = some ((replay calls).rootOf id) ∧
      (replay calls).isDerived ((replay calls).rootOf id) = false ∧
      (replay calls).depth id = ((replay calls).chain id).length := by
  have acyclic := acyclic_replay calls
  refine ⟨acyclic, fun id => ?_⟩
  exact ⟨acyclic.ancestorWalk_iff id, acyclic.entryWalk_iff id, acyclic.nodup_ancestors id,
    acyclic.not_mem_ancestors id, length_ancestors_le id, getLast?_cons_ancestors id,
    acyclic.isDerived_rootOf id, List.length_map _⟩

end Genealogy

end TestAmplification
