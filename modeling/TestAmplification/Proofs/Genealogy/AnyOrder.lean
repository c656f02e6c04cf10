import TestAmplification.Proofs.Genealogy.Recording

/-!
# Recording derivations in any order

A list of derivations with pairwise distinct children gives a relation between tests and their
parents. Recording looks for a cycle among the steps that are recorded already, so what is
refused depends on the order. Whether anything is refused does not: every order gets by
without a refusal exactly when no test leads up to itself in the relation, and the genealogy at the
end is then the same (`recording_in_any_order`).

In one direction, steps that close a cycle are all steps of the relation
(`Awaits.refusals_eq_nil`). In the other one, derivations of which none is refused are all
recorded at the end (`replay_of_no_refusal`), and a genealogy that calls lead to is acyclic. No
derivation is refused for a second parent, since until its turn the child has no parent at all
(`Awaits.refusals_are_cycles`).
-/

set_option autoImplicit false

namespace TestAmplification

open Relation

namespace Genealogy

/-! ## Refusals -/

/-- The refusal that a call meets, if it does. -/
def refusal? (genealogy : Genealogy) : Call → Option GenealogyError
  | .record child parent =>
      match genealogy.record child parent with
      | .ok _ => none
      | .error error => some error
  | .clear => none

/-- The refusals that calls meet one after the other. -/
def refusals (genealogy : Genealogy) : List Call → List GenealogyError
  | [] => []
  | call :: rest => (genealogy.refusal? call).toList ++ refusals (genealogy.after call) rest

/-! ## Derivations -/

/-- A test and the parent that it is to be recorded under. -/
structure Derivation where
  /-- The derived test. -/
  child : TestCase
  /-- The test it was derived from. -/
  parent : TestId
deriving DecidableEq

namespace Derivation

/-- The call that records the derivation. -/
def call (derivation : Derivation) : Call :=
  .record derivation.child derivation.parent

/-- The entry of the child, once it is recorded. -/
def entry (derivation : Derivation) : TestId × Lineage :=
  (derivation.child.id,
    ⟨derivation.parent, derivation.child.assertionsAdded, derivation.child.inputsAdded⟩)

end Derivation

/-- One of the derivations gives the first test the second one as its parent. -/
def Gives (derivations : List Derivation) (child parent : TestId) : Prop :=
  ∃ derivation ∈ derivations, derivation.child.id = child ∧ derivation.parent = parent

/-- Derivations lead from some test up to itself. -/
def Looped (derivations : List Derivation) : Prop :=
  ∃ id, TransGen (Gives derivations) id id

variable {genealogy : Genealogy} {derivation : Derivation}
  {rest order derivations : List Derivation}

/-- The genealogy has no parent yet for the children of the derivations, which are pairwise
distinct. -/
structure Awaits (genealogy : Genealogy) (derivations : List Derivation) : Prop where
  acyclic : genealogy.Acyclic
  distinct : (derivations.map fun derivation => derivation.child.id).Nodup
  fresh : ∀ derivation ∈ derivations, genealogy.parentOf? derivation.child.id = none

theorem awaits_empty (distinct : (derivations.map fun derivation => derivation.child.id).Nodup) :
    Awaits .empty derivations where
  acyclic := acyclic_empty
  distinct := distinct
  fresh _ _ := rfl

/-- A call brings no other step than that of the derivation. -/
theorem hasParent_after_call {child parent : TestId}
    (step : (genealogy.after derivation.call).HasParent child parent) :
    genealogy.HasParent child parent ∨
      child = derivation.child.id ∧ parent = derivation.parent := by
  cases recorded : genealogy.record derivation.child derivation.parent with
  | ok later =>
      rw [Derivation.call, after_of_record recorded, (record_eq_ok_iff.1 recorded).2.2, HasParent,
        parentOf?_withStep] at step
      by_cases same : child = derivation.child.id
      · rw [if_pos same] at step
        exact .inr ⟨same, (Option.some.inj step).symm⟩
      · rw [if_neg same] at step
        exact .inl step
  | error error =>
      rw [Derivation.call, after_of_refusal recorded] at step
      exact .inl step

namespace Awaits

/-- After the first call, the other derivations are still awaited. -/
theorem after (awaits : Awaits genealogy (derivation :: rest)) :
    Awaits (genealogy.after derivation.call) rest := by
  obtain ⟨new, distinct⟩ := List.nodup_cons.1 awaits.distinct
  refine ⟨awaits.acyclic.after _, distinct, fun other later => ?_⟩
  refine Option.eq_none_iff_forall_ne_some.2 fun parent step => ?_
  rcases hasParent_after_call step with old | ⟨same, -⟩
  · cases (awaits.fresh other (List.mem_cons_of_mem _ later)).symm.trans old
  · exact new (List.mem_map.2 ⟨other, later, same⟩)

/-- The next derivation can be refused for a cycle only. -/
theorem refusal?_eq_some_iff (awaits : Awaits genealogy (derivation :: rest))
    (error : GenealogyError) :
    genealogy.refusal? derivation.call = some error ↔
      genealogy.LeadsUp derivation.parent derivation.child.id ∧
        error = .cycle derivation.child.id.render derivation.parent.render := by
  have origin := awaits.fresh derivation List.mem_cons_self
  have noParent : ∀ existing, ¬ genealogy.HasParent derivation.child.id existing := by
    intro existing step
    cases origin.symm.trans step
  have refused_iff :=
    awaits.acyclic.record_eq_error_iff derivation.child derivation.parent error
  simp only [noParent, false_and, exists_false, and_false, or_false] at refused_iff
  rw [← refused_iff, Derivation.call, refusal?]
  split <;> simp [*]

/-- **Cycles are the only refusals.** -/
theorem refusals_are_cycles (awaits : Awaits genealogy order) :
    ∀ error ∈ genealogy.refusals (order.map Derivation.call),
      ∃ derivation ∈ order,
        error = .cycle derivation.child.id.render derivation.parent.render := by
  induction order generalizing genealogy with
  | nil => exact nofun
  | cons derivation rest ih =>
      intro error member
      rw [List.map_cons, refusals, List.mem_append, Option.mem_toList] at member
      rcases member with first | later
      · exact ⟨derivation, List.mem_cons_self, ((awaits.refusal?_eq_some_iff error).1 first).2⟩
      · obtain ⟨other, listed, same⟩ := ih awaits.after error later
        exact ⟨other, List.mem_cons_of_mem _ listed, same⟩

/-- **Nothing is refused** when no test leads up to itself: all steps that could close a cycle
are given by derivations. -/
theorem refusals_eq_nil (awaits : Awaits genealogy order) (straight : ¬ Looped derivations)
    (listed : ∀ derivation ∈ order, derivation ∈ derivations)
    (given : ∀ child parent, genealogy.HasParent child parent → Gives derivations child parent) :
    genealogy.refusals (order.map Derivation.call) = [] := by
  induction order generalizing genealogy with
  | nil => rfl
  | cons derivation rest ih =>
      have own : Gives derivations derivation.child.id derivation.parent :=
        ⟨derivation, listed derivation List.mem_cons_self, rfl, rfl⟩
      have notAbove : ¬ genealogy.LeadsUp derivation.parent derivation.child.id := fun leads =>
        straight ⟨_, .head' own (ReflTransGen.mono given _ _ leads)⟩
      have taken : genealogy.refusal? derivation.call = none :=
        Option.eq_none_iff_forall_ne_some.2 fun error refused =>
          notAbove ((awaits.refusal?_eq_some_iff error).1 refused).1
      rw [List.map_cons, refusals, taken, Option.toList_none, List.nil_append]
      refine ih awaits.after (fun other later => listed other (List.mem_cons_of_mem _ later)) ?_
      intro child parent step
      rcases hasParent_after_call step with old | ⟨rfl, rfl⟩
      · exact given child parent old
      · exact own

end Awaits

/-! ## What is recorded -/

theorem after_of_no_refusal (taken : genealogy.refusal? derivation.call = none) :
    genealogy.after derivation.call = genealogy.withStep derivation.child derivation.parent := by
  cases recorded : genealogy.record derivation.child derivation.parent with
  | ok later =>
      rw [Derivation.call, after_of_record recorded]
      exact (record_eq_ok_iff.1 recorded).2.2
  | error error =>
      rw [Derivation.call, refusal?, recorded] at taken
      cases taken

theorem foldl_after_of_no_refusal
    (taken : genealogy.refusals (order.map Derivation.call) = []) :
    (order.map Derivation.call).foldl after genealogy =
      ⟨(order.map Derivation.entry).foldl (fun table entry => table.insert entry.1 entry.2)
        genealogy.steps⟩ := by
  induction order generalizing genealogy with
  | nil => rfl
  | cons derivation rest ih =>
      rw [List.map_cons, refusals, List.append_eq_nil_iff, Option.toList_eq_nil_iff] at taken
      rw [List.map_cons, List.foldl_cons, ih taken.2, after_of_no_refusal taken.1]
      rfl

/-- **All derivations are recorded** when none is refused. -/
theorem replay_of_no_refusal
    (taken : refusals .empty (order.map Derivation.call) = []) :
    replay (order.map Derivation.call) = ⟨Table.ofList (order.map Derivation.entry)⟩ :=
  foldl_after_of_no_refusal taken

/-- The entries of derivations with distinct children have distinct keys. -/
theorem nodup_keys_entries
    (distinct : (derivations.map fun derivation => derivation.child.id).Nodup) :
    ((derivations.map Derivation.entry).map Prod.fst).Nodup := by
  rw [List.map_map]
  exact distinct

/-- With distinct children, the entries at the end are those of the derivations. -/
theorem find?_replay_of_no_refusal
    (distinct : (derivations.map fun derivation => derivation.child.id).Nodup)
    (taken : refusals .empty (derivations.map Derivation.call) = []) (id : TestId)
    (lineage : Lineage) :
    (replay (derivations.map Derivation.call)).steps.find? id = some lineage ↔
      ∃ derivation ∈ derivations, derivation.entry = (id, lineage) := by
  rw [replay_of_no_refusal taken, Table.find?_ofList (nodup_keys_entries distinct), List.mem_map]

/-- Derivations that are all recorded lead from no test up to itself. -/
theorem not_looped_of_no_refusal
    (distinct : (derivations.map fun derivation => derivation.child.id).Nodup)
    (taken : refusals .empty (derivations.map Derivation.call) = []) : ¬ Looped derivations := by
  rintro ⟨id, loop⟩
  refine acyclic_replay (derivations.map Derivation.call) id (TransGen.mono ?_ id id loop)
  rintro child parent ⟨derivation, listed, rfl, rfl⟩
  exact (hasParent_iff_find? _ _).2
    ⟨_, (find?_replay_of_no_refusal distinct taken _ _).2 ⟨derivation, listed, rfl⟩, rfl⟩

/-! ## Any order -/

theorem looped_congr (perm : order.Perm derivations) : Looped order ↔ Looped derivations := by
  have same : Gives order = Gives derivations := by
    funext child parent
    simp only [Gives, perm.mem_iff]
  rw [Looped, Looped, same]

/-- Whether anything is refused is a matter of the relation alone. -/
theorem refusals_eq_nil_iff
    (distinct : (derivations.map fun derivation => derivation.child.id).Nodup) :
    refusals .empty (derivations.map Derivation.call) = [] ↔ ¬ Looped derivations := by
  constructor
  · exact not_looped_of_no_refusal distinct
  · intro straight
    refine (awaits_empty distinct).refusals_eq_nil straight (fun _ listed => listed) ?_
    intro child parent step
    cases step

/-- **The order of recording does not matter.** Derivations with pairwise distinct children are
recorded into the genealogy without entries, in any order. None is refused exactly when they
lead from no test up to itself. Then every order comes to the same genealogy, with the same
ancestors and additions of every test therefore, and its entries are those of the derivations. If
they do lead from a test up to itself, every order has a derivation that is refused for a
cycle. None is ever refused for a second parent. -/
theorem recording_in_any_order (derivations : List Derivation)
    (distinct : (derivations.map fun derivation => derivation.child.id).Nodup)
    (order : List Derivation) (perm : order.Perm derivations) :
    let refused := refusals .empty (order.map Derivation.call)
    let final := replay (order.map Derivation.call)
    (refused = [] ↔ ¬ Looped derivations) ∧
    (¬ Looped derivations →
      final = replay (derivations.map Derivation.call) ∧
      ∀ id lineage, final.steps.find? id = some lineage ↔
        ∃ derivation ∈ derivations, derivation.entry = (id, lineage)) ∧
    (Looped derivations → ∃ derivation ∈ derivations,
      .cycle derivation.child.id.render derivation.parent.render ∈ refused) ∧
    ∀ child existing requested, .alreadyParented child existing requested ∉ refused := by
  intro refused final
  have orderDistinct : (order.map fun derivation => derivation.child.id).Nodup :=
    (perm.map _).nodup_iff.2 distinct
  have refused_iff : refused = [] ↔ ¬ Looped derivations := by
    rw [← looped_congr perm]
    exact refusals_eq_nil_iff orderDistinct
  have cycles := (awaits_empty orderDistinct).refusals_are_cycles
  refine ⟨refused_iff, fun straight => ⟨?_, fun id lineage => ?_⟩, fun looped => ?_, ?_⟩
  · change replay _ = _
    rw [replay_of_no_refusal (refused_iff.2 straight),
      replay_of_no_refusal ((refusals_eq_nil_iff distinct).2 straight),
      Table.ofList_perm (perm.map _) (nodup_keys_entries orderDistinct)]
  · rw [find?_replay_of_no_refusal orderDistinct (refused_iff.2 straight)]
    simp only [perm.mem_iff]
  · obtain ⟨error, member⟩ := List.exists_mem_of_ne_nil refused fun nothing =>
      refused_iff.1 nothing looped
    obtain ⟨derivation, listed, rfl⟩ := cycles error member
    exact ⟨derivation, perm.mem_iff.1 listed, member⟩
  · intro child existing requested member
    obtain ⟨derivation, -, same⟩ := cycles _ member
    cases same

/-- A test that is recorded before its parent is. -/
theorem child_recorded_before_parent :
    let first : Derivation := ⟨.plain ⟨"Suite", "testFirst"⟩ "", ⟨"Suite", "test"⟩⟩
    let second : Derivation := ⟨.plain ⟨"Suite", "testSecond"⟩ "", ⟨"Suite", "testFirst"⟩⟩
    refusals .empty ([second, first].map Derivation.call) = [] ∧
      replay ([second, first].map Derivation.call) =
        replay ([first, second].map Derivation.call) := by
  intro first second
  have distinct : ([first, second].map fun derivation => derivation.child.id).Nodup := by decide
  have straight : ¬ Looped [first, second] :=
    (recording_in_any_order [first, second] distinct [first, second] (.refl _)).1.1 (by decide)
  have swapped := recording_in_any_order [first, second] distinct [second, first] (.swap _ _ _)
  exact ⟨swapped.1.2 straight, (swapped.2.1 straight).1⟩

end Genealogy

end TestAmplification
