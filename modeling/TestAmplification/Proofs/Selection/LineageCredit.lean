import TestAmplification.Proofs.Genealogy.Ancestry
import TestAmplification.Proofs.Selection.Session

/-!
# One credit for a mutant along a lineage

A mutant that is credited to a test should not be credited to its descendants
again. The selector only looks at the ancestors of a killer, as the genealogy shows
them at the time of the decision. That is enough under conditions on the order in
which things happen: no shown test and no ancestor of one gets a parent later, no
candidate is above a test of an earlier decision, and no reply of the engine lists a
mutant twice.

The invariant says that every credited test was shown and that credits are
exclusive along every lineage. Recording keeps it because the ancestors of
shown tests stay what they are (`LineageInvariant.record`). Within a decision an earlier
credit for a mutant belongs to a test of an earlier decision, which has no candidate
above it (`exclusive_creditOutcomes`).
-/

set_option autoImplicit false

namespace TestAmplification

namespace MutationScore

variable {W : Type}

/-- Selections with a growing genealogy, and the candidates of each decision so far. Only
tests that were not shown, nor are ancestors of shown ones, get a first parent. The
engine lists each mutant at most once in a reply. -/
inductive CreditRun (setting : Setting W) :
    Genealogy → Selection MutationScore W → List (List TestCase) → Prop where
  /-- There is a baseline, and no test has a credit or a parent. -/
  | start (selection : Selection MutationScore W) (prepared : selection.state.baseline ≠ none)
      (uncredited : selection.state.credits = ∅) : CreditRun setting .empty selection []
  | record {genealogy later : Genealogy} {selection : Selection MutationScore W}
      {calls : List (List TestCase)} (run : CreditRun setting genealogy selection calls)
      (child : TestCase) (parent : TestId)
      (recorded : genealogy.record child parent = .ok later)
      (notShown : genealogy.parentOf? child.id = none → ∀ call ∈ calls, ∀ shown ∈ call,
        child.id ≠ shown.id ∧ child.id ∉ genealogy.ancestors shown.id) :
      CreditRun setting later selection calls
  | keep {genealogy : Genealogy} {selection : Selection MutationScore W}
      {calls : List (List TestCase)} (run : CreditRun setting genealogy selection calls)
      (candidates : List TestCase)
      (eachOnce : ∀ initial outcomes, candidates ≠ [] →
        selection.state.currentSuite = some initial →
        setting.replyTo initial candidates selection.world = .ok outcomes →
        (outcomes.map MutantOutcome.mutant).Nodup) :
      CreditRun setting genealogy ((selector setting).keep candidates genealogy selection).2
        (calls ++ [candidates])
  /-- The selector takes any other step. -/
  | other {genealogy : Genealogy} {selection after : Selection MutationScore W}
      {calls : List (List TestCase)} (run : CreditRun setting genealogy selection calls)
      (step : Step setting selection .passed after) : CreditRun setting genealogy after calls

/-- No candidate of a decision is an ancestor of a candidate of an earlier one. -/
def NoneAbove (genealogy : Genealogy) (calls : List (List TestCase)) : Prop :=
  calls.Pairwise fun earlier later => ∀ candidate ∈ later, ∀ shown ∈ earlier,
    candidate.id ∉ genealogy.ancestors shown.id

/-- No mutant is credited both to a test and to an ancestor of it. -/
def Exclusive (genealogy : Genealogy) (credits : Credits) : Prop :=
  ∀ test, ∀ ancestor ∈ genealogy.ancestors test, ∀ mutant,
    ¬ (credits.holds test mutant = true ∧ credits.holds ancestor mutant = true)

variable {genealogy later : Genealogy} {credits : Credits} {calls : List (List TestCase)}

theorem NoneAbove.of_extends (noneAbove : NoneAbove later calls) (grows : genealogy.Extends later)
    (acyclic : genealogy.Acyclic) (laterAcyclic : later.Acyclic) : NoneAbove genealogy calls := by
  refine List.Pairwise.imp ?_ noneAbove
  intro earlier next apart candidate member shown shownMember above
  refine apart candidate member shown shownMember ?_
  rw [acyclic.mem_ancestors_iff] at above
  exact (laterAcyclic.mem_ancestors_iff _ _).2 (grows.descends above)

/-! ## One decision -/

section

variable {baseline : Baseline} {candidates : List TestCase}

/-- A grant keeps credits exclusive when nobody below the killer holds the mutant. -/
theorem Exclusive.grant (exclusive : Exclusive genealogy credits) (acyclic : genealogy.Acyclic)
    {outcome : MutantOutcome} {killer : TestId}
    (unclaimed : ∀ ancestor ∈ genealogy.ancestors killer,
      credits.holds ancestor outcome.mutant = false)
    (noneBelow : ∀ test, credits.holds test outcome.mutant = true →
      killer ∉ genealogy.ancestors test) :
    Exclusive genealogy (credits.grant killer outcome) := by
  intro test ancestor above mutant both
  rw [Credits.holds_grant_iff, Credits.holds_grant_iff] at both
  obtain ⟨old | ⟨rfl, rfl⟩, oldAbove | ⟨rfl, sameMutant⟩⟩ := both
  · exact exclusive test ancestor above mutant ⟨old, oldAbove⟩
  · subst sameMutant
    exact noneBelow test old above
  · rw [unclaimed ancestor above] at oldAbove
    cases oldAbove
  · exact acyclic ancestor ((acyclic.mem_ancestors_iff _ _).1 above)

/-- Credits stay exclusive when outcomes of different mutants are credited, provided
that no candidate is above a test that holds one of these mutants already. -/
theorem exclusive_creditOutcomes (acyclic : genealogy.Acyclic) {outcomes : List MutantOutcome}
    (eachOnce : (outcomes.map MutantOutcome.mutant).Nodup)
    (exclusive : Exclusive genealogy credits)
    (noneBelow : ∀ outcome ∈ outcomes, ∀ test, credits.holds test outcome.mutant = true →
      ∀ candidate ∈ candidates, candidate.id ∉ genealogy.ancestors test) :
    Exclusive genealogy
      (creditOutcomes baseline genealogy candidates outcomes credits).1 := by
  induction outcomes generalizing credits with
  | nil => exact exclusive
  | cons outcome rest ih =>
      rw [List.map_cons, List.nodup_cons] at eachOnce
      obtain ⟨notAgain, eachOnce⟩ := eachOnce
      cases earned : earner? baseline genealogy candidates credits outcome with
      | none =>
          rw [creditOutcomes_cons_of_none rest earned]
          exact ih eachOnce exclusive fun other member => noneBelow other (.tail _ member)
      | some killer =>
          have earns := earner?_eq_some_iff.1 earned
          rw [creditOutcomes_cons_of_earns rest earns]
          obtain ⟨candidate, offered, rfl⟩ := earns.candidate
          refine ih eachOnce ?_ ?_
          · refine exclusive.grant acyclic earns.unclaimed ?_
            intro test holds
            exact noneBelow outcome (.head _) test holds candidate offered
          · intro other member test holds
            -- The grant is for another mutant than the outcomes that follow.
            rcases (Credits.holds_grant_iff _ _).1 holds with old | ⟨-, sameMutant⟩
            · exact noneBelow other (.tail _ member) test old
            · exact absurd (List.mem_map_of_mem member) (sameMutant ▸ notAgain)

end

/-! ## The invariant of a run -/

/-- The genealogy is acyclic, credits are held by shown tests, and they are exclusive
along every lineage. -/
structure LineageInvariant (genealogy : Genealogy) (credits : Credits)
    (calls : List (List TestCase)) : Prop where
  acyclic : genealogy.Acyclic
  shown : ∀ test mutant, credits.holds test mutant = true →
    ∃ call ∈ calls, ∃ candidate ∈ call, candidate.id = test
  exclusive : Exclusive genealogy credits

namespace LineageInvariant

theorem start : LineageInvariant .empty ∅ [] where
  acyclic := Genealogy.acyclic_empty
  shown _ _ holds := by cases holds
  exclusive _ _ _ _ both := by cases both.1

/-- Recording keeps the invariant: the ancestors of a credited test stay the same. -/
theorem record (invariant : LineageInvariant genealogy credits calls) {child : TestCase}
    {parent : TestId} (recorded : genealogy.record child parent = .ok later)
    (notShown : genealogy.parentOf? child.id = none → ∀ call ∈ calls, ∀ shown ∈ call,
      child.id ≠ shown.id ∧ child.id ∉ genealogy.ancestors shown.id) :
    LineageInvariant later credits calls := by
  refine ⟨invariant.acyclic.record recorded, invariant.shown, ?_⟩
  intro test ancestor above mutant both
  obtain ⟨call, member, candidate, offered, rfl⟩ := invariant.shown test mutant both.1
  have sameAncestors := invariant.acyclic.ancestors_record recorded
    fun missing => notShown missing call member candidate offered
  rw [sameAncestors] at above
  exact invariant.exclusive candidate.id ancestor above mutant both

/-- A decision keeps the invariant when no candidate is above a test of an earlier
one. -/
theorem keep {setting : Setting W} {selection : Selection MutationScore W}
    (invariant : LineageInvariant genealogy selection.state.credits calls)
    {candidates : List TestCase}
    (eachOnce : ∀ initial outcomes, candidates ≠ [] →
      selection.state.currentSuite = some initial →
      setting.replyTo initial candidates selection.world = .ok outcomes →
      (outcomes.map MutantOutcome.mutant).Nodup)
    (noneAbove : ∀ call ∈ calls, ∀ candidate ∈ candidates, ∀ shown ∈ call,
      candidate.id ∉ genealogy.ancestors shown.id) :
    LineageInvariant genealogy
      (MutationScore.keep setting candidates genealogy selection).2.state.credits
      (calls ++ [candidates]) := by
  have shownBefore : ∀ test mutant, selection.state.credits.holds test mutant = true →
      ∃ call ∈ calls ++ [candidates], ∃ candidate ∈ call, candidate.id = test := by
    intro test mutant holds
    obtain ⟨call, member, found⟩ := invariant.shown test mutant holds
    exact ⟨call, List.mem_append_left _ member, found⟩
  rcases keep_cases setting candidates genealogy selection with ⟨-, same⟩ |
    ⟨baseline, initial, outcomes, nonempty, -, active, replied, -, scored⟩
  · rw [same]
    exact ⟨invariant.acyclic, shownBefore, invariant.exclusive⟩
  · rw [scored]
    refine ⟨invariant.acyclic, ?_, ?_⟩
    · intro test mutant holds
      rcases (credited_creditOutcomes_iff outcomes test).1 ⟨mutant, holds⟩ with
        ⟨other, old⟩ | earner
      · exact shownBefore test other old
      · obtain ⟨candidate, offered, same⟩ := candidate_of_mem_earners outcomes earner
        exact ⟨candidates, List.mem_append_right _ (List.mem_singleton.2 rfl), candidate,
          offered, same⟩
    · refine exclusive_creditOutcomes invariant.acyclic
        (eachOnce initial outcomes nonempty active replied) invariant.exclusive ?_
      intro outcome _ test holds candidate offered
      obtain ⟨call, member, shown, shownMember, rfl⟩ :=
        invariant.shown test outcome.mutant holds
      exact noneAbove call member candidate offered shown shownMember

end LineageInvariant

theorem CreditRun.acyclic {setting : Setting W} {selection : Selection MutationScore W}
    (run : CreditRun setting genealogy selection calls) : genealogy.Acyclic := by
  induction run with
  | start => exact Genealogy.acyclic_empty
  | record _ child parent recorded _ ih => exact ih.record recorded
  | keep _ _ _ ih => exact ih
  | other _ _ ih => exact ih

theorem CreditRun.invariant {setting : Setting W} {selection : Selection MutationScore W}
    (run : CreditRun setting genealogy selection calls) (noneAbove : NoneAbove genealogy calls) :
    LineageInvariant genealogy selection.state.credits calls := by
  induction run with
  | start selection _ uncredited =>
      rw [uncredited]
      exact .start
  | record run child parent recorded notShown ih =>
      have acyclic := run.acyclic
      have before := noneAbove.of_extends (Genealogy.extends_record recorded) acyclic
        (acyclic.record recorded)
      exact (ih before).record recorded notShown
  | keep run candidates eachOnce ih =>
      obtain ⟨before, -, apart⟩ := List.pairwise_append.1 noneAbove
      refine (ih before).keep eachOnce ?_
      intro call member
      exact apart call member candidates (List.mem_singleton.2 rfl)
  | other run step ih =>
      have invariant := ih noneAbove
      rcases step.cases with ⟨_, loaded, -⟩ | ⟨_, _, decided, -⟩ | ⟨-, -, sameCredits⟩
      · cases loaded
      · cases decided
      · rw [sameCredits]
        exact invariant

/-- **No mutant is credited twice along a lineage.** When no candidate of a decision is
in the end above a candidate of an earlier one, a test and its ancestors are credited
with different mutants. -/
theorem CreditRun.no_double_credit {setting : Setting W} {selection : Selection MutationScore W}
    (run : CreditRun setting genealogy selection calls)
    (noneAbove : calls.Pairwise fun earlier later => ∀ candidate ∈ later, ∀ shown ∈ earlier,
      candidate.id ∉ genealogy.ancestors shown.id) :
    ∀ test, ∀ ancestor ∈ genealogy.ancestors test, ∀ mutant,
      ¬ (selection.state.credits.holds test mutant = true ∧
        selection.state.credits.holds ancestor mutant = true) :=
  (run.invariant noneAbove).exclusive

/-- A test is credited with a mutant, and its child, which kills the mutant as well, is
not. -/
theorem CreditRun.child_of_credited_test :
    let origin := TestCase.plain ⟨"Suite", "testOrigin"⟩ "check()"
    let child := TestCase.plain ⟨"Suite", "testChild"⟩ "check(); check()"
    ∃ genealogy selection,
      CreditRun (.everyTestKills default) genealogy selection [[origin], [child]] ∧
        origin.id ∈ genealogy.ancestors child.id ∧
        selection.state.credits.holds origin.id default = true ∧
        ¬ selection.state.credits.holds child.id default = true := by
  intro origin child
  have start : CreditRun (.everyTestKills default) .empty ⟨withBaseline [], (), []⟩ [] :=
    .start _ (by decide) rfl
  have nominated := start.other (.nominate _ ⟨"Suite", [], []⟩ [origin])
  have first := nominated.keep [origin] (by
    rintro initial outcomes - ⟨⟩ ⟨⟩
    decide)
  have step : Genealogy.empty.record child origin.id =
      .ok (Genealogy.empty.withStep child origin.id) :=
    Genealogy.record_eq_ok_iff.2 ⟨by decide, nofun, rfl⟩
  have recorded := first.record child origin.id step (by decide)
  have second := recorded.keep [child] (by
    rintro initial outcomes - ⟨⟩ ⟨⟩
    decide)
  have above : origin.id ∈ (Genealogy.empty.withStep child origin.id).ancestors child.id := by
    decide
  have notBoth := second.no_double_credit (by decide) child.id origin.id above default
  exact ⟨_, _, second, above, by decide, fun again => notBoth ⟨again, by decide⟩⟩

end MutationScore

end TestAmplification
