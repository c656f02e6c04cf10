import TestAmplification.Proofs.Table
import TestAmplification.Selection.MutationScore

/-!
# Granting credits

A grant adds one credit and touches no other, and a credit that is there already
keeps its outcome (`outcome?_grant`). An outcome earns its killer a credit under
the conditions that `Earns` lists (`earner?_eq_some_iff`).

Crediting a list of outcomes is a sequence of such grants, so what every grant
preserves holds at the end (`creditOutcomes_induction`). The tests that hold a
credit at the end are those that held one before and the listed earners
(`credited_creditOutcomes_iff`), and a credit that was not there before is one
that an earner has earned (`outcome?_creditOutcomes_cases`).
-/

set_option autoImplicit false

namespace TestAmplification

/-- A mutant is creditable when the initial suite came to a reliable result for it
each time and killed it at no time. -/
theorem Baseline.isCreditable_ofOutcomes (outcomes : List MutantOutcome) (mutant : MutantId) :
    (Baseline.ofOutcomes outcomes).isCreditable mutant = true ↔
      ∀ outcome ∈ outcomes, outcome.mutant = mutant →
        outcome.state ≠ .killed ∧ outcome.state.isReliable = true := by
  have notKilled : (Baseline.ofOutcomes outcomes).killed.contains mutant = true ↔
      ∃ outcome ∈ outcomes, outcome.state = .killed ∧ outcome.mutant = mutant := by
    simp [ofOutcomes, KeySet.contains_ofList, MutantOutcome.isKilled, and_assoc]
  have notUnreliable : (Baseline.ofOutcomes outcomes).neverExercised.contains mutant = true ↔
      ∃ outcome ∈ outcomes, outcome.state.isReliable = false ∧ outcome.mutant = mutant := by
    simp [ofOutcomes, KeySet.contains_ofList, and_assoc]
  rw [isCreditable, Bool.and_eq_true, Bool.not_eq_true', Bool.not_eq_true',
    ← Bool.not_eq_true, ← Bool.not_eq_true, notKilled, notUnreliable]
  constructor
  · rintro ⟨noKill, noDoubt⟩ outcome member same
    refine ⟨fun killed => noKill ⟨outcome, member, killed, same⟩, ?_⟩
    by_contra unreliable
    exact noDoubt ⟨outcome, member, Bool.eq_false_iff.2 unreliable, same⟩
  · intro decisive
    refine ⟨?_, ?_⟩
    · rintro ⟨outcome, member, killed, same⟩
      exact (decisive outcome member same).1 killed
    · rintro ⟨outcome, member, unreliable, same⟩
      rw [(decisive outcome member same).2] at unreliable
      cases unreliable

namespace Credits

variable (credits : Credits) (test : TestId) (outcome : MutantOutcome)

/-! ## One grant -/

@[simp] theorem outcome?_empty (mutant : MutantId) :
    (∅ : Credits).outcome? test mutant = none := rfl

@[simp] theorem holds_empty (mutant : MutantId) :
    (∅ : Credits).holds test mutant = false := rfl

theorem holds_iff (mutant : MutantId) :
    credits.holds test mutant = true ↔ ∃ outcome, credits.outcome? test mutant = some outcome :=
  Option.isSome_iff_exists

theorem find?_getD_empty (mutant : MutantId) :
    ((credits.find? test).getD ∅).find? mutant = credits.outcome? test mutant := by
  cases found : credits.find? test <;> simp [outcome?, found]

/-- A grant adds the credit, unless it is there, and leaves all others alone. -/
theorem outcome?_grant (other : TestId) (mutant : MutantId) :
    (credits.grant test outcome).outcome? other mutant =
      if other = test ∧ mutant = outcome.mutant then
        some ((credits.outcome? test outcome.mutant).getD outcome)
      else credits.outcome? other mutant := by
  by_cases sameTest : other = test
  · subst sameTest
    have found : (credits.grant other outcome).outcome? other mutant =
        (((credits.find? other).getD ∅).insertIfAbsent outcome.mutant outcome).find? mutant := by
      simp [grant, outcome?]
    rw [found, Table.find?_insertIfAbsent, find?_getD_empty, find?_getD_empty]
    simp
  · rw [if_neg (fun both => sameTest both.1)]
    simp [grant, outcome?, Table.find?_insert_of_ne _ _ sameTest]

variable {credits test outcome}

/-- A grant replaces no credit. -/
theorem outcome?_grant_of_some {other : TestId} {mutant : MutantId} {stored : MutantOutcome}
    (found : credits.outcome? other mutant = some stored) :
    (credits.grant test outcome).outcome? other mutant = some stored := by
  rw [outcome?_grant]
  by_cases same : other = test ∧ mutant = outcome.mutant
  · obtain ⟨rfl, rfl⟩ := same
    simp [found]
  · rw [if_neg same, found]

/-- A credit after a grant was there before or is the granted one. -/
theorem outcome?_grant_cases {other : TestId} {mutant : MutantId} {stored : MutantOutcome}
    (found : (credits.grant test outcome).outcome? other mutant = some stored) :
    credits.outcome? other mutant = some stored ∨
      other = test ∧ mutant = outcome.mutant ∧ stored = outcome := by
  rw [outcome?_grant] at found
  by_cases same : other = test ∧ mutant = outcome.mutant
  · rw [if_pos same] at found
    obtain ⟨rfl, rfl⟩ := same
    cases before : credits.outcome? other outcome.mutant with
    | none => simp_all
    | some first => simp_all
  · rw [if_neg same] at found
    exact .inl found

theorem holds_grant_iff (other : TestId) (mutant : MutantId) :
    (credits.grant test outcome).holds other mutant = true ↔
      credits.holds other mutant = true ∨ other = test ∧ mutant = outcome.mutant := by
  rw [holds, outcome?_grant]
  by_cases same : other = test ∧ mutant = outcome.mutant
  · simp [same]
  · simp [same, holds]

/-- Every listed test holds a credit. -/
def NoneEmpty (credits : Credits) : Prop :=
  ∀ test mutants, (test, mutants) ∈ credits.entries → mutants.entries ≠ []

theorem NoneEmpty.grant (noneEmpty : credits.NoneEmpty) :
    (credits.grant test outcome).NoneEmpty := by
  intro other mutants listed
  have found := (Table.find?_eq_some_iff _ other mutants).2 listed
  by_cases same : other = test
  · subst same
    obtain ⟨stored, holds⟩ := (credits.grant other outcome).holds_iff other outcome.mutant |>.1
      ((holds_grant_iff _ _).2 (.inr ⟨rfl, rfl⟩))
    rw [outcome?, found, Option.bind_some] at holds
    intro nothing
    rw [Table.find?, nothing] at holds
    cases holds
  · rw [Credits.grant, Table.find?_insert_of_ne _ _ same] at found
    exact noneEmpty other mutants ((Table.find?_eq_some_iff _ _ _).1 found)

theorem noneEmpty_empty : (∅ : Credits).NoneEmpty := by
  intro test mutants listed
  cases listed

end Credits

/-! ## Earning a credit -/

/-- The conditions under which an outcome earns its killer a credit. -/
structure Earns (baseline : Baseline) (genealogy : Genealogy) (candidates : List TestCase)
    (credits : Credits) (outcome : MutantOutcome) (killer : TestId) : Prop where
  /-- The mutant was killed. -/
  killed : outcome.state = .killed
  /-- The initial suite leaves the mutant for others. -/
  creditable : baseline.isCreditable outcome.mutant = true
  /-- The outcome names the killer. -/
  named : outcome.killingTest = some killer
  /-- The killer is a candidate. -/
  candidate : ∃ candidate ∈ candidates, candidate.id = killer
  /-- No ancestor of the killer is credited with the mutant. -/
  unclaimed : ∀ ancestor ∈ genealogy.ancestors killer,
    credits.holds ancestor outcome.mutant = false

variable {baseline : Baseline} {genealogy : Genealogy} {candidates : List TestCase}

theorem earner?_eq_some_iff {credits : Credits} {outcome : MutantOutcome} {killer : TestId} :
    earner? baseline genealogy candidates credits outcome = some killer ↔
      Earns baseline genealogy candidates credits outcome killer := by
  unfold earner?
  constructor
  · intro earned
    split at earned
    · next kills =>
        rw [Option.filter_eq_some_iff] at earned
        simp only [Bool.and_eq_true, List.any_eq_true, beq_iff_eq, List.all_eq_true,
          Bool.not_eq_true', MutantOutcome.isKilled] at earned kills
        exact ⟨kills.1, kills.2, earned.1, earned.2.1, earned.2.2⟩
    · cases earned
  · intro earns
    rw [if_pos (by simp [MutantOutcome.isKilled, earns.killed, earns.creditable]),
      Option.filter_eq_some_iff]
    refine ⟨earns.named, ?_⟩
    simp only [Bool.and_eq_true, List.any_eq_true, beq_iff_eq, List.all_eq_true,
      Bool.not_eq_true']
    exact ⟨earns.candidate, earns.unclaimed⟩

/-! ## Crediting a list of outcomes -/

theorem creditOutcomes_cons_of_earns {credits : Credits} {outcome : MutantOutcome}
    {killer : TestId} (rest : List MutantOutcome)
    (earns : Earns baseline genealogy candidates credits outcome killer) :
    creditOutcomes baseline genealogy candidates (outcome :: rest) credits =
      ((creditOutcomes baseline genealogy candidates rest (credits.grant killer outcome)).1,
        killer :: (creditOutcomes baseline genealogy candidates rest
          (credits.grant killer outcome)).2) := by
  rw [creditOutcomes, earner?_eq_some_iff.2 earns]

theorem creditOutcomes_cons_of_none {credits : Credits} {outcome : MutantOutcome}
    (rest : List MutantOutcome)
    (nobody : earner? baseline genealogy candidates credits outcome = none) :
    creditOutcomes baseline genealogy candidates (outcome :: rest) credits =
      creditOutcomes baseline genealogy candidates rest credits := by
  rw [creditOutcomes, nobody]

/-- What every earned grant preserves holds when all outcomes are credited. -/
theorem creditOutcomes_induction {motive : Credits → Prop} (outcomes : List MutantOutcome)
    {credits : Credits} (start : motive credits)
    (grant : ∀ credits outcome killer, outcome ∈ outcomes →
      Earns baseline genealogy candidates credits outcome killer → motive credits →
        motive (credits.grant killer outcome)) :
    motive (creditOutcomes baseline genealogy candidates outcomes credits).1 := by
  induction outcomes generalizing credits with
  | nil => exact start
  | cons outcome rest ih =>
      have grantRest : ∀ credits outcome killer, outcome ∈ rest →
          Earns baseline genealogy candidates credits outcome killer → motive credits →
            motive (credits.grant killer outcome) :=
        fun credits other killer member => grant credits other killer (.tail _ member)
      cases earned : earner? baseline genealogy candidates credits outcome with
      | none =>
          rw [creditOutcomes_cons_of_none rest earned]
          exact ih start grantRest
      | some killer =>
          have earns := earner?_eq_some_iff.1 earned
          rw [creditOutcomes_cons_of_earns rest earns]
          exact ih (grant credits outcome killer (.head _) earns start) grantRest

/-- No credit is lost or replaced. -/
theorem outcome?_creditOutcomes_of_some (outcomes : List MutantOutcome) {credits : Credits}
    {test : TestId} {mutant : MutantId} {stored : MutantOutcome}
    (found : credits.outcome? test mutant = some stored) :
    (creditOutcomes baseline genealogy candidates outcomes credits).1.outcome? test mutant =
      some stored :=
  creditOutcomes_induction (motive := fun credits => credits.outcome? test mutant = some stored)
    outcomes found fun _ _ _ _ _ => Credits.outcome?_grant_of_some

theorem noneEmpty_creditOutcomes (outcomes : List MutantOutcome) {credits : Credits}
    (noneEmpty : credits.NoneEmpty) :
    (creditOutcomes baseline genealogy candidates outcomes credits).1.NoneEmpty :=
  creditOutcomes_induction outcomes noneEmpty fun _ _ _ _ _ => Credits.NoneEmpty.grant

/-- The earners are candidates. -/
theorem candidate_of_mem_earners (outcomes : List MutantOutcome) {credits : Credits}
    {killer : TestId}
    (member : killer ∈ (creditOutcomes baseline genealogy candidates outcomes credits).2) :
    ∃ candidate ∈ candidates, candidate.id = killer := by
  induction outcomes generalizing credits with
  | nil => cases member
  | cons outcome rest ih =>
      cases earned : earner? baseline genealogy candidates credits outcome with
      | none =>
          rw [creditOutcomes_cons_of_none rest earned] at member
          exact ih member
      | some first =>
          have earns := earner?_eq_some_iff.1 earned
          rw [creditOutcomes_cons_of_earns rest earns] at member
          rcases List.mem_cons.1 member with rfl | later
          · exact earns.candidate
          · exact ih later

/-- **Who holds a credit at the end.** Those who held one before, and the
earners. -/
theorem credited_creditOutcomes_iff (outcomes : List MutantOutcome) {credits : Credits}
    (test : TestId) :
    (∃ mutant, (creditOutcomes baseline genealogy candidates outcomes credits).1.holds test
        mutant = true) ↔
      (∃ mutant, credits.holds test mutant = true) ∨
        test ∈ (creditOutcomes baseline genealogy candidates outcomes credits).2 := by
  induction outcomes generalizing credits with
  | nil => simp [creditOutcomes]
  | cons outcome rest ih =>
      cases earned : earner? baseline genealogy candidates credits outcome with
      | none => rw [creditOutcomes_cons_of_none rest earned, ih]
      | some killer =>
          rw [creditOutcomes_cons_of_earns rest (earner?_eq_some_iff.1 earned), ih]
          simp only [Credits.holds_grant_iff, List.mem_cons, exists_or, exists_and_left,
            exists_eq, and_true, or_assoc]

/-- **Where a credit comes from.** It was there before, or its test is an earner
that has earned it. -/
theorem outcome?_creditOutcomes_cases (outcomes : List MutantOutcome) {credits : Credits}
    {test : TestId} {mutant : MutantId} {stored : MutantOutcome}
    (found : (creditOutcomes baseline genealogy candidates outcomes credits).1.outcome? test
      mutant = some stored) :
    credits.outcome? test mutant = some stored ∨
      test ∈ (creditOutcomes baseline genealogy candidates outcomes credits).2 ∧
        stored.mutant = mutant ∧
          ∃ atThatTime, Earns baseline genealogy candidates atThatTime stored test := by
  induction outcomes generalizing credits with
  | nil => exact .inl found
  | cons outcome rest ih =>
      cases earned : earner? baseline genealogy candidates credits outcome with
      | none =>
          rw [creditOutcomes_cons_of_none rest earned] at found ⊢
          exact ih found
      | some killer =>
          have earns := earner?_eq_some_iff.1 earned
          rw [creditOutcomes_cons_of_earns rest earns] at found ⊢
          rcases ih found with before | ⟨later, sameMutant, witness⟩
          · rcases Credits.outcome?_grant_cases before with old | ⟨rfl, rfl, rfl⟩
            · exact .inl old
            · exact .inr ⟨.head _, rfl, credits, earns⟩
          · exact .inr ⟨.tail _ later, sameMutant, witness⟩

end TestAmplification
