import Mathlib.Data.Set.Card
import TestAmplification.Proofs.Selection.Credits

/-!
# What a kill report counts

A kill report lists an entry for every test of the suite that stands in the table of
credits, with the outcomes credited to it. When no test stands there without a
credit and every outcome stands at its own mutant, the entries are as many as the
credited tests of the suite (`length_of_killReport`), and the new mutants as many as the
mutants credited to these (`newMutantsKilled_of_killReport`).
-/

set_option autoImplicit false

namespace TestAmplification

/-- Every credited outcome stands at its own mutant. -/
def Credits.Named (credits : Credits) : Prop :=
  ∀ test mutant outcome, credits.outcome? test mutant = some outcome → outcome.mutant = mutant

theorem Credits.named_empty : (∅ : Credits).Named := by
  intro test mutant outcome found
  cases found

/-- Crediting outcomes leaves every outcome at its own mutant. -/
theorem named_creditOutcomes {baseline : Baseline} {genealogy : Genealogy}
    {candidates : List TestCase} (outcomes : List MutantOutcome) {credits : Credits}
    (named : credits.Named) :
    (creditOutcomes baseline genealogy candidates outcomes credits).1.Named := by
  intro test mutant outcome found
  rcases outcome?_creditOutcomes_cases outcomes found with old | ⟨-, sameMutant, -⟩
  · exact named test mutant outcome old
  · exact sameMutant

namespace Credits

variable {credits : Credits}

theorem outcome?_eq_some_iff (test : TestId) (mutant : MutantId) (outcome : MutantOutcome) :
    credits.outcome? test mutant = some outcome ↔
      ∃ mutants, (test, mutants) ∈ credits.entries ∧ (mutant, outcome) ∈ mutants.entries := by
  simp only [outcome?, Option.bind_eq_some_iff, Table.find?_eq_some_iff]

/-- The credited tests are the listed ones. -/
theorem NoneEmpty.mem_keys_iff (noneEmpty : credits.NoneEmpty) (test : TestId) :
    test ∈ credits.keys ↔ ∃ mutant, credits.holds test mutant = true := by
  simp only [holds_iff, outcome?_eq_some_iff]
  constructor
  · intro member
    obtain ⟨⟨listed, mutants⟩, inEntries, rfl⟩ := List.mem_map.1 member
    obtain ⟨first, inMutants⟩ := List.exists_mem_of_ne_nil _ (noneEmpty listed mutants inEntries)
    exact ⟨first.1, first.2, mutants, inEntries, inMutants⟩
  · rintro ⟨mutant, outcome, mutants, inEntries, -⟩
    exact List.mem_map_of_mem inEntries

/-- The mutants of the outcomes that stand at a test are those it is credited
with. -/
theorem Named.mem_values_iff (named : credits.Named) {test : TestId}
    {mutants : Table MutantId MutantOutcome} (listed : (test, mutants) ∈ credits.entries)
    (mutant : MutantId) :
    mutant ∈ mutants.values.map MutantOutcome.mutant ↔ credits.holds test mutant = true := by
  have found := (Table.find?_eq_some_iff _ _ _).2 listed
  rw [holds_iff]
  constructor
  · intro member
    obtain ⟨outcome, inValues, rfl⟩ := List.mem_map.1 member
    obtain ⟨⟨key, stored⟩, inEntries, rfl⟩ := List.mem_map.1 inValues
    have credited : credits.outcome? test key = some stored :=
      (outcome?_eq_some_iff _ _ _).2 ⟨mutants, listed, inEntries⟩
    exact ⟨stored, (named _ _ _ credited) ▸ credited⟩
  · rintro ⟨outcome, credited⟩
    have sameMutant := named _ _ _ credited
    rw [outcome?, found, Option.bind_some, Table.find?_eq_some_iff] at credited
    exact List.mem_map.2 ⟨outcome, List.mem_map.2 ⟨_, credited, rfl⟩, sameMutant⟩

end Credits

namespace MutationScore

variable {genealogy : Genealogy}

theorem killsOf_eq_ok_iff {test : TestId} {mutants : Table MutantId MutantOutcome}
    {kills : TestKills} :
    killsOf genealogy test mutants = .ok kills ↔
      genealogy.assertionsSinceOrigin test = .ok kills.assertionsAdded ∧
        genealogy.inputsSinceOrigin test = .ok kills.inputsAdded ∧
        kills.test = test ∧ kills.mutants = mutants.values := by
  obtain ⟨killer, assertionsAdded, inputsAdded, outcomes⟩ := kills
  unfold killsOf
  cases genealogy.assertionsSinceOrigin test with
  | error overflow => simp [bind, Except.bind]
  | ok assertions =>
      cases genealogy.inputsSinceOrigin test with
      | error overflow => simp [bind, Except.bind]
      | ok inputs =>
          simp only [bind, Except.bind, pure, Except.pure, Except.ok.injEq, TestKills.mk.injEq]
          grind

/-- The results of steps that all succeed, one for each step. -/
theorem forall₂_of_mapM {α β ε : Type} {step : α → Except ε β} {arguments : List α}
    {results : List β} (succeeded : arguments.mapM step = .ok results) :
    List.Forall₂ (fun argument result => step argument = .ok result) arguments results := by
  induction arguments generalizing results with
  | nil =>
      cases succeeded
      exact .nil
  | cons first rest ih =>
      rw [List.mapM_cons] at succeeded
      cases here : step first with
      | error error =>
          rw [here] at succeeded
          cases succeeded
      | ok result =>
          cases later : rest.mapM step with
          | error error =>
              rw [here, later] at succeeded
              cases succeeded
          | ok others =>
              rw [here, later] at succeeded
              cases succeeded
              exact .cons here (ih later)

/-- **What a kill report holds**: the kills of the listed tests of the suite. -/
theorem parts_of_killReport {state : MutationScore} {suite : String} {report : KillReport}
    (reported : state.killReport suite genealogy = .ok report) :
    report.selector = name ∧ report.suite = suite ∧
      report.baselineKilled = (state.baseline.map fun baseline => baseline.killed.size).getD 0 ∧
      List.Forall₂ (fun entry kills => killsOf genealogy entry.1 entry.2 = .ok kills)
        (state.credits.entries.filter fun entry => entry.1.suite == suite) report.tests := by
  unfold killReport at reported
  cases counted : (state.credits.entries.filter fun entry => entry.1.suite == suite).mapM
      (fun entry => killsOf genealogy entry.1 entry.2) with
  | error overflow =>
      simp only [counted] at reported
      cases reported
  | ok tests =>
      simp only [counted] at reported
      cases reported
      exact ⟨rfl, rfl, rfl, forall₂_of_mapM counted⟩

/-- The entries of a kill report are those of the suite in the table of credits. -/
theorem killReport_eq_ok {state : MutationScore} {suite : String} {genealogy : Genealogy}
    {report : KillReport} (reported : state.killReport suite genealogy = .ok report) :
    report.tests.map TestKills.mutants =
      (state.credits.entries.filter fun entry => entry.1.suite == suite).map
        fun entry => entry.2.values := by
  obtain ⟨-, -, -, counted⟩ := parts_of_killReport reported
  generalize (state.credits.entries.filter fun entry => entry.1.suite == suite) = entries,
    report.tests = tests at counted
  induction counted with
  | nil => rfl
  | cons here _ ih =>
      obtain ⟨-, -, -, outcomes⟩ := killsOf_eq_ok_iff.1 here
      rw [List.map_cons, List.map_cons, outcomes, ih]

/-- A kill report has as many entries as the suite has credited tests. -/
theorem length_of_killReport {state : MutationScore} {suite : String} {genealogy : Genealogy}
    {report : KillReport} (noneEmpty : state.credits.NoneEmpty)
    (reported : state.killReport suite genealogy = .ok report) :
    report.tests.length = Set.ncard { test | test.suite = suite ∧
      ∃ mutant, state.credits.holds test mutant = true } := by
  have sameLength := congrArg List.length (killReport_eq_ok reported)
  rw [List.length_map, List.length_map] at sameLength
  have ofSuite : { test | test.suite = suite ∧
      ∃ mutant, state.credits.holds test mutant = true } =
        ↑(state.credits.keys.filter fun test => test.suite == suite).toFinset := by
    ext test
    simp [noneEmpty.mem_keys_iff, and_comm]
  have distinct := (Table.nodup_keys state.credits).filter fun test => test.suite == suite
  rw [ofSuite, Set.ncard_coe_finset, List.toFinset_card_of_nodup distinct, sameLength,
    Table.keys, List.filter_map, List.length_map]
  rfl

/-- The listed mutants of a kill report are those credited to a test of the suite. -/
theorem mem_mutants_of_killReport {state : MutationScore} {suite : String}
    {genealogy : Genealogy} {report : KillReport} (named : state.credits.Named)
    (reported : state.killReport suite genealogy = .ok report) (mutant : MutantId) :
    mutant ∈ report.tests.flatMap (fun kills => kills.mutants.map MutantOutcome.mutant) ↔
      ∃ test, test.suite = suite ∧ state.credits.holds test mutant = true := by
  have listed := congrArg (List.flatMap (List.map MutantOutcome.mutant)) (killReport_eq_ok reported)
  rw [List.flatMap_map, List.flatMap_map] at listed
  rw [listed]
  simp only [List.mem_flatMap, List.mem_filter, beq_iff_eq]
  constructor
  · rintro ⟨⟨test, mutants⟩, ⟨inEntries, sameSuite⟩, member⟩
    exact ⟨test, sameSuite, (named.mem_values_iff inEntries mutant).1 member⟩
  · rintro ⟨test, sameSuite, holds⟩
    obtain ⟨outcome, found⟩ := (state.credits.holds_iff _ _).1 holds
    obtain ⟨mutants, inEntries, -⟩ := (Credits.outcome?_eq_some_iff _ _ _).1 found
    exact ⟨(test, mutants), ⟨inEntries, sameSuite⟩,
      (named.mem_values_iff inEntries mutant).2 holds⟩

/-- A kill report counts the mutants credited to a test of the suite, each once. -/
theorem newMutantsKilled_of_killReport {state : MutationScore} {suite : String}
    {genealogy : Genealogy} {report : KillReport} (named : state.credits.Named)
    (reported : state.killReport suite genealogy = .ok report) :
    report.newMutantsKilled = Set.ncard { mutant | ∃ test, test.suite = suite ∧
      state.credits.holds test mutant = true } := by
  have credited : { mutant | ∃ test, test.suite = suite ∧
      state.credits.holds test mutant = true } =
        ↑(report.tests.flatMap fun kills => kills.mutants.map MutantOutcome.mutant).toFinset := by
    ext mutant
    rw [Finset.mem_coe, List.mem_toFinset]
    exact (mem_mutants_of_killReport named reported mutant).symm
  rw [credited, Set.ncard_coe_finset, KillReport.newMutantsKilled, KillReport.newMutants,
    KeySet.size_ofList]

end MutationScore

end TestAmplification
