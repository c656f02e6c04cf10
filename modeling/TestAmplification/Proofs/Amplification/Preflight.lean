import TestAmplification.Proofs.Amplification.Records

/-!
# How seed tests are narrowed

Before the first iteration the seed tests are run together, those that fail are left out, and the
others are run again, until a run names no failed test. `Narrows` lists the ways in which this can
go, with the answers of compiler and runner and the tests that are left out; `preflight` goes one
of these ways and announces just these tests (`preflight_yields`).

When tests remain, every test either remains or was left out once (`Narrows.perm`), those that
remain stand in their order (`Narrows.sublist`), and the last run was one of exactly these tests
(`Narrows.last_run`).
-/

set_option autoImplicit false

namespace TestAmplification

open Orchestrator

/-- The ways in which tests are narrowed: the tests, the answers of compiler and runner, the tests
that are left out, and those that remain, if any do. -/
inductive Narrows (suite : TestSuite) :
    List TestCase → List ToolAnswer → List TestCase → Option (List TestCase) → Prop where
  /-- No test is left. -/
  | nobody : Narrows suite [] [] [] none
  /-- The tests fail as a batch. -/
  | failed {tests : List TestCase} {answers : List ToolAnswer} {failure : BatchFailure}
      (someone : tests ≠ []) (answered : BatchAnswered suite tests (.error failure) answers) :
      Narrows suite tests answers [] none
  /-- No test is named as failed. -/
  | passed {tests : List TestCase} {result : ExecutionResult} (someone : tests ≠ [])
      (enough : tests.length ≤ result.testsRun.size)
      (green : result.failures.isEmpty = true) :
      Narrows suite tests (ranWith suite tests result) [] (some tests)
  /-- Only tests that were not submitted are named as failed. -/
  | stuck {tests : List TestCase} {result : ExecutionResult} (someone : tests ≠ [])
      (enough : tests.length ≤ result.testsRun.size)
      (red : result.failures.isEmpty = false) (unnamed : failedAmong result tests = []) :
      Narrows suite tests (ranWith suite tests result) [] none
  /-- The tests that are named as failed are left out, and it goes on with the others. -/
  | narrowed {tests : List TestCase} {result : ExecutionResult} {answers : List ToolAnswer}
      {excluded : List TestCase} {green : Option (List TestCase)} (someone : tests ≠ [])
      (enough : tests.length ≤ result.testsRun.size)
      (named : failedAmong result tests ≠ [])
      (rest : Narrows suite (notFailedAmong result tests) answers excluded green) :
      Narrows suite tests (ranWith suite tests result ++ answers)
        (failedAmong result tests ++ excluded) green

/-- Without failures no test is named as failed. -/
theorem ExecutionResult.hasFailed_of_isEmpty {result : ExecutionResult}
    (green : result.failures.isEmpty = true) (id : TestId) : result.hasFailed id = false := by
  rw [hasFailed, ← Bool.not_eq_true, ← Table.mem_keys_iff, Table.keys, List.isEmpty_iff.1 green]
  exact List.not_mem_nil

/-- Fewer tests go on exactly when one of them is named as failed. -/
theorem length_notFailedAmong_lt_iff (result : ExecutionResult) (tests : List TestCase) :
    (notFailedAmong result tests).length < tests.length ↔ failedAmong result tests ≠ [] := by
  rw [notFailedAmong, List.length_filter_lt_length_iff_exists, failedAmong, ne_eq,
    List.filter_eq_nil_iff]
  simp

namespace Narrows

variable {suite : TestSuite} {tests excluded green : List TestCase} {answers : List ToolAnswer}

/-- Every test remains or is left out. -/
theorem perm (narrows : Narrows suite tests answers excluded (some green)) :
    (excluded ++ green).Perm tests := by
  generalize known : some green = remaining at narrows
  induction narrows with
  | nobody => cases known
  | failed => cases known
  | passed =>
      cases known
      exact .refl _
  | stuck => cases known
  | @narrowed tests result _ excluded _ _ _ _ _ ih =>
      rw [List.append_assoc]
      exact ((ih known).append_left _).trans
        (List.filter_append_perm (fun test : TestCase => result.hasFailed test.id) tests)

/-- The tests that remain stand in their order. -/
theorem sublist (narrows : Narrows suite tests answers excluded (some green)) :
    green.Sublist tests := by
  generalize known : some green = remaining at narrows
  induction narrows with
  | nobody => cases known
  | failed => cases known
  | passed =>
      cases known
      exact .refl _
  | stuck => cases known
  | narrowed _ _ _ _ ih => exact (ih known).trans List.filter_sublist

/-- **The run that ended the narrowing** was a complete one of the remaining tests, and it named
no failed test. -/
theorem last_run (narrows : Narrows suite tests answers excluded (some green)) :
    ∃ result, ranWith suite green result <:+ answers ∧ green.length ≤ result.testsRun.size ∧
      result.failures.isEmpty = true := by
  generalize known : some green = remaining at narrows
  induction narrows with
  | nobody => cases known
  | failed => cases known
  | @passed _ result _ enough fine =>
      cases known
      exact ⟨result, List.suffix_refl _, enough, fine⟩
  | stuck => cases known
  | narrowed _ _ _ _ ih =>
      obtain ⟨last, atEnd, complete, fine⟩ := ih known
      exact ⟨last, atEnd.trans (List.suffix_append _ _), complete, fine⟩

end Narrows

variable {σ W : Type} (orchestrator : Orchestrator σ W)

/-- **The preflight** narrows the tests and announces those that are left out. -/
theorem Orchestrator.preflight_yields (suite : TestSuite) (tests : List TestCase) :
    Yields (orchestrator.preflight suite tests) fun green added => ∃ answers excluded,
      Narrows suite tests answers excluded green ∧ added = {
        events := excluded.map fun test => .seedExcluded suite.name test.id
        answers } := by
  induction number : tests.length using Nat.strongRecOn generalizing tests with
  | _ number ih =>
      rw [preflight]
      by_cases nothing : tests.isEmpty = true
      · rw [if_pos nothing]
        obtain rfl := List.isEmpty_iff.1 nothing
        exact Yields.pure ⟨[], [], .nobody, rfl⟩
      rw [if_neg nothing]
      have someone : tests ≠ [] := fun same => nothing (List.isEmpty_iff.2 same)
      refine (orchestrator.compileAndRun_yields suite tests).bind ?_
      rintro answer ⟨_, answers, _, _⟩ ⟨⟨⟩, answered⟩
      cases answered with
      | refused error => exact Yields.pure ⟨_, [], .failed someone (.refused error), rfl⟩
      | broken error => exact Yields.pure ⟨_, [], .failed someone (.broken error), rfl⟩
      | incomplete result few =>
          exact Yields.pure ⟨_, [], .failed someone (.incomplete result few), rfl⟩
      | complete result enough =>
          by_cases green : result.failures.isEmpty = true
          · simp only [green, if_true]
            exact Yields.pure ⟨_, [], .passed someone enough green, rfl⟩
          simp only [green]
          refine (orchestrator.announceExcluded_yields suite _).bind ?_
          rintro _ _ rfl
          by_cases fewer : (notFailedAmong result tests).length < tests.length
          · rw [dif_pos fewer]
            refine (ih _ (number ▸ fewer) _ rfl).weaken ?_
            rintro remaining _ ⟨later, excluded, narrows, rfl⟩
            refine ⟨_, _, .narrowed someone enough
              ((length_notFailedAmong_lt_iff _ _).1 fewer) narrows, ?_⟩
            simp [Added.append_def, ranWith]
          · rw [dif_neg fewer]
            have unnamed : failedAmong result tests = [] := by
              by_contra named
              exact fewer ((length_notFailedAmong_lt_iff _ _).2 named)
            rw [unnamed]
            exact Yields.pure
              ⟨_, [], .stuck someone enough (Bool.eq_false_iff.2 green) unnamed, rfl⟩

end TestAmplification
