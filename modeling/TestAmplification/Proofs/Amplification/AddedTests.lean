import Mathlib.Data.List.Dedup
import TestAmplification.Proofs.Amplification.Accounting
import TestAmplification.Proofs.Amplification.EmittedTests

/-!
# The number of kept tests and the number of added methods

The number that is announced at the end of an amplification, and by which the tally grows, counts
every test of every decision. The suite is extended at the very end only, and then the
first test of each identity becomes a method. With a shipped selector all kept tests are new to the
suite, so the suite gains one method for each identity among them (`length_firstOfEach`). The two
numbers therefore agree exactly if no identity was kept twice
(`amplify_counts_kept_tests`).

An identity can be kept twice, even in a single decision: variants are reduced before they are
judged, but nobody looks for equal identities among the tests with assertions
(`two_kept_one_added`).
-/

set_option autoImplicit false

namespace TestAmplification

/-- When the identities are not taken, there is one method for each of them. -/
theorem length_firstOfEach {taken : List TestId} {offered : List TestCase}
    (free : ∀ test ∈ offered, test.id ∉ taken) :
    (firstOfEach taken offered).length = (offered.map TestCase.id).dedup.length := by
  have same : ((firstOfEach taken offered).map TestCase.id).Perm
      (offered.map TestCase.id).dedup := by
    refine (List.perm_ext_iff_of_nodup (nodup_ids_firstOfEach _ _) (List.nodup_dedup _)).2 ?_
    intro id
    rw [mem_ids_firstOfEach, List.mem_dedup]
    refine and_iff_left_of_imp fun listed => ?_
    obtain ⟨test, member, rfl⟩ := List.mem_map.1 listed
    exact free test member
  rw [← same.length_eq, List.length_map]

/-- As many as there are identities, just if no two are the same. -/
theorem length_dedup_eq_iff (ids : List TestId) : ids.dedup.length = ids.length ↔ ids.Nodup := by
  constructor
  · intro noneLost
    exact (ids.dedup_sublist.eq_of_length noneLost) ▸ ids.nodup_dedup
  · intro distinct
    rw [distinct.dedup]

/-- **The tally counts kept tests, and the suite gains identities.** When a suite is amplified with
a shipped selector, whatever the tools do, the tally of kept tests grows by the number of tests that
were kept in the decisions, which is also the number announced at the end. The suite gains one
method for each identity among these tests. So the reported number is the number of added
methods exactly if no two of the kept tests share an identity. -/
theorem amplify_counts_kept_tests {σ W : Type} (workshop : Workshop W)
    (selector : Selector σ W) (shipped : selector.IsShipped) (settings : Settings)
    (suite : TestSuite) (seedTests : List TestCase) (maxIterations : UInt32) (start : Run σ W)
    {extended : TestSuite} {final : Run σ W}
    (result : Orchestrator.amplify ⟨workshop, selector, settings⟩ suite seedTests maxIterations
      start = (some extended, final)) :
    ∃ (decisions : List Decision) (kept : List TestCase) (earlier : List Event) (duration : Nat),
      final.decisions = start.decisions ++ decisions ∧ kept = decisions.flatMap Decision.kept ∧
      final.events = start.events ++
        (earlier ++ [.suiteComplete suite.name kept.length duration]) ∧
      final.tally.amplifiedTests = start.tally.amplifiedTests + kept.length ∧
      extended.methods.length = suite.methods.length + (kept.map TestCase.id).dedup.length ∧
      (final.tally.amplifiedTests - start.tally.amplifiedTests =
          extended.methods.length - suite.methods.length ↔ (kept.map TestCase.id).Nodup) := by
  have counted := Orchestrator.amplify_yields ⟨workshop, selector, settings⟩ suite seedTests
    maxIterations start
  have promised := amplify_emitted workshop settings suite start shipped seedTests
    maxIterations start ⟨rfl, List.prefix_refl _⟩
  rw [result] at counted promised
  obtain ⟨added, grown, ways⟩ := counted
  obtain ⟨nothing, -⟩ | ⟨seeds, _, -, ⟨usable, proceedings, -, decided, -, rfl, -⟩, -⟩ := promised
  · cases nothing
  cases ways with
  | @finished checks excluded first rounds someone narrows unseeded inOrder duration =>
      have sameKept : proceedings.kept = keptIn first rounds := by
        rw [Proceedings.kept, List.append_cancel_left (decided.symm.trans grown.decisions),
          List.flatMap_append, List.flatMap_assoc]
        rfl
      have free (test : TestCase) (member : test ∈ keptIn first rounds) : test.id ∉ suite.ids :=
        (isNewTo_iff suite test).1 (usable test (sameKept ▸ member)).fresh
      have length : (suite.extendedWith (keptIn first rounds)).methods.length =
          suite.methods.length + ((keptIn first rounds).map TestCase.id).dedup.length := by
        rw [TestSuite.extendedWith_eq, List.length_append, length_firstOfEach free]
      refine ⟨_, keptIn first rounds, _, duration, decided, sameKept.symm, grown.events,
        grown.counted, length, ?_⟩
      rw [grown.counted, length, Nat.add_sub_cancel_left, Nat.add_sub_cancel_left, eq_comm,
        ← length_dedup_eq_iff, List.length_map]

/-- The variant of the one test is kept and added. -/
theorem amplify_counts_one_variant :
    let suite : TestSuite := ⟨"Suite", [], [.plain ⟨"Suite", "testOnce"⟩ "check()"]⟩
    let amplified := Orchestrator.amplify ⟨.simple, TakeAll.selector, {}⟩ suite suite.methods 1
      { selector := {}, world := () }
    ∃ extended, amplified.1 = some extended ∧ amplified.2.tally.amplifiedTests = 1 ∧
      extended.methods.length = suite.methods.length + 1 := by
  intro suite amplified
  have extended : amplified.1 = some (suite.withMethod
      (.plain ⟨"Suite", "againtestOnce"⟩ "check() again() assert()")) := by
    decide +kernel
  have one : amplified.2.tally.amplifiedTests = 1 := by
    decide +kernel
  obtain ⟨_, kept, -, -, -, -, -, counted, length, -⟩ := amplify_counts_kept_tests .simple
    TakeAll.selector .takeAll {} suite suite.methods 1 { selector := {}, world := () }
    (Prod.ext extended rfl)
  refine ⟨_, extended, one, length.trans ?_⟩
  have single : kept.length = 1 := by
    have total := counted.symm.trans one
    rwa [Nat.zero_add] at total
  obtain ⟨test, rfl⟩ := List.length_eq_one_iff.1 single
  rfl

/-- Tools that answer each test with two tests of one identity, both with an assertion. -/
def Workshop.assertingTwice : Workshop Unit where
  amplifiers := []
  addAssertions _ tests := return tests.flatMap fun test =>
    let checked : TestId := ⟨test.id.suite, test.id.method ++ "Checked"⟩
    [(TestCase.plain checked (test.body ++ " check();")).withOrigin test.id,
      (TestCase.plain checked (test.body ++ " verify();")).withOrigin test.id]
  compile _ _ := return .ok ()
  run _ tests _ := return .ok (.allPassed (tests.map TestCase.id))
  isTest := namedFrom "test"
  handlers := []
  clock _ := 0

/-- **Two tests are counted and one is added.** Before the first iteration, two tests of one
identity come back with assertions. Both are kept, but only the first of them becomes a
method. -/
theorem two_kept_one_added :
    let suite : TestSuite :=
      ⟨"AccountTest", [], [.plain ⟨"AccountTest", "testDebit"⟩ "account.debit(1);"]⟩
    let amplified := Orchestrator.amplify
      ⟨.assertingTwice, TakeAll.selector, { preAmplification := true }⟩ suite suite.methods 1
      { selector := {}, world := () }
    ∃ extended, amplified.1 = some extended ∧
      extended.methods.length - suite.methods.length = 1 ∧
      amplified.2.tally.amplifiedTests = 2 ∧
      amplified.2.events.getLast? = some (.suiteComplete suite.name 2 0) := by
  refine ⟨⟨"AccountTest", [], [.plain ⟨"AccountTest", "testDebit"⟩ "account.debit(1);",
    (TestCase.plain ⟨"AccountTest", "testDebitChecked"⟩ "account.debit(1); check();").withOrigin
      ⟨"AccountTest", "testDebit"⟩]⟩, ?_, rfl, ?_, ?_⟩ <;> decide +kernel

end TestAmplification
