import TestAmplification.Proofs.Amplification.DecisionRule
import TestAmplification.Proofs.Amplification.KeptTests
import TestAmplification.Proofs.Table

/-!
# Candidates are judged in their own right

A batch counts as run to the end when at least as many tests ran as were submitted. If the
runner names no test that it was not given, this leaves no room: the submitted identities are
distinct, and every one of them ran (`distinct_and_ran`).

A candidate is moreover new to the suite. So the method that was compiled under its
identity is the candidate itself, and the same goes for the suite that the engine scores, which
has no test but the candidates (`InOwnRight`). The engine is asked about the suite under
amplification because a nomination has noted it, and a suite that is noted stays.
-/

set_option autoImplicit false

namespace TestAmplification

open MutationScore

variable {σ W : Type}

/-! ## Complete batches -/

/-- The runner never names a test as run that it was not given. -/
def Workshop.IsHonest (workshop : Workshop W) : Prop :=
  ∀ suite tests classpath world result,
    (workshop.run suite tests classpath world).1 = .ok result →
    ∀ id, result.ran id = true → id ∈ tests.map TestCase.id

/-- **In a complete batch of an honest runner** the identities are distinct, and all of them
ran. -/
theorem Orchestrator.JustRan.distinct_and_ran {orchestrator : Orchestrator σ W}
    (honest : orchestrator.workshop.IsHonest) {suite : TestSuite} {batch : List TestCase}
    {result : ExecutionResult} {before after : Run σ W}
    (ran : orchestrator.JustRan suite batch result before after) :
    (batch.map TestCase.id).Nodup ∧ ∀ test ∈ batch, result.ran test.id = true := by
  obtain ⟨world, given⟩ := ran.given
  have complete : (batch.map TestCase.id).length ≤ result.testsRun.size := by
    rw [List.length_map]
    exact ran.complete
  obtain ⟨distinct, allRan⟩ := Table.nodup_of_length_le_size result.testsRun
    (honest _ _ _ _ _ given) complete
  exact ⟨distinct, fun test member => allRan _ (List.mem_map_of_mem member)⟩

/-! ## Decisions in iterations -/

section

variable (setting : Setting W) (settings : Settings) (suite : TestSuite)

/-- The candidates compiled, ran and passed in a batch, and the engine was asked about them right
after it; compiler, runner and engine found each candidate under its own identity. -/
structure InOwnRight (candidates batch : List TestCase) (result : ExecutionResult)
    (analyzed : TestSuite) (run : Run σ W) : Prop where
  answered : [.compiled (suite.extendedWith batch) (.ok ()),
    .ran (suite.extendedWith batch) batch (.ok result)] <:+: run.answers
  passed : ∀ candidate ∈ candidates, candidate ∈ batch ∧ result.passed candidate.id = true
  executed : ∀ candidate ∈ candidates,
    (suite.extendedWith batch).method? candidate.id = some candidate
  asked : candidates ≠ [] →
    [.compiled (suite.extendedWith batch) settings.outputPaths,
      .ran (suite.extendedWith batch) batch settings.classpath,
      .engine (.suite analyzed)] <:+: run.journal
  scored : ∀ candidate ∈ candidates, analyzed.method? candidate.id = some candidate
  alone : ∀ method ∈ analyzed.methods, setting.isTest method = true → method ∈ candidates

/-- Since the start of an amplification every decision in an iteration was about candidates in
their own right. -/
def AllInOwnRight (start run : Run σ W) : Prop :=
  ∃ made, run.decisions = start.decisions ++ made ∧
    ∀ decision ∈ made, decision.seed ≠ none → ∃ batch result analyzed,
      InOwnRight setting settings suite decision.candidates batch result analyzed run

end

section

variable {setting : Setting W} {settings : Settings} {suite : TestSuite}

theorem InOwnRight.mono {candidates batch : List TestCase} {result : ExecutionResult}
    {analyzed : TestSuite} {before after : Run σ W}
    (own : InOwnRight setting settings suite candidates batch result analyzed before)
    (answers : before.answers <+: after.answers) (journal : before.journal <+: after.journal) :
    InOwnRight setting settings suite candidates batch result analyzed after :=
  { own with
    answered := own.answered.trans answers.isInfix
    asked := fun some => (own.asked some).trans journal.isInfix }

namespace AllInOwnRight

variable {start before after : Run σ W}

theorem none_yet (same : before.decisions = start.decisions) :
    AllInOwnRight setting settings suite start before :=
  ⟨[], same.trans (List.append_nil _).symm, nofun⟩

/-- No decision was made since. -/
theorem grow (own : AllInOwnRight setting settings suite start before)
    (same : after.decisions = before.decisions) (answers : before.answers <+: after.answers)
    (journal : before.journal <+: after.journal) :
    AllInOwnRight setting settings suite start after := by
  obtain ⟨made, decided, each⟩ := own
  refine ⟨made, same.trans decided, fun decision member seeded => ?_⟩
  obtain ⟨batch, result, analyzed, holds⟩ := each decision member seeded
  exact ⟨batch, result, analyzed, holds.mono answers journal⟩

theorem decide (own : AllInOwnRight setting settings suite start before) {decision : Decision}
    (decided : after.decisions = before.decisions ++ [decision])
    (answers : before.answers <+: after.answers) (journal : before.journal <+: after.journal)
    (now : decision.seed ≠ none → ∃ batch result analyzed,
      InOwnRight setting settings suite decision.candidates batch result analyzed after) :
    AllInOwnRight setting settings suite start after := by
  obtain ⟨made, earlier, each⟩ := own
  refine ⟨made ++ [decision], ?_, fun other member seeded => ?_⟩
  · rw [decided, earlier, List.append_assoc]
  · rcases List.mem_append.1 member with old | new
    · obtain ⟨batch, result, analyzed, holds⟩ := each other old seeded
      exact ⟨batch, result, analyzed, holds.mono answers journal⟩
    · rw [List.mem_singleton.1 new] at seeded ⊢
      exact now seeded

end AllInOwnRight

/-- Without the tests of a suite, extended with new candidates, no other test is left. -/
theorem mem_of_isTest {candidates : List TestCase} {method : TestCase}
    (member : method ∈ ((suite.withoutTests setting.isTest).extendedWith candidates).methods)
    (isTest : setting.isTest method = true) : method ∈ candidates := by
  rw [TestSuite.extendedWith_eq] at member
  rcases List.mem_append.1 member with helper | added
  · have notTest := (List.mem_filter.1 helper).2
    simp [isTest] at notTest
  · exact (firstOfEach_sublist _ _).subset added

theorem ids_withoutTests_subset (isTest : TestPredicate) :
    (suite.withoutTests isTest).ids ⊆ suite.ids :=
  List.map_subset _ (List.filter_subset_self _)

theorem scoredSuite?_of_active {state : MutationScore} {candidates : List TestCase}
    (some : candidates ≠ []) (known : state.baseline.isSome = true)
    (active : state.currentSuite = .some suite) :
    setting.scoredSuite? state candidates =
      .some ((suite.withoutTests setting.isTest).extendedWith candidates) := by
  obtain ⟨baseline, known⟩ := Option.isSome_iff_exists.1 known
  simp [Setting.scoredSuite?, some, known, active]

/-- The candidates that passed in a complete batch of new tests, scored right after it. -/
theorem inOwnRight_of_justRan {workshop : Workshop W} (honest : workshop.IsHonest)
    {batch : List TestCase} {result : ExecutionResult} {before run : Run MutationScore W}
    (ran : (byMutationScore workshop setting settings).JustRan suite batch result before run)
    (fresh : ∀ test ∈ batch, isNewTo suite test = true)
    (known : before.selector.baseline.isSome = true)
    (active : before.selector.currentSuite = some suite) (seed : TestCase) :
    let candidates := batch.filter fun test => result.passed test.id
    InOwnRight setting settings suite candidates batch result
      ((suite.withoutTests setting.isTest).extendedWith candidates)
      ((byMutationScore workshop setting settings).judge (some seed) candidates run).2 := by
  intro candidates
  have distinct := (ran.distinct_and_ran honest).1
  have among : candidates.Sublist batch := List.filter_sublist
  have free : ∀ test ∈ batch, test.id ∉ suite.ids := fun test member =>
    (isNewTo_iff suite test).1 (fresh test member)
  refine ⟨?_, fun _ member => List.mem_filter.1 member, ?_, ?_, ?_, fun _ => mem_of_isTest⟩
  · rw [Orchestrator.judge_answers, ran.answers]
    exact (List.suffix_append _ _).isInfix
  · exact fun candidate member => TestSuite.method?_extendedWith (among.subset member) distinct
      (free candidate (among.subset member))
  · intro someone
    have asked : setting.scoredSuite? run.selector candidates =
        some ((suite.withoutTests setting.isTest).extendedWith candidates) :=
      scoredSuite?_of_active someone (ran.selector ▸ known) (ran.selector ▸ active)
    rw [Orchestrator.judge_journal, consult_journal]
    dsimp only [selector]
    rw [keep_calls, asked, ran.journal, List.append_assoc]
    exact (List.suffix_append _ _).isInfix
  · exact fun candidate member => TestSuite.method?_extendedWith member
      (distinct.sublist (among.map _))
      fun taken => free candidate (among.subset member) (ids_withoutTests_subset _ taken)

/-! ## Whole runs -/

variable (setting settings suite) in
/-- The baseline is known, the suite under amplification or none is noted, and every decision in an
iteration was about candidates in their own right. -/
structure Careful (start run : Run MutationScore W) : Prop where
  known : run.selector.baseline.isSome = true
  noted : run.selector.currentSuite = none ∨ run.selector.currentSuite = some suite
  own : AllInOwnRight setting settings suite start run

variable (settings suite) in
/-- **The decisions are about candidates in their own right** when the runner is honest. -/
theorem Careful.decisionRule {workshop : Workshop W} (honest : workshop.IsHonest)
    (start : Run MutationScore W) :
    DecisionRule (byMutationScore workshop setting settings) suite
      (fun _ _ => Careful setting settings suite start)
      fun run => run.selector.currentSuite = some suite where
  quiet := ⟨rfl, rfl⟩
  lasts _ _ before after advances careful := by
    refine ⟨?_, ?_, careful.own.grow advances.decisions advances.answers advances.journal⟩
    · exact advances.selector ▸ careful.known
    · exact advances.selector ▸ careful.noted
  stays := Run.lasting_of_selector fun state : MutationScore => state.currentSuite = some suite
  next _ _ _ _ careful := careful
  nominate _ _ tests run careful := by
    have noted := currentSuite_enter run.selector suite tests
    have sameSuite : run.selector.currentSuite.getD suite = suite := by
      rcases careful.noted with none | some
      · rw [none, Option.getD_none]
      · rw [some, Option.getD_some]
    rw [sameSuite] at noted
    refine ⟨⟨?_, ?_, careful.own.grow rfl (List.prefix_refl _) (List.prefix_append _ _)⟩,
      fun someone => ?_⟩
    · exact (baseline_enter run.selector suite tests).symm ▸ careful.known
    · by_cases nobody : tests.isEmpty = true
      · rw [if_pos nobody] at noted
        exact careful.noted.imp noted.trans noted.trans
      · exact .inr (noted.trans (if_neg nobody))
    · exact noted.trans (if_neg fun nobody => someone (List.isEmpty_iff.1 nobody))
  first candidates usable run now := by
    obtain ⟨sameBaseline, sameSuite⟩ := keep_leaves setting candidates run.genealogy
      ⟨run.selector, run.world, []⟩
    refine ⟨?_, .inr (sameSuite.trans now.2), now.1.own.decide
      (Orchestrator.judge_decisions _ none candidates run) (List.prefix_refl _)
      (List.prefix_append _ _) fun seeded => absurd rfl seeded⟩
    exact sameBaseline.symm ▸ now.1.known
  judge seeds seed kept batch result usable run := by
    rintro ⟨before, ⟨careful, active⟩, ran⟩
    obtain ⟨sameBaseline, sameSuite⟩ := keep_leaves setting
      (batch.filter fun test => result.passed test.id) run.genealogy
      ⟨run.selector, run.world, []⟩
    have own := careful.own.grow ran.advances.decisions ran.advances.answers
      ran.advances.journal
    refine ⟨?_, .inr (sameSuite.trans (ran.selector ▸ active)), own.decide
      (Orchestrator.judge_decisions _ (some seed) _ run) (List.prefix_refl _)
      (List.prefix_append _ _) fun _ => ⟨batch, result, _, inOwnRight_of_justRan honest ran
        (fun test member => (usable test member).fresh) careful.known active seed⟩⟩
    exact sameBaseline.symm ▸ ran.selector ▸ careful.known

variable (setting settings suite) in
theorem amplify_inOwnRight {workshop : Workshop W} (honest : workshop.IsHonest)
    (seedTests : List TestCase) (maxIterations : UInt32) (start : Run MutationScore W)
    (idle : start.selector.currentSuite = none) :
    AllInOwnRight setting settings suite start
      ((byMutationScore workshop setting settings).amplify suite seedTests maxIterations start).2 := by
  have lasting : Run.Lasting fun run : Run MutationScore W =>
      run.selector.currentSuite = none ∧ run.decisions = start.decisions :=
    fun _ _ advances now => ⟨(congrArg _ advances.selector).trans now.1,
      advances.decisions.trans now.2⟩
  have stays : Run.Lasting fun run : Run MutationScore W =>
      run.selector.baseline.isSome = true :=
    Run.lasting_of_selector fun state : MutationScore => state.baseline.isSome = true
  have init : Ensures
      (fun run : Run MutationScore W =>
        run.selector.currentSuite = none ∧ run.decisions = start.decisions)
      (Amplify.consult (prepare setting)) fun answer run =>
        (run.selector.currentSuite = none ∧ run.decisions = start.decisions) ∧
          (answer = .ok () → run.selector.baseline.isSome = true) := by
    intro run now
    have same := currentSuite_prepare setting ⟨run.selector, run.world, []⟩
    exact ⟨⟨same.trans now.1, now.2⟩, baseline_of_prepare setting⟩
  have promised := (Careful.decisionRule settings suite honest start).amplify_ensures lasting init
    (fun run now known => ⟨known, .inl now.1, .none_yet now.2⟩) stays seedTests maxIterations
    start ⟨idle, rfl⟩
  rcases promised with ⟨-, -, same⟩ | ⟨_, _, -, careful, -⟩
  · exact .none_yet same
  · exact careful.own

variable (setting settings suite) in
theorem runSuite_inOwnRight {workshop : Workshop W} (honest : workshop.IsHonest)
    (maxIterations : UInt32) (start : Run MutationScore W)
    (idle : start.selector.currentSuite = none) :
    AllInOwnRight setting settings suite start
      ((byMutationScore workshop setting settings).runSuite suite maxIterations start).2 := by
  have own := amplify_inOwnRight setting settings suite honest suite.methods maxIterations start
    idle
  rcases (byMutationScore workshop setting settings).runSuite_cases suite maxIterations start with
    ⟨-, -, same⟩ | ⟨same, -⟩
  · rw [same]
    exact own
  · rw [same]
    exact own.grow rfl (List.prefix_refl _) (List.prefix_append _ _)

end

/-- **Candidates are judged in their own right.** Suppose the runner never names a test as run
that it was not given. When a batch of any tests comes back with a result, its identities are
distinct and all of its tests ran. And from any point at which the selector has no suite noted, as
it has none before its first suite, every decision in an iteration for a seed test is about
candidates that compiled, ran and passed in one batch: under its identity each of them is
found in the compiled suite and, when there are any, in the suite that the engine is asked
about next, which has no other test. -/
theorem candidates_judged_in_own_right {W : Type} (workshop : Workshop W)
    (honest : workshop.IsHonest) (setting : Setting W) (settings : Settings) (suite : TestSuite) :
    (∀ {σ : Type} (selector : Selector σ W) (tests : List TestCase) (start : Run σ W)
      (result : ExecutionResult),
      (Orchestrator.compileAndRun ⟨workshop, selector, settings⟩ suite tests start).1 = .ok result →
      (tests.map TestCase.id).Nodup ∧ ∀ test ∈ tests, result.ran test.id = true) ∧
    ∀ (start : Run MutationScore W) (maxIterations : UInt32),
      start.selector.currentSuite = none →
      (∀ seedTests, AllInOwnRight setting settings suite start
        ((byMutationScore workshop setting settings).amplify suite seedTests maxIterations start).2) ∧
      AllInOwnRight setting settings suite start
        ((byMutationScore workshop setting settings).runSuite suite maxIterations start).2 := by
  refine ⟨?_, fun start maxIterations idle => ⟨fun seedTests => ?_, ?_⟩⟩
  · intro σ selector tests start result answered
    obtain ⟨_, justRan, -⟩ := Orchestrator.justRan_of_compileAndRun answered
    exact justRan.distinct_and_ran honest
  · exact amplify_inOwnRight setting settings suite honest seedTests maxIterations start idle
  · exact runSuite_inOwnRight setting settings suite honest maxIterations start idle

/-- The runner of the simple workshop is honest, and a variant of a test is judged in its own
right. -/
theorem variant_judged_in_own_right :
    let suite : TestSuite := ⟨"Suite", [], [.plain ⟨"Suite", "testOnce"⟩ "check()"]⟩
    let start : Run MutationScore Unit := { selector := {}, world := () }
    let final := ((byMutationScore .simple (.everyTestKills default) {}).runSuite suite 1 start).2
    Workshop.simple.IsHonest ∧
      final.decisions.map (fun decision => (decision.seed, decision.candidates)) =
        [(some (.plain ⟨"Suite", "testOnce"⟩ "check()"),
          [.plain ⟨"Suite", "againtestOnce"⟩ "check() again() assert()"])] ∧
      AllInOwnRight (.everyTestKills default) {} suite start final := by
  intro suite start final
  have honest : Workshop.simple.IsHonest := by
    rintro _ tests _ _ _ ⟨⟩ id named
    exact (KeySet.contains_ofList _ id).1 named
  refine ⟨honest, ?_, ?_⟩
  · decide +kernel
  · exact ((candidates_judged_in_own_right .simple honest (.everyTestKills default) {} suite).2
      start 1 rfl).2

end TestAmplification
