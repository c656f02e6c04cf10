import TestAmplification.Proofs.Amplification.DecisionRule
import TestAmplification.Proofs.Amplification.Lineage

/-!
# The tests that an amplification adds

The decisions of an amplification fall into those before the first iteration and those for each
seed test, in the order of the seed tests (`Proceedings`). What an extended suite
gains are the tests kept in these decisions, the first one of each identity, in this order. A kept
test is usable, since the selector is shown usable tests only. If it was kept in an iteration, it
was run before in a batch that compiled, and did not fail (`PassedIn`).
-/

set_option autoImplicit false

namespace TestAmplification

variable {σ W : Type}

/-! ## The shipped selectors -/

/-- The selectors do nothing on resets and updates. -/
theorem Selector.IsShipped.isQuiet {selector : Selector σ W} (shipped : selector.IsShipped) :
    selector.IsQuiet := by
  cases shipped with
  | takeAll => exact ⟨rfl, rfl⟩
  | mutationScore setting => exact ⟨rfl, rfl⟩

/-- The selectors keep candidates only. -/
theorem Selector.IsShipped.keep_subset {selector : Selector σ W} (shipped : selector.IsShipped)
    (candidates : List TestCase) (genealogy : Genealogy) (selection : Selection σ W) :
    (selector.keep candidates genealogy selection).1 ⊆ candidates := by
  cases shipped with
  | takeAll => exact List.Subset.refl _
  | mutationScore setting =>
      rcases MutationScore.keep_cases setting candidates genealogy selection with
        ⟨nothing, -⟩ | ⟨_, _, _, -, -, -, -, answer, -⟩
      · exact nothing ▸ List.nil_subset _
      · exact answer ▸ List.filter_subset_self _

/-! ## Sorted decisions -/

/-- The decisions of an amplification. -/
structure Proceedings where
  /-- The decisions before the first iteration. -/
  first : List Decision
  /-- The seed tests, each with the decisions in its iterations. -/
  rounds : List (TestCase × List Decision)
  firstSeed : ∀ decision ∈ first, decision.seed = none
  roundSeed : ∀ round ∈ rounds, ∀ decision ∈ round.2, decision.seed = some round.1

namespace Proceedings

/-- All decisions in order. -/
def decisions (proceedings : Proceedings) : List Decision :=
  proceedings.first ++ proceedings.rounds.flatMap Prod.snd

/-- The seed tests in order. -/
def seeds (proceedings : Proceedings) : List TestCase :=
  proceedings.rounds.map Prod.fst

/-- The tests that were kept, in the order of the decisions. -/
def kept (proceedings : Proceedings) : List TestCase :=
  proceedings.decisions.flatMap Decision.kept

/-- No decision, and no seed test. -/
def empty : Proceedings :=
  ⟨[], [], fun _ member => absurd member List.not_mem_nil,
    fun _ member => absurd member List.not_mem_nil⟩

/-- The next seed test begins. -/
def begin (proceedings : Proceedings) (seed : TestCase) : Proceedings where
  first := proceedings.first
  rounds := proceedings.rounds ++ [(seed, [])]
  firstSeed := proceedings.firstSeed
  roundSeed := by
    intro round member
    rcases List.mem_append.1 member with earlier | now
    · exact proceedings.roundSeed round earlier
    · rw [List.mem_singleton.1 now]
      exact nofun

@[simp] theorem seeds_begin (proceedings : Proceedings) (seed : TestCase) :
    (proceedings.begin seed).seeds = proceedings.seeds ++ [seed] := by
  simp [seeds, begin]

@[simp] theorem decisions_begin (proceedings : Proceedings) (seed : TestCase) :
    (proceedings.begin seed).decisions = proceedings.decisions := by
  simp [decisions, begin]

@[simp] theorem kept_begin (proceedings : Proceedings) (seed : TestCase) :
    (proceedings.begin seed).kept = proceedings.kept := by
  simp [kept]

theorem kept_of_decisions {proceedings later : Proceedings} {decision : Decision}
    (grown : later.decisions = proceedings.decisions ++ [decision]) :
    later.kept = proceedings.kept ++ decision.kept := by
  simp [kept, grown]

/-- There can be a further decision as long as no seed test has begun. -/
theorem exists_early (proceedings : Proceedings) (idle : proceedings.seeds = [])
    {decision : Decision} (unseeded : decision.seed = none) :
    ∃ later : Proceedings, later.first = proceedings.first ++ [decision] ∧ later.seeds = [] ∧
      later.decisions = proceedings.decisions ++ [decision] := by
  have noRounds : proceedings.rounds = [] := List.map_eq_nil_iff.1 idle
  refine ⟨⟨proceedings.first ++ [decision], [], ?_, nofun⟩, rfl, rfl, ?_⟩
  · intro other member
    rcases List.mem_append.1 member with earlier | now
    · exact proceedings.firstSeed other earlier
    · exact List.mem_singleton.1 now ▸ unseeded
  · simp [decisions, noRounds]

/-- There can be a further decision for the seed test that has begun last. -/
theorem exists_later (proceedings : Proceedings) {seeds : List TestCase} {seed : TestCase}
    (begun : proceedings.seeds = seeds ++ [seed]) {decision : Decision}
    (seeded : decision.seed = some seed) :
    ∃ later : Proceedings, later.first = proceedings.first ∧ later.seeds = seeds ++ [seed] ∧
      later.decisions = proceedings.decisions ++ [decision] := by
  obtain ⟨earlier, last, split, same, atSeed⟩ := List.map_eq_append_iff.1 begun
  obtain ⟨⟨current, block⟩, rfl, rfl⟩ := List.map_eq_singleton_iff.1 atSeed
  refine ⟨⟨proceedings.first, earlier ++ [(current, block ++ [decision])],
    proceedings.firstSeed, ?_⟩, rfl, ?_, ?_⟩
  · intro round member other decided
    rcases List.mem_append.1 member with before | now
    · exact proceedings.roundSeed round (split ▸ List.mem_append_left _ before) other decided
    · rw [List.mem_singleton.1 now] at decided ⊢
      have listed : (current, block) ∈ proceedings.rounds :=
        split ▸ List.mem_append_right _ (.head _)
      rcases List.mem_append.1 decided with old | new
      · exact proceedings.roundSeed _ listed other old
      · exact List.mem_singleton.1 new ▸ seeded
  · simp [Proceedings.seeds, same]
  · simp [decisions, split]

end Proceedings

/-! ## Kept tests -/

/-- The test ran in a batch that compiled, and did not fail. -/
def PassedIn (suite : TestSuite) (answers : List ToolAnswer) (test : TestCase) : Prop :=
  ∃ batch result,
    [.compiled (suite.extendedWith batch) (.ok ()),
      .ran (suite.extendedWith batch) batch (.ok result)] <:+: answers ∧
    test ∈ batch ∧ result.ran test.id = true ∧ result.hasFailed test.id = false

theorem PassedIn.mono {suite : TestSuite} {answers later : List ToolAnswer} {test : TestCase}
    (passed : PassedIn suite answers test) (more : answers <:+: later) :
    PassedIn suite later test := by
  obtain ⟨batch, result, heard, rest⟩ := passed
  exact ⟨batch, result, heard.trans more, rest⟩

/-- Since the start of an amplification, the tests were kept in its decisions, all of them usable,
and those kept in iterations had passed. -/
structure Emitted (suite : TestSuite) (start : Run σ W) (seeds kept : List TestCase)
    (run : Run σ W) : Prop where
  usable : ∀ test ∈ kept, IsUsable suite test
  recorded : ∃ (proceedings : Proceedings) (answers : List ToolAnswer),
    run.decisions = start.decisions ++ proceedings.decisions ∧
    proceedings.seeds = seeds ∧ proceedings.kept = kept ∧
    run.answers = start.answers ++ answers ∧
    ∀ test ∈ kept, (∃ decision ∈ proceedings.first, test ∈ decision.kept) ∨
      PassedIn suite answers test

namespace Emitted

variable {suite : TestSuite} {start before after : Run σ W} {seeds kept : List TestCase}
  {seed : TestCase}

theorem empty (sameDecisions : before.decisions = start.decisions)
    (grown : start.answers <+: before.answers) : Emitted suite start [] [] before := by
  obtain ⟨answers, same⟩ := grown
  refine ⟨nofun, .empty, answers, ?_, rfl, rfl, same.symm, nofun⟩
  rw [sameDecisions]
  exact (List.append_nil _).symm

/-- No decision was made since. -/
theorem grow (emitted : Emitted suite start seeds kept before)
    (sameDecisions : after.decisions = before.decisions)
    (grown : before.answers <+: after.answers) : Emitted suite start seeds kept after := by
  obtain ⟨usable, proceedings, answers, decided, begun, sameKept, heard, passed⟩ := emitted
  obtain ⟨more, longer⟩ := grown
  refine ⟨usable, proceedings, answers ++ more, sameDecisions.trans decided, begun, sameKept, ?_,
    fun test member => (passed test member).imp_right fun earlier => ?_⟩
  · rw [← longer, heard, List.append_assoc]
  · exact earlier.mono (List.prefix_append _ _).isInfix

theorem begin (emitted : Emitted suite start seeds kept before) (seed : TestCase) :
    Emitted suite start (seeds ++ [seed]) kept before := by
  obtain ⟨usable, proceedings, answers, decided, begun, sameKept, heard, passed⟩ := emitted
  refine ⟨usable, proceedings.begin seed, answers, ?_, ?_, ?_, heard, passed⟩
  · rw [Proceedings.decisions_begin]
    exact decided
  · rw [Proceedings.seeds_begin, begun]
  · rw [Proceedings.kept_begin]
    exact sameKept

/-- A decision before the first iteration keeps some of the usable tests that it is about. -/
theorem early (emitted : Emitted suite start [] [] before) {decision : Decision}
    (unseeded : decision.seed = none) (usable : ∀ test ∈ decision.kept, IsUsable suite test)
    (decided : after.decisions = before.decisions ++ [decision])
    (silent : after.answers = before.answers) :
    Emitted suite start [] decision.kept after := by
  obtain ⟨-, proceedings, answers, earlier, begun, nothing, heard, -⟩ := emitted
  obtain ⟨later, first, idle, grown⟩ := proceedings.exists_early begun unseeded
  refine ⟨usable, later, answers, ?_, idle, ?_, silent.trans heard, fun test member => .inl ?_⟩
  · rw [decided, earlier, grown, List.append_assoc]
  · rw [Proceedings.kept_of_decisions grown, nothing, List.nil_append]
  · exact ⟨decision, first ▸ List.mem_append_right _ (.head _), member⟩

/-- A decision in an iteration keeps some of the tests that have just passed. -/
theorem later (emitted : Emitted suite start (seeds ++ [seed]) kept before) {decision : Decision}
    (seeded : decision.seed = some seed) (usable : ∀ test ∈ decision.kept, IsUsable suite test)
    (decided : after.decisions = before.decisions ++ [decision])
    (silent : after.answers = before.answers)
    (passed : ∀ answers, before.answers = start.answers ++ answers →
      ∀ test ∈ decision.kept, PassedIn suite answers test) :
    Emitted suite start (seeds ++ [seed]) (kept ++ decision.kept) after := by
  obtain ⟨usableBefore, proceedings, answers, earlier, begun, sameKept, heard, passedBefore⟩ :=
    emitted
  obtain ⟨later, first, sameSeeds, grown⟩ := proceedings.exists_later begun seeded
  refine ⟨?_, later, answers, ?_, sameSeeds, ?_, silent.trans heard, ?_⟩
  · exact fun test member => (List.mem_append.1 member).elim (usableBefore test) (usable test)
  · rw [decided, earlier, grown, List.append_assoc]
  · rw [Proceedings.kept_of_decisions grown, sameKept]
  · intro test member
    rcases List.mem_append.1 member with old | new
    · exact first ▸ passedBefore test old
    · exact .inr (passed answers heard test new)

end Emitted

/-! ## Whole runs -/

section

variable {workshop : Workshop W} {selector : Selector σ W} {settings : Settings}
  {suite : TestSuite} {start : Run σ W}

/-- **The decisions of a shipped selector keep usable tests that have passed.** -/
theorem Emitted.decisionRule (shipped : selector.IsShipped) :
    DecisionRule ⟨workshop, selector, settings⟩ suite (Emitted suite start) fun _ => True where
  quiet := shipped.isQuiet
  lasts _ _ _ _ advances emitted := emitted.grow advances.decisions advances.answers
  stays _ _ _ _ := trivial
  next _ seed _ _ emitted := emitted.begin seed
  nominate _ _ _ _ emitted := ⟨emitted.grow rfl (List.prefix_refl _), fun _ => trivial⟩
  first candidates usable run now := by
    have among := shipped.keep_subset candidates run.genealogy ⟨run.selector, run.world, []⟩
    exact now.1.early rfl (fun test member => usable test (among member))
      (Orchestrator.judge_decisions _ none candidates run) rfl
  judge seeds seed kept batch result usable run := by
    rintro ⟨before, ⟨emitted, -⟩, ran⟩
    have among := shipped.keep_subset (batch.filter fun test => result.passed test.id)
      run.genealogy ⟨run.selector, run.world, []⟩
    refine (emitted.grow ran.advances.decisions ran.advances.answers).later rfl ?_
      (Orchestrator.judge_decisions _ (some seed) _ run) rfl ?_
    · exact fun test member => usable test (List.mem_filter.1 (among member)).1
    · intro answers heard test member
      obtain ⟨inBatch, passed⟩ := List.mem_filter.1 (among member)
      rw [ExecutionResult.passed, Bool.and_eq_true, Bool.not_eq_true'] at passed
      refine ⟨batch, result, ?_, inBatch, passed⟩
      -- The answers since the start end with those about the batch.
      obtain ⟨_, earlier, -, -, -, same, -⟩ := emitted.recorded
      rw [ran.answers, same, List.append_assoc] at heard
      exact List.append_cancel_left heard ▸ (List.suffix_append _ _).isInfix

/-- The decisions and the answers are those before the start, with answers added to them. -/
def Untouched (start run : Run σ W) : Prop :=
  run.decisions = start.decisions ∧ start.answers <+: run.answers

variable (workshop settings suite start) in
theorem amplify_emitted (shipped : selector.IsShipped) (seedTests : List TestCase)
    (maxIterations : UInt32) :
    Ensures (Untouched start)
      (Orchestrator.amplify ⟨workshop, selector, settings⟩ suite seedTests maxIterations)
      fun answer run => answer = none ∧ Untouched start run ∨
        ∃ seeds kept, seeds.Sublist seedTests ∧ Emitted suite start seeds kept run ∧
          answer = some (suite.extendedWith kept) := by
  have lasting : Run.Lasting (Untouched start) := fun _ _ advances now =>
    ⟨advances.decisions.trans now.1, now.2.trans advances.answers⟩
  have init : Ensures (Untouched start) (Amplify.consult selector.init)
      fun answer run => Untouched start run ∧ (answer = .ok () → True) :=
    fun _ now => ⟨now, fun _ => trivial⟩
  exact (Emitted.decisionRule shipped).amplify_ensures lasting init
    (fun _ now _ => .empty now.1 now.2) (fun _ _ _ _ => trivial) seedTests maxIterations

end

/-- **An amplification adds new tests that passed.** When a suite is amplified with a shipped
selector, whatever the tools do, the extended suite is the given one with methods added at
the end. Their identities are distinct and free in the suite, and their bodies are not empty. They
are the tests kept in the decisions, the first of each identity, in the order of the decisions:
first those before the first iteration, then those for one seed test after the other. Every
added test was kept before the first iteration, or it ran in a batch that compiled, and did
not fail. -/
theorem amplify_adds_new_passing_tests {σ W : Type} (workshop : Workshop W)
    (selector : Selector σ W) (shipped : selector.IsShipped) (settings : Settings)
    (suite : TestSuite) (seedTests : List TestCase) (maxIterations : UInt32) (start : Run σ W)
    {extended : TestSuite} {final : Run σ W}
    (result : Orchestrator.amplify ⟨workshop, selector, settings⟩ suite seedTests maxIterations
      start = (some extended, final)) :
    ∃ (proceedings : Proceedings) (answers : List ToolAnswer) (added : List TestCase),
      final.decisions = start.decisions ++ proceedings.decisions ∧
      proceedings.seeds.Sublist seedTests ∧
      final.answers = start.answers ++ answers ∧
      extended = { suite with methods := suite.methods ++ added } ∧
      (added.map TestCase.id).Nodup ∧
      (∀ test ∈ added, suite.contains test.id = false ∧ test.hasEmptyBody = false) ∧
      added = firstOfEach suite.ids proceedings.kept ∧
      ∀ test ∈ added,
        (∃ decision ∈ proceedings.first, test ∈ decision.kept) ∨
        ∃ batch result,
          [.compiled (suite.extendedWith batch) (.ok ()),
            .ran (suite.extendedWith batch) batch (.ok result)] <:+: answers ∧
          test ∈ batch ∧ result.ran test.id = true ∧ result.hasFailed test.id = false := by
  have promised := amplify_emitted workshop settings suite start shipped seedTests
    maxIterations start ⟨rfl, List.prefix_refl _⟩
  rw [result] at promised
  obtain ⟨nothing, -⟩ | ⟨seeds, kept, inOrder, emitted, same⟩ := promised
  · cases nothing
  obtain ⟨usable, proceedings, answers, decided, rfl, rfl, heard, passed⟩ := emitted
  have among := (firstOfEach_sublist suite.ids proceedings.kept).subset
  refine ⟨proceedings, answers, firstOfEach suite.ids proceedings.kept, decided, inOrder, heard,
    ?_, nodup_ids_firstOfEach _ _, ?_, rfl, fun test member => passed test (among member)⟩
  · rw [Option.some.inj same, TestSuite.extendedWith_eq]
  · intro test member
    have filled := (usable test (among member)).filled
    have free := (isNewTo_iff suite test).1 (usable test (among member)).fresh
    rw [← suite.contains_iff] at free
    exact ⟨Bool.eq_false_iff.2 free, filled⟩

/-- A suite with one test gets a variant of it, which is new and not empty. -/
theorem amplify_adds_new_variant :
    let suite : TestSuite := ⟨"Suite", [], [.plain ⟨"Suite", "testOnce"⟩ "check()"]⟩
    let amplified := Orchestrator.amplify ⟨.simple, TakeAll.selector, {}⟩ suite suite.methods 1
      { selector := {}, world := () }
    ∃ extended added, amplified.1 = some extended ∧
      extended = { suite with methods := suite.methods ++ added } ∧ added ≠ [] ∧
      ∀ test ∈ added, suite.contains test.id = false ∧ test.hasEmptyBody = false := by
  intro suite amplified
  have extended : amplified.1 = some (suite.withMethod
      (.plain ⟨"Suite", "againtestOnce"⟩ "check() again() assert()")) := by
    decide +kernel
  obtain ⟨_, _, added, -, -, -, same, -, sound, -⟩ := amplify_adds_new_passing_tests .simple
    TakeAll.selector .takeAll {} suite suite.methods 1 { selector := {}, world := () }
    (Prod.ext extended rfl)
  refine ⟨_, added, extended, same, ?_, sound⟩
  rintro rfl
  revert same
  decide

end TestAmplification
