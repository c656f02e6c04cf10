import TestAmplification.Proofs.Amplification.Advance

/-!
# A rule for the decisions of a run

Between two decisions a run advances, so a condition that lasts while a run advances has
to be looked at only where the selector acts. The condition is one on the seed tests begun so
far, the tests kept so far, and the run. A second condition says that the selector is
ready for a decision; a nomination that names some test establishes it.

If the actions of the selector sustain the condition (`DecisionRule`), it holds for the seed tests
begun and the tests kept at the end of every run: of the iterations for one seed test
(`iterate_ensures`), of the amplification of seed tests (`amplifySeeds_ensures`), and
of that of a suite (`amplify_ensures`). A decision in an iteration may be taken to follow
directly on the run of a batch of usable tests, about those that passed.
-/

set_option autoImplicit false

namespace TestAmplification

variable {σ W : Type}

/-- The actions of the selector sustain the condition. -/
structure DecisionRule (orchestrator : Orchestrator σ W) (suite : TestSuite)
    (holds : List TestCase → List TestCase → Run σ W → Prop) (active : Run σ W → Prop) :
    Prop where
  quiet : orchestrator.selector.IsQuiet
  lasts : ∀ seeds kept, Run.Lasting (holds seeds kept)
  stays : Run.Lasting active
  next : ∀ seeds seed kept run, holds seeds kept run → holds (seeds ++ [seed]) kept run
  nominate : ∀ seeds kept tests,
    Ensures (holds seeds kept) (Amplify.consult (orchestrator.selector.nominate suite tests))
      fun nominated run => holds seeds kept run ∧ (nominated ≠ [] → active run)
  first : ∀ candidates, (∀ test ∈ candidates, IsUsable suite test) →
    Ensures (fun run => holds [] [] run ∧ active run) (orchestrator.judge none candidates)
      fun kept => holds [] kept
  judge : ∀ seeds seed kept batch result, (∀ test ∈ batch, IsUsable suite test) →
    Ensures
      (fun run => ∃ before, (holds (seeds ++ [seed]) kept before ∧ active before) ∧
        orchestrator.JustRan suite batch result before run)
      (orchestrator.judge (some seed) (batch.filter fun test => result.passed test.id))
      fun more => holds (seeds ++ [seed]) (kept ++ more)

namespace DecisionRule

variable {orchestrator : Orchestrator σ W} {suite : TestSuite}
  {holds : List TestCase → List TestCase → Run σ W → Prop} {active : Run σ W → Prop}

/-- A run that stops has kept nothing more. -/
theorem stop_ensures {before : Run σ W → Prop} (seeds kept : List TestCase)
    (enough : ∀ run, before run → holds seeds kept run) :
    Ensures before (pure [] : Amplify σ W (List TestCase))
      fun more => holds seeds (kept ++ more) := by
  refine Ensures.pure fun run now => ?_
  rw [List.append_nil]
  exact enough run now

/-- The condition holds, and the selector is ready for a decision. -/
theorem busy_lasting (rule : DecisionRule orchestrator suite holds active)
    (seeds kept : List TestCase) :
    Run.Lasting fun run => holds seeds kept run ∧ active run :=
  fun _ _ advances busy =>
    ⟨rule.lasts seeds kept _ _ advances busy.1, rule.stays _ _ advances busy.2⟩

/-! ## Iterations -/

/-- **The iterations for a seed test** sustain the condition. The induction is on the number of
iterations left. -/
theorem iterate_ensures (rule : DecisionRule orchestrator suite holds active)
    (seeds : List TestCase) (seed : TestCase) (left iteration : Nat)
    (kept working : List TestCase) :
    Ensures (holds (seeds ++ [seed]) kept)
      (orchestrator.iterate suite seed left iteration working)
      fun more => holds (seeds ++ [seed]) (kept ++ more) := by
  induction left generalizing iteration kept working with
  | zero => exact stop_ensures _ kept fun _ now => now
  | succ left ih =>
      have busyLasts := rule.busy_lasting (seeds ++ [seed]) kept
      have idleLasts := rule.lasts (seeds ++ [seed])
      rw [Orchestrator.iterate]
      refine (rule.nominate _ kept working).bind fun nominated => ?_
      by_cases nobody : nominated.isEmpty = true
      · rw [if_pos nobody]
        exact ((orchestrator.announce_advancing _).keeps (idleLasts kept)).left.bind fun _ =>
          stop_ensures _ kept fun _ now => now
      rw [if_neg nobody]
      have someone : nominated ≠ [] := fun same => nobody (by rw [same]; rfl)
      refine Ensures.given someone ?_
      refine (orchestrator.expand_ensures busyLasts suite nominated).bind fun expanded =>
        Ensures.assume fun usable => ?_
      by_cases nothing : expanded.isEmpty = true
      · rw [if_pos nothing]
        exact ((orchestrator.announce_advancing _).keeps busyLasts).bind fun _ =>
          stop_ensures _ kept fun _ now => now.1
      rw [if_neg nothing]
      refine (orchestrator.injectAssertions_ensures busyLasts suite usable).bind
        fun candidates => Ensures.assume fun usable => ?_
      refine (Orchestrator.compileAndRun_ensures rule.quiet busyLasts suite candidates).bind
        fun answer => ?_
      cases answer with
      | error failure =>
          exact ((orchestrator.announce_advancing _).keeps (idleLasts kept)).left.left.bind
            fun _ => ih (iteration + 1) kept nominated
      | ok result =>
          dsimp only
          refine Ensures.bind (?_ : Ensures _ _ fun _ run => ∃ before,
            (holds (seeds ++ [seed]) kept before ∧ active before) ∧
              orchestrator.JustRan suite candidates result before run) fun _ => ?_
          · rintro run ⟨-, started⟩
            obtain ⟨before, busy, ran⟩ := started result rfl
            exact ⟨before, busy, ran.counted _⟩
          refine (rule.judge seeds seed kept candidates result usable).bind fun more => ?_
          refine ((orchestrator.announce_advancing _).keeps (idleLasts _)).bind fun _ => ?_
          refine (ih (iteration + 1) (kept ++ more) _).bind fun later =>
            Ensures.pure fun run now => ?_
          rw [← List.append_assoc]
          exact now

/-! ## Seed tests -/

theorem countKept_ensures (rule : DecisionRule orchestrator suite holds active)
    (seeds kept more : List TestCase) :
    Ensures (holds seeds (kept ++ more))
      (do Orchestrator.countKept more; return more : Amplify σ W (List TestCase))
      fun more => holds seeds (kept ++ more) :=
  ((Orchestrator.countKept_advancing more).keeps (rule.lasts seeds _)).bind fun _ =>
    Ensures.pure fun _ now => now

/-- A seed test counts as begun whether it is green on its own or not. -/
theorem amplifySeed_ensures (rule : DecisionRule orchestrator suite holds active)
    (maxIterations : UInt32) (seeds kept : List TestCase) (seed : TestCase) :
    Ensures (holds seeds kept) (orchestrator.amplifySeed suite maxIterations seed)
      fun more => holds (seeds ++ [seed]) (kept ++ more) := by
  rw [Orchestrator.amplifySeed, rule.quiet.reset, consult_pure]
  refine Ensures.strengthen ?_ (rule.next seeds seed kept)
  refine ((Advancing.pure _).keeps (rule.lasts _ kept)).bind fun _ => ?_
  refine ((Orchestrator.compileAndRun_advancing rule.quiet suite [seed]).keeps
    (rule.lasts _ kept)).bind fun answer => ?_
  cases answer with
  | error failure => exact stop_ensures _ kept fun _ now => now
  | ok result =>
      dsimp only
      by_cases green : result.isGreen = true
      · rw [if_pos green]
        exact (rule.iterate_ensures seeds seed _ 0 kept [seed]).bind fun more =>
          rule.countKept_ensures _ kept more
      · rw [if_neg green]
        exact stop_ensures _ kept fun _ now => now

/-- **The amplification of seed tests** sustains the condition. -/
theorem amplifySeeds_ensures (rule : DecisionRule orchestrator suite holds active)
    (maxIterations : UInt32) (seeds kept rest : List TestCase) :
    Ensures (holds seeds kept) (orchestrator.amplifySeeds suite maxIterations rest)
      fun more => holds (seeds ++ rest) (kept ++ more) := by
  induction rest generalizing seeds kept with
  | nil =>
      rw [List.append_nil]
      exact stop_ensures seeds kept fun _ now => now
  | cons seed rest ih =>
      rw [Orchestrator.amplifySeeds]
      refine (rule.amplifySeed_ensures maxIterations seeds kept seed).bind fun more => ?_
      refine (ih (seeds ++ [seed]) (kept ++ more)).bind fun later => Ensures.pure fun run now => ?_
      rw [List.append_assoc, List.append_assoc] at now
      exact now

/-! ## Suites -/

theorem preAmplify_ensures (rule : DecisionRule orchestrator suite holds active)
    (seeds : List TestCase) :
    Ensures (holds [] []) (orchestrator.preAmplify suite seeds) fun kept => holds [] kept := by
  have busyLasts := rule.busy_lasting [] []
  rw [Orchestrator.preAmplify, rule.quiet.update, consult_pure]
  refine ((Advancing.pure _).keeps (rule.lasts [] [])).bind fun _ => ?_
  refine (rule.nominate [] [] seeds).bind fun nominated => ?_
  by_cases nobody : nominated.isEmpty = true
  · rw [if_pos nobody]
    exact Ensures.pure fun _ now => now.1
  rw [if_neg nobody]
  have someone : nominated ≠ [] := fun same => nobody (by rw [same]; rfl)
  refine Ensures.given someone ?_
  refine (orchestrator.assertedTests_ensures busyLasts suite nominated).bind fun answered =>
    Ensures.assume fun filled => ?_
  have filledNow : ∀ test ∈ answered.filter
      (fun test => !seeds.any fun seed => seed.sameBody test), test.hasEmptyBody = false :=
    fun test member => filled test (List.mem_filter.1 member).1
  refine (Orchestrator.adoptNew_ensures busyLasts suite filledNow).bind fun improved =>
    Ensures.assume fun usable => ?_
  by_cases nothing : improved.isEmpty = true
  · rw [if_pos nothing]
    exact Ensures.pure fun _ now => now.1
  rw [if_neg nothing]
  exact rule.first improved usable

theorem preAmplifyIfWanted_ensures (rule : DecisionRule orchestrator suite holds active)
    (green : List TestCase) :
    Ensures (holds [] []) (orchestrator.preAmplifyIfWanted suite green)
      fun kept => holds [] kept := by
  rw [Orchestrator.preAmplifyIfWanted]
  by_cases wanted : orchestrator.settings.preAmplification = true
  · rw [if_pos wanted]
    exact (rule.preAmplify_ensures green).bind fun kept => rule.countKept_ensures [] [] kept
  · rw [if_neg wanted]
    exact Ensures.pure fun _ now => now

/-- **The amplification of a suite.** Either it ends without a decision, or the condition holds
for seed tests begun in their order and the tests by which the suite is extended. -/
theorem amplify_ensures (rule : DecisionRule orchestrator suite holds active)
    {before ready : Run σ W → Prop} (lasting : Run.Lasting before)
    (init : Ensures before (Amplify.consult orchestrator.selector.init)
      fun answer run => before run ∧ (answer = .ok () → ready run))
    (opens : ∀ run, before run → ready run → holds [] [] run)
    (stillReady : Run.Lasting ready) (seedTests : List TestCase) (maxIterations : UInt32) :
    Ensures before (orchestrator.amplify suite seedTests maxIterations)
      fun answer run => answer = none ∧ before run ∨
        ∃ seeds kept, seeds.Sublist seedTests ∧ holds seeds kept run ∧
          answer = some (suite.extendedWith kept) := by
  rw [Orchestrator.amplify]
  dsimp only
  by_cases nothing : (seedTests.filter orchestrator.workshop.isTest).isEmpty = true
  · rw [if_pos nothing]
    exact Ensures.pure fun _ now => .inl ⟨rfl, now⟩
  rw [if_neg nothing]
  refine (get_advancing.keeps lasting).bind fun _ => ?_
  refine ((orchestrator.announce_advancing _).keeps lasting).bind fun _ => init.bind
    fun prepared => ?_
  cases prepared with
  | error error => exact Ensures.pure fun _ now => .inl ⟨rfl, now.1⟩
  | ok _ =>
      have bothLast : Run.Lasting fun run => before run ∧ ready run :=
        fun _ _ advances now =>
          ⟨lasting _ _ advances now.1, stillReady _ _ advances now.2⟩
      refine Ensures.given rfl ?_
      have cleared : Advancing (modify fun run => run.withGenealogy .empty : Amplify σ W PUnit) :=
        fun run => withGenealogy_advances run .empty
      refine (cleared.keeps bothLast).bind fun _ => ?_
      rw [rule.quiet.reset, consult_pure]
      refine ((Advancing.pure _).keeps bothLast).bind fun _ => ?_
      refine (Orchestrator.preflight_ensures rule.quiet bothLast suite _).bind fun answer => ?_
      cases answer with
      | none => exact Ensures.pure fun _ now => .inl ⟨rfl, now.1.1⟩
      | some green =>
          refine Ensures.assume fun remain => ?_
          have inOrder : green.Sublist seedTests :=
            (remain green rfl).trans List.filter_sublist
          have reset : Advancing (Orchestrator.resetAmplifiers suite
              orchestrator.workshop.amplifiers : Amplify σ W Unit) :=
            candidateRelation_advances.resetAmplifiers _ _
          refine (reset.keeps bothLast).bind fun _ => ?_
          refine ((rule.preAmplifyIfWanted_ensures green).strengthen
            fun run now => opens run now.1 now.2).bind fun first => ?_
          refine (rule.amplifySeeds_ensures maxIterations [] first green).bind fun later => ?_
          have idleLasts := rule.lasts ([] ++ green) (first ++ later)
          refine ((count_advancing _).keeps idleLasts).bind fun _ =>
            (get_advancing.keeps idleLasts).bind fun _ => ?_
          refine ((orchestrator.announce_advancing _).keeps idleLasts).bind fun _ => ?_
          exact Ensures.pure fun _ now => .inr ⟨green, first ++ later, inOrder, now, rfl⟩

end DecisionRule

end TestAmplification
