import TestAmplification.Proofs.Amplification.Preflight
import TestAmplification.Proofs.Amplification.Rounds

/-!
# The events of an amplification

There are four ways in which an amplification can go, and `AmplificationAdds` lists what each adds
to the records. Without a test to amplify nothing is announced. Else the start is announced first.
The selector may refuse the suite, the preflight may leave no test, or every remaining test gets
a round and the end is announced, with the number of the kept tests
(`amplify_yields`).

The events can be accounted for in these terms (`events_account_for_amplification`): they are the
start, the excluded seed tests, one block for each green seed test, and the end, and the number
announced at the end is the sum of what was announced and decided before.
-/

set_option autoImplicit false

namespace TestAmplification

variable {σ W : Type} (orchestrator : Orchestrator σ W)

/-! ## Before the first iteration -/

/-- The decisions before the first iteration, which keep what the answer lists. -/
structure Preamplified (kept : List TestCase) (decisions : List Decision) : Prop where
  unseeded : ∀ decision ∈ decisions, decision.seed = none
  kept : kept = decisions.flatMap Decision.kept

theorem Orchestrator.preAmplify_yields (suite : TestSuite) (seeds : List TestCase) :
    Yields (orchestrator.preAmplify suite seeds) fun kept added =>
      ∃ decisions, Preamplified kept decisions ∧ added = { decisions } := by
  have nothingKept : Preamplified [] [] := ⟨nofun, rfl⟩
  rw [preAmplify]
  refine (consult_silent _).bind_yields fun _ => (consult_silent _).bind_yields fun nominated => ?_
  by_cases nobody : nominated.isEmpty = true
  · rw [if_pos nobody]
    exact Yields.pure ⟨[], nothingKept, rfl⟩
  rw [if_neg nobody]
  refine Silent.bind_yields (candidateRelation_adds.assertedTests _ _ _) fun answered => ?_
  refine Silent.bind_yields (candidateRelation_adds.adoptNew _ _) fun improved => ?_
  by_cases nothing : improved.isEmpty = true
  · rw [if_pos nothing]
    exact Yields.pure ⟨[], nothingKept, rfl⟩
  rw [if_neg nothing]
  refine (orchestrator.judge_yields _ _).weaken ?_
  rintro kept _ ⟨genealogy, rfl⟩
  refine ⟨[⟨none, improved, genealogy, kept⟩], ⟨fun decision only => ?_, by simp⟩, rfl⟩
  rw [List.mem_singleton.1 only]

theorem Orchestrator.preAmplifyIfWanted_yields (suite : TestSuite) (green : List TestCase) :
    Yields (orchestrator.preAmplifyIfWanted suite green) fun kept added =>
      ∃ decisions, Preamplified kept decisions ∧
        added = { decisions, counted := kept.length } := by
  rw [preAmplifyIfWanted]
  by_cases wanted : orchestrator.settings.preAmplification = true
  · rw [if_pos wanted]
    refine (orchestrator.preAmplify_yields suite green).bind ?_
    rintro kept _ ⟨decisions, preamplified, rfl⟩
    refine (countKept_yields kept).bind ?_
    rintro _ _ rfl
    refine Yields.pure ⟨decisions, preamplified, ?_⟩
    simp [Added.append_def]
  · rw [if_neg wanted]
    exact Yields.pure ⟨[], ⟨nofun, rfl⟩, rfl⟩

/-! ## The ways of an amplification -/

/-- The events before the first iteration. -/
def openingEvents (suite : TestSuite) (tests : List TestCase) (maxIterations : UInt32)
    (excluded : List TestCase) : List Event :=
  .suiteStarted suite.name tests.length maxIterations ::
    excluded.map fun test => .seedExcluded suite.name test.id

/-- The tests that were kept in the decisions before the first iteration and in rounds. -/
def keptIn (first : List Decision) (rounds : List SeedRound) : List TestCase :=
  first.flatMap Decision.kept ++ rounds.flatMap SeedRound.kept

/-- The selector can refuse a suite. -/
def Selector.CanRefuse (selector : Selector σ W) : Prop :=
  ∃ selection error, (selector.init selection).1 = .error error

/-- The ways in which an amplification of tests can go: its answer, and what it adds to the
records. -/
inductive AmplificationAdds (suite : TestSuite) (tests : List TestCase) (maxIterations : UInt32) :
    Option TestSuite → Added → Prop where
  /-- There is no test to amplify. -/
  | nobody (nobody : tests = []) : AmplificationAdds suite tests maxIterations none {}
  /-- The selector refuses the suite. -/
  | refused (someone : tests ≠ []) (canRefuse : orchestrator.selector.CanRefuse) :
      AmplificationAdds suite tests maxIterations none
        { events := openingEvents suite tests maxIterations [] }
  /-- The preflight leaves no test. -/
  | red {checks : List ToolAnswer} {excluded : List TestCase} (someone : tests ≠ [])
      (narrows : Narrows suite tests checks excluded none) :
      AmplificationAdds suite tests maxIterations none
        { events := openingEvents suite tests maxIterations excluded, answers := checks }
  /-- Every test that the preflight leaves gets a round. -/
  | finished {checks : List ToolAnswer} {excluded : List TestCase} {first : List Decision}
      {rounds : List SeedRound} (someone : tests ≠ [])
      (narrows : Narrows suite tests checks excluded (some (rounds.map SeedRound.seed)))
      (unseeded : ∀ decision ∈ first, decision.seed = none)
      (inOrder : ∀ round ∈ rounds, round.InOrder suite maxIterations.toNat) (duration : Nat) :
      AmplificationAdds suite tests maxIterations
        (some (suite.extendedWith (keptIn first rounds))) {
          events := openingEvents suite tests maxIterations excluded ++
            rounds.flatMap SeedRound.block ++
              [.suiteComplete suite.name (keptIn first rounds).length duration]
          answers := checks ++ rounds.flatMap fun round => round.alone ++ round.batches
          decisions := first ++ rounds.flatMap SeedRound.decisions
          counted := (keptIn first rounds).length }

/-- **An amplification** goes one of the four ways. -/
theorem Orchestrator.amplify_yields (suite : TestSuite) (seedTests : List TestCase)
    (maxIterations : UInt32) :
    Yields (orchestrator.amplify suite seedTests maxIterations)
      (AmplificationAdds orchestrator suite (seedTests.filter orchestrator.workshop.isTest)
        maxIterations) := by
  rw [amplify]
  generalize seedTests.filter orchestrator.workshop.isTest = tests
  dsimp only
  by_cases nothing : tests.isEmpty = true
  · rw [if_pos nothing]
    exact Yields.pure (.nobody (List.isEmpty_iff.1 nothing))
  rw [if_neg nothing]
  have someone : tests ≠ [] := fun same => nothing (List.isEmpty_iff.2 same)
  refine get_silent.bind_yields fun begun => (orchestrator.announce_yields _).bind ?_
  rintro _ _ rfl
  have prepares : Yields (Amplify.consult orchestrator.selector.init) fun answer added =>
      added = {} ∧ ∀ error, answer = .error error → orchestrator.selector.CanRefuse :=
    fun run => ⟨{}, consult_silent _ run, rfl, fun error same => ⟨_, error, same⟩⟩
  refine prepares.bind ?_
  rintro prepared _ ⟨rfl, refusal⟩
  cases prepared with
  | error error => exact Yields.pure (.refused someone (refusal error rfl))
  | ok _ =>
      have cleared : Silent (modify fun run => run.withGenealogy .empty : Amplify σ W PUnit) :=
        fun run => withGenealogy_adds run .empty
      refine cleared.bind_yields fun _ => (consult_silent _).bind_yields fun _ => ?_
      refine (orchestrator.preflight_yields suite tests).bind ?_
      rintro green _ ⟨checks, excluded, narrows, rfl⟩
      cases green with
      | none =>
          refine Yields.pure ?_
          rw [Added.append_nothing, Added.nothing_append, Added.append_def]
          exact .red someone narrows
      | some green =>
          refine Silent.bind_yields (candidateRelation_adds.resetAmplifiers suite _) fun _ => ?_
          refine (orchestrator.preAmplifyIfWanted_yields suite green).bind ?_
          rintro _ _ ⟨first, ⟨unseeded, rfl⟩, rfl⟩
          refine (orchestrator.amplifySeeds_yields suite maxIterations green).bind ?_
          rintro _ _ ⟨rounds, rfl, inOrder, rfl, rfl⟩
          refine Silent.bind_yields (count_silent ?_) fun _ =>
            get_silent.bind_yields fun ended => ?_
          · exact fun _ => rfl
          refine (orchestrator.announce_yields _).bind ?_
          rintro _ _ rfl
          refine Yields.pure ?_
          convert AmplificationAdds.finished someone narrows unseeded inOrder
            (orchestrator.workshop.clock ended.world - orchestrator.workshop.clock begun.world)
            using 1
          · rfl
          · simp [Added.append_def, openingEvents, keptIn]

/-! ## Accounting -/

/-- The blocks of rounds name as many kept tests as were kept in the rounds. -/
theorem SeedRound.length_told {suite : TestSuite} {limit : Nat} {rounds : List SeedRound}
    (inOrder : ∀ round ∈ rounds, round.InOrder suite limit) :
    ((rounds.flatMap SeedRound.block).filterMap Event.kept?).flatten.length =
      (rounds.flatMap SeedRound.kept).length := by
  induction rounds with
  | nil => rfl
  | cons round rest ih =>
      obtain ⟨own, others⟩ := List.forall_mem_cons.1 inOrder
      rw [List.flatMap_cons, List.filterMap_append, List.flatten_append, List.length_append,
        own.length_told, ih others, List.flatMap_cons, List.length_append]

/-- **The events account for the whole amplification**, whatever the selector and the tools are.
Without a test nothing is announced and there is no answer. Else the events are the start with the
number of the tests, the tests that the preflight left out, one block for each test that it
left, in their order, and the end, which is announced just when there is an answer.

The block of a test is empty unless iterations are allowed and the test was green when it was run
alone. Then it has one event for each iteration, and the iterations are numbered from zero on
without a gap; there are fewer of them than allowed only if the last event, and only the last one,
says that no test was nominated or that there was no candidate.

The number announced at the end is the number by which the tally grew. It is the number of tests
that were kept before the first iteration, together with the lengths of the lists of kept tests in
all blocks. -/
theorem events_account_for_amplification (suite : TestSuite) (seedTests : List TestCase)
    (maxIterations : UInt32) (start : Run σ W) :
    let tests := seedTests.filter orchestrator.workshop.isTest
    let answer := (orchestrator.amplify suite seedTests maxIterations start).1
    let final := (orchestrator.amplify suite seedTests maxIterations start).2
    (tests = [] ∧ answer = none ∧ final.events = start.events ∧
        final.tally.amplifiedTests = start.tally.amplifiedTests) ∨
      (tests ≠ [] ∧ ∃ (checks : List ToolAnswer) (excluded : List TestCase)
        (green : Option (List TestCase)) (first : List Decision) (rounds : List SeedRound)
        (closing : List Event),
        final.events = start.events ++ (.suiteStarted suite.name tests.length maxIterations ::
          (excluded.map fun test => .seedExcluded suite.name test.id) ++
            rounds.flatMap SeedRound.block ++ closing) ∧
        final.answers = start.answers ++
          (checks ++ rounds.flatMap fun round => round.alone ++ round.batches) ∧
        final.decisions = start.decisions ++ (first ++ rounds.flatMap SeedRound.decisions) ∧
        (Narrows suite tests checks excluded green ∨
          orchestrator.selector.CanRefuse ∧ checks = [] ∧ excluded = [] ∧ green = none) ∧
        (∀ decision ∈ first, decision.seed = none) ∧
        (∀ round ∈ rounds, round.InOrder suite maxIterations.toNat) ∧
        ((answer = none ∧ green = none ∧ first = [] ∧ rounds = [] ∧ closing = [] ∧
            final.tally.amplifiedTests = start.tally.amplifiedTests) ∨
          ∃ kept duration, answer.isSome = true ∧ green = some (rounds.map SeedRound.seed) ∧
            closing = [.suiteComplete suite.name kept duration] ∧
            final.tally.amplifiedTests = start.tally.amplifiedTests + kept ∧
            kept = (first.flatMap Decision.kept).length +
              ((rounds.flatMap SeedRound.block).filterMap Event.kept?).flatten.length)) := by
  intro tests answer final
  obtain ⟨added, grown, ways⟩ := orchestrator.amplify_yields suite seedTests maxIterations start
  have events : final.events = start.events ++ added.events := grown.events
  have answers : final.answers = start.answers ++ added.answers := grown.answers
  have decisions : final.decisions = start.decisions ++ added.decisions := grown.decisions
  have counted : final.tally.amplifiedTests = start.tally.amplifiedTests + added.counted :=
    grown.counted
  change AmplificationAdds orchestrator suite tests maxIterations answer added at ways
  generalize answer = answer at ways
  cases ways with
  | nobody nobody =>
      exact .inl ⟨nobody, rfl, events.trans (List.append_nil _), counted⟩
  | refused someone canRefuse =>
      exact .inr ⟨someone, [], [], none, [], [], [], events, answers, decisions,
        .inr ⟨canRefuse, rfl, rfl, rfl⟩, nofun, nofun, .inl ⟨rfl, rfl, rfl, rfl, rfl, counted⟩⟩
  | @red checks excluded someone narrows =>
      refine .inr ⟨someone, checks, excluded, none, [], [], [], ?_, ?_, decisions,
        .inl narrows, nofun, nofun, .inl ⟨rfl, rfl, rfl, rfl, rfl, counted⟩⟩
      · simpa [openingEvents] using events
      · simpa using answers
  | @finished checks excluded first rounds someone narrows unseeded inOrder duration =>
      refine .inr ⟨someone, checks, excluded, _, first, rounds, _, events, answers, decisions,
        .inl narrows, unseeded, inOrder, .inr ⟨_, duration, rfl, rfl, rfl, counted, ?_⟩⟩
      rw [keptIn, List.length_append, SeedRound.length_told inOrder]

end TestAmplification
