import TestAmplification.Proofs.Amplification.Records

/-!
# Rounds for seed tests

Each seed test that passed the preflight gets a round: it is run alone and, if it is green, iterated
upon. Every iteration announces exactly one event. The events of a round are therefore numbered
from zero on, there are at most as many as there may be iterations, and there are fewer only if the
last one says that nothing was left to work on (`IterationBlock`).

What the iterations add to the records follows the recursion of the loop: a stop ends the block
(`IterationBlock.stop`), anything else is the first event of a block that begins with the
next number (`IterationBlock.cons`). The kept tests are those of the decisions, and the events name
them (`Iterated`). So a round is in order (`SeedRound.InOrder`), and the rounds of all seed tests
come in the order of the tests (`amplifySeeds_yields`).
-/

set_option autoImplicit false

namespace TestAmplification

/-! ## Blocks of events -/

namespace Event

/-- The seed test and the number of the iteration that the event is about. -/
def iteration? : Event → Option (TestId × Nat)
  | iterationSkipped seed number _ => some (seed, number)
  | testsKept seed number _ _ => some (seed, number)
  | _ => none

/-- The tests that were kept according to the event. -/
def kept? : Event → Option (List TestId)
  | testsKept _ _ _ kept => some kept
  | _ => none

/-- Does the event say that nothing is left to work on? -/
def isStop : Event → Bool
  | iterationSkipped _ _ .nothingNominated => true
  | iterationSkipped _ _ .noCandidates => true
  | _ => false

theorem isStop_of_batchFailure (seed : TestId) (number : Nat) (failure : BatchFailure) :
    (iterationSkipped seed number failure.reason).isStop = false := by
  cases failure <;> rfl

end Event

/-- The events of the iterations for a seed test, from the first number on and up to a limit of
their number. -/
structure IterationBlock (seed : TestId) (first limit : Nat) (block : List Event) : Prop where
  numbered : block.map Event.iteration? =
    (List.range' first block.length).map fun number => some (seed, number)
  bounded : block.length ≤ limit
  stopped : block.length < limit → ∃ last ∈ block.getLast?, last.isStop = true
  onlyLast : ∀ event ∈ block.dropLast, event.isStop = false

namespace IterationBlock

variable {seed : TestId} {first limit : Nat} {block : List Event} {event : Event}

/-- Without any iteration there is no event. -/
theorem empty (seed : TestId) (first : Nat) : IterationBlock seed first 0 [] :=
  ⟨rfl, Nat.le_refl 0, fun less => absurd less (Nat.lt_irrefl 0), nofun⟩

/-- A stop makes a block of its own. -/
theorem stop (own : event.iteration? = some (seed, first)) (stops : event.isStop = true) :
    IterationBlock seed first (limit + 1) [event] where
  numbered := by simp [own]
  bounded := by simp
  stopped _ := ⟨event, rfl, stops⟩
  onlyLast := nofun

/-- Only a block that may not have any event is empty. -/
theorem eq_zero_of_nil (empty : IterationBlock seed first limit []) : limit = 0 := by
  by_contra positive
  obtain ⟨last, isLast, -⟩ := empty.stopped (Nat.pos_of_ne_zero positive)
  cases isLast

/-- An event that does not stop comes before the block of the later iterations. -/
theorem cons (own : event.iteration? = some (seed, first)) (goesOn : event.isStop = false)
    (later : IterationBlock seed (first + 1) limit block) :
    IterationBlock seed first (limit + 1) (event :: block) where
  numbered := by
    rw [List.map_cons, own, later.numbered, List.length_cons, List.range'_succ, List.map_cons]
  bounded := Nat.succ_le_succ later.bounded
  stopped less := by
    obtain ⟨last, isLast, stops⟩ := later.stopped (Nat.lt_of_succ_lt_succ less)
    refine ⟨last, ?_, stops⟩
    rw [List.getLast?_cons, Option.mem_def.1 isLast]
    rfl
  onlyLast := by
    intro other member
    cases block with
    | nil => cases member
    | cons next rest =>
        rcases List.mem_cons.1 member with rfl | inRest
        · exact goesOn
        · exact later.onlyLast other inRest

end IterationBlock

/-! ## Iterations -/

variable {σ W : Type} (orchestrator : Orchestrator σ W)

/-- What the iterations for a seed test add: a block of events and decisions about the seed test,
which agree on the kept tests. -/
structure Iterated (seed : TestCase) (first limit : Nat) (kept : List TestCase) (added : Added) :
    Prop where
  block : IterationBlock seed.id first limit added.events
  seeded : ∀ decision ∈ added.decisions, decision.seed = some seed
  told : added.events.filterMap Event.kept? =
    added.decisions.map fun decision => decision.kept.map TestCase.id
  kept : kept = added.decisions.flatMap Decision.kept
  uncounted : added.counted = 0

namespace Iterated

variable {seed : TestCase} {first limit : Nat} {kept : List TestCase} {added : Added}

theorem empty (seed : TestCase) (first : Nat) : Iterated seed first 0 [] {} :=
  ⟨.empty seed.id first, nofun, rfl, rfl, rfl⟩

theorem stop {reason : SkipReason}
    (stops : (Event.iterationSkipped seed.id first reason).isStop = true) :
    Iterated seed first (limit + 1) [] { events := [.iterationSkipped seed.id first reason] } :=
  ⟨.stop rfl stops, nofun, rfl, rfl, rfl⟩

/-- An iteration whose batch fails has no decision. -/
theorem skip (failure : BatchFailure) (answers : List ToolAnswer)
    (later : Iterated seed (first + 1) limit kept added) :
    Iterated seed first (limit + 1) kept
      ({ answers } ++
        ({ events := [.iterationSkipped seed.id first failure.reason] } ++ added)) where
  block := later.block.cons rfl (Event.isStop_of_batchFailure _ _ failure)
  seeded := later.seeded
  told := later.told
  kept := later.kept
  uncounted := by simp [Added.append_def, later.uncounted]

/-- An iteration whose batch ran has one decision, and the event names the tests that it kept. -/
theorem decide (decision : Decision) (own : decision.seed = some seed) (candidates : Nat)
    (answers : List ToolAnswer) (later : Iterated seed (first + 1) limit kept added) :
    Iterated seed first (limit + 1) (decision.kept ++ kept)
      ({ answers } ++ ({ decisions := [decision] } ++ ({ events := [
        .testsKept seed.id first candidates (decision.kept.map TestCase.id)] } ++ added))) where
  block := later.block.cons rfl rfl
  seeded := List.forall_mem_cons.2 ⟨own, later.seeded⟩
  told := congrArg _ later.told
  kept := congrArg _ later.kept
  uncounted := by simp [Added.append_def, later.uncounted]

end Iterated

/-- **The iterations for a seed test.** The induction is on the number of iterations left. -/
theorem Orchestrator.iterate_yields (suite : TestSuite) (seed : TestCase) (left first : Nat)
    (working : List TestCase) :
    Yields (orchestrator.iterate suite seed left first working) (Iterated seed first left) := by
  induction left generalizing first working with
  | zero => exact Yields.pure (.empty seed first)
  | succ left ih =>
      rw [iterate]
      refine (consult_silent _).bind_yields fun nominated => ?_
      by_cases nobody : nominated.isEmpty = true
      · rw [if_pos nobody]
        refine (orchestrator.announce_yields _).bind ?_
        rintro _ _ rfl
        exact Yields.pure (.stop rfl)
      rw [if_neg nobody]
      refine Silent.bind_yields (candidateRelation_adds.expand _ _ _) fun expanded => ?_
      by_cases nothing : expanded.isEmpty = true
      · rw [if_pos nothing]
        refine (orchestrator.announce_yields _).bind ?_
        rintro _ _ rfl
        exact Yields.pure (.stop rfl)
      rw [if_neg nothing]
      refine Silent.bind_yields (candidateRelation_adds.injectAssertions _ _ _) fun candidates => ?_
      refine (orchestrator.compileAndRun_yields suite candidates).bind ?_
      rintro answer ⟨_, answers, _, _⟩ ⟨⟨⟩, -⟩
      cases answer with
      | error failure =>
          refine (orchestrator.announce_yields _).bind ?_
          rintro _ _ rfl
          exact (ih (first + 1) nominated).weaken fun _ _ later => later.skip failure answers
      | ok result =>
          dsimp only
          refine Silent.bind_yields (count_silent ?_) fun _ => ?_
          · exact fun _ => rfl
          refine (orchestrator.judge_yields _ _).bind ?_
          rintro kept _ ⟨genealogy, rfl⟩
          refine (orchestrator.announce_yields _).bind ?_
          rintro _ _ rfl
          refine (ih (first + 1) _).bind fun later added iterated => Yields.pure ?_
          rw [Added.append_nothing]
          exact iterated.decide ⟨some seed, _, genealogy, kept⟩ rfl _ answers

/-! ## Seed tests -/

/-- What happened to a seed test that passed the preflight. -/
structure SeedRound where
  /-- The seed test. -/
  seed : TestCase
  /-- The answers of compiler and runner to the seed test alone. -/
  alone : List ToolAnswer
  /-- The answers to the batches of the iterations. -/
  batches : List ToolAnswer
  /-- The events of the iterations. -/
  block : List Event
  /-- The decisions in the iterations. -/
  decisions : List Decision

namespace SeedRound

/-- The tests that were kept in the round. -/
def kept (round : SeedRound) : List TestCase :=
  round.decisions.flatMap Decision.kept

/-- The seed test was run alone, and the run was green. -/
def IsGreen (suite : TestSuite) (round : SeedRound) : Prop :=
  ∃ result, round.alone = ranWith suite [round.seed] result ∧ result.isGreen = true

/-- The seed test was tried alone. If it was green and iterations are allowed, there is a block of
events, which names the tests kept in the decisions; else nothing was announced. -/
structure InOrder (suite : TestSuite) (limit : Nat) (round : SeedRound) : Prop where
  tried : ∃ answer, BatchAnswered suite [round.seed] answer round.alone
  iterated : round.IsGreen suite → 0 < limit →
    round.block ≠ [] ∧ IterationBlock round.seed.id 0 limit round.block
  idle : ¬ (round.IsGreen suite ∧ 0 < limit) → round.block = []
  seeded : ∀ decision ∈ round.decisions, decision.seed = some round.seed
  told : round.block.filterMap Event.kept? =
    round.decisions.map fun decision => decision.kept.map TestCase.id

theorem inOrder_of_iterated {suite : TestSuite} {seed : TestCase} {limit : Nat}
    {result : ExecutionResult} {kept : List TestCase} {added : Added}
    (enough : [seed].length ≤ result.testsRun.size) (green : result.isGreen = true)
    (iterated : Iterated seed 0 limit kept added) :
    InOrder suite limit
      ⟨seed, ranWith suite [seed] result, added.answers, added.events, added.decisions⟩ where
  tried := ⟨_, .complete result enough⟩
  iterated _ positive := by
    refine ⟨fun nothing => ?_, iterated.block⟩
    have empty := iterated.block
    rw [show added.events = [] from nothing] at empty
    exact absurd empty.eq_zero_of_nil (Nat.ne_of_gt positive)
  idle unlucky := by
    have noLimit : ¬ 0 < limit := fun positive => unlucky ⟨⟨result, rfl, green⟩, positive⟩
    have bound := iterated.block.bounded.trans (Nat.le_of_not_lt noLimit)
    exact List.eq_nil_of_length_eq_zero (Nat.le_zero.1 bound)
  seeded := iterated.seeded
  told := iterated.told

theorem inOrder_of_not_green {suite : TestSuite} {seed : TestCase} {limit : Nat}
    {answer : Except BatchFailure ExecutionResult} {alone : List ToolAnswer}
    (answered : BatchAnswered suite [seed] answer alone)
    (red : ∀ result, alone = ranWith suite [seed] result → result.isGreen = false) :
    InOrder suite limit ⟨seed, alone, [], [], []⟩ where
  tried := ⟨answer, answered⟩
  iterated green _ := by
    obtain ⟨result, same, isGreen⟩ := green
    rw [red result same] at isGreen
    cases isGreen
  idle _ := rfl
  seeded := nofun
  told := rfl

/-- The events name as many kept tests as the decisions kept. -/
theorem InOrder.length_told {suite : TestSuite} {limit : Nat} {round : SeedRound}
    (inOrder : round.InOrder suite limit) :
    (round.block.filterMap Event.kept?).flatten.length = round.kept.length := by
  rw [inOrder.told, kept, List.length_flatten, List.length_flatMap, List.map_map]
  congr 2
  funext decision
  exact List.length_map _

/-- What the round adds to the records. -/
def added (round : SeedRound) : Added where
  events := round.block
  answers := round.alone ++ round.batches
  decisions := round.decisions
  counted := round.kept.length

end SeedRound

/-- **A seed test** gets a round. -/
theorem Orchestrator.amplifySeed_yields (suite : TestSuite) (maxIterations : UInt32)
    (seed : TestCase) :
    Yields (orchestrator.amplifySeed suite maxIterations seed) fun kept added =>
      ∃ round : SeedRound, round.seed = seed ∧ round.InOrder suite maxIterations.toNat ∧
        kept = round.kept ∧ added = round.added := by
  rw [amplifySeed]
  refine (consult_silent _).bind_yields fun _ => ?_
  refine (orchestrator.compileAndRun_yields suite [seed]).bind ?_
  rintro answer ⟨_, alone, _, _⟩ ⟨⟨⟩, answered⟩
  have idle (red : ∀ result, alone = ranWith suite [seed] result → result.isGreen = false) :
      Yields (pure [] : Amplify σ W (List TestCase)) fun kept more => ∃ round : SeedRound,
        round.seed = seed ∧ round.InOrder suite maxIterations.toNat ∧ kept = round.kept ∧
          ({ answers := alone } : Added) ++ more = round.added := by
    refine Yields.pure ⟨⟨seed, alone, [], [], []⟩, rfl,
      SeedRound.inOrder_of_not_green answered red, rfl, ?_⟩
    simp [Added.append_def, SeedRound.added, SeedRound.kept]
  cases answered with
  | refused error => exact idle nofun
  | broken error => exact idle nofun
  | incomplete result few =>
      refine idle ?_
      rintro _ ⟨⟩
      have nobody : result.testsRun.isEmpty = true := by
        simpa [Table.size, KeySet.isEmpty] using few
      simp [ExecutionResult.isGreen, nobody]
  | complete result enough =>
      dsimp only
      by_cases green : result.isGreen = true
      · rw [if_pos green]
        refine (orchestrator.iterate_yields suite seed _ 0 [seed]).bind fun kept more iterated => ?_
        refine (countKept_yields kept).bind ?_
        rintro _ _ rfl
        refine Yields.pure ⟨_, rfl, SeedRound.inOrder_of_iterated enough green iterated,
          iterated.kept, ?_⟩
        rw [Added.append_nothing, iterated.kept]
        simp [Added.append_def, SeedRound.added, SeedRound.kept, ranWith, iterated.uncounted]
      · rw [if_neg green]
        refine idle ?_
        rintro _ ⟨⟩
        exact Bool.eq_false_iff.2 green

/-- **Seed tests** get rounds in their order. -/
theorem Orchestrator.amplifySeeds_yields (suite : TestSuite) (maxIterations : UInt32)
    (seeds : List TestCase) :
    Yields (orchestrator.amplifySeeds suite maxIterations seeds) fun kept added =>
      ∃ rounds : List SeedRound, rounds.map SeedRound.seed = seeds ∧
        (∀ round ∈ rounds, round.InOrder suite maxIterations.toNat) ∧
        kept = rounds.flatMap SeedRound.kept ∧ added = {
          events := rounds.flatMap SeedRound.block
          answers := rounds.flatMap fun round => round.alone ++ round.batches
          decisions := rounds.flatMap SeedRound.decisions
          counted := (rounds.flatMap SeedRound.kept).length } := by
  induction seeds with
  | nil => exact Yields.pure ⟨[], rfl, nofun, rfl, rfl⟩
  | cons seed rest ih =>
      rw [amplifySeeds]
      refine (orchestrator.amplifySeed_yields suite maxIterations seed).bind ?_
      rintro _ _ ⟨round, rfl, inOrder, rfl, rfl⟩
      refine ih.bind ?_
      rintro _ _ ⟨rounds, rfl, allInOrder, rfl, rfl⟩
      refine Yields.pure ⟨round :: rounds, rfl, List.forall_mem_cons.2 ⟨inOrder, allInOrder⟩,
        rfl, ?_⟩
      simp [Added.append_def, SeedRound.added]

end TestAmplification
