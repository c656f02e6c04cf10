import TestAmplification.Proofs.Amplification.Accounting
import TestAmplification.Selection.Selector

/-!
# What is known of a seed test that is iterated upon

A seed test is iterated upon after two runs, the last one of the preflight and one of the test
alone. What the program looks at in their results is whether any test failed and how many
tests ran (`ExecutionResult.AcceptedFor`); it does not look for the seed test among the tests that
ran. So the seed test has not failed in either run. It has also been run if the runner
names no other tests than it was given, for then as many tests as were given are all of them
(`ExecutionResult.AcceptedFor.passed`).

Every event of an iteration leads back to a seed test with two such runs
(`iterated_seeds_were_accepted`). A runner that names other tests can have a seed test
iterated upon that it has never run (`iterated_without_running`).
-/

set_option autoImplicit false

namespace TestAmplification

/-! ## Results that are accepted -/

namespace ExecutionResult

/-- As many tests ran as the batch has, and no test has failed. -/
structure AcceptedFor (batch : List TestCase) (result : ExecutionResult) : Prop where
  enough : batch.length ≤ result.testsRun.size
  unfailed : ∀ id, result.hasFailed id = false

/-- Only tests of the batch are named as run. -/
def NamesOnly (batch : List TestCase) (result : ExecutionResult) : Prop :=
  ∀ id, result.ran id = true → id ∈ batch.map TestCase.id

variable {batch : List TestCase} {result : ExecutionResult}

theorem acceptedFor_of_isEmpty (enough : batch.length ≤ result.testsRun.size)
    (empty : result.failures.isEmpty = true) : result.AcceptedFor batch where
  enough := enough
  unfailed := hasFailed_of_isEmpty empty

/-- A green run is accepted for any single test. -/
theorem acceptedFor_of_isGreen (green : result.isGreen = true) (test : TestCase) :
    result.AcceptedFor [test] := by
  rw [isGreen, Bool.and_eq_true, Bool.not_eq_true'] at green
  refine acceptedFor_of_isEmpty (List.length_pos_iff.2 fun nobody => ?_) green.1
  have someone := green.2
  rw [KeySet.isEmpty, nobody] at someone
  cases someone

/-- **All tests of a batch have passed** if the result is accepted and names no others. -/
theorem AcceptedFor.passed (accepted : result.AcceptedFor batch) (own : result.NamesOnly batch)
    {test : TestCase} (member : test ∈ batch) : result.passed test.id = true := by
  have complete : (batch.map TestCase.id).length ≤ result.testsRun.size := by
    rw [List.length_map]
    exact accepted.enough
  have ran : result.ran test.id = true :=
    (Table.nodup_of_length_le_size result.testsRun own complete).2 _ (List.mem_map_of_mem member)
  rw [ExecutionResult.passed, ran, accepted.unfailed]
  rfl

end ExecutionResult

/-! ## Events of iterations -/

theorem IterationBlock.number_of_mem {seed : TestId} {first limit : Nat} {block : List Event}
    (inOrder : IterationBlock seed first limit block) {event : Event} (member : event ∈ block) :
    ∃ number, event.iteration? = some (seed, number) := by
  have listed : event.iteration? ∈ block.map Event.iteration? := List.mem_map_of_mem member
  rw [inOrder.numbered] at listed
  obtain ⟨number, -, same⟩ := List.mem_map.1 listed
  exact ⟨number, same.symm⟩

/-- An event in a round is about its seed test, which was green when it was run alone. -/
theorem SeedRound.InOrder.green_of_mem {suite : TestSuite} {limit : Nat} {round : SeedRound}
    (inOrder : round.InOrder suite limit) {event : Event} (member : event ∈ round.block) :
    round.IsGreen suite ∧ ∃ number, event.iteration? = some (round.seed.id, number) := by
  by_cases lucky : round.IsGreen suite ∧ 0 < limit
  · exact ⟨lucky.1, (inOrder.iterated lucky.1 lucky.2).2.number_of_mem member⟩
  · rw [inOrder.idle lucky] at member
    cases member

theorem iteration?_of_mem_openingEvents {suite : TestSuite} {tests excluded : List TestCase}
    {maxIterations : UInt32} {event : Event}
    (member : event ∈ openingEvents suite tests maxIterations excluded) :
    event.iteration? = none := by
  rcases List.mem_cons.1 member with rfl | exclusion
  · rfl
  · obtain ⟨test, -, rfl⟩ := List.mem_map.1 exclusion
    rfl

/-- **Seed tests that are iterated upon were accepted twice**, whatever the selector and the tools
are. For every event of an iteration there is a seed test that it is about. The run that ended the
preflight was one of the seed tests that remained, this one among them, and its result was accepted
for them. The seed test was then run alone, with a result that was accepted for it. In neither
result has the seed test failed, and in each of them it has run if the result names no other tests
than were given to the runner. -/
theorem iterated_seeds_were_accepted {σ W : Type} (orchestrator : Orchestrator σ W)
    (suite : TestSuite) (seedTests : List TestCase) (maxIterations : UInt32) (start : Run σ W) :
    let final := (orchestrator.amplify suite seedTests maxIterations start).2
    ∃ (events : List Event) (checks : List ToolAnswer) (rounds : List SeedRound),
      final.events = start.events ++ events ∧
      final.answers = start.answers ++
        (checks ++ rounds.flatMap fun round => round.alone ++ round.batches) ∧
      ∀ event ∈ events, ∀ id number, event.iteration? = some (id, number) →
        ∃ round ∈ rounds, round.seed.id = id ∧
          ∃ (excluded : List TestCase) (together alone : ExecutionResult),
          Narrows suite (seedTests.filter orchestrator.workshop.isTest) checks excluded
            (some (rounds.map SeedRound.seed)) ∧
          ranWith suite (rounds.map SeedRound.seed) together <:+ checks ∧
          together.AcceptedFor (rounds.map SeedRound.seed) ∧
          (together.NamesOnly (rounds.map SeedRound.seed) → together.passed id = true) ∧
          round.alone = ranWith suite [round.seed] alone ∧
          alone.AcceptedFor [round.seed] ∧
          (alone.NamesOnly [round.seed] → alone.passed id = true) := by
  intro final
  obtain ⟨added, grown, ways⟩ := orchestrator.amplify_yields suite seedTests maxIterations start
  have events : final.events = start.events ++ added.events := grown.events
  have answers : final.answers = start.answers ++ added.answers := grown.answers
  generalize (orchestrator.amplify suite seedTests maxIterations start).1 = answer at ways
  cases ways with
  | nobody => exact ⟨_, [], [], events, answers, nofun⟩
  | refused =>
      refine ⟨_, [], [], events, answers, fun event member id number numbered => ?_⟩
      rw [iteration?_of_mem_openingEvents member] at numbered
      cases numbered
  | @red checks =>
      refine ⟨_, checks, [], events, by simpa using answers,
        fun event member id number numbered => ?_⟩
      rw [iteration?_of_mem_openingEvents member] at numbered
      cases numbered
  | @finished checks excluded first rounds someone narrows unseeded inOrder duration =>
      refine ⟨_, checks, rounds, events, answers, fun event member id number numbered => ?_⟩
      rcases List.mem_append.1 member with early | closing
      · rcases List.mem_append.1 early with opening | inBlock
        · rw [iteration?_of_mem_openingEvents opening] at numbered
          cases numbered
        obtain ⟨round, listed, inBlock⟩ := List.mem_flatMap.1 inBlock
        obtain ⟨⟨alone, heard, green⟩, own, same⟩ := (inOrder round listed).green_of_mem inBlock
        obtain rfl : round.seed.id = id :=
          congrArg Prod.fst (Option.some.inj (same.symm.trans numbered))
        obtain ⟨together, last, enough, empty⟩ := narrows.last_run
        have acceptedTogether := ExecutionResult.acceptedFor_of_isEmpty enough empty
        have acceptedAlone := ExecutionResult.acceptedFor_of_isGreen green round.seed
        exact ⟨round, listed, rfl, excluded, together, alone, narrows, last, acceptedTogether,
          fun honest => acceptedTogether.passed honest (List.mem_map_of_mem listed), heard,
          acceptedAlone, fun honest => acceptedAlone.passed honest (List.mem_singleton.2 rfl)⟩
      · rw [List.mem_singleton.1 closing] at numbered
        cases numbered

/-! ## A runner that names another test -/

/-- The answer names the test as run. -/
def ToolAnswer.names (id : TestId) : ToolAnswer → Bool
  | ran _ _ (.ok result) => result.ran id
  | _ => false

/-- Tools for which every run names one and the same test, whatever was to be run. -/
def Workshop.runningOther (other : TestId) : Workshop Unit :=
  { Workshop.simple with run := fun _ _ _ => return .ok (.allPassed [other]) }

/-- **A seed test is iterated upon without having been run.** There is an event for its first
iteration, but no answer to the whole amplification names it as run. -/
theorem iterated_without_running :
    let seed : TestId := ⟨"AccountTest", "testDebit"⟩
    let suite : TestSuite := ⟨"AccountTest", [], [.plain seed "account.debit(1);"]⟩
    let final := (Orchestrator.amplify
      ⟨.runningOther ⟨"OtherTest", "testOther"⟩, TakeAll.selector, {}⟩ suite suite.methods 1
      { selector := {}, world := () }).2
    (∃ event ∈ final.events, event.iteration? = some (seed, 0)) ∧
      ∀ answer ∈ final.answers, answer.names seed = false := by
  refine ⟨?_, ?_⟩ <;> decide +kernel

end TestAmplification
