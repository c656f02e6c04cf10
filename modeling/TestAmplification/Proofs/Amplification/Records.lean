import TestAmplification.Proofs.Amplification.Advance

/-!
# What the steps of an amplification add to its records

A run keeps records of its events, of the answers of compiler and runner, and of the decisions, and
it counts the kept tests. Every stretch of a run adds to the ends of these (`Run.Adds`), and what
two stretches add one after the other is joined (`Run.Adds.trans`). So a specification of a step
can say exactly what the step adds, together with its answer, whatever the selector and
the tools are (`Yields`). Specifications of steps in sequence are put together by
`Yields.bind`; the many steps that add nothing are passed over (`Silent.bind_yields`).

A batch of tests is answered in one of four ways, each with its own answers of compiler and
runner (`BatchAnswered`).
-/

set_option autoImplicit false

namespace TestAmplification

variable {σ W α β : Type}

/-! ## Additions -/

/-- The event that an entry of a journal holds. -/
def JournalEntry.event? : JournalEntry → Option Event
  | announced event => some event
  | _ => none

/-- The events so far, in order. -/
def Run.events (run : Run σ W) : List Event :=
  run.journal.filterMap JournalEntry.event?

/-- What a stretch of a run adds to the records. -/
structure Added where
  /-- The events. -/
  events : List Event := []
  /-- The answers of compiler and runner. -/
  answers : List ToolAnswer := []
  /-- The decisions of the selector. -/
  decisions : List Decision := []
  /-- The number by which the count of kept tests grows. -/
  counted : Nat := 0

namespace Added

instance : Append Added where
  append first second := {
    events := first.events ++ second.events
    answers := first.answers ++ second.answers
    decisions := first.decisions ++ second.decisions
    counted := first.counted + second.counted }

variable (first second : Added)

theorem append_def : first ++ second = {
    events := first.events ++ second.events
    answers := first.answers ++ second.answers
    decisions := first.decisions ++ second.decisions
    counted := first.counted + second.counted } := rfl

@[simp] theorem nothing_append (added : Added) : ({} : Added) ++ added = added := by
  rw [append_def]
  simp

@[simp] theorem append_nothing (added : Added) : added ++ ({} : Added) = added := by
  rw [append_def]
  simp

end Added

/-- Between the two points of a run, the records grew by what was added. -/
structure Run.Adds (before after : Run σ W) (added : Added) : Prop where
  events : after.events = before.events ++ added.events
  answers : after.answers = before.answers ++ added.answers
  decisions : after.decisions = before.decisions ++ added.decisions
  counted : after.tally.amplifiedTests = before.tally.amplifiedTests + added.counted

theorem Run.Adds.refl (run : Run σ W) : run.Adds run {} :=
  ⟨(List.append_nil _).symm, (List.append_nil _).symm, (List.append_nil _).symm, rfl⟩

theorem Run.Adds.trans {before between after : Run σ W} {first second : Added}
    (one : before.Adds between first) (other : between.Adds after second) :
    before.Adds after (first ++ second) where
  events := by rw [other.events, one.events, List.append_assoc]; rfl
  answers := by rw [other.answers, one.answers, List.append_assoc]; rfl
  decisions := by rw [other.decisions, one.decisions, List.append_assoc]; rfl
  counted := by rw [other.counted, one.counted, Nat.add_assoc]; rfl

/-! ## Specifications of steps -/

/-- Every run of the step adds something to the records, and the fact holds of the answer and of
what is added. -/
def Yields (step : Amplify σ W α) (fact : α → Added → Prop) : Prop :=
  ∀ run : Run σ W, ∃ added, run.Adds (step run).2 added ∧ fact (step run).1 added

/-- The step adds nothing. -/
abbrev Silent (step : Amplify σ W α) : Prop :=
  Across (fun before after => before.Adds after {}) step

namespace Yields

variable {step : Amplify σ W α} {fact : α → Added → Prop}

theorem pure {answer : α} (holds : fact answer {}) :
    Yields (pure answer : Amplify σ W α) fact :=
  fun run => ⟨{}, .refl run, holds⟩

theorem bind {next : α → Amplify σ W β} {final : β → Added → Prop} (first : Yields step fact)
    (second : ∀ answer added, fact answer added →
      Yields (next answer) fun last more => final last (added ++ more)) :
    Yields (step >>= next) final := by
  intro run
  obtain ⟨added, grown, holds⟩ := first run
  obtain ⟨more, later, result⟩ := second _ added holds (step run).2
  exact ⟨added ++ more, grown.trans later, result⟩

theorem weaken {weaker : α → Added → Prop} (yields : Yields step fact)
    (follows : ∀ answer added, fact answer added → weaker answer added) : Yields step weaker := by
  intro run
  obtain ⟨added, grown, holds⟩ := yields run
  exact ⟨added, grown, follows _ _ holds⟩

end Yields

theorem Silent.bind_yields {step : Amplify σ W α} {next : α → Amplify σ W β}
    {fact : β → Added → Prop} (silent : Silent step)
    (second : ∀ answer, Yields (next answer) fact) : Yields (step >>= next) fact := by
  intro run
  obtain ⟨more, later, result⟩ := second (step run).1 (step run).2
  have grown := (silent run).trans later
  rw [Added.nothing_append] at grown
  exact ⟨more, grown, result⟩

/-! ## Single steps -/

theorem events_append (run : Run σ W) (entries : List JournalEntry) :
    ({ run with journal := run.journal ++ entries } : Run σ W).events =
      run.events ++ entries.filterMap JournalEntry.event? :=
  List.filterMap_append

theorem ask_silent {entry : JournalEntry} (noEvent : entry.event? = none) (action : StateM W α) :
    Silent (Amplify.ask entry action : Amplify σ W α) := by
  intro run
  refine ⟨(events_append run [entry]).trans ?_, (List.append_nil _).symm,
    (List.append_nil _).symm, rfl⟩
  rw [List.filterMap_cons_none noEvent]
  rfl

theorem consult_silent (step : Select σ W α) :
    Silent (Amplify.consult step : Amplify σ W α) := by
  intro run
  refine ⟨(events_append run _).trans ?_, (List.append_nil _).symm, (List.append_nil _).symm, rfl⟩
  rw [List.filterMap_map]
  exact congrArg _ (List.filterMap_eq_nil_iff.2 fun _ _ => rfl)

theorem get_silent : Silent (get : Amplify σ W (Run σ W)) :=
  fun run => .refl run

theorem withGenealogy_adds (run : Run σ W) (genealogy : Genealogy) :
    run.Adds (run.withGenealogy genealogy) {} := by
  refine ⟨(List.append_nil _).symm, (List.append_nil _).symm, ?_, rfl⟩
  exact (withGenealogy_advances run genealogy).decisions.trans (List.append_nil _).symm

/-- A change of the tally adds nothing when it leaves the count of kept tests as it is. -/
theorem count_silent {change : Tally → Tally}
    (same : ∀ tally, (change tally).amplifiedTests = tally.amplifiedTests) :
    Silent (Amplify.count change : Amplify σ W Unit) :=
  fun run => ⟨(List.append_nil _).symm, (List.append_nil _).symm, (List.append_nil _).symm,
    same run.tally⟩

theorem hear_yields (answer : ToolAnswer) :
    Yields (Amplify.hear answer : Amplify σ W Unit) fun _ added =>
      added = { answers := [answer] } :=
  fun _ => ⟨_, ⟨(List.append_nil _).symm, rfl, (List.append_nil _).symm, rfl⟩, rfl⟩

/-- Making candidates adds nothing. -/
theorem candidateRelation_adds :
    CandidateRelation fun before after : Run σ W => before.Adds after {} where
  refl := .refl
  trans one other := Added.nothing_append {} ▸ one.trans other
  prepared _ _ := ask_silent rfl
  applied _ _ := ask_silent rfl
  asserted _ _ := ask_silent rfl
  lineage := withGenealogy_adds

/-! ## Batches -/

/-- The answers of compiler and runner to a batch that ran with a result. -/
def ranWith (suite : TestSuite) (batch : List TestCase) (result : ExecutionResult) :
    List ToolAnswer :=
  [.compiled (suite.extendedWith batch) (.ok ()),
    .ran (suite.extendedWith batch) batch (.ok result)]

/-- What becomes of a batch, with the answers of compiler and runner. -/
inductive BatchAnswered (suite : TestSuite) (batch : List TestCase) :
    Except BatchFailure ExecutionResult → List ToolAnswer → Prop where
  /-- The compiler refuses the suite with the batch. -/
  | refused (error : ToolingError) : BatchAnswered suite batch (.error (.compile error))
      [.compiled (suite.extendedWith batch) (.error error)]
  /-- The runner fails. -/
  | broken (error : ToolingError) : BatchAnswered suite batch (.error (.execution error))
      [.compiled (suite.extendedWith batch) (.ok ()),
        .ran (suite.extendedWith batch) batch (.error error)]
  /-- Fewer tests ran than were submitted. -/
  | incomplete (result : ExecutionResult) (few : result.testsRun.size < batch.length) :
      BatchAnswered suite batch (.error (.incomplete result.testsRun.size batch.length))
        (ranWith suite batch result)
  | complete (result : ExecutionResult) (enough : batch.length ≤ result.testsRun.size) :
      BatchAnswered suite batch (.ok result) (ranWith suite batch result)

namespace Orchestrator

variable (orchestrator : Orchestrator σ W)

/-- **Compiling and running a batch** adds the answers to it and nothing else. -/
theorem compileAndRun_yields (suite : TestSuite) (batch : List TestCase) :
    Yields (orchestrator.compileAndRun suite batch) fun answer added =>
      added = { answers := added.answers } ∧ BatchAnswered suite batch answer added.answers := by
  rw [compileAndRun]
  refine (ask_silent rfl _).bind_yields fun compiled => (hear_yields _).bind ?_
  rintro _ _ rfl
  cases compiled with
  | error error =>
      refine Silent.bind_yields (count_silent ?_) fun _ => Yields.pure ⟨rfl, .refused error⟩
      exact fun _ => rfl
  | ok _ =>
      refine (ask_silent rfl _).bind_yields fun ran => (hear_yields _).bind ?_
      rintro _ _ rfl
      cases ran with
      | error error =>
          refine Silent.bind_yields (count_silent ?_) fun _ => Yields.pure ⟨rfl, .broken error⟩
          exact fun _ => rfl
      | ok result =>
          dsimp only
          by_cases few : result.testsRun.size < batch.length
          · rw [if_pos few]
            refine Silent.bind_yields (count_silent ?_) fun _ =>
              Yields.pure ⟨rfl, .incomplete result few⟩
            exact fun _ => rfl
          · rw [if_neg few]
            exact (consult_silent _).bind_yields fun _ =>
              Yields.pure ⟨rfl, .complete result (Nat.le_of_not_lt few)⟩

/-! ## Events, decisions and kept tests -/

theorem announce_yields (event : Event) :
    Yields (orchestrator.announce event) fun _ added => added = { events := [event] } :=
  fun run => ⟨{ events := [event] }, ⟨events_append run [.announced event],
    (List.append_nil _).symm, (List.append_nil _).symm, rfl⟩, rfl⟩

theorem announceExcluded_yields (suite : TestSuite) (tests : List TestCase) :
    Yields (orchestrator.announceExcluded suite tests) fun _ added =>
      added = { events := tests.map fun test => .seedExcluded suite.name test.id } := by
  induction tests with
  | nil => exact Yields.pure rfl
  | cons test rest ih =>
      rw [announceExcluded]
      refine (orchestrator.announce_yields _).bind ?_
      rintro _ _ rfl
      refine ih.weaken ?_
      rintro _ _ rfl
      rfl

/-- A decision is the only thing that it adds. -/
theorem judge_yields (seed : Option TestCase) (candidates : List TestCase) :
    Yields (orchestrator.judge seed candidates) fun kept added =>
      ∃ genealogy, added = { decisions := [⟨seed, candidates, genealogy, kept⟩] } := by
  intro run
  refine ⟨{ decisions := [⟨seed, candidates, run.genealogy, _⟩] }, ?_, run.genealogy, rfl⟩
  have quiet := consult_silent (orchestrator.selector.keep candidates run.genealogy) run
  exact ⟨quiet.events, quiet.answers, orchestrator.judge_decisions seed candidates run,
    quiet.counted⟩

theorem countKept_yields (kept : List TestCase) :
    Yields (countKept kept : Amplify σ W Unit) fun _ added => added = { counted := kept.length } :=
  fun _ => ⟨_, ⟨(List.append_nil _).symm, (List.append_nil _).symm, (List.append_nil _).symm,
    rfl⟩, rfl⟩

end Orchestrator

end TestAmplification
