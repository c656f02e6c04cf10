import TestAmplification.Proofs.Selection.Steps

/-!
# Sessions with the selector by mutation score

A session is any sequence of calls to one selector, with any suites, candidates
and genealogies and with whatever the engine replies. The baseline comes in once,
from the engine or from outside; everything else may come as often and in
whatever order it likes. The events of a session say which outcomes became
the baseline and which candidates each decision kept.

A step can bring the baseline, decide about candidates, or leave baseline and
credits alone (`Step.cases`). Every credit of a session is therefore earned by
a kept candidate, and it stays what it is (`Session.every_credit_is_earned_and_stays`).

An open session is one in which outcomes may become the baseline at any time, also in place of
earlier ones. Every session is an open one. The baseline of an open session is that of the last
outcomes (`OpenSession.baseline_eq`), and no test is ever listed without a credit
(`OpenSession.noneEmpty`).
-/

set_option autoImplicit false

namespace TestAmplification

namespace MutationScore

/-! ## Steps and sessions -/

/-- What one step of a session means for the credits. -/
inductive SessionEvent where
  /-- The outcomes became the baseline. -/
  | loaded (outcomes : List MutantOutcome)
  /-- The selector decided which of the candidates to keep. -/
  | decided (candidates kept : List TestCase)
  /-- Something else happened. -/
  | passed

variable {W : Type} (setting : Setting W)

/-- The steps of a session. Between the calls of the selector the world may become
any other. -/
inductive Step : Selection MutationScore W → SessionEvent → Selection MutationScore W → Prop where
  /-- Outcomes from outside become the baseline, if there is none. -/
  | load (selection : Selection MutationScore W) (outcomes : List MutantOutcome)
      (missing : selection.state.baseline = none) :
      Step selection (.loaded outcomes)
        { selection with state := selection.state.loadBaseline outcomes }
  /-- The engine gives the baseline that was missing. -/
  | fetch (selection : Selection MutationScore W) (outcomes : List MutantOutcome)
      (missing : selection.state.baseline = none)
      (replied : (setting.engine.baseline selection.world).1 = .ok outcomes) :
      Step selection (.loaded outcomes) ((selector setting).init selection).2
  /-- The preparation finds a baseline, or the engine has none to give. -/
  | init (selection : Selection MutationScore W)
      (noBaseline : selection.state.baseline = none →
        ∃ error, (setting.engine.baseline selection.world).1 = .error error) :
      Step selection .passed ((selector setting).init selection).2
  | reset (selection : Selection MutationScore W) :
      Step selection .passed ((selector setting).reset selection).2
  | nominate (selection : Selection MutationScore W) (suite : TestSuite)
      (tests : List TestCase) :
      Step selection .passed ((selector setting).nominate suite tests selection).2
  | keep (selection : Selection MutationScore W) (candidates : List TestCase)
      (genealogy : Genealogy) :
      Step selection
        (.decided candidates ((selector setting).keep candidates genealogy selection).1)
        ((selector setting).keep candidates genealogy selection).2
  | update (selection : Selection MutationScore W) :
      Step selection .passed ((selector setting).update selection).2
  | report (selection : Selection MutationScore W) (genealogy : Genealogy) :
      Step selection .passed ((selector setting).report genealogy selection).2
  /-- The world changes between two calls. -/
  | elsewhere (selection : Selection MutationScore W) (world : W) :
      Step selection .passed { selection with world }

/-- The selections that a session comes to, with the events on the way. -/
inductive Session : List SessionEvent → Selection MutationScore W → Prop where
  | start (world : W) (calls : List EngineCall) : Session [] ⟨{}, world, calls⟩
  | step {events : List SessionEvent} {event : SessionEvent}
      {before after : Selection MutationScore W} (session : Session events before)
      (step : Step setting before event after) : Session (events ++ [event]) after

variable {setting}

/-- **What a step can do.** It brings the baseline that was missing, it decides about
candidates, or it leaves the baseline and the credits alone. -/
theorem Step.cases {before after : Selection MutationScore W} {event : SessionEvent}
    (step : Step setting before event after) :
    (∃ outcomes, event = .loaded outcomes ∧ before.state.baseline = none ∧
      after.state = before.state.loadBaseline outcomes) ∨
    (∃ candidates genealogy, event = .decided candidates
        (MutationScore.keep setting candidates genealogy before).1 ∧
      after = (MutationScore.keep setting candidates genealogy before).2) ∨
    (event = .passed ∧ after.state.baseline = before.state.baseline ∧
      after.state.credits = before.state.credits) := by
  cases step with
  | load outcomes missing => exact .inl ⟨outcomes, rfl, missing, rfl⟩
  | fetch outcomes missing replied =>
      left
      refine ⟨outcomes, rfl, missing, ?_⟩
      simp [selector, prepare, missing, replied]
  | init noBaseline =>
      right; right
      refine ⟨rfl, ?_⟩
      rcases prepare_cases setting before with same | ⟨outcomes, missing, replied, -⟩
      · simp [selector, same]
      · obtain ⟨error, refused⟩ := noBaseline missing
        rw [replied] at refused
        cases refused
  | reset => exact .inr (.inr ⟨rfl, rfl, rfl⟩)
  | nominate suite tests =>
      right; right
      refine ⟨rfl, ?_⟩
      simp only [selector, StateM.bind_apply, StateM.pure_apply, Select.modifyState_apply, enter]
      split <;> exact ⟨rfl, rfl⟩
  | keep candidates genealogy => exact .inr (.inl ⟨candidates, genealogy, rfl, rfl⟩)
  | update => exact .inr (.inr ⟨rfl, rfl, rfl⟩)
  | report genealogy =>
      right; right
      refine ⟨rfl, ?_⟩
      rcases report_cases setting genealogy before with
        ⟨-, -, same⟩ | ⟨suite, -, ⟨error, -, -, same⟩ | ⟨kills, -, -, closed⟩⟩
      · simp [selector, same]
      · simp [selector, same]
      · simp [selector, closed, close]
  | elsewhere world => exact .inr (.inr ⟨rfl, rfl, rfl⟩)

/-! ## The invariant -/

/-- The credit of a test for a mutant is in order: its outcome is a kill of the mutant
by the test, a decision has kept the test, and the baseline leaves the mutant to
others. -/
structure InOrder (events : List SessionEvent) (test : TestId) (mutant : MutantId)
    (outcome : MutantOutcome) : Prop where
  sameMutant : outcome.mutant = mutant
  killed : outcome.state = .killed
  killer : outcome.killingTest = some test
  kept : ∃ candidates kept, SessionEvent.decided candidates kept ∈ events ∧
    test ∈ candidates.map TestCase.id ∧ test ∈ kept.map TestCase.id
  loaded : ∃ outcomes, SessionEvent.loaded outcomes ∈ events
  undecided : ∀ outcomes, SessionEvent.loaded outcomes ∈ events → ∀ other ∈ outcomes,
    other.mutant = mutant → other.state ≠ .killed ∧ other.state.isReliable = true

/-- What holds after the events of a session. -/
structure SessionInvariant (events : List SessionEvent) (state : MutationScore) : Prop where
  inOrder : ∀ test mutant outcome, state.credits.outcome? test mutant = some outcome →
    InOrder events test mutant outcome
  noneEmpty : state.credits.NoneEmpty
  baselineOf : ∀ outcomes, SessionEvent.loaded outcomes ∈ events →
    state.baseline = some (.ofOutcomes outcomes)
  loaded : ∀ baseline, state.baseline = some baseline →
    ∃ outcomes, SessionEvent.loaded outcomes ∈ events
  uncredited : state.baseline = none → state.credits = ∅

variable {events : List SessionEvent} {event : SessionEvent}

theorem loaded_of_mem_append {outcomes : List MutantOutcome}
    (notLoaded : ∀ others, event ≠ .loaded others)
    (member : SessionEvent.loaded outcomes ∈ events ++ [event]) :
    SessionEvent.loaded outcomes ∈ events := by
  rcases List.mem_append.1 member with earlier | last
  · exact earlier
  · exact absurd (List.mem_singleton.1 last).symm (notLoaded outcomes)

/-- A credit stays in order as long as the baseline stays. -/
theorem InOrder.append {test : TestId} {mutant : MutantId} {outcome : MutantOutcome}
    (inOrder : InOrder events test mutant outcome)
    (notLoaded : ∀ others, event ≠ .loaded others) :
    InOrder (events ++ [event]) test mutant outcome := by
  obtain ⟨candidates, kept, decided, candidate, survives⟩ := inOrder.kept
  obtain ⟨outcomes, loaded⟩ := inOrder.loaded
  refine { inOrder with
    kept := ⟨candidates, kept, List.mem_append_left _ decided, candidate, survives⟩
    loaded := ⟨outcomes, List.mem_append_left _ loaded⟩
    undecided := ?_ }
  intro others member
  exact inOrder.undecided others (loaded_of_mem_append notLoaded member)

namespace SessionInvariant

variable {before after : MutationScore}

theorem start : SessionInvariant [] {} where
  inOrder _ _ _ found := by cases found
  noneEmpty := Credits.noneEmpty_empty
  baselineOf _ member := by cases member
  loaded _ known := by cases known
  uncredited _ := rfl

/-- The invariant survives the arrival of the baseline, which finds no credits. -/
theorem load (invariant : SessionInvariant events before) (outcomes : List MutantOutcome)
    (missing : before.baseline = none) :
    SessionInvariant (events ++ [.loaded outcomes]) (before.loadBaseline outcomes) := by
  have noCredits := invariant.uncredited missing
  refine ⟨?_, ?_, ?_, ?_, ?_⟩
  · intro test mutant outcome found
    rw [loadBaseline, noCredits] at found
    cases found
  · exact invariant.noneEmpty
  · intro others member
    rcases List.mem_append.1 member with earlier | last
    · have known := invariant.baselineOf others earlier
      rw [missing] at known
      cases known
    · cases List.mem_singleton.1 last
      rfl
  · intro baseline _
    exact ⟨outcomes, List.mem_append_right _ (List.mem_singleton.2 rfl)⟩
  · intro unknown
    cases unknown

/-- A step that leaves the baseline keeps the invariant when the credits that it
adds are in order. -/
theorem grow (invariant : SessionInvariant events before)
    (notLoaded : ∀ others, event ≠ .loaded others)
    (sameBaseline : after.baseline = before.baseline)
    (inOrder : ∀ test mutant outcome, after.credits.outcome? test mutant = some outcome →
      before.credits.outcome? test mutant = some outcome ∨
        InOrder (events ++ [event]) test mutant outcome)
    (noneEmpty : after.credits.NoneEmpty)
    (uncredited : before.baseline = none → after.credits = before.credits) :
    SessionInvariant (events ++ [event]) after := by
  refine ⟨?_, noneEmpty, ?_, ?_, ?_⟩
  · intro test mutant outcome found
    rcases inOrder test mutant outcome found with old | new
    · exact (invariant.inOrder test mutant outcome old).append notLoaded
    · exact new
  · intro outcomes member
    rw [sameBaseline]
    exact invariant.baselineOf outcomes (loaded_of_mem_append notLoaded member)
  · intro baseline known
    rw [sameBaseline] at known
    obtain ⟨outcomes, member⟩ := invariant.loaded baseline known
    exact ⟨outcomes, List.mem_append_left _ member⟩
  · intro missing
    rw [sameBaseline] at missing
    rw [uncredited missing, invariant.uncredited missing]

/-- A decision keeps the invariant: whoever earns a credit is kept. -/
theorem keep (setting : Setting W) (candidates : List TestCase) (genealogy : Genealogy)
    (selection : Selection MutationScore W)
    (invariant : SessionInvariant events selection.state) :
    SessionInvariant
      (events ++
        [.decided candidates (MutationScore.keep setting candidates genealogy selection).1])
      (MutationScore.keep setting candidates genealogy selection).2.state := by
  have notLoaded : ∀ others, SessionEvent.decided candidates
      (MutationScore.keep setting candidates genealogy selection).1 ≠ .loaded others := by
    intro others same
    cases same
  rcases keep_cases setting candidates genealogy selection with
    ⟨-, same⟩ | ⟨baseline, initial, outcomes, -, known, -, -, kept, scored⟩
  · rw [same]
    exact invariant.grow notLoaded rfl (fun _ _ _ => .inl) invariant.noneEmpty fun _ => rfl
  · rw [scored]
    refine invariant.grow notLoaded rfl ?_ (noneEmpty_creditOutcomes _ invariant.noneEmpty) ?_
    · intro test mutant outcome found
      rcases outcome?_creditOutcomes_cases outcomes found with old |
        ⟨earner, sameMutant, credits, earns⟩
      · exact .inl old
      · right
        obtain ⟨candidate, offered, rfl⟩ := earns.candidate
        obtain ⟨baselineOutcomes, loaded⟩ := invariant.loaded baseline known
        refine ⟨sameMutant, earns.killed, earns.named, ?_,
          ⟨baselineOutcomes, List.mem_append_left _ loaded⟩, ?_⟩
        · refine ⟨candidates, _, List.mem_append_right _ (List.mem_singleton.2 rfl),
            List.mem_map_of_mem offered, ?_⟩
          rw [kept]
          refine List.mem_map_of_mem (List.mem_filter.2 ⟨offered, ?_⟩)
          exact List.contains_iff_mem.2 earner
        · -- The mutant was creditable by the only baseline that was ever loaded.
          intro others member
          have same := invariant.baselineOf others (loaded_of_mem_append notLoaded member)
          rw [known] at same
          have creditable := earns.creditable
          rw [Option.some.inj same, sameMutant] at creditable
          exact (Baseline.isCreditable_ofOutcomes others mutant).1 creditable
    · intro missing
      rw [known] at missing
      cases missing

theorem step {before after : Selection MutationScore W}
    (invariant : SessionInvariant events before.state) (step : Step setting before event after) :
    SessionInvariant (events ++ [event]) after.state := by
  rcases step.cases with ⟨outcomes, rfl, missing, loaded⟩ |
    ⟨candidates, genealogy, rfl, rfl⟩ | ⟨rfl, sameBaseline, sameCredits⟩
  · rw [loaded]
    exact invariant.load outcomes missing
  · exact keep setting candidates genealogy before invariant
  · refine invariant.grow ?_ sameBaseline ?_ ?_ fun _ => sameCredits
    · intro others same
      cases same
    · intro test mutant outcome found
      rw [sameCredits] at found
      exact .inl found
    · rw [sameCredits]
      exact invariant.noneEmpty

end SessionInvariant

theorem Session.invariant {selection : Selection MutationScore W}
    (session : Session setting events selection) : SessionInvariant events selection.state := by
  induction session with
  | start world calls => exact .start
  | step _ step ih => exact ih.step step

/-- No step takes a credit away or replaces its outcome. -/
theorem Step.outcome?_of_some {before after : Selection MutationScore W}
    (step : Step setting before event after) {test : TestId} {mutant : MutantId}
    {outcome : MutantOutcome}
    (found : before.state.credits.outcome? test mutant = some outcome) :
    after.state.credits.outcome? test mutant = some outcome := by
  rcases step.cases with ⟨outcomes, -, -, loaded⟩ |
    ⟨candidates, genealogy, -, rfl⟩ | ⟨-, -, sameCredits⟩
  · rw [loaded]
    exact found
  · rcases keep_cases setting candidates genealogy before with
      ⟨-, same⟩ | ⟨baseline, initial, outcomes, -, -, -, -, -, scored⟩
    · rw [same]
      exact found
    · rw [scored]
      exact outcome?_creditOutcomes_of_some outcomes found
  · rw [sameCredits]
    exact found

/-! ## Every credit is earned -/

/-- **Every credit is earned and stays.** After any session each credit is in order
and no test is listed without one, and no further step takes a credit away or replaces
its outcome. -/
theorem Session.every_credit_is_earned_and_stays {selection : Selection MutationScore W}
    (session : Session setting events selection) :
    (∀ test mutant outcome, selection.state.credits.outcome? test mutant = some outcome →
      InOrder events test mutant outcome) ∧
    selection.state.credits.NoneEmpty ∧
    ∀ event after, Step setting selection event after →
      ∀ test mutant outcome, selection.state.credits.outcome? test mutant = some outcome →
        after.state.credits.outcome? test mutant = some outcome := by
  have invariant := session.invariant
  refine ⟨invariant.inOrder, invariant.noneEmpty, ?_⟩
  intro event after step test mutant outcome found
  exact step.outcome?_of_some found

/-- A session that ends with a credit: the one candidate of its one decision kills a
mutant. -/
theorem Session.credit_of_first_decision :
    let test := TestCase.plain ⟨"Suite", "testAdded"⟩ "check()"
    let decision := SessionEvent.decided [test] [test]
    ∃ selection, Session (.everyTestKills default) [.loaded [], .passed, decision] selection ∧
      InOrder [.loaded [], .passed, decision] test.id default (.killedBy default test.id) := by
  intro test decision
  have start : Session (.everyTestKills default) [] ⟨{}, (), []⟩ := .start () []
  have loaded := start.step (.load _ [] rfl)
  have nominated := loaded.step (.nominate _ ⟨"Suite", [], []⟩ [test])
  have decided := nominated.step (.keep _ [test] .empty)
  exact ⟨_, decided, decided.every_credit_is_earned_and_stays.1 test.id default _ (by decide)⟩

/-! ## Changing baselines -/

variable (setting) in
/-- The selections that an open session comes to, with the events on the way. -/
inductive OpenSession : List SessionEvent → Selection MutationScore W → Prop where
  | start (world : W) (calls : List EngineCall) : OpenSession [] ⟨{}, world, calls⟩
  /-- Outcomes become the baseline, in place of earlier ones if there are any. -/
  | reload {events : List SessionEvent} {selection : Selection MutationScore W}
      (session : OpenSession events selection) (outcomes : List MutantOutcome) :
      OpenSession (events ++ [.loaded outcomes])
        { selection with state := selection.state.loadBaseline outcomes }
  | step {events : List SessionEvent} {event : SessionEvent}
      {before after : Selection MutationScore W} (session : OpenSession events before)
      (step : Step setting before event after) : OpenSession (events ++ [event]) after

/-- The outcomes that an event brings as a baseline. -/
def SessionEvent.outcomes? : SessionEvent → Option (List MutantOutcome)
  | loaded outcomes => some outcomes
  | _ => none

/-- The outcomes that became the baseline last. -/
def lastLoaded? (events : List SessionEvent) : Option (List MutantOutcome) :=
  (events.filterMap SessionEvent.outcomes?).getLast?

@[simp] theorem lastLoaded?_append_loaded (events : List SessionEvent)
    (outcomes : List MutantOutcome) :
    lastLoaded? (events ++ [.loaded outcomes]) = some outcomes := by
  simp [lastLoaded?, SessionEvent.outcomes?]

theorem lastLoaded?_append_of_none {event : SessionEvent} (nothing : event.outcomes? = none)
    (events : List SessionEvent) : lastLoaded? (events ++ [event]) = lastLoaded? events := by
  simp [lastLoaded?, nothing]

variable {selection : Selection MutationScore W}

theorem Session.isOpen (session : Session setting events selection) :
    OpenSession setting events selection := by
  induction session with
  | start world calls => exact .start world calls
  | step _ step ih => exact ih.step step

/-- **The baseline** is that of the outcomes that came last. -/
theorem OpenSession.baseline_eq (session : OpenSession setting events selection) :
    selection.state.baseline = (lastLoaded? events).map Baseline.ofOutcomes := by
  induction session with
  | start => rfl
  | reload _ outcomes => simp [loadBaseline]
  | @step _ _ before _ _ step ih =>
      rcases step.cases with ⟨outcomes, rfl, -, loaded⟩ |
        ⟨candidates, genealogy, rfl, rfl⟩ | ⟨rfl, sameBaseline, -⟩
      · simp [loaded, loadBaseline]
      · rw [(keep_leaves setting candidates genealogy before).1, ih,
          lastLoaded?_append_of_none rfl]
      · rw [sameBaseline, ih, lastLoaded?_append_of_none rfl]

theorem noneEmpty_keep (candidates : List TestCase) (genealogy : Genealogy)
    (noneEmpty : selection.state.credits.NoneEmpty) :
    (keep setting candidates genealogy selection).2.state.credits.NoneEmpty := by
  rcases keep_cases setting candidates genealogy selection with
    ⟨-, same⟩ | ⟨_, _, outcomes, -, -, -, -, -, scored⟩
  · rw [same]
    exact noneEmpty
  · rw [scored]
    exact noneEmpty_creditOutcomes outcomes noneEmpty

/-- **No test is listed without a credit.** -/
theorem OpenSession.noneEmpty (session : OpenSession setting events selection) :
    selection.state.credits.NoneEmpty := by
  induction session with
  | start => exact Credits.noneEmpty_empty
  | reload _ _ ih => exact ih
  | step _ step ih =>
      rcases step.cases with ⟨outcomes, -, -, loaded⟩ |
        ⟨candidates, genealogy, -, rfl⟩ | ⟨-, -, sameCredits⟩
      · rw [loaded]
        exact ih
      · exact noneEmpty_keep candidates genealogy ih
      · rw [sameCredits]
        exact ih

end MutationScore

end TestAmplification
