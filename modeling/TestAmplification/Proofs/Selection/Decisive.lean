import TestAmplification.Proofs.Selection.Session

/-!
# What the baseline says of credited mutants

The baseline remembers mutants in two sets, those that the initial suite kills and those it came to
no reliable result for, and whatever is in neither set can be credited. So the baseline never
speaks against a credit: each of its outcomes for a credited mutant is one of a mutant that survived
or was not reached by any test.

Nothing makes sure that the baseline has an outcome for a credited mutant at all. Every credit
comes from a reply of the engine (`HeardSession.mem_heard`), and a mutant that only a later reply
names is credited like any other (`credit_beyond_baseline`). Whether there is an outcome depends on
the replies alone: there is one for every credited mutant as long as the engine calls no mutant
killed that the baseline does not name (`HeardSession.credits_by_baseline`).
-/

set_option autoImplicit false

namespace TestAmplification

/-- The reliable states other than that of a killed mutant are these two. -/
theorem MutantState.survived_or_noCoverage_iff (state : MutantState) :
    state = .survived ∨ state = .noCoverage ↔ state ≠ .killed ∧ state.isReliable = true := by
  cases state <;> decide

namespace MutationScore

variable {W : Type} (setting : Setting W)

/-! ## Replies of the engine -/

/-- The outcomes that the engine replies with when candidates are decided about. -/
def Setting.outcomesFor (candidates : List TestCase) (selection : Selection MutationScore W) :
    List MutantOutcome :=
  match setting.scoredSuite? selection.state candidates with
  | none => []
  | some suite =>
      match (setting.engine.analyze suite selection.world).1 with
      | .ok outcomes => outcomes
      | .error _ => []

/-- The outcomes that the engine replies with in a step of a session. -/
def Setting.heard (before : Selection MutationScore W) : SessionEvent → List MutantOutcome
  | .decided candidates _ => setting.outcomesFor candidates before
  | _ => []

/-- A session, with all outcomes that the engine replied with in its decisions. -/
inductive HeardSession :
    List SessionEvent → List MutantOutcome → Selection MutationScore W → Prop where
  | start (world : W) (calls : List EngineCall) : HeardSession [] [] ⟨{}, world, calls⟩
  | step {events : List SessionEvent} {heard : List MutantOutcome} {event : SessionEvent}
      {before after : Selection MutationScore W} (session : HeardSession events heard before)
      (step : Step setting before event after) :
      HeardSession (events ++ [event]) (heard ++ setting.heard before event) after

variable {setting} {events : List SessionEvent} {heard : List MutantOutcome}
  {selection : Selection MutationScore W}

theorem HeardSession.session (session : HeardSession setting events heard selection) :
    Session setting events selection := by
  induction session with
  | start world calls => exact .start world calls
  | step _ step ih => exact ih.step step

/-- Every session has its replies. -/
theorem Session.exists_heard (session : Session setting events selection) :
    ∃ heard, HeardSession setting events heard selection := by
  induction session with
  | start world calls => exact ⟨[], .start world calls⟩
  | step _ step ih =>
      obtain ⟨heard, session⟩ := ih
      exact ⟨_, session.step step⟩

/-- A credit that a decision grants comes from the reply to it. -/
theorem credit_of_keep {candidates : List TestCase} {genealogy : Genealogy} {test : TestId}
    {mutant : MutantId} {stored : MutantOutcome}
    (found : (keep setting candidates genealogy selection).2.state.credits.outcome? test mutant =
      some stored) :
    selection.state.credits.outcome? test mutant = some stored ∨
      stored ∈ setting.outcomesFor candidates selection := by
  rcases keep_cases setting candidates genealogy selection with
    ⟨-, same⟩ | ⟨baseline, initial, outcomes, someone, known, active, replied, -, scored⟩
  · rw [same] at found
    exact .inl found
  rw [scored] at found
  have reply : setting.outcomesFor candidates selection = outcomes := by
    rw [Setting.replyTo] at replied
    simp [Setting.outcomesFor, Setting.scoredSuite?, someone, known, active, replied]
  rw [reply]
  refine creditOutcomes_induction (motive := fun credits =>
    credits.outcome? test mutant = some stored →
      selection.state.credits.outcome? test mutant = some stored ∨ stored ∈ outcomes)
    outcomes .inl ?_ found
  intro credits outcome killer member _ earlier granted
  rcases Credits.outcome?_grant_cases granted with old | ⟨-, -, rfl⟩
  · exact earlier old
  · exact .inr member

/-- **Every credit comes from a reply** in one of the decisions of the session. -/
theorem HeardSession.mem_heard (session : HeardSession setting events heard selection)
    {test : TestId} {mutant : MutantId} {stored : MutantOutcome}
    (found : selection.state.credits.outcome? test mutant = some stored) : stored ∈ heard := by
  induction session with
  | start world calls => cases found
  | @step _ _ _ before _ _ step ih =>
      rw [List.mem_append]
      rcases step.cases with ⟨outcomes, -, -, loaded⟩ |
        ⟨candidates, genealogy, rfl, rfl⟩ | ⟨-, -, sameCredits⟩
      · rw [loaded] at found
        exact .inl (ih found)
      · exact (credit_of_keep found).imp_left ih
      · rw [sameCredits] at found
        exact .inl (ih found)

/-! ## The baseline of a session -/

/-- Only one list of outcomes becomes the baseline. -/
theorem Session.loaded_unique (session : Session setting events selection)
    {first second : List MutantOutcome} (one : SessionEvent.loaded first ∈ events)
    (other : SessionEvent.loaded second ∈ events) : first = second := by
  induction session with
  | start => cases one
  | @step earlier event before after session step ih =>
      -- After an outcome list was loaded, no step loads another.
      have late {outcomes others : List MutantOutcome}
          (loaded : SessionEvent.loaded outcomes ∈ earlier) : event ≠ .loaded others := by
        rintro rfl
        have known := session.invariant.baselineOf outcomes loaded
        rcases step.cases with ⟨_, -, missing, -⟩ | ⟨_, _, same, -⟩ | ⟨same, -⟩
        · rw [missing] at known
          cases known
        · cases same
        · cases same
      rcases List.mem_append.1 one with early | last <;>
        rcases List.mem_append.1 other with alsoEarly | alsoLast
      · exact ih early alsoEarly
      · exact absurd (List.mem_singleton.1 alsoLast).symm (late early)
      · exact absurd (List.mem_singleton.1 last).symm (late alsoEarly)
      · have same := (List.mem_singleton.1 last).trans (List.mem_singleton.1 alsoLast).symm
        exact SessionEvent.loaded.inj same

/-- **What the baseline says of a credited mutant.** After any session in which a test is credited
with a mutant, one list of outcomes has become the baseline. In each of its outcomes for the
mutant, the mutant survived or was not reached. The credit comes from a kill of the mutant by the
test that the engine replied with. If the baseline has outcomes for all mutants that the engine
called killed in its replies, it has one for the credited mutant. -/
theorem HeardSession.credits_by_baseline (session : HeardSession setting events heard selection)
    (test : TestId) (mutant : MutantId)
    (credited : selection.state.credits.holds test mutant = true) :
    ∃ baseline, (∀ outcomes, SessionEvent.loaded outcomes ∈ events ↔ outcomes = baseline) ∧
      (∀ outcome ∈ baseline, outcome.mutant = mutant →
        outcome.state = .survived ∨ outcome.state = .noCoverage) ∧
      (∃ kill ∈ heard, kill.mutant = mutant ∧ kill.state = .killed ∧
        kill.killingTest = some test) ∧
      ((∀ kill ∈ heard, kill.state = .killed →
          ∃ outcome ∈ baseline, outcome.mutant = kill.mutant) →
        ∃ outcome ∈ baseline, outcome.mutant = mutant ∧
          (outcome.state = .survived ∨ outcome.state = .noCoverage)) := by
  obtain ⟨stored, found⟩ := (Credits.holds_iff _ _ _).1 credited
  have inOrder := session.session.invariant.inOrder test mutant stored found
  obtain ⟨baseline, loaded⟩ := inOrder.loaded
  have undecided (outcome : MutantOutcome) (member : outcome ∈ baseline)
      (same : outcome.mutant = mutant) : outcome.state = .survived ∨ outcome.state = .noCoverage :=
    (MutantState.survived_or_noCoverage_iff _).2
      (inOrder.undecided baseline loaded outcome member same)
  have replied := session.mem_heard found
  refine ⟨baseline, fun outcomes => ⟨fun also => ?_, fun same => same ▸ loaded⟩, undecided,
    ⟨stored, replied, inOrder.sameMutant, inOrder.killed, inOrder.killer⟩, fun named => ?_⟩
  · exact session.session.loaded_unique also loaded
  · obtain ⟨outcome, member, same⟩ := named stored replied inOrder.killed
    have own := same.trans inOrder.sameMutant
    exact ⟨outcome, member, own, undecided outcome member own⟩

/-- A session whose one decision credits the one candidate with the one mutant of the baseline,
which survived there. -/
theorem HeardSession.credit_of_survivor :
    let test := TestCase.plain ⟨"Suite", "testAdded"⟩ "check()"
    let survivor : MutantOutcome := ⟨default, .survived, none⟩
    ∃ selection heard, HeardSession (.everyTestKills default)
        [.loaded [survivor], .passed, .decided [test] [test]] heard selection ∧
      selection.state.credits.holds test.id default = true ∧
      ∃ kill ∈ heard, kill.mutant = default ∧ kill.state = .killed ∧
        kill.killingTest = some test.id := by
  intro test survivor
  have start : HeardSession (.everyTestKills default) [] [] ⟨{}, (), []⟩ := .start () []
  have loaded := start.step (.load _ [survivor] rfl)
  have nominated := loaded.step (.nominate _ ⟨"Suite", [], []⟩ [test])
  have decided := nominated.step (.keep _ [test] .empty)
  obtain ⟨_, -, -, replied, -⟩ := decided.credits_by_baseline test.id default (by decide)
  exact ⟨_, _, decided, by decide, replied⟩

/-- **A credit for a mutant that the baseline does not name.** The baseline names one mutant,
which survived. The engine then calls another one killed, at a different line, and the
killer is credited with it. -/
theorem credit_beyond_baseline :
    let test := TestCase.plain ⟨"Suite", "testAdded"⟩ "check()"
    let baseline : List MutantOutcome := [⟨⟨"NEGATE", "Account", "debit", 3⟩, .survived, none⟩]
    let mutant : MutantId := ⟨"NEGATE", "Account", "debit", 9⟩
    ∃ selection, Session (.everyTestKills mutant)
        [.loaded baseline, .passed, .decided [test] [test]] selection ∧
      selection.state.credits.holds test.id mutant = true ∧
      ∀ outcome ∈ baseline, outcome.mutant ≠ mutant := by
  intro test baseline mutant
  have start : Session (.everyTestKills mutant) [] ⟨{}, (), []⟩ := .start () []
  have loaded := start.step (.load _ baseline rfl)
  have nominated := loaded.step (.nominate _ ⟨"Suite", [], []⟩ [test])
  have decided := nominated.step (.keep _ [test] .empty)
  exact ⟨_, decided, by decide, by decide⟩

end MutationScore

end TestAmplification
