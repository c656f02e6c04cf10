import TestAmplification.Proofs.Selection.Credits
import TestAmplification.Proofs.Steps

/-!
# What the steps of the selector change

Each operation of the selector by mutation score, with what it leaves alone. The
preparation can only bring a baseline (`prepare_cases`), a nomination can only
note the suite, and a report can only close it (`report_cases`). Credits change
in a decision alone: it either scores the candidates with a reply of the engine,
or it keeps nothing and changes nothing (`keep_cases`). Which suite it asks the engine
about depends on the state alone (`keep_calls`).
-/

set_option autoImplicit false

namespace TestAmplification

/-! ## Runs of single steps -/

namespace Select

variable {σ W α : Type}

@[simp] theorem state_apply (selection : Selection σ W) :
    Select.state selection = (selection.state, selection) := rfl

@[simp] theorem modifyState_apply (change : σ → σ) (selection : Selection σ W) :
    Select.modifyState change selection =
      (⟨⟩, { selection with state := change selection.state }) := rfl

@[simp] theorem onWorld_apply (action : StateM W α) (selection : Selection σ W) :
    (Select.onWorld action : Select σ W α) selection =
      ((action selection.world).1, { selection with world := (action selection.world).2 }) := rfl

@[simp] theorem ask_apply (call : EngineCall) (action : StateM W α) (selection : Selection σ W) :
    (Select.ask call action : Select σ W α) selection =
      ((action selection.world).1, { selection with
        world := (action selection.world).2
        calls := selection.calls ++ [call] }) := rfl

end Select

/-- The suite that a question to the engine is about. -/
def EngineCall.suite? : EngineCall → Option TestSuite
  | baseline => none
  | suite asked => some asked

namespace MutationScore

variable {W : Type} (setting : Setting W)

/-- What the engine says of candidates for the initial suite. -/
def Setting.replyTo (initial : TestSuite) (candidates : List TestCase) (world : W) :
    Except ToolingError (List MutantOutcome) :=
  (setting.engine.analyze
    ((initial.withoutTests setting.isTest).extendedWith candidates) world).1

/-- A setting in which every test of an analyzed suite kills one and the same
mutant. -/
def Setting.everyTestKills (mutant : MutantId) : Setting Unit where
  engine := {
    baseline := return .ok []
    analyze suite := return .ok (suite.methods.map fun test => .killedBy mutant test.id) }
  isTest := namedFrom "test"
  outputDirectory := "reports"
  publish _ _ := return .ok ()

/-! ## Preparation, nomination and report -/

/-- The preparation leaves the state as it is, or it fetches the baseline that
was missing. -/
theorem prepare_cases (selection : Selection MutationScore W) :
    (prepare setting selection).2.state = selection.state ∨
      ∃ outcomes, selection.state.baseline = none ∧
        (setting.engine.baseline selection.world).1 = .ok outcomes ∧
        (prepare setting selection).2.state = selection.state.loadBaseline outcomes := by
  cases known : selection.state.baseline with
  | some baseline =>
      left
      simp [prepare, known]
  | none =>
      cases replied : (setting.engine.baseline selection.world).1 with
      | error error =>
          left
          simp [prepare, known, replied]
      | ok outcomes =>
          right
          refine ⟨outcomes, rfl, rfl, ?_⟩
          simp [prepare, known, replied]

/-- A preparation that ends well leaves a baseline. -/
theorem baseline_of_prepare {selection : Selection MutationScore W}
    (prepared : (prepare setting selection).1 = .ok ()) :
    (prepare setting selection).2.state.baseline.isSome = true := by
  cases known : selection.state.baseline with
  | some baseline => simp [prepare, known]
  | none =>
      cases replied : (setting.engine.baseline selection.world).1 with
      | error error => simp [prepare, known, replied] at prepared
      | ok outcomes => simp [prepare, known, replied, loadBaseline]

theorem currentSuite_prepare (selection : Selection MutationScore W) :
    (prepare setting selection).2.state.currentSuite = selection.state.currentSuite := by
  rcases prepare_cases setting selection with same | ⟨outcomes, -, -, loaded⟩
  · rw [same]
  · rw [loaded, loadBaseline]

/-- The preparation asks about no suite. -/
theorem suites_prepare (selection : Selection MutationScore W) :
    (prepare setting selection).2.calls.filterMap EngineCall.suite? =
      selection.calls.filterMap EngineCall.suite? := by
  cases known : selection.state.baseline with
  | some baseline => simp [prepare, known]
  | none =>
      cases replied : (setting.engine.baseline selection.world).1 <;>
        simp [prepare, known, replied, EngineCall.suite?]

/-- A nomination notes the suite when there is a test to amplify and none is noted yet. -/
theorem currentSuite_enter (state : MutationScore) (suite : TestSuite) (tests : List TestCase) :
    (state.enter suite tests).currentSuite =
      if tests.isEmpty then state.currentSuite else some (state.currentSuite.getD suite) := by
  rw [enter]
  cases tests with
  | nil => simp
  | cons test rest => cases active : state.currentSuite <;> simp [active]

theorem baseline_enter (state : MutationScore) (suite : TestSuite) (tests : List TestCase) :
    (state.enter suite tests).baseline = state.baseline := by
  rw [enter]
  split <;> rfl

theorem phase_enter (state : MutationScore) (suite : TestSuite) (tests : List TestCase) :
    (state.enter suite tests).phase = state.phase := by
  rw [enter]
  split <;> rfl

theorem publishAll_error_ne (publish : Path → String → StateM W (Except String Unit))
    (files : List (Path × String)) (world : W) :
    (publishAll publish files world).1 ≠ .error .noActiveSuite := by
  induction files generalizing world with
  | nil => exact nofun
  | cons file rest ih =>
      rw [publishAll]
      cases written : (publish file.1 file.2 world).1 with
      | error source => simp [written]
      | ok _ => simpa [written] using ih _

/-- **What a report does.** Without a suite it is refused. With one it fails for another
reason and changes nothing, or it reports the kills and closes the suite. -/
theorem report_cases (genealogy : Genealogy) (selection : Selection MutationScore W) :
    (selection.state.currentSuite = none ∧
        (report setting genealogy selection).1 = .error .noActiveSuite ∧
        (report setting genealogy selection).2.state = selection.state) ∨
      ∃ suite, selection.state.currentSuite = some suite ∧
        ((∃ error, error ≠ .noActiveSuite ∧
            (report setting genealogy selection).1 = .error error ∧
            (report setting genealogy selection).2.state = selection.state) ∨
          ∃ kills, selection.state.killReport suite.name genealogy = .ok kills ∧
            (report setting genealogy selection).1 =
              .ok (reportOn kills ((kills.files setting.outputDirectory).map Prod.fst)) ∧
            (report setting genealogy selection).2.state = selection.state.close) := by
  cases active : selection.state.currentSuite with
  | none =>
      left
      simp [report, active]
  | some suite =>
      right
      refine ⟨suite, rfl, ?_⟩
      cases reported : selection.state.killReport suite.name genealogy with
      | error overflow =>
          left
          refine ⟨.overflow overflow, nofun, ?_⟩
          simp [report, active, reported]
      | ok kills =>
          cases written : (publishAll setting.publish (kills.files setting.outputDirectory)
              selection.world).1 with
          | error error =>
              left
              refine ⟨error, ?_, ?_⟩
              · rintro rfl
                exact publishAll_error_ne _ _ _ written
              · simp [report, active, reported, written]
          | ok done =>
              right
              refine ⟨kills, rfl, ?_⟩
              simp [report, active, reported, written]

/-- A report asks the engine nothing. -/
theorem report_calls (genealogy : Genealogy) (selection : Selection MutationScore W) :
    (report setting genealogy selection).2.calls = selection.calls := by
  cases active : selection.state.currentSuite with
  | none => simp [report, active]
  | some suite =>
      cases reported : selection.state.killReport suite.name genealogy with
      | error overflow => simp [report, active, reported]
      | ok kills =>
          cases written : (publishAll setting.publish (kills.files setting.outputDirectory)
              selection.world).1 <;>
            simp [report, active, reported, written]

/-! ## Decisions -/

/-- The engine's outcomes for the candidates are credited, and the earners are kept. -/
theorem keep_of_reply {candidates : List TestCase} {selection : Selection MutationScore W}
    {baseline : Baseline} {initial : TestSuite} {outcomes : List MutantOutcome}
    (offered : candidates ≠ []) (known : selection.state.baseline = some baseline)
    (active : selection.state.currentSuite = some initial)
    (replied : setting.replyTo initial candidates selection.world = .ok outcomes)
    (genealogy : Genealogy) :
    (keep setting candidates genealogy selection).1 = candidates.filter (fun candidate =>
        (creditOutcomes baseline genealogy candidates outcomes
          selection.state.credits).2.contains candidate.id) ∧
      (keep setting candidates genealogy selection).2.state =
        { selection.state with
          credits := (creditOutcomes baseline genealogy candidates outcomes
            selection.state.credits).1
          phase := .scoring } := by
  rw [Setting.replyTo] at replied
  simp [keep, offered, known, active, replied, -List.contains_eq_mem]

/-- **What a decision does.** It keeps nothing and changes nothing, or the engine came
to outcomes for the candidates: then these are credited, and the earners are
kept. -/
theorem keep_cases (candidates : List TestCase) (genealogy : Genealogy)
    (selection : Selection MutationScore W) :
    ((keep setting candidates genealogy selection).1 = [] ∧
        (keep setting candidates genealogy selection).2.state = selection.state) ∨
      ∃ baseline initial outcomes, candidates ≠ [] ∧
        selection.state.baseline = some baseline ∧
        selection.state.currentSuite = some initial ∧
        setting.replyTo initial candidates selection.world = .ok outcomes ∧
        (keep setting candidates genealogy selection).1 = candidates.filter (fun candidate =>
          (creditOutcomes baseline genealogy candidates outcomes
            selection.state.credits).2.contains candidate.id) ∧
        (keep setting candidates genealogy selection).2.state =
          { selection.state with
            credits := (creditOutcomes baseline genealogy candidates outcomes
              selection.state.credits).1
            phase := .scoring } := by
  by_cases nobody : candidates.isEmpty = true
  · left
    simp [keep, nobody]
  cases known : selection.state.baseline with
  | none =>
      left
      simp [keep, nobody, known]
  | some baseline =>
      cases active : selection.state.currentSuite with
      | none =>
          left
          simp [keep, nobody, known, active]
      | some initial =>
          cases replied : setting.replyTo initial candidates selection.world with
          | error error =>
              left
              rw [Setting.replyTo] at replied
              simp [keep, nobody, known, active, replied]
          | ok outcomes =>
              have offered : candidates ≠ [] := by simpa using nobody
              exact .inr ⟨baseline, initial, outcomes, offered, rfl, rfl, replied,
                keep_of_reply setting offered known active replied genealogy⟩

/-- A decision leaves the baseline and the noted suite as they are. -/
theorem keep_leaves (candidates : List TestCase) (genealogy : Genealogy)
    (selection : Selection MutationScore W) :
    (keep setting candidates genealogy selection).2.state.baseline = selection.state.baseline ∧
      (keep setting candidates genealogy selection).2.state.currentSuite =
        selection.state.currentSuite := by
  rcases keep_cases setting candidates genealogy selection with ⟨-, same⟩ |
    ⟨_, _, _, -, -, -, -, -, same⟩
  · rw [same]
    exact ⟨rfl, rfl⟩
  · rw [same]
    exact ⟨rfl, rfl⟩

/-- The suite that the engine is asked about in a decision: the noted one without its tests, with
the candidates. Nothing is asked without candidates, a baseline or a noted suite. -/
def Setting.scoredSuite? (state : MutationScore) (candidates : List TestCase) :
    Option TestSuite :=
  if candidates.isEmpty then none
  else state.baseline.bind fun _ => state.currentSuite.map fun initial =>
    (initial.withoutTests setting.isTest).extendedWith candidates

theorem noted_of_scoredSuite? {state : MutationScore} {candidates : List TestCase}
    {scored : TestSuite} (asked : setting.scoredSuite? state candidates = some scored) :
    ∃ initial, state.currentSuite = some initial ∧
      scored = (initial.withoutTests setting.isTest).extendedWith candidates := by
  rw [Setting.scoredSuite?] at asked
  split at asked
  · cases asked
  · obtain ⟨_, -, noted⟩ := Option.bind_eq_some_iff.1 asked
    obtain ⟨initial, active, rfl⟩ := Option.map_eq_some_iff.1 noted
    exact ⟨initial, active, rfl⟩

theorem keep_calls (candidates : List TestCase) (genealogy : Genealogy)
    (selection : Selection MutationScore W) :
    (keep setting candidates genealogy selection).2.calls =
      selection.calls ++
        (setting.scoredSuite? selection.state candidates).toList.map EngineCall.suite := by
  by_cases nobody : candidates.isEmpty = true
  · simp [keep, Setting.scoredSuite?, nobody]
  cases known : selection.state.baseline with
  | none => simp [keep, Setting.scoredSuite?, nobody, known]
  | some baseline =>
      cases active : selection.state.currentSuite with
      | none => simp [keep, Setting.scoredSuite?, nobody, known, active]
      | some initial =>
          cases replied : setting.replyTo initial candidates selection.world with
          | error error =>
              rw [Setting.replyTo] at replied
              simp [keep, Setting.scoredSuite?, nobody, known, active, replied]
          | ok outcomes =>
              rw [Setting.replyTo] at replied
              simp [keep, Setting.scoredSuite?, nobody, known, active, replied]

theorem suites_keep (candidates : List TestCase) (genealogy : Genealogy)
    (selection : Selection MutationScore W) :
    (keep setting candidates genealogy selection).2.calls.filterMap EngineCall.suite? =
      selection.calls.filterMap EngineCall.suite? ++
        (setting.scoredSuite? selection.state candidates).toList := by
  rw [keep_calls, List.filterMap_append, List.filterMap_map]
  exact congrArg _ List.filterMap_some

end MutationScore

end TestAmplification
