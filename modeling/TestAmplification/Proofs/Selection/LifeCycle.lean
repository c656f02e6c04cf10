import TestAmplification.Proofs.Selection.FailedOperations

/-!
# The life cycle of a selection

A selection begins without a baseline. The baseline comes, candidates are scored with it, and a
report is made; then the next suite can be scored. A new baseline that is loaded from outside begins
this anew, and nothing else should lead back.

Phase and baseline are kept apart, and it takes every operation to keep them in step
(`PhaseStep`). Loading sets both, and scoring needs a baseline. A report, however, needs a suite
alone, and a suite may be noted while the baseline is still missing. A report that succeeds then is
early: it ends a selection that has not begun, and the preparation that follows leads back from its
phase to that of a fresh baseline (`reported_without_baseline`). Nothing else comes between phase
and baseline (`phases_of_history`).
-/

set_option autoImplicit false

namespace TestAmplification.MutationScore

variable {W : Type}

/-- A report succeeded although there was no baseline. -/
def Turn.ReportsEarly (turn : Turn W) : Prop :=
  turn.state.baseline = none ∧ ∃ genealogy answer,
    turn.operation = .report genealogy ∧ turn.result = .reported (.ok answer)

/-! ## One operation -/

/-- What an operation with its result can do to baseline and phase. -/
inductive PhaseStep (before after : MutationScore) : Operation → Result → Prop where
  | stays {operation : Operation} {result : Result}
      (sameBaseline : after.baseline = before.baseline) (samePhase : after.phase = before.phase) :
      PhaseStep before after operation result
  /-- A baseline comes, from outside or because it is missing. -/
  | loads {operation : Operation} {result : Result} (outcomes : List MutantOutcome)
      (occasion : operation = .load outcomes ∨ before.baseline = none)
      (loaded : after = before.loadBaseline outcomes) : PhaseStep before after operation result
  | scores {operation : Operation} {result : Result} (known : before.baseline ≠ none)
      (sameBaseline : after.baseline = before.baseline) (scored : after.phase = .scoring) :
      PhaseStep before after operation result
  | reports (genealogy : Genealogy) (answer : SelectionReport) (closed : after = before.close) :
      PhaseStep before after (.report genealogy) (.reported (.ok answer))

variable {setting : Setting W} {state before between after : MutationScore} {early : Prop}

theorem phaseStep_perform (setting : Setting W) (operation : Operation)
    (selection : Selection MutationScore W) :
    PhaseStep selection.state (operation.perform setting selection).2.state operation
      (operation.perform setting selection).1 := by
  cases operation with
  | load outcomes => exact .loads outcomes (.inl rfl) rfl
  | init =>
      rcases prepare_cases setting selection with same | ⟨outcomes, missing, -, loaded⟩
      · exact .stays (congrArg baseline same) (congrArg phase same)
      · exact .loads outcomes (.inr missing) loaded
  | reset => exact .stays rfl rfl
  | nominate suite tests => exact .stays (baseline_enter _ suite tests) (phase_enter _ suite tests)
  | keep candidates genealogy =>
      have sameBaseline := (keep_leaves setting candidates genealogy selection).1
      rcases keep_cases setting candidates genealogy selection with
        ⟨-, same⟩ | ⟨_, _, _, -, known, -, -, -, scored⟩
      · exact .stays sameBaseline (congrArg phase same)
      · refine .scores ?_ sameBaseline (congrArg phase scored)
        rw [known]
        exact nofun
  | update => exact .stays rfl rfl
  | report genealogy =>
      rcases report_cases setting genealogy selection with
        ⟨-, -, same⟩ | ⟨_, -, ⟨_, -, -, same⟩ | ⟨kills, -, answered, closed⟩⟩
      · exact .stays (congrArg baseline same) (congrArg phase same)
      · exact .stays (congrArg baseline same) (congrArg phase same)
      · have result : ((Operation.report genealogy).perform setting selection).1 =
            .reported (.ok (reportOn kills
              ((kills.files setting.outputDirectory).map Prod.fst))) :=
          congrArg Result.reported answered
        rw [result]
        exact .reports genealogy _ closed

/-! ## Phase and baseline -/

/-- The phase says whether there is a baseline, but for an early report. -/
structure PhaseFits (early : Prop) (state : MutationScore) : Prop where
  begun : state.baseline ≠ none → state.phase ≠ .uninitialized
  waiting : state.baseline = none → ¬ early → state.phase = .uninitialized
  closed : state.baseline = none → early → state.phase = .reported

namespace PhaseFits

theorem start : PhaseFits False {} :=
  ⟨fun known => absurd rfl known, fun _ _ => rfl, nofun⟩

theorem of_baseline (known : state.baseline ≠ none) (begun : state.phase ≠ .uninitialized) :
    PhaseFits early state :=
  ⟨fun _ => begun, fun missing => absurd missing known, fun missing => absurd missing known⟩

/-- **One operation** keeps phase and baseline in step, but for an early report. -/
theorem turn (setting : Setting W) (fits : PhaseFits early state) (operation : Operation)
    (world : W) :
    let performed := operation.perform setting ⟨state, world, []⟩
    PhaseFits (early ∨ Turn.ReportsEarly ⟨operation, state, world, performed.1⟩)
      performed.2.state := by
  intro performed
  have step : PhaseStep state performed.2.state operation performed.1 :=
    phaseStep_perform setting operation ⟨state, world, []⟩
  by_cases reportsEarly : Turn.ReportsEarly ⟨operation, state, world, performed.1⟩
  · obtain ⟨missing, genealogy, answer, rfl, reported⟩ := reportsEarly
    have closed : performed.2.state = state.close :=
      state_report_of_ok (Result.reported.inj reported)
    rw [closed]
    exact ⟨fun known => absurd missing known,
      fun _ notEarly => absurd (.inr ⟨missing, genealogy, answer, rfl, reported⟩) notEarly,
      fun _ _ => rfl⟩
  · rw [or_iff_left reportsEarly]
    generalize performed.2.state = after at step
    generalize performed.1 = result at step reportsEarly
    cases step with
    | stays sameBaseline samePhase =>
        obtain ⟨begun, waiting, closed⟩ := fits
        rw [← sameBaseline, ← samePhase] at begun waiting closed
        exact ⟨begun, waiting, closed⟩
    | loads outcomes occasion loaded =>
        rw [loaded]
        exact of_baseline nofun nofun
    | scores known sameBaseline scored =>
        refine of_baseline (sameBaseline ▸ known) ?_
        rw [scored]
        exact nofun
    | reports genealogy answer closed =>
        have known : state.baseline ≠ none := fun missing =>
          reportsEarly ⟨missing, genealogy, answer, rfl, rfl⟩
        rw [closed]
        exact of_baseline known nofun

/-- **A history** keeps phase and baseline in step, but for early reports. -/
theorem history (setting : Setting W) (fits : PhaseFits early state)
    (attempts : List (Operation × W)) :
    PhaseFits (early ∨ ∃ turn ∈ (history setting attempts state).1, turn.ReportsEarly)
      (history setting attempts state).2 := by
  induction attempts generalizing early state with
  | nil => simpa [MutationScore.history] using fits
  | cons attempt rest ih =>
      obtain ⟨operation, world⟩ := attempt
      have later := ih (fits.turn setting operation world)
      simpa only [MutationScore.history, List.exists_mem_cons_iff, or_assoc] using later

end PhaseFits

/-! ## No way back -/

/-- What holds of two points of a selection if no baseline was loaded from outside between them. -/
structure MovesOn (before after : MutationScore) : Prop where
  known : before.baseline ≠ none → after.baseline ≠ none
  begun : before.phase ≠ .uninitialized → after.phase ≠ .uninitialized
  used : before.baseline ≠ none → before.phase = .scoring ∨ before.phase = .reported →
    after.phase = .scoring ∨ after.phase = .reported

namespace MovesOn

theorem refl (state : MutationScore) : MovesOn state state := ⟨id, id, fun _ => id⟩

theorem trans (first : MovesOn before between) (second : MovesOn between after) :
    MovesOn before after where
  known := second.known ∘ first.known
  begun := second.begun ∘ first.begun
  used known phase := second.used (first.known known) (first.used known phase)

theorem perform (setting : Setting W) (operation : Operation)
    (notLoaded : ∀ outcomes, operation ≠ .load outcomes)
    (selection : Selection MutationScore W) :
    MovesOn selection.state (operation.perform setting selection).2.state := by
  have step := phaseStep_perform setting operation selection
  generalize (operation.perform setting selection).2.state = after at step ⊢
  generalize (operation.perform setting selection).1 = result at step
  cases step with
  | stays sameBaseline samePhase =>
      exact ⟨fun known => sameBaseline ▸ known, fun begun => samePhase ▸ begun,
        fun _ phase => samePhase ▸ phase⟩
  | loads outcomes occasion loaded =>
      -- the operation is the preparation, which loads a baseline only if there is none
      have missing := occasion.resolve_left (notLoaded outcomes)
      rw [loaded]
      exact ⟨fun _ => nofun, fun _ => nofun, fun known => absurd missing known⟩
  | scores known sameBaseline scored =>
      exact ⟨fun _ => sameBaseline ▸ known, fun _ => scored ▸ nofun, fun _ _ => .inl scored⟩
  | reports genealogy answer closed =>
      rw [closed]
      exact ⟨id, fun _ => nofun, fun _ _ => .inr rfl⟩

theorem history (setting : Setting W) {attempts : List (Operation × W)}
    (notLoaded : ∀ attempt ∈ attempts, ∀ outcomes, attempt.1 ≠ .load outcomes) :
    MovesOn state (history setting attempts state).2 := by
  induction attempts generalizing state with
  | nil => exact refl state
  | cons attempt rest ih =>
      have first := perform setting attempt.1 (notLoaded attempt (.head _))
        ⟨state, attempt.2, []⟩
      exact first.trans (ih fun later member => notLoaded later (.tail _ member))

end MovesOn

/-- **Phases of a selection.** After any operations, the phase is `uninitialized` exactly if there
is no baseline and no report succeeded without one; after such a report it is `reported` until a
baseline comes. Further operations that load no baseline from outside do not lead back to
`uninitialized`, and from `scoring` or `reported` they lead back to `baselined` only where a report
succeeded without a baseline and none has come since. -/
theorem phases_of_history (setting : Setting W) (attempts : List (Operation × W)) :
    let past := history setting attempts {}
    (past.2.phase = .uninitialized ↔
      past.2.baseline = none ∧ ∀ turn ∈ past.1, ¬ turn.ReportsEarly) ∧
    (past.2.baseline = none → (∃ turn ∈ past.1, turn.ReportsEarly) →
      past.2.phase = .reported) ∧
    ∀ later : List (Operation × W),
      (∀ attempt ∈ later, ∀ outcomes, attempt.1 ≠ .load outcomes) →
        let final := (history setting later past.2).2
        (past.2.phase ≠ .uninitialized → final.phase ≠ .uninitialized) ∧
        (past.2.phase = .scoring ∨ past.2.phase = .reported → final.phase = .baselined →
          past.2.baseline = none ∧ ∃ turn ∈ past.1, turn.ReportsEarly) := by
  intro past
  have fits : PhaseFits (∃ turn ∈ past.1, turn.ReportsEarly) past.2 := by
    simpa only [false_or] using PhaseFits.start.history setting attempts
  refine ⟨⟨fun waiting => ?_, fun ⟨missing, timely⟩ => ?_⟩, fits.closed, ?_⟩
  · have missing : past.2.baseline = none := by
      by_contra known
      exact fits.begun known waiting
    refine ⟨missing, fun turn member early => ?_⟩
    have closed := fits.closed missing ⟨turn, member, early⟩
    rw [waiting] at closed
    cases closed
  · exact fits.waiting missing fun ⟨turn, member, early⟩ => timely turn member early
  · intro later notLoaded final
    have moves : MovesOn past.2 final := MovesOn.history setting notLoaded
    refine ⟨moves.begun, fun used back => ?_⟩
    have missing : past.2.baseline = none := by
      by_contra known
      rcases moves.used known used with again | again <;> rw [back] at again <;> cases again
    refine ⟨missing, ?_⟩
    by_contra timely
    have waiting := fits.waiting missing timely
    rcases used with again | again <;> rw [waiting] at again <;> cases again

/-- A whole selection is over: one more preparation does not begin it anew. -/
theorem reported_for_good :
    let setting := Setting.everyTestKills default
    let test : TestCase := .plain ⟨"Suite", "testOnce"⟩ "check()"
    let attempts := [(.init, ()), (.nominate ⟨"Suite", [], [test]⟩ [test], ()),
      (.keep [test] .empty, ()), (.report .empty, ())]
    (history setting attempts {}).2.phase = .reported ∧
      (history setting [(.init, ())] (history setting attempts {}).2).2.phase ≠ .baselined := by
  intro setting test attempts
  have reported : (history setting attempts {}).2.phase = .reported := by decide +kernel
  have known : (history setting attempts {}).2.baseline ≠ none := by decide +kernel
  have phases := phases_of_history setting attempts
  -- what the history consists of does not matter from here on
  generalize history setting attempts {} = past at reported known phases ⊢
  obtain ⟨-, -, moves⟩ := phases
  obtain ⟨-, noReturn⟩ := moves [(.init, ())] (by simp)
  exact ⟨reported, fun back => known (noReturn (.inr reported) back).1⟩

/-- **An early report.** A suite is noted and reported on without a baseline: the phase is not
`uninitialized` although there is no baseline, and the preparation leads from `reported` back to
`baselined`. -/
theorem reported_without_baseline :
    let setting := Setting.everyTestKills default
    let test : TestCase := .plain ⟨"Suite", "testOnce"⟩ "check()"
    let past := (history setting [(.nominate ⟨"Suite", [], [test]⟩ [test], ()),
      (.report .empty, ())] {}).2
    ¬ (past.phase = .uninitialized ↔ past.baseline = none) ∧ past.phase = .reported ∧
      (history setting [(.init, ())] past).2.phase = .baselined := by
  intro setting test past
  decide +kernel

end TestAmplification.MutationScore
