import TestAmplification.Proofs.Selection.Steps

/-!
# Failed operations leave no trace

The operations of the selector by mutation score can fail: the engine may give no baseline or not
analyze a suite, a decision may lack candidates, a baseline or a suite, and a report may lack a
suite or a place for one of its files. `FailsWith` lists these ways with their results. Each of them
leaves the state as it was (`FailsWith.perform`).

An operation learns of the world only through one reply, of the engine or of the disk, and some
ask for none. State and reply determine its result and the state after it (`perform_congr`).
Operations that failed can therefore be left out of a history: if the others are told what they
were told before, they have the same results and come to the same state
(`failed_operations_leave_no_trace`). The worlds are not compared, since a failed operation may well
leave a trace there: the text of a report stays on the disk when its document cannot be written.
-/

set_option autoImplicit false

namespace TestAmplification.MutationScore

/-! ## Operations -/

/-- An operation of the selector, with its arguments. -/
inductive Operation where
  /-- Takes outcomes from outside as the baseline. -/
  | load (outcomes : List MutantOutcome)
  | init
  | reset
  | nominate (suite : TestSuite) (tests : List TestCase)
  | keep (candidates : List TestCase) (genealogy : Genealogy)
  | update
  | report (genealogy : Genealogy)

/-- What an operation answers. -/
inductive Result where
  /-- It has nothing to say. -/
  | done
  | prepared (answer : Except ToolingError Unit)
  /-- The nominated or the kept tests. -/
  | chosen (tests : List TestCase)
  | reported (answer : Except ReportError SelectionReport)
deriving DecidableEq

/-- What an operation is told by engine or disk. -/
inductive Reply where
  /-- The engine has analyzed, or it has failed. -/
  | analyzed (answer : Except ToolingError (List MutantOutcome))
  /-- The files were written, or one of them was not. -/
  | published (answer : Except ReportError Unit)

variable {W : Type} (setting : Setting W)

namespace Operation

/-- Lets the selector perform the operation. -/
def perform : Operation → Select MutationScore W Result
  | load outcomes => (fun _ => .done) <$> Select.modifyState (·.loadBaseline outcomes)
  | init => .prepared <$> (selector setting).init
  | reset => (fun _ => .done) <$> (selector setting).reset
  | nominate suite tests => .chosen <$> (selector setting).nominate suite tests
  | keep candidates genealogy => .chosen <$> (selector setting).keep candidates genealogy
  | update => (fun _ => .done) <$> (selector setting).update
  | report genealogy => .reported <$> (selector setting).report genealogy

/-- What the operation is told in a world, if it asks for anything. -/
def reply? (state : MutationScore) (world : W) : Operation → Option Reply
  | init =>
      if state.baseline.isNone then some (.analyzed (setting.engine.baseline world).1) else none
  | keep candidates _ =>
      (setting.scoredSuite? state candidates).map fun suite =>
        .analyzed (setting.engine.analyze suite world).1
  | report genealogy =>
      state.currentSuite.bind fun suite =>
        (state.killReport suite.name genealogy).toOption.map fun kills =>
          .published (publishAll setting.publish (kills.files setting.outputDirectory) world).1
  | _ => none

/-- Does the operation fail with this reply? -/
def fails : Operation → Option Reply → Bool
  | init, some (.analyzed (.error _)) => true
  | keep .., none => true
  | keep .., some (.analyzed (.error _)) => true
  | report .., none => true
  | report .., some (.published (.error _)) => true
  | _, _ => false

end Operation

/-! ## The ways to fail -/

/-- The ways in which an operation can fail, with what it answers then. -/
inductive FailsWith (state : MutationScore) (world : W) : Operation → Result → Prop where
  /-- The engine has no baseline to give. -/
  | noBaselineGiven {error : ToolingError} (missing : state.baseline = none)
      (replied : (setting.engine.baseline world).1 = .error error) :
      FailsWith state world .init (.prepared (.error error))
  | noCandidates (genealogy : Genealogy) : FailsWith state world (.keep [] genealogy) (.chosen [])
  | noBaseline (candidates : List TestCase) (genealogy : Genealogy)
      (missing : state.baseline = none) :
      FailsWith state world (.keep candidates genealogy) (.chosen [])
  | noSuite (candidates : List TestCase) (genealogy : Genealogy)
      (missing : state.currentSuite = none) :
      FailsWith state world (.keep candidates genealogy) (.chosen [])
  /-- The engine fails to analyze the candidates. -/
  | notAnalyzed {initial : TestSuite} {error : ToolingError} (candidates : List TestCase)
      (genealogy : Genealogy) (active : state.currentSuite = some initial)
      (replied : setting.replyTo initial candidates world = .error error) :
      FailsWith state world (.keep candidates genealogy) (.chosen [])
  | nothingToReport (genealogy : Genealogy) (missing : state.currentSuite = none) :
      FailsWith state world (.report genealogy) (.reported (.error .noActiveSuite))
  /-- The text of the report is not written. -/
  | textNotWritten {suite : TestSuite} {kills : KillReport} {source : String}
      (genealogy : Genealogy) (active : state.currentSuite = some suite)
      (counted : state.killReport suite.name genealogy = .ok kills)
      (refused : (setting.publish
        (setting.outputDirectory.join (KillReport.textFileName kills.suite)) kills.text world).1 =
          .error source) :
      FailsWith state world (.report genealogy) (.reported (.error
        (.io (setting.outputDirectory.join (KillReport.textFileName kills.suite)) source)))
  /-- The text of the report is written, its document is not. -/
  | documentNotWritten {suite : TestSuite} {kills : KillReport} {between : W} {source : String}
      (genealogy : Genealogy) (active : state.currentSuite = some suite)
      (counted : state.killReport suite.name genealogy = .ok kills)
      (written : setting.publish
        (setting.outputDirectory.join (KillReport.textFileName kills.suite)) kills.text world =
          (.ok (), between))
      (refused : (setting.publish
        (setting.outputDirectory.join (KillReport.documentFileName kills.suite))
          kills.document.indented between).1 = .error source) :
      FailsWith state world (.report genealogy) (.reported (.error
        (.io (setting.outputDirectory.join (KillReport.documentFileName kills.suite)) source)))
  /-- The additions of a kept test do not fit into their counts. -/
  | notCounted {suite : TestSuite} {overflow : AdditionOverflow} (genealogy : Genealogy)
      (active : state.currentSuite = some suite)
      (uncounted : state.killReport suite.name genealogy = .error overflow) :
      FailsWith state world (.report genealogy) (.reported (.error (.overflow overflow)))

variable {setting} {state : MutationScore} {world other : W} {operation : Operation}
  {result : Result}

/-- A decision without candidates, a baseline or a suite keeps nothing, changes nothing and asks
nothing. -/
theorem keep_idle {candidates : List TestCase} {selection : Selection MutationScore W}
    (idle : candidates = [] ∨ selection.state.baseline = none ∨
      selection.state.currentSuite = none) (genealogy : Genealogy) :
    MutationScore.keep setting candidates genealogy selection = ([], selection) := by
  by_cases nobody : candidates.isEmpty = true
  · simp [keep, nobody]
  cases known : selection.state.baseline with
  | none => simp [keep, nobody, known]
  | some baseline =>
      cases active : selection.state.currentSuite with
      | none => simp [keep, nobody, known, active]
      | some initial =>
          rw [known, active, ← List.isEmpty_iff] at idle
          simp [nobody] at idle

/-- **Failures leave the state alone**, and they are answered as listed. -/
theorem FailsWith.perform (failed : FailsWith setting state world operation result)
    (calls : List EngineCall) :
    (operation.perform setting ⟨state, world, calls⟩).1 = result ∧
      (operation.perform setting ⟨state, world, calls⟩).2.state = state := by
  cases failed with
  | noBaselineGiven missing replied =>
      simp [Operation.perform, selector, prepare, missing, replied]
  | noCandidates genealogy =>
      simp [Operation.perform, selector, keep_idle]
  | noBaseline candidates genealogy missing =>
      simp [Operation.perform, selector, keep_idle, missing]
  | noSuite candidates genealogy missing =>
      simp [Operation.perform, selector, keep_idle, missing]
  | notAnalyzed candidates genealogy active replied =>
      rcases keep_cases setting candidates genealogy ⟨state, world, calls⟩ with
        ⟨nothing, same⟩ | ⟨_, _, _, -, -, noted, answered, -⟩
      · exact ⟨congrArg Result.chosen nothing, same⟩
      · cases active.symm.trans noted
        cases replied.symm.trans answered
  | nothingToReport genealogy missing =>
      simp [Operation.perform, selector, report, missing]
  | textNotWritten genealogy active counted refused =>
      simp [Operation.perform, selector, report, active, counted, KillReport.files, publishAll,
        refused]
  | documentNotWritten genealogy active counted written refused =>
      simp [Operation.perform, selector, report, active, counted, KillReport.files, publishAll,
        written, refused]
  | notCounted genealogy active uncounted =>
      simp [Operation.perform, selector, report, active, uncounted]

/-- An operation with a failure for a reply has failed in one of the listed ways. -/
theorem exists_failsWith
    (failed : operation.fails (operation.reply? setting state world) = true) :
    ∃ result, FailsWith setting state world operation result := by
  cases operation with
  | init =>
      cases missing : state.baseline with
      | some baseline => simp [Operation.reply?, missing, Operation.fails] at failed
      | none =>
          cases replied : (setting.engine.baseline world).1 with
          | error error => exact ⟨_, .noBaselineGiven missing replied⟩
          | ok outcomes => simp [Operation.reply?, missing, replied, Operation.fails] at failed
  | keep candidates genealogy =>
      by_cases nobody : candidates = []
      · subst nobody
        exact ⟨_, .noCandidates genealogy⟩
      cases known : state.baseline with
      | none => exact ⟨_, .noBaseline candidates genealogy known⟩
      | some baseline =>
          cases active : state.currentSuite with
          | none => exact ⟨_, .noSuite candidates genealogy active⟩
          | some initial =>
              cases replied : setting.replyTo initial candidates world with
              | error error => exact ⟨_, .notAnalyzed candidates genealogy active replied⟩
              | ok outcomes =>
                  rw [Setting.replyTo] at replied
                  simp [Operation.reply?, Setting.scoredSuite?, nobody, known, active, replied,
                    Operation.fails] at failed
  | report genealogy =>
      cases active : state.currentSuite with
      | none => exact ⟨_, .nothingToReport genealogy active⟩
      | some suite =>
          cases counted : state.killReport suite.name genealogy with
          | error overflow => exact ⟨_, .notCounted genealogy active counted⟩
          | ok kills =>
              rcases text : setting.publish
                  (setting.outputDirectory.join (KillReport.textFileName kills.suite))
                  kills.text world with ⟨source | _, between⟩
              · exact ⟨_, .textNotWritten genealogy active counted (congrArg Prod.fst text)⟩
              rcases document : (setting.publish
                  (setting.outputDirectory.join (KillReport.documentFileName kills.suite))
                  kills.document.indented between).1 with source | _
              · exact ⟨_, .documentNotWritten genealogy active counted text document⟩
              · simp [Operation.reply?, active, counted, KillReport.files, publishAll, text,
                  document, Operation.fails, Except.toOption] at failed
  | _ => simp [Operation.fails] at failed

/-- The listed ways to fail are those with a failure for a reply. -/
theorem fails_iff :
    operation.fails (operation.reply? setting state world) = true ↔
      ∃ result, FailsWith setting state world operation result := by
  refine ⟨exists_failsWith, ?_⟩
  rintro ⟨result, failed⟩
  cases failed with
  | noBaselineGiven missing replied =>
      simp [Operation.reply?, missing, replied, Operation.fails]
  | noCandidates genealogy => simp [Operation.reply?, Setting.scoredSuite?, Operation.fails]
  | noBaseline candidates genealogy missing =>
      simp [Operation.reply?, Setting.scoredSuite?, missing, Operation.fails]
  | noSuite candidates genealogy missing =>
      simp [Operation.reply?, Setting.scoredSuite?, missing, Operation.fails]
  | notAnalyzed candidates genealogy active replied =>
      rw [Setting.replyTo] at replied
      by_cases nobody : candidates = [] <;> cases known : state.baseline <;>
        simp [Operation.reply?, Setting.scoredSuite?, nobody, known, active, replied,
          Operation.fails]
  | nothingToReport genealogy missing => simp [Operation.reply?, missing, Operation.fails]
  | textNotWritten genealogy active counted refused =>
      simp [Operation.reply?, active, counted, KillReport.files, publishAll, refused,
        Operation.fails, Except.toOption]
  | documentNotWritten genealogy active counted written refused =>
      simp [Operation.reply?, active, counted, KillReport.files, publishAll, written, refused,
        Operation.fails, Except.toOption]
  | notCounted genealogy active uncounted =>
      simp [Operation.reply?, active, uncounted, Operation.fails, Except.toOption]

/-- **State and reply determine** the result of an operation and the state after it. -/
theorem perform_congr
    (same : operation.reply? setting state world = operation.reply? setting state other)
    (calls otherCalls : List EngineCall) :
    (operation.perform setting ⟨state, world, calls⟩).1 =
        (operation.perform setting ⟨state, other, otherCalls⟩).1 ∧
      (operation.perform setting ⟨state, world, calls⟩).2.state =
        (operation.perform setting ⟨state, other, otherCalls⟩).2.state := by
  cases operation with
  | init =>
      cases missing : state.baseline with
      | some baseline => simp [Operation.perform, selector, prepare, missing]
      | none =>
          have replies : (setting.engine.baseline world).1 = (setting.engine.baseline other).1 := by
            simpa [Operation.reply?, missing] using same
          cases replied : (setting.engine.baseline other).1 <;>
            simp [Operation.perform, selector, prepare, missing, replies, replied]
  | keep candidates genealogy =>
      by_cases idle : candidates = [] ∨ state.baseline = none ∨ state.currentSuite = none
      · simp [Operation.perform, selector, keep_idle, idle]
      obtain ⟨offered, known, active⟩ :
          candidates ≠ [] ∧ state.baseline ≠ none ∧ state.currentSuite ≠ none := by
        simpa only [not_or] using idle
      obtain ⟨baseline, known⟩ := Option.ne_none_iff_exists'.1 known
      obtain ⟨initial, active⟩ := Option.ne_none_iff_exists'.1 active
      generalize scored : (initial.withoutTests setting.isTest).extendedWith candidates = suite
      have replies : (setting.engine.analyze suite world).1 =
          (setting.engine.analyze suite other).1 := by
        simpa [Operation.reply?, Setting.scoredSuite?, offered, known, active, scored] using same
      cases replied : (setting.engine.analyze suite other).1 <;>
        simp [Operation.perform, selector, keep, offered, known, active, scored, replies, replied,
          -List.contains_eq_mem]
  | report genealogy =>
      cases active : state.currentSuite with
      | none => simp [Operation.perform, selector, report, active]
      | some suite =>
          cases counted : state.killReport suite.name genealogy with
          | error overflow => simp [Operation.perform, selector, report, active, counted]
          | ok kills =>
              have replies : (publishAll setting.publish (kills.files setting.outputDirectory)
                  world).1 = (publishAll setting.publish (kills.files setting.outputDirectory)
                    other).1 := by
                simpa [Operation.reply?, active, counted, Except.toOption] using same
              cases written : (publishAll setting.publish (kills.files setting.outputDirectory)
                  other).1 <;>
                simp [Operation.perform, selector, report, active, counted, replies, written]
  | _ => exact ⟨rfl, rfl⟩

theorem state_perform_of_fails
    (failed : operation.fails (operation.reply? setting state world) = true)
    (calls : List EngineCall) :
    (operation.perform setting ⟨state, world, calls⟩).2.state = state := by
  obtain ⟨result, failsWith⟩ := exists_failsWith failed
  exact (failsWith.perform calls).2

/-! ## Histories -/

/-- An operation that was performed. -/
structure Turn (W : Type) where
  operation : Operation
  /-- The state that it met. -/
  state : MutationScore
  /-- The world that it met. -/
  world : W
  result : Result

namespace Turn

variable (setting) in
/-- What the operation was told, if it asked for anything. -/
def reply? (turn : Turn W) : Option Reply :=
  turn.operation.reply? setting turn.state turn.world

variable (setting) in
/-- Did the operation fail? -/
def failed (turn : Turn W) : Bool :=
  turn.operation.fails (turn.reply? setting)

/-- The operation with the world that it met. -/
def attempt (turn : Turn W) : Operation × W :=
  (turn.operation, turn.world)

variable (setting) in
/-- The attempt is at the same operation, and its world replies to it what the turn was told. -/
def RepliedAlike (turn : Turn W) (attempt : Operation × W) : Prop :=
  attempt.1 = turn.operation ∧
    turn.operation.reply? setting turn.state attempt.2 = turn.reply? setting

end Turn

variable (setting) in
/-- The turns of operations one after the other, and the state after them. Each operation meets a
world of its own, since between two of them the world may become any other. -/
def history : List (Operation × W) → MutationScore → List (Turn W) × MutationScore
  | [], state => ([], state)
  | (operation, world) :: rest, state =>
      let performed := operation.perform setting ⟨state, world, []⟩
      let later := history rest performed.2.state
      (⟨operation, state, world, performed.1⟩ :: later.1, later.2)

/-- **Without the failed operations** the others take the same turns and come to the same state. -/
theorem history_without_failed (setting : Setting W) (attempts : List (Operation × W))
    (state : MutationScore) :
    history setting (((history setting attempts state).1.filter (!·.failed setting)).map
        Turn.attempt) state =
      ((history setting attempts state).1.filter (!·.failed setting),
        (history setting attempts state).2) := by
  induction attempts generalizing state with
  | nil => rfl
  | cons attempt rest ih =>
      obtain ⟨operation, world⟩ := attempt
      simp only [history]
      cases failed : operation.fails (operation.reply? setting state world) with
      | true =>
          have dropped : Turn.failed setting ⟨operation, state, world,
              (operation.perform setting ⟨state, world, []⟩).1⟩ = true := failed
          -- The rest is performed in the state that the failed operation met.
          rw [state_perform_of_fails failed, List.filter_cons_of_neg (by simp [dropped])]
          exact ih state
      | false =>
          have remains : Turn.failed setting ⟨operation, state, world,
              (operation.perform setting ⟨state, world, []⟩).1⟩ = false := failed
          rw [List.filter_cons_of_pos (by simp [remains]), List.map_cons, Turn.attempt, history, ih]

/-- **Replies determine** the results of a history and the state after it. -/
theorem history_congr {attempts others : List (Operation × W)} {state : MutationScore}
    (alike : List.Forall₂ (Turn.RepliedAlike setting) (history setting attempts state).1 others) :
    (history setting others state).1.map Turn.result =
        (history setting attempts state).1.map Turn.result ∧
      (history setting others state).2 = (history setting attempts state).2 := by
  induction attempts generalizing others state with
  | nil =>
      cases alike
      exact ⟨rfl, rfl⟩
  | cons attempt rest ih =>
      obtain ⟨operation, world⟩ := attempt
      simp only [history] at alike ⊢
      rcases others with _ | ⟨⟨other, otherWorld⟩, others⟩
      · cases alike
      obtain ⟨⟨sameOperation, sameReply⟩, later⟩ := List.forall₂_cons.1 alike
      obtain rfl : other = operation := sameOperation
      obtain ⟨sameResult, sameState⟩ := perform_congr sameReply [] []
      simp only [history, List.map_cons]
      rw [sameState, sameResult, (ih later).1, (ih later).2]
      exact ⟨rfl, rfl⟩

/-- **A report that succeeds** clears the current suite and ends the selection. -/
theorem state_report_of_ok {selection : Selection MutationScore W} {genealogy : Genealogy}
    {answer : SelectionReport}
    (reported : (MutationScore.report setting genealogy selection).1 = .ok answer) :
    (MutationScore.report setting genealogy selection).2.state = selection.state.close := by
  rcases report_cases setting genealogy selection with
    ⟨-, refused, -⟩ | ⟨_, -, ⟨_, -, refused, -⟩ | ⟨_, -, -, closed⟩⟩
  · cases reported.symm.trans refused
  · cases reported.symm.trans refused
  · exact closed

/-- **Failed operations leave no trace.** In every state, the ways to fail have the listed
results and leave the state alone, and they are all that counts as a failure; a decision that is
short of candidates, a baseline or a suite does not even ask the engine. A report that succeeds
changes the current suite and the phase only. In every history the operations that did not
fail, performed alone from the same state and told the same, have the same results and come to
the same state. -/
theorem failed_operations_leave_no_trace (setting : Setting W) (state : MutationScore) :
    (∀ (operation : Operation) (result : Result) (world : W) (calls : List EngineCall),
      FailsWith setting state world operation result →
        (operation.perform setting ⟨state, world, calls⟩).1 = result ∧
          (operation.perform setting ⟨state, world, calls⟩).2.state = state) ∧
    (∀ (operation : Operation) (world : W),
      operation.fails (operation.reply? setting state world) = true ↔
        ∃ result, FailsWith setting state world operation result) ∧
    (∀ (candidates : List TestCase) (genealogy : Genealogy) (world : W) (calls : List EngineCall),
      candidates = [] ∨ state.baseline = none ∨ state.currentSuite = none →
        (Operation.keep candidates genealogy).perform setting ⟨state, world, calls⟩ =
          (.chosen [], ⟨state, world, calls⟩)) ∧
    (∀ (genealogy : Genealogy) (answer : SelectionReport) (world : W) (calls : List EngineCall),
      ((Operation.report genealogy).perform setting ⟨state, world, calls⟩).1 =
          .reported (.ok answer) →
        ((Operation.report genealogy).perform setting ⟨state, world, calls⟩).2.state =
          { state with currentSuite := none, phase := .reported }) ∧
    ∀ attempts others : List (Operation × W),
      List.Forall₂ (Turn.RepliedAlike setting)
          ((history setting attempts state).1.filter (!·.failed setting)) others →
        (history setting others state).1.map Turn.result =
            ((history setting attempts state).1.filter (!·.failed setting)).map Turn.result ∧
          (history setting others state).2 = (history setting attempts state).2 := by
  refine ⟨fun _ _ _ calls failed => failed.perform calls, fun _ _ => fails_iff, ?idle, ?closed,
    ?histories⟩
  case idle =>
    intro candidates genealogy world calls idle
    simp [Operation.perform, selector, keep_idle, idle]
  case closed =>
    intro genealogy answer world calls reported
    exact state_report_of_ok (Result.reported.inj reported)
  case histories =>
    intro attempts others alike
    have replayed := history_without_failed setting attempts state
    generalize ((history setting attempts state).1.filter (!·.failed setting)).map
      Turn.attempt = remaining at replayed
    obtain ⟨sameTurns, sameFinal⟩ := Prod.ext_iff.1 replayed
    dsimp only at sameTurns sameFinal
    rw [← sameTurns] at alike ⊢
    rw [← sameFinal]
    exact history_congr alike

/-- The setting with outages: in the world `false`, engine and disk fail. -/
def Setting.withOutages (setting : Setting Unit) : Setting Bool where
  engine := {
    baseline up :=
      (if up then (setting.engine.baseline ()).1 else .error (.analysisFailed "no report"), up)
    analyze suite up :=
      (if up then (setting.engine.analyze suite ()).1 else .error (.analysisFailed "no report"),
        up) }
  isTest := setting.isTest
  outputDirectory := setting.outputDirectory
  publish path content up :=
    (if up then (setting.publish path content ()).1 else .error "refused", up)

/-- A selection with four failures beside one without them: they keep the same test. -/
theorem failures_between_steps :
    let setting := (Setting.everyTestKills default).withOutages
    let test : TestCase := .plain ⟨"First", "testOnce"⟩ "check()"
    let nominate : Operation := .nominate ⟨"First", [], [test]⟩ [test]
    let keep : Operation := .keep [test] .empty
    let attempts := [(keep, true), (.init, false), (.init, true), (.report .empty, true),
      (nominate, false), (keep, false), (keep, true)]
    let others := [(.init, true), (nominate, true), (keep, true)]
    ((history setting attempts {}).1.map (Turn.failed setting) =
        [true, true, false, true, false, true, false]) ∧
      (history setting others {}).1.map Turn.result =
        [.prepared (.ok ()), .chosen [test], .chosen [test]] ∧
      (history setting others {}).2 = (history setting attempts {}).2 := by
  intro setting test nominate keep attempts others
  obtain ⟨results, final⟩ :=
    (failed_operations_leave_no_trace setting {}).2.2.2.2 attempts others
      (.cons ⟨rfl, rfl⟩ (.cons ⟨rfl, rfl⟩ (.cons ⟨rfl, rfl⟩ .nil)))
  exact ⟨by decide +kernel, results.trans (by decide +kernel), final⟩

end TestAmplification.MutationScore
