import TestAmplification.Proofs.Amplification.Steps
import TestAmplification.Proofs.Selection.Steps

/-!
# Runs between two decisions

Most of what a loop does asks tools, counts, announces or records lineage. Such a step leaves the
state of the selector as it is, adds no decision and no question about a suite, and writes
at the end of the journal and of the answers only: the run advances (`Run.Advances`). The
relation is reflexive and transitive, so every function made of such steps advances
the run, whatever the tools do. A condition that lasts while a run advances is carried through
the steps one by one (`Ensures`); unlike a condition on the standing it can be about the
journal and the answers.

A batch that compiles and runs to the end is told apart: what is added is exactly
the two questions and the two answers (`justRan_of_compileAndRun`).

Candidates are made by preparing and asking amplifiers, asking for assertions, and recording
lineage. A relation between points of a run that is reflexive and transitive and that each of these
steps respects (`CandidateRelation`) relates the points before and after everything that the loop
does to make candidates, whatever the tools do (`CandidateRelation.expand`,
`CandidateRelation.injectAssertions`).
-/

set_option autoImplicit false

namespace TestAmplification

variable {σ W α β : Type}

/-! ## Relations that the making of candidates respects -/

/-- The relation holds between the points before and after every run of the step. -/
def Across (related : Run σ W → Run σ W → Prop) (step : Amplify σ W α) : Prop :=
  ∀ run : Run σ W, related run (step run).2

/-- The relation respects the single steps by which candidates are made. -/
structure CandidateRelation (related : Run σ W → Run σ W → Prop) : Prop where
  refl : ∀ run, related run run
  trans : ∀ {first second third}, related first second → related second third →
    related first third
  prepared : ∀ amplifier suite (action : StateM W Unit),
    Across related (Amplify.ask (.amplifierReset amplifier suite) action)
  applied : ∀ amplifier test (action : StateM W (List TestCase)),
    Across related (Amplify.ask (.applied amplifier test) action)
  asserted : ∀ suite tests (action : StateM W (List TestCase)),
    Across related (Amplify.ask (.assertionsAsked suite tests) action)
  lineage : ∀ run genealogy, related run (run.withGenealogy genealogy)

namespace CandidateRelation

variable {related : Run σ W → Run σ W → Prop} (relation : CandidateRelation related)

include relation

theorem pure (answer : α) : Across related (pure answer : Amplify σ W α) :=
  fun run => relation.refl run

theorem bind {step : Amplify σ W α} {next : α → Amplify σ W β} (first : Across related step)
    (second : ∀ answer, Across related (next answer)) : Across related (step >>= next) :=
  fun run => relation.trans (first run) (second _ _)

open Orchestrator

theorem resetAmplifiers (suite : TestSuite) (amplifiers : List (Amplifier W)) :
    Across related (resetAmplifiers suite amplifiers : Amplify σ W Unit) := by
  induction amplifiers with
  | nil => exact relation.pure _
  | cons amplifier rest ih =>
      rw [Orchestrator.resetAmplifiers]
      exact relation.bind (relation.prepared _ _ _) fun _ => ih

theorem adopt (test : TestCase) (given : Option TestId) :
    Across related (adopt test given : Amplify σ W Bool) := by
  intro run
  rw [Orchestrator.adopt]
  split
  · exact relation.refl run
  · split
    · exact relation.lineage run _
    · exact relation.refl run

theorem adoptAll (pairs : List (TestCase × Option TestId)) :
    Across related (adoptAll pairs : Amplify σ W (List TestCase)) := by
  induction pairs with
  | nil => exact relation.pure _
  | cons pair rest ih =>
      rw [Orchestrator.adoptAll]
      exact relation.bind (relation.adopt _ _) fun _ => relation.bind ih fun _ => relation.pure _

theorem variantsOf (suite : TestSuite) (test : TestCase) (amplifiers : List (Amplifier W)) :
    Across related (variantsOf suite test amplifiers : Amplify σ W _) := by
  induction amplifiers with
  | nil => exact relation.pure _
  | cons amplifier rest ih =>
      rw [Orchestrator.variantsOf]
      exact relation.bind (relation.applied _ _ _) fun _ =>
        relation.bind ih fun _ => relation.pure _

variable (orchestrator : Orchestrator σ W)

theorem variantsOfAll (suite : TestSuite) (nominated : List TestCase) :
    Across related (orchestrator.variantsOfAll suite nominated) := by
  induction nominated with
  | nil => exact relation.pure _
  | cons test rest ih =>
      rw [Orchestrator.variantsOfAll]
      exact relation.bind (relation.variantsOf _ _ _) fun _ =>
        relation.bind ih fun _ => relation.pure _

theorem expand (suite : TestSuite) (nominated : List TestCase) :
    Across related (orchestrator.expand suite nominated) := by
  rw [Orchestrator.expand]
  exact relation.bind (relation.variantsOfAll _ _ _) fun _ => relation.adoptAll _

theorem assertedTests (suite : TestSuite) (tests : List TestCase) :
    Across related (orchestrator.assertedTests suite tests) := by
  rw [Orchestrator.assertedTests]
  exact relation.bind (relation.asserted _ _ _) fun _ => relation.pure _

theorem adoptNew (suite : TestSuite) (tests : List TestCase) :
    Across related (adoptNew suite tests : Amplify σ W (List TestCase)) :=
  relation.adoptAll _

theorem injectAssertions (suite : TestSuite) (candidates : List TestCase) :
    Across related (orchestrator.injectAssertions suite candidates) := by
  rw [Orchestrator.injectAssertions]
  exact relation.bind (relation.assertedTests _ _ _) fun _ =>
    relation.bind (relation.adoptNew _ _) fun _ => relation.pure _

end CandidateRelation

/-! ## What is on record -/

/-- A decision of the selector. -/
structure Decision where
  /-- The seed test of the iteration; nothing before the first iteration. -/
  seed : Option TestCase
  /-- The tests that the selector was shown. -/
  candidates : List TestCase
  /-- The genealogy that it was shown. -/
  genealogy : Genealogy
  /-- The tests that it kept. -/
  kept : List TestCase

/-- The decision that an entry of a chronicle holds. -/
def ChronicleEntry.decision? : ChronicleEntry → Option Decision
  | lineage _ => none
  | decision seed candidates genealogy kept => some ⟨seed, candidates, genealogy, kept⟩

/-- The suite that the engine was asked about. -/
def JournalEntry.analyzed? : JournalEntry → Option TestSuite
  | engine call => call.suite?
  | _ => none

namespace Run

/-- The decisions so far, in order. -/
def decisions (run : Run σ W) : List Decision :=
  run.chronicle.filterMap ChronicleEntry.decision?

/-- The suites that the engine was asked about so far, in order. -/
def analyzed (run : Run σ W) : List TestSuite :=
  run.journal.filterMap JournalEntry.analyzed?

/-- The selector was not asked for a decision between the two points of a run. -/
structure Advances (before after : Run σ W) : Prop where
  selector : after.selector = before.selector
  decisions : after.decisions = before.decisions
  analyzed : after.analyzed = before.analyzed
  journal : before.journal <+: after.journal
  answers : before.answers <+: after.answers

theorem Advances.refl (run : Run σ W) : run.Advances run :=
  ⟨rfl, rfl, rfl, List.prefix_refl _, List.prefix_refl _⟩

theorem Advances.trans {first second third : Run σ W} (one : first.Advances second)
    (other : second.Advances third) : first.Advances third where
  selector := other.selector.trans one.selector
  decisions := other.decisions.trans one.decisions
  analyzed := other.analyzed.trans one.analyzed
  journal := one.journal.trans other.journal
  answers := one.answers.trans other.answers

/-- The condition holds from one point of a run to the next decision. -/
def Lasting (condition : Run σ W → Prop) : Prop :=
  ∀ before after, before.Advances after → condition before → condition after

/-- What holds of the state of the selector lasts. -/
theorem lasting_of_selector (property : σ → Prop) :
    Lasting fun run : Run σ W => property run.selector :=
  fun _ _ advances holds => (congrArg property advances.selector).mpr holds

end Run

/-! ## Steps that advance -/

/-- Every run of the step from a run under the first condition ends with an answer and a run
under the second. -/
def Ensures (before : Run σ W → Prop) (step : Amplify σ W α) (after : α → Run σ W → Prop) :
    Prop :=
  ∀ run, before run → after (step run).1 (step run).2

namespace Ensures

variable {before : Run σ W → Prop} {step : Amplify σ W α} {after : α → Run σ W → Prop}

theorem pure {answer : α} (holds : ∀ run, before run → after answer run) :
    Ensures before (pure answer : Amplify σ W α) after :=
  holds

theorem bind {between : α → Run σ W → Prop} {next : α → Amplify σ W β}
    {final : β → Run σ W → Prop} (first : Ensures before step between)
    (second : ∀ answer, Ensures (between answer) (next answer) final) :
    Ensures before (step >>= next) final :=
  fun run holds => second _ _ (first run holds)

theorem strengthen {stronger : Run σ W → Prop} (ensures : Ensures before step after)
    (enough : ∀ run, stronger run → before run) : Ensures stronger step after :=
  fun run holds => ensures run (enough run holds)

theorem left {other : Run σ W → Prop} (ensures : Ensures before step after) :
    Ensures (fun run => before run ∧ other run) step after :=
  ensures.strengthen fun _ holds => holds.1

/-- A condition under a premise can be used when the premise is known. -/
theorem given {premise : Prop} {other : Run σ W → Prop} (known : premise)
    (ensures : Ensures (fun run => before run ∧ other run) step after) :
    Ensures (fun run => before run ∧ (premise → other run)) step after :=
  ensures.strengthen fun _ holds => ⟨holds.1, holds.2 known⟩

/-- A fact that does not depend on the run can be assumed. -/
theorem assume {fact : Prop} (ensures : fact → Ensures before step after) :
    Ensures (fun run => before run ∧ fact) step after :=
  fun run holds => ensures holds.2 run holds.1

end Ensures

/-- The step advances every run. -/
def Advancing (step : Amplify σ W α) : Prop :=
  ∀ run : Run σ W, run.Advances (step run).2

namespace Advancing

variable {step : Amplify σ W α}

theorem pure (answer : α) : Advancing (pure answer : Amplify σ W α) :=
  fun run => .refl run

theorem bind {next : α → Amplify σ W β} (first : Advancing step)
    (second : ∀ answer, Advancing (next answer)) : Advancing (step >>= next) :=
  fun run => (first run).trans (second _ _)

/-- A lasting condition survives, and what is known of every answer is known of this one. -/
theorem ensures (advancing : Advancing step) {condition : Run σ W → Prop}
    (lasting : Run.Lasting condition) {fact : α → Prop}
    (known : ∀ run : Run σ W, fact (step run).1) :
    Ensures condition step fun answer run => condition run ∧ fact answer :=
  fun run holds => ⟨lasting _ _ (advancing run) holds, known run⟩

/-- A lasting condition survives. -/
theorem keeps (advancing : Advancing step) {condition : Run σ W → Prop}
    (lasting : Run.Lasting condition) : Ensures condition step fun _ => condition :=
  fun run holds => lasting _ _ (advancing run) holds

end Advancing

@[simp] theorem ask_apply (entry : JournalEntry) (action : StateM W α) (run : Run σ W) :
    Amplify.ask entry action run =
      ((action run.world).1, { run with
        world := (action run.world).2
        journal := run.journal ++ [entry] }) := rfl

@[simp] theorem hear_apply (answer : ToolAnswer) (run : Run σ W) :
    Amplify.hear answer run = (⟨⟩, { run with answers := run.answers ++ [answer] }) := rfl

theorem ask_advancing {entry : JournalEntry} (noSuite : entry.analyzed? = none)
    (action : StateM W α) : Advancing (Amplify.ask entry action : Amplify σ W α) := by
  intro run
  refine ⟨rfl, rfl, ?_, List.prefix_append _ _, List.prefix_refl _⟩
  change (run.journal ++ [entry]).filterMap JournalEntry.analyzed? = run.analyzed
  rw [List.filterMap_append, List.filterMap_cons_none noSuite, List.filterMap_nil,
    List.append_nil, Run.analyzed]

theorem hear_advancing (answer : ToolAnswer) :
    Advancing (Amplify.hear answer : Amplify σ W Unit) :=
  fun _ => ⟨rfl, rfl, rfl, List.prefix_refl _, List.prefix_append _ _⟩

theorem count_advancing (change : Tally → Tally) :
    Advancing (Amplify.count change : Amplify σ W Unit) :=
  fun _ => ⟨rfl, rfl, rfl, List.prefix_refl _, List.prefix_refl _⟩

theorem consult_journal (step : Select σ W α) (run : Run σ W) :
    (Amplify.consult step run).2.journal = run.journal ++
      (step ⟨run.selector, run.world, []⟩).2.calls.map JournalEntry.engine := rfl

theorem consult_analyzed (step : Select σ W α) (run : Run σ W) :
    (Amplify.consult step run).2.analyzed = run.analyzed ++
      (step ⟨run.selector, run.world, []⟩).2.calls.filterMap EngineCall.suite? := by
  rw [Run.analyzed, consult_journal, List.filterMap_append, List.filterMap_map]
  rfl

theorem get_advancing : Advancing (get : Amplify σ W (Run σ W)) :=
  fun run => .refl run

theorem withGenealogy_advances (run : Run σ W) (genealogy : Genealogy) :
    run.Advances (run.withGenealogy genealogy) := by
  refine ⟨rfl, ?_, rfl, List.prefix_refl _, List.prefix_refl _⟩
  change (run.chronicle ++ [ChronicleEntry.lineage genealogy]).filterMap ChronicleEntry.decision? =
    run.decisions
  rw [List.filterMap_append, List.filterMap_cons_none rfl, List.filterMap_nil, List.append_nil,
    Run.decisions]

/-- Making candidates advances a run. -/
theorem candidateRelation_advances :
    CandidateRelation (Run.Advances : Run σ W → Run σ W → Prop) where
  refl := .refl
  trans := .trans
  prepared _ _ := ask_advancing rfl
  applied _ _ := ask_advancing rfl
  asserted _ _ := ask_advancing rfl
  lineage := withGenealogy_advances

/-- A selector that does nothing on resets and updates. -/
structure Selector.IsQuiet (selector : Selector σ W) : Prop where
  reset : selector.reset = pure ⟨⟩
  update : selector.update = pure ⟨⟩

theorem consult_pure (answer : α) :
    (Amplify.consult (pure answer) : Amplify σ W α) = pure answer := by
  funext run
  simp [Amplify.consult]

namespace Orchestrator

variable (orchestrator : Orchestrator σ W)

theorem announce_advancing (event : Event) : Advancing (orchestrator.announce event) :=
  ask_advancing rfl _

theorem countKept_advancing (kept : List TestCase) :
    Advancing (countKept kept : Amplify σ W Unit) :=
  count_advancing _

theorem announceExcluded_advancing (suite : TestSuite) (tests : List TestCase) :
    Advancing (orchestrator.announceExcluded suite tests) := by
  induction tests with
  | nil => exact .pure _
  | cons test rest ih =>
      rw [announceExcluded]
      exact (orchestrator.announce_advancing _).bind fun _ => ih

/-! ## Decisions -/

theorem judge_decisions (seed : Option TestCase) (candidates : List TestCase) (run : Run σ W) :
    (orchestrator.judge seed candidates run).2.decisions = run.decisions ++
      [⟨seed, candidates, run.genealogy, (orchestrator.judge seed candidates run).1⟩] :=
  List.filterMap_append

theorem judge_journal (seed : Option TestCase) (candidates : List TestCase) (run : Run σ W) :
    (orchestrator.judge seed candidates run).2.journal =
      (Amplify.consult (orchestrator.selector.keep candidates run.genealogy) run).2.journal := rfl

theorem judge_answers (seed : Option TestCase) (candidates : List TestCase) (run : Run σ W) :
    (orchestrator.judge seed candidates run).2.answers = run.answers := rfl

/-! ## Making candidates -/

variable {condition : Run σ W → Prop}

theorem expand_ensures (lasting : Run.Lasting condition) (suite : TestSuite)
    (nominated : List TestCase) :
    Ensures condition (orchestrator.expand suite nominated) fun expanded run =>
      condition run ∧ ∀ test ∈ expanded, IsUsable suite test :=
  Advancing.ensures (candidateRelation_advances.expand orchestrator suite nominated) lasting
    fun run => ((orchestrator.expand_usable (fun _ _ holds => holds) suite nominated :
      Leads (fun _ => True) _ _) run trivial).2

theorem injectAssertions_ensures (lasting : Run.Lasting condition) (suite : TestSuite)
    {candidates : List TestCase} (usable : ∀ test ∈ candidates, IsUsable suite test) :
    Ensures condition (orchestrator.injectAssertions suite candidates) fun asserted run =>
      condition run ∧ ∀ test ∈ asserted, IsUsable suite test :=
  Advancing.ensures (candidateRelation_advances.injectAssertions orchestrator suite candidates)
    lasting fun run => ((orchestrator.injectAssertions_leads (fun _ _ holds => holds) suite
      (fun _ usable => usable) usable : Leads (fun _ => True) _ _) run trivial).2

theorem assertedTests_ensures (lasting : Run.Lasting condition) (suite : TestSuite)
    (tests : List TestCase) :
    Ensures condition (orchestrator.assertedTests suite tests) fun asserted run =>
      condition run ∧ ∀ test ∈ asserted, test.hasEmptyBody = false :=
  Advancing.ensures (candidateRelation_advances.assertedTests orchestrator suite tests)
    lasting fun run => ((orchestrator.assertedTests_filled suite tests :
      Leads (fun _ => True) _ _) run trivial).2

theorem adoptNew_ensures (lasting : Run.Lasting condition) (suite : TestSuite)
    {tests : List TestCase} (filled : ∀ test ∈ tests, test.hasEmptyBody = false) :
    Ensures condition (adoptNew suite tests : Amplify σ W (List TestCase)) fun adopted run =>
      condition run ∧ ∀ test ∈ adopted, IsUsable suite test := by
  refine Advancing.ensures (candidateRelation_advances.adoptNew suite tests) lasting
    fun run test member => ?_
  have among := ((adoptNew_subset (fun _ _ holds => holds) suite tests :
    Leads (fun _ => True) _ _) run trivial).2 member
  obtain ⟨given, fresh⟩ := List.mem_filter.1 among
  exact ⟨fresh, filled test given⟩

/-! ## Compiling and running -/

/-- A batch was compiled and run to the end between the two points of a run, and the selector
was not consulted. -/
structure JustRan (suite : TestSuite) (batch : List TestCase) (result : ExecutionResult)
    (before after : Run σ W) : Prop where
  selector : after.selector = before.selector
  chronicle : after.chronicle = before.chronicle
  complete : batch.length ≤ result.testsRun.size
  given : ∃ world, (orchestrator.workshop.run (suite.extendedWith batch) batch
    orchestrator.settings.classpath world).1 = .ok result
  journal : after.journal = before.journal ++
    [.compiled (suite.extendedWith batch) orchestrator.settings.outputPaths,
      .ran (suite.extendedWith batch) batch orchestrator.settings.classpath]
  answers : after.answers = before.answers ++
    [.compiled (suite.extendedWith batch) (.ok ()),
      .ran (suite.extendedWith batch) batch (.ok result)]

variable {orchestrator}

theorem JustRan.counted {suite : TestSuite} {batch : List TestCase} {result : ExecutionResult}
    {before after : Run σ W} (ran : orchestrator.JustRan suite batch result before after)
    (change : Tally → Tally) :
    orchestrator.JustRan suite batch result before (Amplify.count change after).2 :=
  ⟨ran.selector, ran.chronicle, ran.complete, ran.given, ran.journal, ran.answers⟩

theorem JustRan.advances {suite : TestSuite} {batch : List TestCase} {result : ExecutionResult}
    {before after : Run σ W} (ran : orchestrator.JustRan suite batch result before after) :
    before.Advances after where
  selector := ran.selector
  decisions := by rw [Run.decisions, ran.chronicle, Run.decisions]
  analyzed := by
    rw [Run.analyzed, ran.journal, List.filterMap_append]
    exact List.append_nil _
  journal := ran.journal ▸ List.prefix_append _ _
  answers := ran.answers ▸ List.prefix_append _ _

/-- **A result counts only when the batch compiled and ran to the end.** After that the selector
takes note. -/
theorem justRan_of_compileAndRun {suite : TestSuite} {batch : List TestCase}
    {result : ExecutionResult} {run : Run σ W}
    (answered : (orchestrator.compileAndRun suite batch run).1 = .ok result) :
    ∃ ran, orchestrator.JustRan suite batch result run ran ∧
      (orchestrator.compileAndRun suite batch run).2 =
        (Amplify.consult orchestrator.selector.update ran).2 := by
  revert answered
  rw [compileAndRun]
  simp only [StateM.bind_apply, ask_apply, hear_apply]
  cases compiled : (orchestrator.workshop.compile (suite.extendedWith batch)
      orchestrator.settings.outputPaths run.world).1 with
  | error error =>
      intro answered
      cases answered
  | ok _ =>
      simp only [StateM.bind_apply, ask_apply, hear_apply]
      cases ran : (orchestrator.workshop.run (suite.extendedWith batch) batch
          orchestrator.settings.classpath _).1 with
      | error error =>
          intro answered
          cases answered
      | ok answer =>
          by_cases incomplete : answer.testsRun.size < batch.length
          · simp only [if_pos incomplete]
            intro answered
            cases answered
          · simp only [if_neg incomplete]
            intro answered
            cases answered
            refine ⟨_, ?_, rfl⟩
            exact ⟨rfl, rfl, Nat.le_of_not_lt incomplete, ⟨_, ran⟩, List.append_assoc _ _ _,
              List.append_assoc _ _ _⟩

variable (quiet : orchestrator.selector.IsQuiet)

include quiet

theorem compileAndRun_advancing (suite : TestSuite) (tests : List TestCase) :
    Advancing (orchestrator.compileAndRun suite tests) := by
  rw [compileAndRun, quiet.update, consult_pure]
  refine (ask_advancing rfl _).bind fun compiled => (hear_advancing _).bind fun _ => ?_
  cases compiled with
  | error error => exact (count_advancing _).bind fun _ => .pure _
  | ok _ =>
      refine (ask_advancing rfl _).bind fun ran => (hear_advancing _).bind fun _ => ?_
      cases ran with
      | error error => exact (count_advancing _).bind fun _ => .pure _
      | ok result =>
          dsimp only
          by_cases incomplete : result.testsRun.size < tests.length
          · rw [if_pos incomplete]
            exact (count_advancing _).bind fun _ => .pure _
          · rw [if_neg incomplete]
            exact (Advancing.pure _).bind fun _ => .pure _

/-- With a quiet selector nothing happens after the batch was run. -/
theorem compileAndRun_justRan {suite : TestSuite} {batch : List TestCase}
    {result : ExecutionResult} {run : Run σ W}
    (answered : (orchestrator.compileAndRun suite batch run).1 = .ok result) :
    orchestrator.JustRan suite batch result run
      (orchestrator.compileAndRun suite batch run).2 := by
  obtain ⟨ran, justRan, same⟩ := justRan_of_compileAndRun answered
  rw [quiet.update, consult_pure] at same
  exact same ▸ justRan

/-- A lasting condition survives, and a batch with a result was run from a point where it
held. -/
theorem compileAndRun_ensures (lasting : Run.Lasting condition) (suite : TestSuite)
    (batch : List TestCase) :
    Ensures condition (orchestrator.compileAndRun suite batch) fun answer run =>
      condition run ∧ ∀ result, answer = .ok result →
        ∃ before, condition before ∧ orchestrator.JustRan suite batch result before run :=
  fun run holds => ⟨lasting _ _ (compileAndRun_advancing quiet suite batch run) holds,
    fun _ answered => ⟨run, holds, compileAndRun_justRan quiet answered⟩⟩

/-- A lasting condition survives, and the tests that remain stand in their order. -/
theorem preflight_ensures (lasting : Run.Lasting condition) (suite : TestSuite)
    (tests : List TestCase) :
    Ensures condition (orchestrator.preflight suite tests) fun answer run =>
      condition run ∧ ∀ green, answer = some green → green.Sublist tests := by
  induction number : tests.length using Nat.strongRecOn generalizing tests with
  | _ number ih =>
      rw [preflight]
      have stop : Ensures condition (pure none : Amplify σ W (Option (List TestCase)))
          fun answer run =>
            condition run ∧ ∀ green, answer = some green → green.Sublist tests := by
        refine Ensures.pure fun _ holds => ⟨holds, fun green same => ?_⟩
        cases same
      by_cases nothing : tests.isEmpty = true
      · rw [if_pos nothing]
        exact stop
      rw [if_neg nothing]
      refine ((compileAndRun_advancing quiet suite tests).keeps lasting).bind fun answer => ?_
      cases answer with
      | error failure => exact stop
      | ok result =>
          by_cases passes : result.failures.isEmpty = true
          · simp only [passes, if_true]
            refine Ensures.pure fun _ holds => ⟨holds, ?_⟩
            rintro green ⟨⟩
            exact List.Sublist.refl _
          simp only [passes]
          refine ((orchestrator.announceExcluded_advancing suite _).keeps lasting).bind fun _ => ?_
          by_cases fewer : (notFailedAmong result tests).length < tests.length
          · rw [dif_pos fewer]
            intro run holds
            obtain ⟨later, remain⟩ := ih _ (number ▸ fewer) _ rfl run holds
            exact ⟨later, fun green same => (remain green same).trans List.filter_sublist⟩
          · rw [dif_neg fewer]
            exact stop

/-! ## Reports -/

omit quiet

/-- A suite without an extension is not reported on. For an extended one the answer is what the
report comes to, where the lack of a noted suite is no error. -/
theorem runSuite_cases (suite : TestSuite) (maxIterations : UInt32) (start : Run σ W) :
    let amplified := orchestrator.amplify suite suite.methods maxIterations start
    let reported := orchestrator.report amplified.2
    let ended := orchestrator.runSuite suite maxIterations start
    (amplified.1 = none ∧ ended.1 = .ok none ∧ ended.2 = amplified.2) ∨
      (ended.2 = reported.2 ∧
        ((reported.1.isOk = true ∨ reported.1 = .error .noActiveSuite) ∧
            (∃ outcome, ended.1 = .ok (some outcome)) ∨
          ∃ error, error ≠ .noActiveSuite ∧ reported.1 = .error error ∧
            ended.1 = .error error)) := by
  dsimp only
  rw [runSuite, StateM.bind_apply]
  cases extended : (orchestrator.amplify suite suite.methods maxIterations start).1 with
  | none => exact .inl ⟨rfl, rfl, rfl⟩
  | some extension =>
      right
      dsimp only
      rw [StateM.bind_apply]
      cases reported : (orchestrator.report _).1 with
      | ok report => exact ⟨rfl, .inl ⟨.inl rfl, _, rfl⟩⟩
      | error error =>
          cases error with
          | noActiveSuite => exact ⟨rfl, .inl ⟨.inr rfl, _, rfl⟩⟩
          | io path source => exact ⟨rfl, .inr ⟨.io path source, nofun, rfl, rfl⟩⟩
          | overflow cause => exact ⟨rfl, .inr ⟨.overflow cause, nofun, rfl, rfl⟩⟩

end Orchestrator

end TestAmplification
