import TestAmplification.Proofs.Amplification.LoopRule
import TestAmplification.Proofs.Selection.Counting
import TestAmplification.Proofs.Selection.Steps
import TestAmplification.Proofs.Test.Extension

/-!
# Kept tests and credited tests

A suite is extended with the tests that the loop has kept, and the report counts
the tests that hold a credit. The two are the same tests. At every point of a run the
kept tests are those that hold a credit, all of them are new to the suite, and nothing is
kept before the selector has noted the suite (`Agrees`). A decision keeps this
because it keeps exactly the earners, and no other step grants a credit
(`Agrees.loopRule`).
-/

set_option autoImplicit false

namespace TestAmplification

open MutationScore

/-- The kept tests are those that hold a credit, and they are new to the suite that the
selector works for. -/
structure Agrees (suite : TestSuite) (kept : List TestCase) (state : MutationScore) : Prop where
  fresh : ∀ test ∈ kept, isNewTo suite test = true
  credited : ∀ id, id ∈ kept.map TestCase.id ↔ ∃ mutant, state.credits.holds id mutant = true
  active : state.currentSuite = none ∧ kept = [] ∨ state.currentSuite = some suite
  noneEmpty : state.credits.NoneEmpty
  named : state.credits.Named

namespace Agrees

variable {W : Type} {suite : TestSuite} {kept : List TestCase} {state : MutationScore}

/-- Before its first step a selector has kept nothing and granted no credit. -/
theorem start (suite : TestSuite)
    (fresh : state = {} ∨ ∃ outcomes, state = withBaseline outcomes) :
    Agrees suite [] state := by
  have unused : state.credits = ∅ ∧ state.currentSuite = none := by
    rcases fresh with rfl | ⟨outcomes, rfl⟩
    · exact ⟨rfl, rfl⟩
    · exact ⟨rfl, rfl⟩
  obtain ⟨noCredits, noSuite⟩ := unused
  refine ⟨nofun, ?_, .inl ⟨noSuite, rfl⟩, ?_, ?_⟩
  · intro id
    rw [noCredits]
    simp
  · rw [noCredits]
    exact Credits.noneEmpty_empty
  · rw [noCredits]
    exact Credits.named_empty

theorem loadBaseline (agrees : Agrees suite kept state) (outcomes : List MutantOutcome) :
    Agrees suite kept (state.loadBaseline outcomes) :=
  ⟨agrees.fresh, agrees.credited, agrees.active, agrees.noneEmpty, agrees.named⟩

theorem enter (agrees : Agrees suite kept state) (tests : List TestCase) :
    Agrees suite kept (state.enter suite tests) := by
  rw [MutationScore.enter]
  split
  · exact ⟨agrees.fresh, agrees.credited, .inr rfl, agrees.noneEmpty, agrees.named⟩
  · exact agrees

/-- A decision about new tests keeps those that get a credit. -/
theorem keep (setting : Setting W) {candidates : List TestCase} (genealogy : Genealogy)
    {selection : Selection MutationScore W} (agrees : Agrees suite kept selection.state)
    (fresh : ∀ test ∈ candidates, isNewTo suite test = true) :
    Agrees suite (kept ++ (MutationScore.keep setting candidates genealogy selection).1)
      (MutationScore.keep setting candidates genealogy selection).2.state := by
  rcases keep_cases setting candidates genealogy selection with ⟨nothing, same⟩ |
    ⟨baseline, initial, outcomes, -, -, active, -, answer, scored⟩
  · rw [nothing, same, List.append_nil]
    exact agrees
  · rw [answer, scored]
    refine ⟨?_, ?_, .inr ?_, noneEmpty_creditOutcomes outcomes agrees.noneEmpty,
      named_creditOutcomes outcomes agrees.named⟩
    · intro test member
      rcases List.mem_append.1 member with earlier | now
      · exact agrees.fresh test earlier
      · exact fresh test (List.mem_filter.1 now).1
    · intro id
      rw [credited_creditOutcomes_iff, List.map_append, List.mem_append, agrees.credited]
      refine or_congr_right ?_
      constructor
      · intro member
        obtain ⟨candidate, kept, rfl⟩ := List.mem_map.1 member
        exact List.contains_iff_mem.1 (List.mem_filter.1 kept).2
      · intro earner
        obtain ⟨candidate, offered, rfl⟩ := candidate_of_mem_earners outcomes earner
        exact List.mem_map_of_mem
          (List.mem_filter.2 ⟨offered, List.contains_iff_mem.2 earner⟩)
    · rcases agrees.active with ⟨inactive, -⟩ | active
      · rw [active] at inactive
        cases inactive
      · exact active

end Agrees

/-! ## The steps of the loop -/

section

variable {W : Type} (workshop : Workshop W) (setting : Setting W) (settings : Settings)
  (suite : TestSuite)

/-- The amplification with a selector by mutation score. -/
abbrev byMutationScore : Orchestrator MutationScore W :=
  ⟨workshop, selector setting, settings⟩

variable {workshop setting settings suite}

/-- Decisions keep the agreement when their candidates are new to the suite. -/
theorem Agrees.judge_leads (seed : Option TestCase) (kept candidates : List TestCase) :
    Leads (fun standing => Agrees suite kept standing.selector ∧
        ∀ test ∈ candidates, isNewTo suite test = true)
      ((byMutationScore workshop setting settings).judge seed candidates)
      fun more standing => Agrees suite (kept ++ more) standing.selector := by
  refine Orchestrator.judge_leads _ seed candidates ?_
  rintro standing selection ⟨agrees, fresh⟩ known
  exact (known ▸ agrees : Agrees suite kept selection.state).keep setting standing.genealogy fresh

theorem Agrees.nominate_leads (kept tests : List TestCase) :
    Keeps (fun standing => Agrees suite kept standing.selector)
      (Amplify.consult ((selector setting).nominate suite tests) :
        Amplify MutationScore W (List TestCase)) := by
  refine consult_leads fun standing selection agrees known => ?_
  exact (known ▸ agrees : Agrees suite kept selection.state).enter tests

theorem Agrees.preAmplify_leads (seeds : List TestCase) :
    Leads (fun standing => Agrees suite [] standing.selector)
      ((byMutationScore workshop setting settings).preAmplify suite seeds)
      fun kept standing => Agrees suite kept standing.selector := by
  have update : Keeps (fun standing => Agrees suite [] standing.selector)
      (Amplify.consult (selector setting).update : Amplify MutationScore W Unit) :=
    consult_keeps fun _ => rfl
  rw [Orchestrator.preAmplify]
  refine update.bind fun _ => (Agrees.nominate_leads [] seeds).bind fun nominated => ?_
  by_cases nobody : nominated.isEmpty = true
  · rw [if_pos nobody]
    exact Leads.pure fun _ agrees => agrees
  rw [if_neg nobody]
  refine ((Orchestrator.assertedTests_leads _ suite nominated).weaken (fun _ agrees => agrees)
    fun _ _ result => result.1).bind fun answered => ?_
  refine (Orchestrator.adoptNew_among (fun _ _ agrees => agrees) suite _).bind fun improved => ?_
  by_cases nothing : improved.isEmpty = true
  · rw [if_pos nothing]
    exact Leads.pure fun _ result => result.1
  rw [if_neg nothing]
  exact Agrees.judge_leads none [] improved

/-- **The steps of the loop keep the agreement.** A test may be judged when it is new to
the suite. -/
theorem Agrees.loopRule :
    LoopRule (byMutationScore workshop setting settings) suite
      (fun kept standing => Agrees suite kept standing.selector) (fun _ _ _ => True)
      (fun _ _ test => isNewTo suite test = true) where
  seedReady _ _ _ _ _ := trivial
  fitReady _ _ _ _ := trivial
  update _ _ _ _ := consult_keeps fun _ => rfl
  reset _ := consult_keeps fun _ => rfl
  nominate seed kept working := by
    refine (Agrees.nominate_leads kept working).weaken (fun _ busy => busy.holds) ?_
    intro nominated standing agrees
    exact ⟨agrees, fun _ _ => trivial, nofun⟩
  expand seed kept nominated := by
    refine (Orchestrator.expand_among _ (fun _ _ agrees => agrees) suite nominated).weaken
      (fun _ busy => busy.holds) ?_
    rintro expanded standing ⟨agrees, fresh⟩
    exact ⟨agrees, fun _ _ => trivial, fresh⟩
  inject seed kept nominated expanded := by
    refine Leads.fix fun standing busy => ?_
    have enough : ∀ other, other = standing → Agrees suite kept other.selector := by
      rintro other rfl
      exact busy.holds
    refine (Orchestrator.injectAssertions_among _ (fun _ _ agrees => agrees) suite
      busy.fit).weaken enough ?_
    rintro candidates other ⟨agrees, fresh⟩
    exact ⟨agrees, fun _ _ => trivial, fresh⟩
  judge seed kept working candidates := by
    refine (Agrees.judge_leads (some seed) kept candidates).weaken
      (fun _ busy => ⟨busy.holds, busy.fit⟩) ?_
    intro more standing agrees
    exact ⟨agrees, fun _ _ => trivial, nofun⟩
  preAmplify seeds _ := Agrees.preAmplify_leads seeds

/-! ## The report -/

/-- A report counts the credited tests of the suite and the mutants credited to
them. -/
structure Counts (suite : TestSuite) (credits : Credits) (report : SelectionReport) : Prop where
  tests : report.amplifiedTests = Set.ncard { test | test.suite = suite.name ∧
    ∃ mutant, credits.holds test mutant = true }
  mutants : report.newlyKilled = Set.ncard { mutant | ∃ test, test.suite = suite.name ∧
    credits.holds test mutant = true }

/-- A report leaves the credits as they are and counts them. It is missing only when nothing
was kept. -/
theorem Agrees.report_leads (kept : List TestCase) :
    Leads (fun standing => Agrees suite kept standing.selector)
      (byMutationScore workshop setting settings).report
      fun answer standing =>
        (∀ id, id ∈ kept.map TestCase.id ↔
          ∃ mutant, standing.selector.credits.holds id mutant = true) ∧
        (∀ report, answer = .ok report → Counts suite standing.selector.credits report) ∧
        (answer = .error .noActiveSuite → kept = []) := by
  rw [Orchestrator.report]
  refine genealogy_keeps.bind fun genealogy =>
    consult_leads fun standing selection holds known => ?_
  have agrees : Agrees suite kept selection.state := known ▸ holds
  dsimp only [selector]
  rcases report_cases setting genealogy selection with ⟨inactive, answer, same⟩ |
    ⟨current, active, ⟨error, notInactive, answer, same⟩ | ⟨kills, counted, answer, closed⟩⟩
  · rw [same, answer]
    refine ⟨agrees.credited, nofun, fun _ => ?_⟩
    rcases agrees.active with ⟨-, nothing⟩ | active
    · exact nothing
    · rw [inactive] at active
      cases active
  · rw [same, answer]
    refine ⟨agrees.credited, nofun, ?_⟩
    rintro ⟨⟩
    exact absurd rfl notInactive
  · rw [closed, answer]
    refine ⟨agrees.credited, ?_, nofun⟩
    rintro report ⟨⟩
    have sameSuite : current = suite := by
      rcases agrees.active with ⟨inactive, -⟩ | noted
      · rw [active] at inactive
        cases inactive
      · rw [active] at noted
        exact Option.some.inj noted
    subst sameSuite
    exact ⟨length_of_killReport agrees.noneEmpty counted,
      newMutantsKilled_of_killReport agrees.named counted⟩

/-! ## Whole runs -/

/-- What is promised of a suite that was amplified. -/
theorem Agrees.runSuite_leads (maxIterations : UInt32) :
    Leads (fun standing => Agrees suite [] standing.selector)
      ((byMutationScore workshop setting settings).runSuite suite maxIterations)
      fun answer standing => ∀ outcome, answer = .ok (some outcome) → ∃ kept,
        (∀ test ∈ kept, isNewTo suite test = true) ∧
        (∀ id, id ∈ kept.map TestCase.id ↔
          ∃ mutant, standing.selector.credits.holds id mutant = true) ∧
        outcome.suite = suite.extendedWith kept ∧
        (∀ report, outcome.report = some report →
          Counts suite standing.selector.credits report) ∧
        (outcome.report = none → kept = []) := by
  have init : Keeps (fun standing => Agrees suite [] standing.selector)
      (Amplify.consult (selector setting).init : Amplify MutationScore W _) := by
    refine consult_leads fun standing selection holds known => ?_
    have agrees : Agrees suite [] selection.state := known ▸ holds
    dsimp only [selector]
    rcases prepare_cases setting selection with same | ⟨outcomes, -, -, loaded⟩
    · rw [same]
      exact agrees
    · rw [loaded]
      exact agrees.loadBaseline outcomes
  rw [Orchestrator.runSuite]
  refine (Agrees.loopRule.amplify_leads init (fun _ agrees => agrees)
    (List.Subset.refl suite.methods) maxIterations).bind fun answer => ?_
  cases answer with
  | none => exact Leads.pure fun _ _ => nofun
  | some amplified =>
      refine Leads.fix fun standing result => ?_
      rcases result with ⟨nothing, -⟩ | ⟨kept, agrees, nothing | extended⟩
      · cases nothing
      · cases nothing
      cases extended
      have enough : ∀ other, other = standing → Agrees suite kept other.selector := by
        rintro other rfl
        exact agrees
      refine ((Agrees.report_leads kept).weaken enough fun _ _ reported => reported).bind
        fun report => ?_
      cases report with
      | ok report =>
          refine Leads.pure ?_
          rintro standing ⟨credited, counts, -⟩ outcome ⟨⟩
          refine ⟨kept, agrees.fresh, credited, rfl, ?_, nofun⟩
          rintro other ⟨⟩
          exact counts report rfl
      | error error =>
          cases error with
          | noActiveSuite =>
              refine Leads.pure ?_
              rintro standing ⟨credited, -, nothing⟩ outcome ⟨⟩
              exact ⟨kept, agrees.fresh, credited, rfl, nofun, fun _ => nothing rfl⟩
          | _ => exact Leads.pure fun _ _ => nofun

end

/-- **The suite is extended by the credited tests.** When a fresh amplification with a fresh
selector ends with an extended suite, the tests added to it are exactly those that
hold a credit. A report counts those of the suite and the mutants credited to them, and
without a report nothing was added. -/
theorem runSuite_adds_credited_tests {W : Type} (workshop : Workshop W) (setting : Setting W)
    (settings : Settings) (suite : TestSuite) (maxIterations : UInt32) (start : MutationScore)
    (world : W) (fresh : start = {} ∨ ∃ outcomes, start = withBaseline outcomes)
    {outcome : SuiteOutcome} {final : Run MutationScore W}
    (result : (byMutationScore workshop setting settings).runSuite suite maxIterations
      { selector := start, world } = (.ok (some outcome), final)) :
    (∃ added, outcome.suite = { suite with methods := suite.methods ++ added } ∧
      (∀ test ∈ added, suite.contains test.id = false) ∧
      ∀ id, id ∈ added.map TestCase.id ↔
        ∃ mutant, final.selector.credits.holds id mutant = true) ∧
    (∀ report, outcome.report = some report →
      report.amplifiedTests = Set.ncard { test | test.suite = suite.name ∧
        ∃ mutant, final.selector.credits.holds test mutant = true } ∧
      report.newlyKilled = Set.ncard { mutant | ∃ test, test.suite = suite.name ∧
        final.selector.credits.holds test mutant = true }) ∧
    (outcome.report = none → outcome.suite = suite) := by
  have promised := @Agrees.runSuite_leads W workshop setting settings suite maxIterations
    { selector := start, world } (.start suite fresh)
  rw [result] at promised
  obtain ⟨kept, new, credited, extended, counts, silent⟩ := promised outcome rfl
  refine ⟨⟨firstOfEach suite.ids kept, ?_, ?_, ?_⟩, ?_, ?_⟩
  · rw [extended, TestSuite.extendedWith_eq]
  · intro test member
    have free := ((mem_ids_firstOfEach _ _ _).1 (List.mem_map_of_mem member)).2
    rw [← suite.contains_iff] at free
    exact Bool.eq_false_iff.2 free
  · intro id
    rw [mem_ids_firstOfEach]
    refine Iff.trans ?_ (credited id)
    constructor
    · exact fun member => member.1
    · intro member
      obtain ⟨test, inKept, rfl⟩ := List.mem_map.1 member
      exact ⟨member, (isNewTo_iff suite test).1 (new test inKept)⟩
  · intro report known
    have counted := counts report known
    exact ⟨counted.tests, counted.mutants⟩
  · intro missing
    rw [extended, silent missing]
    rfl

/-- A suite with one test gets a variant of it, and the variant holds a credit. -/
theorem runSuite_adds_credited_variant :
    let suite : TestSuite := ⟨"Suite", [], [.plain ⟨"Suite", "testOnce"⟩ "check()"]⟩
    let ran := (byMutationScore .simple (.everyTestKills default) {}).runSuite suite 1
      { selector := {}, world := () }
    ∃ outcome, ran.1 = .ok (some outcome) ∧ ∃ added,
      outcome.suite.methods = suite.methods ++ added ∧ added ≠ [] ∧
        ∀ id, id ∈ added.map TestCase.id ↔
          ∃ mutant, ran.2.selector.credits.holds id mutant = true := by
  intro suite ran
  have extended : ran.1.toOption.join.map SuiteOutcome.suite = some (suite.withMethod
      (.plain ⟨"Suite", "againtestOnce"⟩ "check() again() assert()")) := by
    decide +kernel
  cases answer : ran.1 with
  | error error =>
      rw [answer] at extended
      cases extended
  | ok result =>
      rw [answer] at extended
      obtain ⟨outcome, rfl, longer⟩ := Option.map_eq_some_iff.1 extended
      obtain ⟨⟨added, same, -, credited⟩, -, -⟩ := runSuite_adds_credited_tests .simple
        (.everyTestKills default) {} suite 1 {} () (.inl rfl) (Prod.ext answer rfl)
      refine ⟨outcome, rfl, added, by rw [same], ?_, credited⟩
      rintro rfl
      rw [longer] at same
      revert same
      decide

end TestAmplification
