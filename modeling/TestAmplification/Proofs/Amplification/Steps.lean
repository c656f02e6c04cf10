import TestAmplification.Amplification.Loop
import TestAmplification.Proofs.Test.Extension
import TestAmplification.Proofs.Test.Reduction

/-!
# Steps of an amplification and what they leave alone

The tools of an amplification act on the world, and what they are asked goes into the
journal. The selector, the genealogy and the chronicle are out of their reach:
this is the standing of a run, and the conditions below are conditions on
it. A step leads from one condition to another when every run of it does
(`Leads`). Steps in sequence are treated one by one (`Leads.bind`).

Asking a tool, counting and announcing keep every condition. So do the functions
made of such steps, and what is stated about them says what their answers are
made of.
-/

set_option autoImplicit false

namespace TestAmplification

/-- What the tools of a run cannot change. -/
structure Standing (σ : Type) where
  /-- The state of the selector. -/
  selector : σ
  /-- Who was derived from whom. -/
  genealogy : Genealogy
  /-- The genealogies and decisions so far. -/
  chronicle : List ChronicleEntry

variable {σ W α β : Type}

/-- The standing of a run. -/
def Run.standing (run : Run σ W) : Standing σ :=
  ⟨run.selector, run.genealogy, run.chronicle⟩

/-! ## A simple workshop -/

/-- Makes one variant of every test, whose name is not that of a test. -/
def Amplifier.again : Amplifier Unit where
  name := "again"
  apply test := return [.plain ⟨test.id.suite, "again" ++ test.id.method⟩ (test.body ++ " again()")]
  reset _ := return

/-- Tools for examples: every test has one variant, assertions are added to every test, and
everything compiles and passes. -/
def Workshop.simple : Workshop Unit where
  amplifiers := [.again]
  addAssertions _ tests := return tests.map fun test => .plain test.id (test.body ++ " assert()")
  compile _ _ := return .ok ()
  run _ tests _ := return .ok (.allPassed (tests.map TestCase.id))
  isTest := namedFrom "test"
  handlers := []
  clock _ := 0

/-! ## Conditions before and after a step -/

/-- Every run of the step from a standing under the first condition ends with an answer
and a standing under the second. -/
def Leads (before : Standing σ → Prop) (step : Amplify σ W α) (after : α → Standing σ → Prop) :
    Prop :=
  ∀ run : Run σ W, before run.standing → after (step run).1 (step run).2.standing

/-- The step keeps the condition, whatever its answer is. -/
abbrev Keeps (condition : Standing σ → Prop) (step : Amplify σ W α) : Prop :=
  Leads condition step fun _ => condition

namespace Leads

variable {before : Standing σ → Prop} {step : Amplify σ W α} {after : α → Standing σ → Prop}

theorem pure {answer : α} (holds : ∀ standing, before standing → after answer standing) :
    Leads before (pure answer : Amplify σ W α) after :=
  fun run => holds run.standing

theorem bind {between : α → Standing σ → Prop} {next : α → Amplify σ W β}
    {final : β → Standing σ → Prop} (first : Leads before step between)
    (second : ∀ answer, Leads (between answer) (next answer) final) :
    Leads before (step >>= next) final :=
  fun run holds => second _ _ (first run holds)

theorem weaken {stronger : Standing σ → Prop} {weaker : α → Standing σ → Prop}
    (leads : Leads before step after) (enough : ∀ standing, stronger standing → before standing)
    (follows : ∀ answer standing, after answer standing → weaker answer standing) :
    Leads stronger step weaker :=
  fun run holds => follows _ _ (leads run (enough _ holds))

/-- A fact that does not depend on the standing can be assumed. -/
theorem assume {fact : Prop} (leads : fact → Leads before step after) :
    Leads (fun standing => before standing ∧ fact) step after :=
  fun run holds => leads holds.2 run holds.1

/-- To follow a step it is enough to follow it from every single standing. -/
theorem fix (each : ∀ standing, before standing →
      Leads (fun other => other = standing) step after) :
    Leads before step after :=
  fun run holds => each run.standing holds run rfl

end Leads

/-! ## Single steps -/

variable {condition : Standing σ → Prop}

/-- Asking a tool keeps every condition, and the tool gives the answer in some
world. -/
theorem ask_leads (entry : JournalEntry) (action : StateM W α) :
    Leads condition (Amplify.ask entry action : Amplify σ W α)
      fun answer standing => condition standing ∧ ∃ world, answer = (action world).1 :=
  fun run holds => ⟨holds, run.world, rfl⟩

theorem ask_keeps (entry : JournalEntry) (action : StateM W α) :
    Keeps condition (Amplify.ask entry action : Amplify σ W α) :=
  fun _ holds => holds

theorem count_keeps (change : Tally → Tally) :
    Keeps condition (Amplify.count change : Amplify σ W Unit) :=
  fun _ holds => holds

theorem hear_keeps (answer : ToolAnswer) :
    Keeps condition (Amplify.hear answer : Amplify σ W Unit) :=
  fun _ holds => holds

theorem get_keeps : Keeps condition (get : Amplify σ W (Run σ W)) :=
  fun _ holds => holds

theorem genealogy_keeps : Keeps condition (Amplify.genealogy : Amplify σ W Genealogy) :=
  fun _ holds => holds

/-- Another genealogy goes into the chronicle. -/
theorem withGenealogy_leads {genealogy : Genealogy} {after : Standing σ → Prop}
    (each : ∀ standing, condition standing → after { standing with
      genealogy
      chronicle := standing.chronicle ++ [.lineage genealogy] }) :
    Leads condition (modify fun run => run.withGenealogy genealogy : Amplify σ W PUnit)
      fun _ => after :=
  fun run holds => each run.standing holds

/-- A step of the selector changes the state of the selector alone. -/
theorem consult_leads {step : Select σ W α} {after : α → Standing σ → Prop}
    (each : ∀ standing (selection : Selection σ W), condition standing →
      selection.state = standing.selector →
      after (step selection).1 { standing with selector := (step selection).2.state }) :
    Leads condition (Amplify.consult step) after :=
  fun run holds => each run.standing _ holds rfl

theorem consult_keeps {step : Select σ W α}
    (same : ∀ selection, (step selection).2.state = selection.state) :
    Keeps condition (Amplify.consult step) := by
  refine consult_leads fun standing selection holds known => ?_
  rw [same, known]
  exact holds

/-- The condition holds whatever the genealogy becomes. -/
def Indifferent (condition : Standing σ → Prop) : Prop :=
  ∀ standing genealogy, condition standing → condition { standing with
    genealogy
    chronicle := standing.chronicle ++ [.lineage genealogy] }

/-! ## New and reduced tests -/

theorem isNewTo_iff (suite : TestSuite) (test : TestCase) :
    isNewTo suite test = true ↔ test.id ∉ suite.ids := by
  rw [isNewTo, Bool.not_eq_true', ← Bool.not_eq_true, suite.contains_iff]

/-- The identity of the test is free in the suite, and its body is not empty. -/
structure IsUsable (suite : TestSuite) (test : TestCase) : Prop where
  fresh : isNewTo suite test = true
  filled : test.hasEmptyBody = false

namespace Orchestrator

variable (orchestrator : Orchestrator σ W)

theorem announce_keeps (event : Event) : Keeps condition (orchestrator.announce event) :=
  ask_keeps _ _

theorem countKept_keeps (kept : List TestCase) :
    Keeps condition (countKept kept : Amplify σ W Unit) :=
  count_keeps _

theorem announceExcluded_keeps (suite : TestSuite) (tests : List TestCase) :
    Keeps condition (orchestrator.announceExcluded suite tests) := by
  induction tests with
  | nil => exact Leads.pure fun _ holds => holds
  | cons test rest ih =>
      rw [announceExcluded]
      exact (orchestrator.announce_keeps _).bind fun _ => ih

theorem resetAmplifiers_keeps (suite : TestSuite) (amplifiers : List (Amplifier W)) :
    Keeps condition (resetAmplifiers suite amplifiers : Amplify σ W Unit) := by
  induction amplifiers with
  | nil => exact Leads.pure fun _ holds => holds
  | cons amplifier rest ih =>
      rw [resetAmplifiers]
      exact (ask_keeps _ _).bind fun _ => ih

/-! ## Lineage -/

/-- A test without a parent stays, and so does one whose parent can be recorded. -/
theorem adopt_leads (test : TestCase) (given : Option TestId) {after : Bool → Standing σ → Prop}
    (alone : ∀ standing, condition standing →
      parentFor standing.genealogy test given = none → after true standing)
    (recorded : ∀ standing parent later, condition standing →
      parentFor standing.genealogy test given = some parent →
      standing.genealogy.record test parent = .ok later → after true { standing with
        genealogy := later
        chronicle := standing.chronicle ++ [.lineage later] })
    (refused : ∀ standing, condition standing → after false standing) :
    Leads condition (adopt test given : Amplify σ W Bool) after := by
  intro run holds
  have aloneHere := alone run.standing holds
  have recordedHere := recorded run.standing
  cases chosen : parentFor run.genealogy test given with
  | none =>
      rw [adopt, chosen]
      exact aloneHere chosen
  | some parent =>
      cases answer : run.genealogy.record test parent with
      | error error =>
          simp only [adopt, chosen, answer]
          exact refused run.standing holds
      | ok later =>
          simp only [adopt, chosen, answer]
          exact recordedHere parent later holds chosen answer

/-- Adoption keeps a condition that holds under every genealogy, and it answers tests
that it was given. -/
theorem adoptAll_among
    (indifferent : Indifferent condition) (pairs : List (TestCase × Option TestId)) :
    Leads condition (adoptAll pairs : Amplify σ W (List TestCase))
      fun answer standing => condition standing ∧ answer ⊆ pairs.map Prod.fst := by
  induction pairs with
  | nil => exact Leads.pure fun _ holds => ⟨holds, List.nil_subset _⟩
  | cons pair rest ih =>
      obtain ⟨test, given⟩ := pair
      rw [adoptAll]
      have one : Keeps condition (adopt test given : Amplify σ W Bool) :=
        adopt_leads test given (fun _ holds _ => holds)
          (fun standing _ later holds _ _ => indifferent standing later holds)
          fun _ holds => holds
      refine one.bind fun stays => ih.bind fun others => Leads.pure ?_
      rintro standing ⟨holds, among⟩
      refine ⟨holds, ?_⟩
      cases stays with
      | false => exact List.subset_cons_of_subset _ among
      | true => exact List.cons_subset_cons _ among

/-! ## Candidates from the tools -/

/-- An amplifier makes the test out of another, under whose identity it is listed, and
the test is usable. -/
structure IsVariant (amplifiers : List (Amplifier W)) (suite : TestSuite)
    (nominated : List TestCase) (variant : TestCase × TestId) : Prop
    extends IsUsable suite variant.1 where
  made : ∃ test ∈ nominated, variant.2 = test.id ∧
    ∃ amplifier ∈ amplifiers, ∃ world, variant.1 ∈ (amplifier.apply test world).1

theorem variantsOf_leads (suite : TestSuite) (test : TestCase) (amplifiers : List (Amplifier W)) :
    Leads condition (variantsOf suite test amplifiers : Amplify σ W _)
      fun variants standing => condition standing ∧
        ∀ variant ∈ variants, IsVariant amplifiers suite [test] variant := by
  induction amplifiers generalizing condition with
  | nil => exact Leads.pure fun _ holds => ⟨holds, nofun⟩
  | cons amplifier rest ih =>
      rw [variantsOf]
      refine (ask_leads _ _).bind fun children => ih.bind fun others => Leads.pure ?_
      rintro standing ⟨⟨holds, world, made⟩, fromRest⟩
      refine ⟨holds, ?_⟩
      intro variant member
      rcases List.mem_append.1 member with here | there
      · obtain ⟨child, usable, rfl⟩ := List.mem_map.1 here
        rw [List.mem_filter, Bool.and_eq_true, Bool.not_eq_true'] at usable
        exact ⟨⟨usable.2.2, usable.2.1⟩, test, List.mem_singleton.2 rfl, rfl, amplifier, .head _,
          world, made ▸ usable.1⟩
      · obtain ⟨usable, origin, member, same, maker, listed, world, made⟩ := fromRest variant there
        exact ⟨usable, origin, member, same, maker, .tail _ listed, world, made⟩

theorem variantsOfAll_leads (suite : TestSuite) (nominated : List TestCase) :
    Leads condition (orchestrator.variantsOfAll suite nominated)
      fun variants standing => condition standing ∧
        ∀ variant ∈ variants,
          IsVariant orchestrator.workshop.amplifiers suite nominated variant := by
  induction nominated generalizing condition with
  | nil => exact Leads.pure fun _ holds => ⟨holds, nofun⟩
  | cons test rest ih =>
      rw [variantsOfAll]
      refine (variantsOf_leads suite test _).bind fun first => ih.bind fun others => Leads.pure ?_
      rintro standing ⟨⟨holds, fromFirst⟩, fromRest⟩
      refine ⟨holds, ?_⟩
      intro variant member
      rcases List.mem_append.1 member with here | there
      · obtain ⟨usable, origin, only, made⟩ := fromFirst variant here
        rw [List.mem_singleton] at only
        exact ⟨usable, origin, List.mem_cons.2 (.inl only), made⟩
      · obtain ⟨usable, origin, member, made⟩ := fromRest variant there
        exact ⟨usable, origin, .tail _ member, made⟩

/-- The tests with assertions are answers of the generator. -/
theorem assertedTests_leads (suite : TestSuite) (tests : List TestCase) :
    Leads condition (orchestrator.assertedTests suite tests)
      fun asserted standing => condition standing ∧ ∃ world, ∀ test ∈ asserted,
        test ∈ (orchestrator.workshop.addAssertions suite tests world).1 := by
  rw [assertedTests]
  refine (ask_leads _ _).bind fun answered => Leads.pure ?_
  rintro standing ⟨holds, world, rfl⟩
  exact ⟨holds, world, fun test member => (List.mem_filter.1 member).1⟩

theorem assertedTests_filled (suite : TestSuite) (tests : List TestCase) :
    Leads condition (orchestrator.assertedTests suite tests)
      fun asserted standing => condition standing ∧
        ∀ test ∈ asserted, test.hasEmptyBody = false := by
  rw [assertedTests]
  refine (ask_keeps _ _).bind fun answered => Leads.pure fun standing holds => ⟨holds, ?_⟩
  intro test member
  simpa using (List.mem_filter.1 member).2

/-- Expansion makes usable tests. -/
theorem expand_usable
    (indifferent : Indifferent condition) (suite : TestSuite) (nominated : List TestCase) :
    Leads condition (orchestrator.expand suite nominated)
      fun expanded standing => condition standing ∧
        ∀ test ∈ expanded, IsUsable suite test := by
  rw [expand]
  refine (orchestrator.variantsOfAll_leads suite nominated).bind fun variants =>
    Leads.assume fun made => ?_
  refine (adoptAll_among indifferent _).weaken (fun _ holds => holds) ?_
  rintro expanded standing ⟨holds, among⟩
  refine ⟨holds, ?_⟩
  intro test member
  obtain ⟨pair, inPairs, rfl⟩ := List.mem_map.1 (among member)
  obtain ⟨variant, remains, rfl⟩ := List.mem_map.1 inPairs
  exact (made variant ((reduceAfter_sublist _ _ _).subset remains)).toIsUsable

/-- Expansion makes tests that are new to the suite. -/
theorem expand_among
    (indifferent : Indifferent condition) (suite : TestSuite) (nominated : List TestCase) :
    Leads condition (orchestrator.expand suite nominated)
      fun expanded standing => condition standing ∧
        ∀ test ∈ expanded, isNewTo suite test = true :=
  (orchestrator.expand_usable indifferent suite nominated).weaken (fun _ holds => holds)
    fun _ _ result => ⟨result.1, fun test member => (result.2 test member).fresh⟩

/-- Tests that are adopted are among the given ones and new to the suite. -/
theorem adoptNew_subset
    (indifferent : Indifferent condition) (suite : TestSuite) (tests : List TestCase) :
    Leads condition (adoptNew suite tests : Amplify σ W (List TestCase))
      fun adopted standing => condition standing ∧ adopted ⊆ tests.filter (isNewTo suite) := by
  rw [adoptNew]
  refine (adoptAll_among indifferent _).weaken (fun _ holds => holds) ?_
  rintro adopted standing ⟨holds, among⟩
  refine ⟨holds, fun test member => ?_⟩
  obtain ⟨pair, inPairs, rfl⟩ := List.mem_map.1 (among member)
  obtain ⟨answered, fresh, rfl⟩ := List.mem_map.1 inPairs
  exact fresh

theorem adoptNew_among
    (indifferent : Indifferent condition) (suite : TestSuite) (tests : List TestCase) :
    Leads condition (adoptNew suite tests : Amplify σ W (List TestCase))
      fun adopted standing => condition standing ∧
        ∀ test ∈ adopted, isNewTo suite test = true :=
  (adoptNew_subset indifferent suite tests).weaken (fun _ holds => holds)
    fun _ _ result => ⟨result.1, fun _ member => (List.mem_filter.1 (result.2 member)).2⟩

/-- What holds of the candidates and of every usable test holds of the tests that go on when
assertions are added. -/
theorem injectAssertions_leads
    (indifferent : Indifferent condition) (suite : TestSuite) {candidates : List TestCase}
    {property : TestCase → Prop} (usable : ∀ test, IsUsable suite test → property test)
    (given : ∀ test ∈ candidates, property test) :
    Leads condition (orchestrator.injectAssertions suite candidates)
      fun asserted standing => condition standing ∧ ∀ test ∈ asserted, property test := by
  rw [injectAssertions]
  refine (orchestrator.assertedTests_filled suite candidates).bind fun answered =>
    Leads.assume fun filled => ?_
  refine (adoptNew_subset indifferent suite answered).bind fun asserted => Leads.pure ?_
  rintro standing ⟨holds, among⟩
  refine ⟨holds, ?_⟩
  split
  · exact given
  · intro test member
    obtain ⟨isAnswer, fresh⟩ := List.mem_filter.1 (among member)
    exact usable test ⟨fresh, filled test isAnswer⟩

/-- Candidates that are new to the suite stay so when assertions are added. -/
theorem injectAssertions_among
    (indifferent : Indifferent condition) (suite : TestSuite) {candidates : List TestCase}
    (fresh : ∀ test ∈ candidates, isNewTo suite test = true) :
    Leads condition (orchestrator.injectAssertions suite candidates)
      fun asserted standing => condition standing ∧
        ∀ test ∈ asserted, isNewTo suite test = true :=
  orchestrator.injectAssertions_leads indifferent suite (fun _ usable => usable.fresh) fresh

/-! ## Decisions -/

/-- A decision changes the state of the selector, and goes into the chronicle with what it
was about. -/
theorem judge_leads (seed : Option TestCase) (candidates : List TestCase)
    {after : List TestCase → Standing σ → Prop}
    (each : ∀ standing (selection : Selection σ W), condition standing →
      selection.state = standing.selector →
      after (orchestrator.selector.keep candidates standing.genealogy selection).1
        { standing with
          selector :=
            (orchestrator.selector.keep candidates standing.genealogy selection).2.state
          chronicle := standing.chronicle ++ [.decision seed candidates standing.genealogy
            (orchestrator.selector.keep candidates standing.genealogy selection).1] }) :
    Leads condition (orchestrator.judge seed candidates) after :=
  fun run holds => each run.standing ⟨run.selector, run.world, []⟩ holds rfl

/-! ## Compiling and running -/

/-- Compiling and running keeps what an update of the selector keeps. -/
theorem compileAndRun_keeps
    (update : Keeps condition (Amplify.consult orchestrator.selector.update))
    (suite : TestSuite) (tests : List TestCase) :
    Keeps condition (orchestrator.compileAndRun suite tests) := by
  rw [compileAndRun]
  refine (ask_keeps _ _).bind fun compiled => (hear_keeps _).bind fun _ => ?_
  cases compiled with
  | error error => exact (count_keeps _).bind fun _ => Leads.pure fun _ holds => holds
  | ok _ =>
      refine (ask_keeps _ _).bind fun ran => (hear_keeps _).bind fun _ => ?_
      cases ran with
      | error error => exact (count_keeps _).bind fun _ => Leads.pure fun _ holds => holds
      | ok result =>
          dsimp only
          by_cases incomplete : result.testsRun.size < tests.length
          · rw [if_pos incomplete]
            exact (count_keeps _).bind fun _ => Leads.pure fun _ holds => holds
          · rw [if_neg incomplete]
            exact update.bind fun _ => Leads.pure fun _ holds => holds

/-- The tests that remain are among those that were to be run. -/
theorem preflight_leads
    (update : Keeps condition (Amplify.consult orchestrator.selector.update))
    (suite : TestSuite) (tests : List TestCase) :
    Leads condition (orchestrator.preflight suite tests)
      fun answer standing => condition standing ∧
        ∀ green, answer = some green → green ⊆ tests := by
  induction number : tests.length using Nat.strongRecOn generalizing tests with
  | _ number ih =>
      rw [preflight]
      by_cases nothing : tests.isEmpty = true
      · rw [if_pos nothing]
        exact Leads.pure fun _ holds => ⟨holds, nofun⟩
      rw [if_neg nothing]
      refine (orchestrator.compileAndRun_keeps update suite tests).bind fun answer => ?_
      cases answer with
      | error failure => exact Leads.pure fun _ holds => ⟨holds, nofun⟩
      | ok result =>
          by_cases passes : result.failures.isEmpty = true
          · simp only [passes, if_true]
            refine Leads.pure fun _ holds => ⟨holds, ?_⟩
            rintro green ⟨⟩
            exact fun _ member => member
          simp only [passes]
          refine (orchestrator.announceExcluded_keeps suite _).bind fun _ => ?_
          by_cases fewer : (notFailedAmong result tests).length < tests.length
          · rw [dif_pos fewer]
            refine (ih _ (number ▸ fewer) _ rfl).weaken (fun _ holds => holds) ?_
            rintro answer standing ⟨holds, among⟩
            refine ⟨holds, ?_⟩
            intro green same test member
            exact (List.mem_filter.1 (among green same member)).1
          · rw [dif_neg fewer]
            exact Leads.pure fun _ holds => ⟨holds, nofun⟩

end Orchestrator

end TestAmplification
