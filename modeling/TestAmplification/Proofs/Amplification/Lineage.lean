import TestAmplification.Proofs.Amplification.LoopRule
import TestAmplification.Proofs.Genealogy.Rooted
import TestAmplification.Selection.MutationScore
import TestAmplification.Selection.Selector

/-!
# The lineage of everything that is judged

Lineage is recorded when variants are made and when assertions come back, under a
parent that is named by the test, given by the loop or recorded before. When the tools
keep their contract, that parent is always anchored in the suite and has the allowed
origin (`Acceptable`). So every candidate of an iteration is derived from the seed
test of the loop, and the genealogy stays rooted in the suite, which means that
no method of the suite ever gets a parent (`LineageHolds.loopRule`).

Clearing the genealogy is what makes it rooted. A run that ends before, because there is
no test to amplify or no baseline, leaves the genealogy of the run before it as
it was.
-/

set_option autoImplicit false

namespace TestAmplification

open Genealogy

variable {σ W : Type}

/-! ## Contracts -/

/-- The tools keep the contract about origins. -/
structure Workshop.KeepsContract (workshop : Workshop W) : Prop where
  /-- A variant names no origin or the test that it was made from. -/
  variants : ∀ amplifier ∈ workshop.amplifiers, ∀ test world,
    ∀ child ∈ (amplifier.apply test world).1,
      child.derivedFrom = none ∨ child.derivedFrom = some test.id
  /-- A test with assertions reuses the identity of a test that was handed over, and then
  names no origin or one of these tests, or it names one of these tests. -/
  asserted : ∀ suite tests world, ∀ answer ∈ (workshop.addAssertions suite tests world).1,
    (∃ handed ∈ tests, answer.id = handed.id) ∧
        (answer.derivedFrom = none ∨ ∃ handed ∈ tests, answer.derivedFrom = some handed.id) ∨
      ∃ handed ∈ tests, answer.derivedFrom = some handed.id

theorem Workshop.simple_keepsContract : Workshop.simple.KeepsContract where
  variants := by
    intro amplifier listed test world child made
    rw [List.mem_singleton.1 listed] at made
    rw [List.mem_singleton.1 made]
    exact .inl rfl
  asserted := by
    intro suite tests world answer returned
    obtain ⟨test, member, rfl⟩ := List.mem_map.1 returned
    exact .inl ⟨⟨test, member, rfl⟩, .inl rfl⟩

/-- The selectors that there are. -/
inductive Selector.IsShipped : {σ : Type} → Selector σ W → Prop where
  | takeAll : IsShipped TakeAll.selector
  | mutationScore (setting : MutationScore.Setting W) :
      IsShipped (MutationScore.selector setting)

/-- The selectors nominate all tests. -/
theorem Selector.IsShipped.nominate_answer {selector : Selector σ W}
    (shipped : selector.IsShipped) (suite : TestSuite) (tests : List TestCase)
    (selection : Selection σ W) : (selector.nominate suite tests selection).1 = tests := by
  cases shipped with
  | takeAll => rfl
  | mutationScore setting => rfl

/-! ## Acceptable parents -/

/-- The parent that a test is recorded under, apart from one that is recorded already. -/
def namedParent (test : TestCase) (given : Option TestId) : Option TestId :=
  (test.derivedFrom.filter (· != test.id)) <|> given

theorem parentFor_eq (genealogy : Genealogy) (test : TestCase) (given : Option TestId) :
    parentFor genealogy test given = (namedParent test given <|> genealogy.parentOf? test.id) := by
  rw [parentFor, namedParent]
  cases test.derivedFrom.filter (· != test.id) <;> rfl

/-- The origin of a derived test is an allowed one. -/
structure Fits (allowed : TestId → Prop) (genealogy : Genealogy) (id : TestId) : Prop where
  derived : genealogy.isDerived id = true
  allowed : allowed (genealogy.rootOf id)

/-- The test is anchored, and its origin is an allowed one. -/
structure IsReady (suite : TestSuite) (allowed : TestId → Prop) (genealogy : Genealogy)
    (id : TestId) : Prop where
  anchored : Anchored suite genealogy id
  allowed : allowed (genealogy.rootOf id)

/-- The test is new to the suite. Its parent is ready, or it has none to name and is derived
already. -/
structure Acceptable (suite : TestSuite) (allowed : TestId → Prop) (genealogy : Genealogy)
    (test : TestCase) (given : Option TestId) : Prop where
  fresh : test.id ∉ suite.ids
  parent : ∀ parent, namedParent test given = some parent →
    IsReady suite allowed genealogy parent
  recorded : namedParent test given = none → Fits allowed genealogy test.id

variable {suite : TestSuite} {allowed : TestId → Prop} {genealogy later : Genealogy}

theorem Fits.isReady {id : TestId} (fits : Fits allowed genealogy id) :
    IsReady suite allowed genealogy id :=
  ⟨.inr fits.derived, fits.allowed⟩

theorem IsReady.fits {id : TestId} (ready : IsReady suite allowed genealogy id)
    (fresh : id ∉ suite.ids) : Fits allowed genealogy id :=
  ⟨ready.anchored.resolve_left fresh, ready.allowed⟩

theorem IsReady.mono {id : TestId} (ready : IsReady suite allowed genealogy id)
    (grows : Grows suite genealogy later) : IsReady suite allowed later id :=
  ⟨grows.anchored ready.anchored, (grows.sameRoot id ready.anchored).symm ▸ ready.allowed⟩

theorem Fits.mono {id : TestId} (fits : Fits allowed genealogy id)
    (grows : Grows suite genealogy later) : Fits allowed later id :=
  ⟨grows.stays.isDerived fits.derived, (fits.isReady.mono grows).allowed⟩

theorem Acceptable.mono {test : TestCase} {given : Option TestId}
    (acceptable : Acceptable suite allowed genealogy test given)
    (grows : Grows suite genealogy later) : Acceptable suite allowed later test given where
  fresh := acceptable.fresh
  parent parent named := (acceptable.parent parent named).mono grows
  recorded unnamed := (acceptable.recorded unnamed).mono grows

/-- A variant of a ready test is acceptable under that test. -/
theorem acceptable_of_variant {child : TestCase} {origin : TestId}
    (ready : IsReady suite allowed genealogy origin) (fresh : isNewTo suite child = true)
    (contract : child.derivedFrom = none ∨ child.derivedFrom = some origin) :
    Acceptable suite allowed genealogy child (some origin) := by
  have named : namedParent child (some origin) = some origin := by
    rw [namedParent]
    rcases contract with noHint | hint
    · rw [noHint]
      rfl
    · rw [hint]
      by_cases self : (origin != child.id) = true
      · simp [Option.filter, self]
      · simp [Option.filter, self]
  refine ⟨(isNewTo_iff suite child).1 fresh, ?_, ?_⟩
  · intro parent isNamed
    rw [named] at isNamed
    cases isNamed
    exact ready
  · intro unnamed
    rw [named] at unnamed
    cases unnamed

/-- A new test with assertions is acceptable when the tests that were handed over are
ready. -/
theorem acceptable_of_asserted {handed : List TestCase} {answer : TestCase}
    (ready : ∀ test ∈ handed, IsReady suite allowed genealogy test.id)
    (fresh : isNewTo suite answer = true)
    (contract : (∃ test ∈ handed, answer.id = test.id) ∧
        (answer.derivedFrom = none ∨ ∃ test ∈ handed, answer.derivedFrom = some test.id) ∨
      ∃ test ∈ handed, answer.derivedFrom = some test.id) :
    Acceptable suite allowed genealogy answer none := by
  have free := (isNewTo_iff suite answer).1 fresh
  have hinted : ∀ test ∈ handed, answer.derivedFrom = some test.id →
      Acceptable suite allowed genealogy answer none := by
    intro test member hint
    by_cases self : test.id = answer.id
    · have unnamed : namedParent answer none = none := by
        simp [namedParent, hint, Option.filter, self]
      refine ⟨free, ?_, fun _ => (self ▸ ready test member).fits free⟩
      intro parent isNamed
      rw [unnamed] at isNamed
      cases isNamed
    · have named : namedParent answer none = some test.id := by
        simp [namedParent, hint, Option.filter, self]
      refine ⟨free, ?_, ?_⟩
      · intro parent isNamed
        rw [named] at isNamed
        cases isNamed
        exact ready test member
      · intro unnamed
        rw [named] at unnamed
        cases unnamed
  rcases contract with ⟨⟨test, member, same⟩, noHint | ⟨other, otherMember, hint⟩⟩ |
    ⟨other, otherMember, hint⟩
  · have unnamed : namedParent answer none = none := by
      rw [namedParent, noHint]
      rfl
    refine ⟨free, ?_, fun _ => (same ▸ ready test member).fits free⟩
    intro parent isNamed
    rw [unnamed] at isNamed
    cases isNamed
  · exact hinted other otherMember hint
  · exact hinted other otherMember hint

/-! ## Adoption -/

/-- What holds of an entry of the chronicle: no method of the suite has a parent, and an
iteration for a seed test is about tests that are derived from it. -/
def ChronicleEntry.Sound (suite : TestSuite) : ChronicleEntry → Prop
  | lineage genealogy => ∀ method ∈ suite.methods, genealogy.isDerived method.id = false
  | decision (some seed) candidates genealogy _ =>
      ∀ candidate ∈ candidates, Fits (· = seed.id) genealogy candidate.id
  | decision none _ _ _ => True

/-- The genealogy is rooted in the suite, and what was added to the chronicle is sound. -/
structure LineageHolds (suite : TestSuite) (earlier : List ChronicleEntry)
    (standing : Standing σ) : Prop where
  rooted : Rooted suite standing.genealogy
  entries : ∃ entries, standing.chronicle = earlier ++ entries ∧ ∀ entry ∈ entries,
    entry.Sound suite

/-- The lineage holds, and the genealogy has grown out of the given one. -/
structure LineageFrom (suite : TestSuite) (earlier : List ChronicleEntry) (base : Genealogy)
    (standing : Standing σ) : Prop where
  holds : LineageHolds suite earlier standing
  grows : Grows suite base standing.genealogy

variable {earlier : List ChronicleEntry} {base : Genealogy}

/-- A further sound entry keeps the chronicle sound. -/
theorem LineageHolds.chronicled {standing : Standing σ} {entry : ChronicleEntry}
    (holds : LineageHolds suite earlier standing) (sound : entry.Sound suite) :
    ∃ entries, standing.chronicle ++ [entry] = earlier ++ entries ∧ ∀ entry ∈ entries,
      entry.Sound suite := by
  obtain ⟨entries, same, allSound⟩ := holds.entries
  refine ⟨entries ++ [entry], by rw [same, List.append_assoc], ?_⟩
  intro other member
  rcases List.mem_append.1 member with old | new
  · exact allSound other old
  · rw [List.mem_singleton.1 new]
    exact sound

theorem LineageHolds.withGenealogy {standing : Standing σ}
    (holds : LineageHolds suite earlier standing) (rooted : Rooted suite later) :
    LineageHolds suite earlier { standing with
      genealogy := later
      chronicle := standing.chronicle ++ [.lineage later] } :=
  ⟨rooted, holds.chronicled fun _ member => rooted.isDerived_of_mem member⟩

theorem LineageHolds.from_here {standing : Standing σ}
    (holds : LineageHolds suite earlier standing) (other : Standing σ) (same : other = standing) :
    LineageFrom suite earlier standing.genealogy other := by
  subst same
  exact ⟨holds, .refl suite _⟩

/-- An acceptable test that stays is derived, with an allowed origin. -/
theorem adopt_lineage {test : TestCase} {given : Option TestId}
    (acceptable : Acceptable suite allowed base test given) :
    Leads (LineageFrom suite earlier base) (Orchestrator.adopt test given : Amplify σ W Bool)
      fun stays standing => LineageFrom suite earlier base standing ∧
        (stays = true → Fits allowed standing.genealogy test.id) := by
  -- Whichever way the parent is chosen, it is ready.
  have chosenReady : ∀ standing : Standing σ, LineageFrom suite earlier base standing →
      ∃ parent, parentFor standing.genealogy test given = some parent ∧
        IsReady suite allowed standing.genealogy parent := by
    intro standing lineage
    have here := acceptable.mono lineage.grows
    rw [parentFor_eq]
    cases named : namedParent test given with
    | some parent => exact ⟨parent, rfl, here.parent parent named⟩
    | none =>
        have fits := here.recorded named
        obtain ⟨parent, step⟩ := (isDerived_iff _).1 fits.derived
        refine ⟨parent, step, lineage.holds.rooted.anchored _ _ step, ?_⟩
        rw [← lineage.holds.rooted.acyclic.rootOf_of_parent step]
        exact fits.allowed
  refine Orchestrator.adopt_leads test given ?_ ?_ ?_
  · intro standing lineage alone
    obtain ⟨parent, chosen, -⟩ := chosenReady standing lineage
    rw [alone] at chosen
    cases chosen
  · intro standing parent later lineage chosen recorded
    obtain ⟨other, same, ready⟩ := chosenReady standing lineage
    rw [chosen] at same
    cases same
    obtain ⟨rooted, grows, derived, root⟩ :=
      lineage.holds.rooted.record recorded acceptable.fresh ready.anchored
    refine ⟨⟨lineage.holds.withGenealogy rooted, lineage.grows.trans grows⟩, fun _ => ⟨derived, ?_⟩⟩
    rw [root]
    exact ready.allowed
  · intro standing lineage
    exact ⟨lineage, nofun⟩

/-- Acceptable tests that stay are derived, with allowed origins. -/
theorem adoptAll_lineage {pairs : List (TestCase × Option TestId)}
    (acceptable : ∀ pair ∈ pairs, Acceptable suite allowed base pair.1 pair.2) :
    Leads (LineageFrom suite earlier base)
      (Orchestrator.adoptAll pairs : Amplify σ W (List TestCase))
      fun adopted standing => LineageFrom suite earlier base standing ∧
        ∀ test ∈ adopted, Fits allowed standing.genealogy test.id := by
  -- The rest is adopted into the genealogy that the first test leaves behind.
  induction pairs generalizing base with
  | nil => exact Leads.pure fun _ lineage => ⟨lineage, nofun⟩
  | cons pair rest ih =>
      obtain ⟨test, given⟩ := pair
      rw [Orchestrator.adoptAll]
      refine (adopt_lineage (acceptable _ (.head _))).bind fun stays =>
        Leads.fix fun standing here => ?_
      obtain ⟨lineage, fits⟩ := here
      have others := ih fun pair member => (acceptable pair (.tail _ member)).mono lineage.grows
      refine (others.weaken lineage.holds.from_here fun _ _ result => result).bind
        fun adopted => Leads.pure ?_
      rintro last ⟨lastLineage, lastFits⟩
      refine ⟨⟨lastLineage.holds, lineage.grows.trans lastLineage.grows⟩, ?_⟩
      intro other member
      cases stays with
      | false => exact lastFits other member
      | true =>
          rcases List.mem_cons.1 member with rfl | later
          · exact (fits rfl).mono lastLineage.grows
          · exact lastFits other later

/-! ## The steps of the loop -/

section

variable {orchestrator : Orchestrator σ W} (contract : orchestrator.workshop.KeepsContract)

include contract

/-- Variants of ready tests are derived, with the same origins. -/
theorem expand_lineage {nominated : List TestCase}
    (ready : ∀ test ∈ nominated, IsReady suite allowed base test.id) :
    Leads (LineageFrom suite earlier base) (orchestrator.expand suite nominated)
      fun expanded standing => LineageFrom suite earlier base standing ∧
        ∀ test ∈ expanded, Fits allowed standing.genealogy test.id := by
  rw [Orchestrator.expand]
  refine (orchestrator.variantsOfAll_leads suite nominated).bind fun variants =>
    Leads.assume fun made => adoptAll_lineage ?_
  intro pair member
  obtain ⟨⟨child, origin⟩, remains, rfl⟩ := List.mem_map.1 member
  have variant := made (child, origin) ((reduceAfter_sublist _ _ _).subset remains)
  obtain ⟨test, isNominated, rfl, amplifier, listed, world, isChild⟩ := variant.made
  exact acceptable_of_variant (ready test isNominated) variant.fresh
    (contract.variants amplifier listed test world child isChild)

/-- New tests that come back with assertions are derived, with the origins of the tests that
were handed over. -/
theorem adoptNew_lineage {handed answered : List TestCase} {world : W}
    (ready : ∀ test ∈ handed, IsReady suite allowed base test.id)
    (returned : ∀ test ∈ answered,
      test ∈ (orchestrator.workshop.addAssertions suite handed world).1) :
    Leads (LineageFrom suite earlier base)
      (Orchestrator.adoptNew suite answered : Amplify σ W (List TestCase))
      fun adopted standing => LineageFrom suite earlier base standing ∧
        ∀ test ∈ adopted, Fits allowed standing.genealogy test.id := by
  rw [Orchestrator.adoptNew]
  refine adoptAll_lineage ?_
  intro pair member
  obtain ⟨answer, isNew, rfl⟩ := List.mem_map.1 member
  obtain ⟨isAnswer, fresh⟩ := List.mem_filter.1 isNew
  exact acceptable_of_asserted ready fresh
    (contract.asserted suite handed world answer (returned answer isAnswer))

/-- Candidates keep their origins when assertions are added. -/
theorem injectAssertions_lineage {candidates : List TestCase}
    (fits : ∀ test ∈ candidates, Fits allowed base test.id) :
    Leads (LineageFrom suite earlier base) (orchestrator.injectAssertions suite candidates)
      fun asserted standing => LineageFrom suite earlier base standing ∧
        ∀ test ∈ asserted, Fits allowed standing.genealogy test.id := by
  rw [Orchestrator.injectAssertions]
  refine (orchestrator.assertedTests_leads suite candidates).bind fun answered =>
    Leads.assume fun answers => ?_
  obtain ⟨world, returned⟩ := answers
  refine (adoptNew_lineage contract (fun test member => (fits test member).isReady)
    returned).bind fun asserted => Leads.pure ?_
  rintro standing ⟨lineage, assertedFits⟩
  refine ⟨lineage, ?_⟩
  split
  · exact fun test member => (fits test member).mono lineage.grows
  · exact assertedFits

end

theorem consult_lineage {α : Type} (step : Select σ W α) :
    Keeps (LineageHolds suite earlier) (Amplify.consult step) :=
  consult_leads fun _ _ holds _ => ⟨holds.rooted, holds.entries⟩

variable {orchestrator : Orchestrator σ W}

theorem preAmplify_lineage (contract : orchestrator.workshop.KeepsContract)
    (nominatesAll : ∀ tests selection,
      (orchestrator.selector.nominate suite tests selection).1 = tests)
    {seeds : List TestCase} (among : seeds ⊆ suite.methods) :
    Keeps (LineageHolds suite earlier) (orchestrator.preAmplify suite seeds) := by
  rw [Orchestrator.preAmplify]
  have nominate : Leads (LineageHolds suite earlier)
      (Amplify.consult (orchestrator.selector.nominate suite seeds))
      fun nominated standing => LineageHolds suite earlier standing ∧ nominated = seeds :=
    consult_leads fun _ selection holds _ =>
      ⟨⟨holds.rooted, holds.entries⟩, nominatesAll seeds selection⟩
  refine (consult_lineage _).bind fun _ => nominate.bind fun nominated =>
    Leads.assume fun same => ?_
  subst same
  by_cases nobody : nominated.isEmpty = true
  · rw [if_pos nobody]
    exact Leads.pure fun _ holds => holds
  rw [if_neg nobody]
  refine (orchestrator.assertedTests_leads suite nominated).bind fun answered =>
    Leads.assume fun answers => Leads.fix fun standing holds => ?_
  obtain ⟨world, returned⟩ := answers
  have ready : ∀ test ∈ nominated,
      IsReady suite (fun _ => True) standing.genealogy test.id :=
    fun test member => ⟨.inl (List.mem_map_of_mem (among member)), trivial⟩
  have changed : ∀ test ∈ answered.filter fun test => !nominated.any fun seed => seed.sameBody test,
      test ∈ (orchestrator.workshop.addAssertions suite nominated world).1 :=
    fun test member => returned test (List.mem_filter.1 member).1
  refine ((adoptNew_lineage contract ready changed).weaken holds.from_here
    fun _ _ result => result.1.holds).bind fun improved => ?_
  by_cases nothing : improved.isEmpty = true
  · rw [if_pos nothing]
    exact Leads.pure fun _ holds => holds
  rw [if_neg nothing]
  exact orchestrator.judge_leads none improved fun _ _ holds _ =>
    ⟨holds.rooted, holds.chronicled trivial⟩

/-- **The steps of the loop keep the lineage.** A test is ready when it goes back to the seed
test, and fit when it is derived from it. -/
theorem LineageHolds.loopRule (contract : orchestrator.workshop.KeepsContract)
    (nominatesAll : ∀ tests selection,
      (orchestrator.selector.nominate suite tests selection).1 = tests) :
    LoopRule orchestrator suite (fun _ => LineageHolds suite earlier)
      (fun seed standing test => IsReady suite (· = seed.id) standing.genealogy test.id)
      (fun seed standing test => Fits (· = seed.id) standing.genealogy test.id) where
  seedReady _ _ seed member holds :=
    ⟨.inl (List.mem_map_of_mem member), holds.rooted.rootOf_of_mem member⟩
  fitReady _ _ _ fits := fits.isReady
  update _ _ _ _ := consult_leads fun _ _ busy _ =>
    ⟨⟨busy.holds.rooted, busy.holds.entries⟩, busy.ready, busy.fit⟩
  reset _ := consult_lineage _
  nominate seed kept working := by
    refine consult_leads fun standing selection busy _ => ?_
    rw [nominatesAll]
    exact ⟨⟨busy.holds.rooted, busy.holds.entries⟩, busy.ready, nofun⟩
  expand seed kept nominated := by
    refine Leads.fix fun standing busy => ?_
    refine (expand_lineage contract busy.ready).weaken busy.holds.from_here ?_
    rintro expanded later ⟨lineage, fits⟩
    exact ⟨lineage.holds, fun test member => (busy.ready test member).mono lineage.grows, fits⟩
  inject seed kept nominated expanded := by
    refine Leads.fix fun standing busy => ?_
    refine (injectAssertions_lineage contract busy.fit).weaken busy.holds.from_here ?_
    rintro candidates later ⟨lineage, fits⟩
    exact ⟨lineage.holds, fun test member => (busy.ready test member).mono lineage.grows, fits⟩
  judge seed kept working candidates := by
    refine orchestrator.judge_leads (some seed) candidates fun standing selection busy _ => ?_
    exact ⟨⟨busy.holds.rooted, busy.holds.chronicled busy.fit⟩, busy.ready, nofun⟩
  preAmplify _ among := preAmplify_lineage contract nominatesAll among

/-! ## Whole runs -/

/-- Genealogy and chronicle are the given ones, or the lineage holds since the genealogy was
cleared. -/
def LineageSince (suite : TestSuite) (base : Genealogy) (earlier : List ChronicleEntry)
    (standing : Standing σ) : Prop :=
  standing.genealogy = base ∧ standing.chronicle = earlier ∨
    LineageHolds suite (earlier ++ [.lineage .empty]) standing

/-- A run of a suite ends before the genealogy is cleared, or the lineage holds from then
on. -/
theorem runSuite_lineage (contract : orchestrator.workshop.KeepsContract)
    (nominatesAll : ∀ tests selection,
      (orchestrator.selector.nominate suite tests selection).1 = tests)
    (maxIterations : UInt32) :
    Leads (fun standing => standing.genealogy = base ∧ standing.chronicle = earlier)
      (orchestrator.runSuite suite maxIterations)
      fun _ => LineageSince suite base earlier := by
  have cleared : ∀ standing : Standing σ,
      standing.genealogy = base ∧ standing.chronicle = earlier →
        LineageHolds suite (earlier ++ [.lineage .empty]) { standing with
          genealogy := .empty
          chronicle := standing.chronicle ++ [.lineage .empty] } := by
    rintro standing ⟨-, rfl⟩
    exact ⟨rooted_empty suite, [], (List.append_nil _).symm, nofun⟩
  have amplified : Leads (fun standing => standing.genealogy = base ∧ standing.chronicle = earlier)
      (orchestrator.amplify suite suite.methods maxIterations)
      fun _ => LineageSince suite base earlier := by
    refine ((LineageHolds.loopRule contract nominatesAll).amplify_leads
      (consult_leads fun _ _ here _ => here) cleared (List.Subset.refl _) maxIterations).weaken
        (fun _ here => here) ?_
    rintro answer standing (⟨-, untouched⟩ | ⟨kept, holds, -⟩)
    · exact .inl untouched
    · exact .inr holds
  have report : Keeps (LineageSince suite base earlier) orchestrator.report := by
    rw [Orchestrator.report]
    refine genealogy_keeps.bind fun genealogy => consult_leads fun standing selection since _ => ?_
    rcases since with untouched | holds
    · exact .inl untouched
    · exact .inr ⟨holds.rooted, holds.entries⟩
  rw [Orchestrator.runSuite]
  refine amplified.bind fun answer => ?_
  cases answer with
  | none => exact Leads.pure fun _ since => since
  | some extended =>
      refine report.bind fun answer => ?_
      cases answer with
      | ok report => exact Leads.pure fun _ since => since
      | error error =>
          cases error with
          | noActiveSuite => exact Leads.pure fun _ since => since
          | _ => exact Leads.pure fun _ since => since

/-- **Lineage of everything that is judged.** Let a run of a suite start from any state. In
the entries that it adds to the chronicle, every candidate of an iteration for a seed test is
derived from that test. The run adds no entry and leaves the genealogy as it was, or
it clears the genealogy first. From then on no method of the suite has a parent. -/
theorem candidates_go_back_to_seed (workshop : Workshop W) (contract : workshop.KeepsContract)
    (selector : Selector σ W) (shipped : selector.IsShipped) (settings : Settings)
    (suite : TestSuite) (maxIterations : UInt32) (start : Run σ W) :
    let final := (Orchestrator.runSuite ⟨workshop, selector, settings⟩ suite maxIterations start).2
    ∃ entries, final.chronicle = start.chronicle ++ entries ∧
      (∀ seed candidates genealogy kept,
        ChronicleEntry.decision (some seed) candidates genealogy kept ∈ entries →
        ∀ candidate ∈ candidates, genealogy.isDerived candidate.id = true ∧
          genealogy.rootOf candidate.id = seed.id) ∧
      (entries = [] ∧ final.genealogy = start.genealogy ∨
        (∃ later, entries = .lineage .empty :: later) ∧
        (∀ genealogy, ChronicleEntry.lineage genealogy ∈ entries →
          ∀ method ∈ suite.methods, genealogy.isDerived method.id = false) ∧
        ∀ method ∈ suite.methods, final.genealogy.isDerived method.id = false) := by
  intro final
  have lineage : LineageSince suite start.genealogy start.chronicle final.standing :=
    runSuite_lineage contract (shipped.nominate_answer suite) maxIterations start ⟨rfl, rfl⟩
  rcases lineage with ⟨sameGenealogy, sameChronicle⟩ | holds
  · refine ⟨[], ?_, nofun, .inl ⟨rfl, sameGenealogy⟩⟩
    rw [List.append_nil]
    exact sameChronicle
  · obtain ⟨later, same, sound⟩ := holds.entries
    refine ⟨.lineage .empty :: later, ?_, ?_, .inr ⟨⟨later, rfl⟩, ?_, ?_⟩⟩
    · exact same.trans (List.append_assoc _ _ _)
    · intro seed candidates genealogy kept member candidate offered
      rcases List.mem_cons.1 member with impossible | member
      · cases impossible
      · have fits := sound _ member candidate offered
        exact ⟨fits.derived, fits.allowed⟩
    · intro genealogy member method isMethod
      rcases List.mem_cons.1 member with first | member
      · cases first
        rfl
      · exact sound _ member method isMethod
    · exact fun method isMethod => holds.rooted.isDerived_of_mem isMethod

/-- The candidates of an iteration for a seed test. -/
def ChronicleEntry.candidates : ChronicleEntry → List TestCase
  | decision (some _) candidates _ _ => candidates
  | _ => []

/-- In a first run the variant of a seed test is judged, and it goes back to it. -/
theorem variant_goes_back_to_seed :
    let suite : TestSuite := ⟨"Suite", [], [.plain ⟨"Suite", "testOnce"⟩ "check()"]⟩
    let final := (Orchestrator.runSuite ⟨.simple, TakeAll.selector, {}⟩ suite 1
      { selector := {}, world := () }).2
    ∃ seed candidates genealogy kept,
      ChronicleEntry.decision (some seed) candidates genealogy kept ∈ final.chronicle ∧
        candidates ≠ [] ∧ (∀ candidate ∈ candidates, genealogy.isDerived candidate.id = true ∧
          genealogy.rootOf candidate.id = seed.id) ∧
        ∀ method ∈ suite.methods, final.genealogy.isDerived method.id = false := by
  intro suite final
  have judged : final.chronicle.flatMap ChronicleEntry.candidates =
      [.plain ⟨"Suite", "againtestOnce"⟩ "check() again() assert()"] := by
    decide +kernel
  obtain ⟨entries, same, fromSeed, origins⟩ := candidates_go_back_to_seed .simple
    Workshop.simple_keepsContract TakeAll.selector .takeAll {} suite 1
    { selector := {}, world := () }
  have allEntries : final.chronicle = entries := same.trans (List.nil_append entries)
  rw [allEntries] at judged
  obtain ⟨entry, member, offered⟩ := List.mem_flatMap.1 (judged ▸ List.mem_singleton.2 rfl)
  rcases origins with ⟨noEntry, -⟩ | ⟨-, -, underived⟩
  · rw [noEntry] at member
    cases member
  cases entry with
  | lineage genealogy => cases offered
  | decision seed candidates genealogy kept =>
      cases seed with
      | none => cases offered
      | some seed =>
          rw [allEntries]
          exact ⟨seed, candidates, genealogy, kept, member, List.ne_nil_of_mem offered,
            fromSeed seed candidates genealogy kept member, underived⟩

/-- A run of a suite without tests leaves the genealogy of the run before it as it was, and a
method of the suite that was a variant then still has its parent. -/
theorem lineage_of_earlier_run_stays :
    let orchestrator : Orchestrator TakeAll Unit := ⟨.simple, TakeAll.selector, {}⟩
    let earlier : TestSuite := ⟨"Suite", [], [.plain ⟨"Suite", "testOnce"⟩ "check()"]⟩
    let suite : TestSuite := ⟨"Suite", [], [.plain ⟨"Suite", "againtestOnce"⟩ "check()"]⟩
    let start := (orchestrator.run earlier { selector := {}, world := () }).2
    let final := (orchestrator.run suite start).2
    orchestrator.workshop.KeepsContract ∧ orchestrator.selector.IsShipped ∧
      ¬ ∀ method ∈ suite.methods, final.genealogy.isDerived method.id = false := by
  refine ⟨Workshop.simple_keepsContract, .takeAll, ?_⟩
  decide +kernel

end TestAmplification
