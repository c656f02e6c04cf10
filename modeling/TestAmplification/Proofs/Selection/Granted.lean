import TestAmplification.Proofs.Selection.Counting
import TestAmplification.Proofs.Selection.Session

/-!
# What a reply grants

A reply grants a mutant to a test by what was there before the decision: the reply says that the
candidate killed the mutant, no outcome of the baseline speaks against it, and no ancestor of the
candidate was credited with the mutant (`Granted`). This does not depend on the order of the reply.

The selector goes through the reply outcome by outcome and consults credits that it has just given.
That makes no difference as long as no outcome takes something away from a later one: no mutant
occurs twice in the reply, or no candidate is an ancestor of another one. Then the credited pairs
are the earlier ones and the granted ones, and the candidates that some mutant is granted to are
kept (`OpenSession.keep_granted`).
-/

set_option autoImplicit false

namespace TestAmplification

/-! ## Granted pairs -/

/-- The reply grants the mutant to the test. -/
structure Granted (baseline : List MutantOutcome) (genealogy : Genealogy)
    (candidates : List TestCase) (credits : Credits) (reply : List MutantOutcome) (test : TestId)
    (mutant : MutantId) : Prop where
  /-- The reply says that the test killed the mutant. -/
  killed : .killedBy mutant test ∈ reply
  /-- The test is a candidate. -/
  candidate : ∃ candidate ∈ candidates, candidate.id = test
  /-- In the baseline the mutant was never killed, and never without a reliable result. -/
  undecided : ∀ outcome ∈ baseline, outcome.mutant = mutant →
    outcome.state ≠ .killed ∧ outcome.state.isReliable = true
  /-- No ancestor of the test was credited with the mutant. -/
  unclaimed : ∀ ancestor ∈ genealogy.ancestors test, credits.holds ancestor mutant = false

variable {baseline : List MutantOutcome} {genealogy : Genealogy} {candidates : List TestCase}
  {credits : Credits} {reply order rest : List MutantOutcome} {outcome : MutantOutcome}
  {test killer : TestId} {mutant : MutantId}

theorem granted_iff :
    Granted baseline genealogy candidates credits reply test mutant ↔
      .killedBy mutant test ∈ reply ∧ (∃ candidate ∈ candidates, candidate.id = test) ∧
      (∀ outcome ∈ baseline, outcome.mutant = mutant →
        outcome.state ≠ .killed ∧ outcome.state.isReliable = true) ∧
      ∀ ancestor ∈ genealogy.ancestors test, credits.holds ancestor mutant = false :=
  ⟨fun granted => ⟨granted.killed, granted.candidate, granted.undecided, granted.unclaimed⟩,
    fun parts => ⟨parts.1, parts.2.1, parts.2.2.1, parts.2.2.2⟩⟩

instance : Decidable (Granted baseline genealogy candidates credits reply test mutant) :=
  decidable_of_iff _ granted_iff.symm

/-- The reply grants some mutant to the test. -/
def IsGranted (baseline : List MutantOutcome) (genealogy : Genealogy) (candidates : List TestCase)
    (credits : Credits) (reply : List MutantOutcome) (test : TestId) : Prop :=
  ∃ outcome ∈ reply, Granted baseline genealogy candidates credits reply test outcome.mutant

instance : Decidable (IsGranted baseline genealogy candidates credits reply test) :=
  inferInstanceAs (Decidable (∃ outcome ∈ reply, _))

theorem isGranted_iff :
    IsGranted baseline genealogy candidates credits reply test ↔
      ∃ mutant, Granted baseline genealogy candidates credits reply test mutant := by
  constructor
  · rintro ⟨outcome, -, granted⟩
    exact ⟨outcome.mutant, granted⟩
  · rintro ⟨mutant, granted⟩
    exact ⟨.killedBy mutant test, granted.killed, granted⟩

/-- The order of the reply makes no difference. -/
theorem granted_congr (perm : reply.Perm order) :
    Granted baseline genealogy candidates credits reply test mutant ↔
      Granted baseline genealogy candidates credits order test mutant := by
  rw [granted_iff, granted_iff, perm.mem_iff]

/-- An outcome that earns a credit is a kill by its killer. -/
theorem Earns.eq_killedBy {known : Baseline}
    (earns : Earns known genealogy candidates credits outcome killer) :
    outcome = .killedBy outcome.mutant killer := by
  obtain ⟨mutant, state, killingTest⟩ := outcome
  obtain rfl : state = .killed := earns.killed
  obtain rfl : killingTest = some killer := earns.named
  rfl

/-- What is granted by one outcome is what it earns. -/
theorem earns_iff_granted :
    Earns (.ofOutcomes baseline) genealogy candidates credits outcome killer ↔
      Granted baseline genealogy candidates credits [outcome] killer outcome.mutant := by
  constructor
  · intro earns
    exact {
      killed := by rw [← earns.eq_killedBy]; exact List.mem_singleton_self outcome
      candidate := earns.candidate
      undecided := (Baseline.isCreditable_ofOutcomes baseline outcome.mutant).1 earns.creditable
      unclaimed := earns.unclaimed }
  · intro granted
    have same := List.mem_singleton.1 granted.killed
    exact {
      killed := by rw [← same]; rfl
      creditable := (Baseline.isCreditable_ofOutcomes baseline outcome.mutant).2 granted.undecided
      named := by rw [← same]; rfl
      candidate := granted.candidate
      unclaimed := granted.unclaimed }

/-! ## One outcome after the other -/

/-- A credit for the first outcome does not stand in the way of one for the second: they are about
different mutants, or the first killer is no ancestor of the second one. -/
def Harmless (genealogy : Genealogy) (candidates : List TestCase) (first second : MutantOutcome) :
    Prop :=
  ∀ killer later, first.mutant = second.mutant → first.killingTest = some killer →
    second.killingTest = some later → (∃ candidate ∈ candidates, candidate.id = killer) →
    (∃ candidate ∈ candidates, candidate.id = later) → killer ∈ genealogy.ancestors later →
    killer = later

/-- Two ways for outcomes not to stand in each other's way. -/
theorem pairwise_harmless
    (apart : (reply.map MutantOutcome.mutant).Nodup ∨
      ∀ first ∈ candidates, ∀ second ∈ candidates, first.id ≠ second.id →
        first.id ∉ genealogy.ancestors second.id) :
    reply.Pairwise (Harmless genealogy candidates) := by
  rcases apart with once | unrelated
  · refine (List.pairwise_map.1 once).imp fun different killer later same => ?_
    exact absurd same different
  · refine List.pairwise_of_forall fun first second killer later _ _ _ isFirst isSecond above => ?_
    obtain ⟨one, offered, rfl⟩ := isFirst
    obtain ⟨other, alsoOffered, rfl⟩ := isSecond
    by_contra different
    exact unrelated one offered other alsoOffered different above

/-- Nothing more is granted by an outcome that earns nothing. -/
theorem granted_cons_iff_of_none
    (nobody : earner? (.ofOutcomes baseline) genealogy candidates credits outcome = none) :
    Granted baseline genealogy candidates credits (outcome :: rest) test mutant ↔
      Granted baseline genealogy candidates credits rest test mutant := by
  constructor
  · intro granted
    rcases List.mem_cons.1 granted.killed with rfl | later
    · have earns : Earns (.ofOutcomes baseline) genealogy candidates credits
          (.killedBy mutant test) test :=
        earns_iff_granted.2 { granted with killed := List.mem_singleton_self _ }
      rw [earner?_eq_some_iff.2 earns] at nobody
      cases nobody
    · exact { granted with killed := later }
  · intro granted
    exact { granted with killed := List.mem_cons_of_mem _ granted.killed }

/-- **One step.** An outcome that earns a credit grants that one, and what it takes from the later
outcomes is nothing. -/
theorem granted_cons_iff_of_earns
    (earns : Earns (.ofOutcomes baseline) genealogy candidates credits outcome killer)
    (harmless : ∀ later ∈ rest, Harmless genealogy candidates outcome later) :
    Granted baseline genealogy candidates credits (outcome :: rest) test mutant ↔
      test = killer ∧ mutant = outcome.mutant ∨
        Granted baseline genealogy candidates (credits.grant killer outcome) rest test mutant := by
  have own := earns_iff_granted.1 earns
  constructor
  · intro granted
    by_cases isOwn : test = killer ∧ mutant = outcome.mutant
    · exact .inl isOwn
    refine .inr { granted with killed := ?_, unclaimed := fun ancestor above => ?_ }
    · rcases List.mem_cons.1 granted.killed with same | later
      · refine absurd ?_ isOwn
        rw [← same]
        refine ⟨?_, rfl⟩
        have named := earns.named
        rw [← same] at named
        exact Option.some.inj named
      · exact later
    · rw [← Bool.not_eq_true, Credits.holds_grant_iff, granted.unclaimed ancestor above]
      rintro (claimed | ⟨rfl, rfl⟩)
      · cases claimed
      · rcases List.mem_cons.1 granted.killed with same | later
        · refine isOwn ⟨?_, rfl⟩
          have named := earns.named
          rw [← same] at named
          exact Option.some.inj named
        · exact isOwn ⟨(harmless _ later _ _ rfl earns.named rfl earns.candidate
            granted.candidate above).symm, rfl⟩
  · rintro (⟨rfl, rfl⟩ | granted)
    · exact { own with killed := List.mem_cons.2 (.inl earns.eq_killedBy.symm) }
    · refine { granted with
        killed := List.mem_cons_of_mem _ granted.killed
        unclaimed := fun ancestor above => ?_ }
      have unclaimed := granted.unclaimed ancestor above
      rw [← Bool.not_eq_true, Credits.holds_grant_iff, not_or, Bool.not_eq_true] at unclaimed
      exact unclaimed.1

/-- **A whole reply.** When no outcome stands in the way of a later one, the credits afterwards are
the earlier ones and the granted ones, and the earners are those that some mutant is granted to. -/
theorem creditOutcomes_granted (harmless : reply.Pairwise (Harmless genealogy candidates)) :
    (∀ test mutant,
      (creditOutcomes (.ofOutcomes baseline) genealogy candidates reply credits).1.outcome? test
        mutant = (credits.outcome? test mutant).or
          (if Granted baseline genealogy candidates credits reply test mutant then
            some (.killedBy mutant test) else none)) ∧
    ∀ test, test ∈ (creditOutcomes (.ofOutcomes baseline) genealogy candidates reply credits).2 ↔
      ∃ mutant, Granted baseline genealogy candidates credits reply test mutant := by
  -- the credits at the start are those that the outcomes so far have left
  induction reply generalizing credits with
  | nil =>
      have nothing : ∀ test mutant,
          ¬ Granted baseline genealogy candidates credits [] test mutant :=
        fun test mutant granted => List.not_mem_nil granted.killed
      exact ⟨fun test mutant => by simp [creditOutcomes, nothing],
        fun test => by simp [creditOutcomes, nothing]⟩
  | cons outcome rest ih =>
      obtain ⟨first, harmless⟩ := List.pairwise_cons.1 harmless
      cases earned : earner? (.ofOutcomes baseline) genealogy candidates credits outcome with
      | none =>
          rw [creditOutcomes_cons_of_none rest earned]
          simp only [granted_cons_iff_of_none earned]
          exact ih harmless
      | some killer =>
          have earns := earner?_eq_some_iff.1 earned
          obtain ⟨held, earners⟩ := @ih (credits.grant killer outcome) harmless
          rw [creditOutcomes_cons_of_earns rest earns]
          simp only [granted_cons_iff_of_earns earns first]
          constructor
          · intro test mutant
            rw [held, Credits.outcome?_grant]
            by_cases isOwn : test = killer ∧ mutant = outcome.mutant
            · obtain ⟨rfl, rfl⟩ := isOwn
              simp only [and_self, true_or, if_true, Option.some_or, ← earns.eq_killedBy]
              cases credits.outcome? test outcome.mutant <;> rfl
            · rw [if_neg isOwn]
              simp only [isOwn, false_or]
          · intro test
            rw [List.mem_cons, earners]
            simp only [exists_or, exists_and_left, exists_eq, and_true]

/-! ## Decisions -/

/-- Credits without empty entries are determined by the credited outcomes. -/
theorem Credits.ext_outcome? {first second : Credits} (firstFull : first.NoneEmpty)
    (secondFull : second.NoneEmpty)
    (same : ∀ test mutant, first.outcome? test mutant = second.outcome? test mutant) :
    first = second := by
  have isListed : ∀ {one other : Credits}, one.NoneEmpty →
      (∀ test mutant, one.outcome? test mutant = other.outcome? test mutant) →
      ∀ {test mutants}, one.find? test = some mutants →
        ∃ others, other.find? test = some others := by
    intro one other full same test mutants found
    obtain ⟨entry, member⟩ := List.exists_mem_of_ne_nil _
      (full test mutants ((Table.find?_eq_some_iff _ _ _).1 found))
    have held : one.outcome? test entry.1 = some entry.2 :=
      (outcome?_eq_some_iff test entry.1 entry.2).2
        ⟨mutants, (Table.find?_eq_some_iff _ _ _).1 found, member⟩
    rw [same] at held
    obtain ⟨others, found, -⟩ := Option.bind_eq_some_iff.1 held
    exact ⟨others, found⟩
  refine Table.ext_find? fun test => ?_
  cases found : first.find? test with
  | none =>
      cases foundToo : second.find? test with
      | none => rfl
      | some others =>
          obtain ⟨mutants, isThere⟩ := isListed secondFull
            (fun test mutant => (same test mutant).symm) foundToo
          rw [found] at isThere
          cases isThere
  | some mutants =>
      obtain ⟨others, foundToo⟩ := isListed firstFull same found
      rw [foundToo]
      refine congrArg some (Table.ext_find? fun mutant => ?_)
      simpa [outcome?, found, foundToo] using same test mutant

namespace MutationScore

variable {W : Type} {setting : Setting W} {selection : Selection MutationScore W}
  {initial : TestSuite}

/-- What a decision does when no outcome of the reply stands in the way of a later one. -/
theorem keep_of_harmless (offered : candidates ≠ [])
    (known : selection.state.baseline = some (.ofOutcomes baseline))
    (active : selection.state.currentSuite = some initial)
    (replied : setting.replyTo initial candidates selection.world = .ok reply)
    (harmless : reply.Pairwise (Harmless genealogy candidates)) :
    (keep setting candidates genealogy selection).1 = candidates.filter (fun candidate =>
      IsGranted baseline genealogy candidates selection.state.credits reply candidate.id) ∧
    ∀ test mutant,
      (keep setting candidates genealogy selection).2.state.credits.outcome? test mutant =
        (selection.state.credits.outcome? test mutant).or
          (if Granted baseline genealogy candidates selection.state.credits reply test mutant then
            some (.killedBy mutant test) else none) := by
  obtain ⟨kept, scored⟩ := keep_of_reply setting offered known active replied genealogy
  obtain ⟨held, earners⟩ := @creditOutcomes_granted baseline genealogy candidates
    selection.state.credits reply harmless
  rw [kept, scored]
  refine ⟨List.filter_congr fun candidate _ => ?_, held⟩
  rw [Bool.eq_iff_iff, List.contains_iff_mem, earners, decide_eq_true_iff, isGranted_iff]

/-- **The decision as a rule.** A decision in an open session keeps the candidates, in order and
with repetitions, that the reply grants a mutant to, and adds the granted pairs to the credits. No
other order of the reply leads to another decision or to other credits. This holds when no mutant
occurs twice in the reply, and also when no candidate is an ancestor of another one. -/
theorem OpenSession.keep_granted {events : List SessionEvent}
    (session : OpenSession setting events selection)
    (loaded : lastLoaded? events = some baseline)
    (active : selection.state.currentSuite = some initial) (offered : candidates ≠ [])
    (genealogy : Genealogy)
    (replied : setting.replyTo initial candidates selection.world = .ok reply)
    (apart : (reply.map MutantOutcome.mutant).Nodup ∨
      ∀ first ∈ candidates, ∀ second ∈ candidates, first.id ≠ second.id →
        first.id ∉ genealogy.ancestors second.id) :
    (keep setting candidates genealogy selection).1 = candidates.filter (fun candidate =>
      IsGranted baseline genealogy candidates selection.state.credits reply candidate.id) ∧
    (∀ test mutant,
      (keep setting candidates genealogy selection).2.state.credits.holds test mutant = true ↔
        selection.state.credits.holds test mutant = true ∨
          Granted baseline genealogy candidates selection.state.credits reply test mutant) ∧
    ∀ {U : Type} (other : Setting U) (otherSelection : Selection MutationScore U)
      (order : List MutantOutcome), reply.Perm order → otherSelection.state = selection.state →
      other.replyTo initial candidates otherSelection.world = .ok order →
      (keep other candidates genealogy otherSelection).1 =
          (keep setting candidates genealogy selection).1 ∧
        (keep other candidates genealogy otherSelection).2.state.credits =
          (keep setting candidates genealogy selection).2.state.credits := by
  have known : selection.state.baseline = some (.ofOutcomes baseline) := by
    rw [session.baseline_eq, loaded, Option.map_some]
  obtain ⟨kept, held⟩ := keep_of_harmless offered known active replied (pairwise_harmless apart)
  refine ⟨kept, fun test mutant => ?_, ?_⟩
  · rw [Credits.holds, held, Option.isSome_or, Bool.or_eq_true, ← Credits.holds]
    simp
  · intro U other otherSelection order perm sameState repliedToo
    have apartToo := apart.imp_left (perm.map MutantOutcome.mutant).nodup_iff.1
    rw [← sameState] at known active
    obtain ⟨keptToo, heldToo⟩ :=
      keep_of_harmless offered known active repliedToo (pairwise_harmless apartToo)
    constructor
    · rw [kept, keptToo, sameState]
      refine List.filter_congr fun candidate _ => decide_eq_decide.2 ?_
      rw [isGranted_iff, isGranted_iff]
      exact exists_congr fun mutant => (granted_congr perm).symm
    · refine Credits.ext_outcome?
        (noneEmpty_keep candidates genealogy (sameState ▸ session.noneEmpty))
        (noneEmpty_keep candidates genealogy session.noneEmpty) fun test mutant => ?_
      rw [held, heldToo, sameState, if_congr (granted_congr perm) rfl rfl]

/-- Both candidates of a decision are granted the one mutant that they kill, whichever of them the
reply names first. -/
theorem OpenSession.keep_granted_both :
    let first := TestCase.plain ⟨"Suite", "testFirst"⟩ "first()"
    let second := TestCase.plain ⟨"Suite", "testSecond"⟩ "second()"
    let setting := Setting.everyTestKills default
    ∃ selection, OpenSession setting [.loaded [], .passed] selection ∧
      setting.replyTo ⟨"Suite", [], []⟩ [first, second] selection.world =
        .ok [.killedBy default first.id, .killedBy default second.id] ∧
      (keep setting [first, second] .empty selection).1 = [first, second] := by
  intro first second setting
  have start : OpenSession setting [] ⟨{}, (), []⟩ := .start () []
  have nominated := (start.reload []).step (.nominate _ ⟨"Suite", [], []⟩ [first])
  have decision := @OpenSession.keep_granted [] [first, second] _ _ setting _ _ _ nominated rfl rfl
    (by decide) .empty rfl (.inr (by decide))
  exact ⟨_, nominated, rfl, decision.1.trans (by decide)⟩

end MutationScore

end TestAmplification
