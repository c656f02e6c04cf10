import TestAmplification.Proofs.Amplification.Lineage
import TestAmplification.Proofs.Genealogy.AnyOrder

/-!
# What becomes of generated variants

Expansion takes what the amplifiers generate in three steps. Variants that cannot be used are left
out, variants that share their identity or their body with an earlier one are left out, and what
remains is recorded in the genealogy, one variant after the other. A variant whose step the
genealogy refuses is left out as well.

The order of the steps matters. A variant that is left out for an earlier one is not asked for again
when the earlier one is refused, so a body can be lost although a variant with it could have been
recorded. And as every recorded step is a step of the genealogy from then on, it can refuse a later
variant that it would have taken before. These are the only two ways to lose a variant
(`expand_covers_usable`): the one that was kept for it is refused by the genealogy as it was, or it
closes a cycle together with steps that were recorded before its turn. A second parent cannot come
from those steps, since no two variants that are kept share their identity.

What is generated is said by the amplifiers alone (`generatedFrom`). The steps of expansion are
functions of it and of the genealogy (`expand_eq`), so they are followed without the run.
-/

set_option autoImplicit false

namespace TestAmplification

open Genealogy Relation

variable {σ W : Type}

/-! ## Generated variants -/

/-- What amplifiers generate from a test, listed with the test. -/
def childrenOf (test : TestCase) : List (Amplifier W) → StateM W (List (TestCase × TestId))
  | [] => return []
  | amplifier :: rest => do
      let children ← amplifier.apply test
      let others ← childrenOf test rest
      return children.map (·, test.id) ++ others

/-- What amplifiers generate from tests, each variant with the test that it comes from. -/
def generatedFrom (amplifiers : List (Amplifier W)) :
    List TestCase → StateM W (List (TestCase × TestId))
  | [] => return []
  | test :: rest => do
      let children ← childrenOf test amplifiers
      let others ← generatedFrom amplifiers rest
      return children ++ others

/-- The variants that are usable in the suite. -/
def usableIn (suite : TestSuite) (variants : List (TestCase × TestId)) :
    List (TestCase × TestId) :=
  variants.filter fun variant => !variant.1.hasEmptyBody && isNewTo suite variant.1

/-- The derivation that is recorded for a variant. Its parent is the origin that the variant names
itself, unless that is the variant, or else the test that it comes from. -/
def derivationOf (variant : TestCase × TestId) : Derivation :=
  ⟨variant.1, (variant.1.derivedFrom.filter (· != variant.1.id)).getD variant.2⟩

/-- The variants that are not refused when they are recorded one after the other. -/
def recordedOf : Genealogy → List (TestCase × TestId) → List (TestCase × TestId)
  | _, [] => []
  | genealogy, variant :: rest =>
      let later := recordedOf (genealogy.after (derivationOf variant).call) rest
      if (genealogy.refusal? (derivationOf variant).call).isNone then variant :: later else later

theorem mem_usableIn {suite : TestSuite} {variants : List (TestCase × TestId)}
    {variant : TestCase × TestId} :
    variant ∈ usableIn suite variants ↔ variant ∈ variants ∧ IsUsable suite variant.1 := by
  rw [usableIn, List.mem_filter, Bool.and_eq_true, Bool.not_eq_true']
  exact and_congr_right fun _ => ⟨fun usable => ⟨usable.2, usable.1⟩,
    fun usable => ⟨usable.filled, usable.fresh⟩⟩

theorem usableIn_append (suite : TestSuite) (variants others : List (TestCase × TestId)) :
    usableIn suite (variants ++ others) = usableIn suite variants ++ usableIn suite others := by
  simp only [usableIn, List.filter_append]

theorem usableIn_map (suite : TestSuite) (children : List TestCase) (origin : TestId) :
    usableIn suite (children.map (·, origin)) =
      (children.filter fun child => !child.hasEmptyBody && isNewTo suite child).map
        (·, origin) := by
  simp only [usableIn, List.filter_map, Function.comp_def]

namespace Orchestrator

/-! ## Expansion without the run -/

theorem variantsOf_eq (suite : TestSuite) (test : TestCase) (amplifiers : List (Amplifier W))
    (run : Run σ W) :
    (variantsOf suite test amplifiers run).1 =
        usableIn suite (childrenOf test amplifiers run.world).1 ∧
      (variantsOf suite test amplifiers run).2.world = (childrenOf test amplifiers run.world).2 ∧
      (variantsOf suite test amplifiers run).2.genealogy = run.genealogy := by
  induction amplifiers generalizing run with
  | nil => exact ⟨rfl, rfl, rfl⟩
  | cons amplifier rest ih =>
      let next : Run σ W :=
        (Amplify.ask (.applied amplifier.name test) (amplifier.apply test) run).2
      obtain ⟨answers, world, genealogy⟩ := ih next
      refine ⟨?_, world, genealogy⟩
      have generated : (childrenOf test (amplifier :: rest) run.world).1 =
          (amplifier.apply test run.world).1.map (·, test.id) ++
            (childrenOf test rest next.world).1 := rfl
      have usable : (variantsOf suite test (amplifier :: rest) run).1 =
          ((amplifier.apply test run.world).1.filter fun child =>
            !child.hasEmptyBody && isNewTo suite child).map (·, test.id) ++
            (variantsOf suite test rest next).1 := rfl
      rw [generated, usable, answers, usableIn_append, usableIn_map]

variable (orchestrator : Orchestrator σ W)

theorem variantsOfAll_eq (suite : TestSuite) (nominated : List TestCase) (run : Run σ W) :
    (orchestrator.variantsOfAll suite nominated run).1 =
        usableIn suite (generatedFrom orchestrator.workshop.amplifiers nominated run.world).1 ∧
      (orchestrator.variantsOfAll suite nominated run).2.genealogy = run.genealogy := by
  induction nominated generalizing run with
  | nil => exact ⟨rfl, rfl⟩
  | cons test rest ih =>
      obtain ⟨first, world, same⟩ :=
        variantsOf_eq suite test orchestrator.workshop.amplifiers run
      obtain ⟨others, genealogy⟩ :=
        ih (variantsOf suite test orchestrator.workshop.amplifiers run).2
      refine ⟨?_, genealogy.trans same⟩
      have generated : (generatedFrom orchestrator.workshop.amplifiers (test :: rest) run.world).1 =
          (childrenOf test orchestrator.workshop.amplifiers run.world).1 ++
            (generatedFrom orchestrator.workshop.amplifiers rest
              (childrenOf test orchestrator.workshop.amplifiers run.world).2).1 := rfl
      have usable : (orchestrator.variantsOfAll suite (test :: rest) run).1 =
          (variantsOf suite test orchestrator.workshop.amplifiers run).1 ++
            (orchestrator.variantsOfAll suite rest
              (variantsOf suite test orchestrator.workshop.amplifiers run).2).1 := rfl
      rw [generated, usable, usableIn_append, first, others, world]

theorem adopt_eq (variant : TestCase × TestId) (run : Run σ W) :
    (adopt variant.1 (some variant.2) run).1 =
        (run.genealogy.refusal? (derivationOf variant).call).isNone ∧
      (adopt variant.1 (some variant.2) run).2.genealogy =
        run.genealogy.after (derivationOf variant).call := by
  have chosen : parentFor run.genealogy variant.1 (some variant.2) =
      some (derivationOf variant).parent := by
    rw [parentFor, derivationOf]
    cases variant.1.derivedFrom.filter (· != variant.1.id) <;> rfl
  have child : (derivationOf variant).child = variant.1 := rfl
  simp only [adopt, chosen, Derivation.call, child, refusal?, after]
  cases run.genealogy.record variant.1 (derivationOf variant).parent <;> exact ⟨rfl, rfl⟩

theorem adoptAll_eq (variants : List (TestCase × TestId)) (run : Run σ W) :
    (adoptAll (variants.map fun (child, parent) => (child, some parent)) run).1 =
      (recordedOf run.genealogy variants).map Prod.fst := by
  induction variants generalizing run with
  | nil => rfl
  | cons variant rest ih =>
      obtain ⟨stays, genealogy⟩ := adopt_eq variant run
      have others := ih (adopt variant.1 (some variant.2) run).2
      rw [genealogy] at others
      rw [recordedOf, ← stays]
      change (if (adopt variant.1 (some variant.2) run).1 then _ :: _ else _) = _
      split
      · exact congrArg _ others
      · exact others

/-- **Expansion** as a function of what is generated and of the genealogy. -/
theorem expand_eq (suite : TestSuite) (nominated : List TestCase) (run : Run σ W) :
    (orchestrator.expand suite nominated run).1 =
      (recordedOf run.genealogy (reducePairs (usableIn suite
        (generatedFrom orchestrator.workshop.amplifiers nominated run.world).1))).map Prod.fst := by
  obtain ⟨variants, genealogy⟩ := orchestrator.variantsOfAll_eq suite nominated run
  rw [← variants, ← genealogy]
  exact adoptAll_eq _ _

end Orchestrator

/-! ## Variants that are recorded -/

/-- The genealogy takes the step of the variant. -/
def Takes (genealogy : Genealogy) (variant : TestCase × TestId) : Prop :=
  ∃ later, genealogy.record variant.1 (derivationOf variant).parent = .ok later

/-- The genealogy after variants, with the steps of those that it takes at their turn. -/
def afterAll (genealogy : Genealogy) (variants : List (TestCase × TestId)) : Genealogy :=
  variants.foldl (fun genealogy variant => genealogy.after (derivationOf variant).call) genealogy

/-- The first test is recorded under the second one, in the genealogy or for one of the variants. -/
def StepWith (genealogy : Genealogy) (variants : List (TestCase × TestId)) (child parent : TestId) :
    Prop :=
  genealogy.HasParent child parent ∨ Gives (variants.map derivationOf) child parent

/-- Steps in the genealogy and of the other variants lead up from the parent of a variant to the
variant. -/
def ClosesCycleWith (genealogy : Genealogy) (others : List (TestCase × TestId))
    (variant : TestCase × TestId) : Prop :=
  ReflTransGen (StepWith genealogy others) (derivationOf variant).parent variant.1.id

section

variable {genealogy : Genealogy} {variant : TestCase × TestId}
  {variants earlier rest : List (TestCase × TestId)}

theorem refusal?_eq_none_iff :
    genealogy.refusal? (derivationOf variant).call = none ↔ Takes genealogy variant := by
  rw [Takes, Derivation.call, refusal?, derivationOf]
  split <;> simp [*]

theorem after_of_not_takes (refused : ¬ Takes genealogy variant) :
    genealogy.after (derivationOf variant).call = genealogy := by
  cases recorded : genealogy.record variant.1 (derivationOf variant).parent with
  | ok later => exact absurd ⟨later, recorded⟩ refused
  | error error => exact after_of_refusal recorded

theorem recordedOf_append (genealogy : Genealogy) (variants rest : List (TestCase × TestId)) :
    recordedOf genealogy (variants ++ rest) =
      recordedOf genealogy variants ++ recordedOf (afterAll genealogy variants) rest := by
  induction variants generalizing genealogy with
  | nil => rfl
  | cons variant others ih =>
      rw [List.cons_append, recordedOf, ih, recordedOf]
      split <;> rfl

theorem recordedOf_sublist (genealogy : Genealogy) (variants : List (TestCase × TestId)) :
    (recordedOf genealogy variants).Sublist variants := by
  induction variants generalizing genealogy with
  | nil => exact .slnil
  | cons variant rest ih =>
      rw [recordedOf]
      split
      · exact (ih _).cons_cons variant
      · exact (ih _).cons variant

/-- A variant that the genealogy takes at its turn stays. -/
theorem mem_recordedOf (takes : Takes (afterAll genealogy earlier) variant) :
    variant ∈ recordedOf genealogy (earlier ++ variant :: rest) := by
  rw [recordedOf_append, recordedOf, refusal?_eq_none_iff.2 takes]
  exact List.mem_append_right _ (.head _)

/-- The steps after variants are those before and those of the variants that stay. -/
theorem stepWith_of_afterAll {child parent : TestId}
    (step : (afterAll genealogy variants).HasParent child parent) :
    StepWith genealogy (recordedOf genealogy variants) child parent := by
  induction variants generalizing genealogy with
  | nil => exact .inl step
  | cons variant rest ih =>
      have later := @ih (genealogy.after (derivationOf variant).call) step
      rw [recordedOf]
      split
      · rcases later with known | ⟨derivation, listed, same⟩
        · rcases hasParent_after_call known with old | ⟨rfl, rfl⟩
          · exact .inl old
          · exact .inr ⟨_, .head _, rfl, rfl⟩
        · exact .inr ⟨derivation, .tail _ listed, same⟩
      · next refused =>
          rw [Option.isNone_iff_eq_none, refusal?_eq_none_iff] at refused
          rw [after_of_not_takes refused] at later ⊢
          exact later

/-- **A refusal at the turn** of a variant that the genealogy would have taken before comes from a
cycle, which uses steps of the variants that stay. -/
theorem closesCycleWith_of_refused
    (apart : ∀ other ∈ recordedOf genealogy earlier, other.1.id ≠ variant.1.id)
    (takes : Takes genealogy variant) (refused : ¬ Takes (afterAll genealogy earlier) variant) :
    ClosesCycleWith genealogy (recordedOf genealogy earlier) variant := by
  obtain ⟨later, recorded⟩ := takes
  have sameParent : ∀ existing, (afterAll genealogy earlier).HasParent variant.1.id existing →
      existing = (derivationOf variant).parent := by
    intro existing step
    rcases stepWith_of_afterAll step with old | ⟨derivation, listed, same, -⟩
    · exact (record_eq_ok_iff.1 recorded).2.1 existing old
    · obtain ⟨other, stays, rfl⟩ := List.mem_map.1 listed
      exact absurd same (apart other stays)
  by_cases cycle : (afterAll genealogy earlier).closesCycle variant.1.id
      (derivationOf variant).parent = true
  · exact ReflTransGen.mono (fun _ _ => stepWith_of_afterAll) _ _ (leadsUp_of_closesCycle cycle)
  · exact absurd ⟨_, record_eq_ok_iff.2 ⟨Bool.not_eq_true _ ▸ cycle, sameParent, rfl⟩⟩ refused

end

/-! ## What is lost -/

/-- A variant that remains when variants are deduplicated is a candidate in the end, or the
genealogy does not take its step, or its step closes a cycle with those of candidates before it. -/
theorem mem_or_refused {genealogy : Genealogy} {usable : List (TestCase × TestId)}
    {kept : TestCase × TestId} (remains : kept ∈ reducePairs usable) :
    let expanded := (recordedOf genealogy (reducePairs usable)).map Prod.fst
    kept.1 ∈ expanded ∨ ¬ Takes genealogy kept ∨ ∃ earlier,
      (∀ other ∈ earlier, other.1 ∈ expanded ∧ [other, kept].Sublist usable) ∧
        ClosesCycleWith genealogy earlier kept := by
  intro expanded
  obtain ⟨before, after, split⟩ := List.append_of_mem remains
  by_cases atTurn : Takes (afterAll genealogy before) kept
  · refine .inl (List.mem_map_of_mem ?_)
    rw [split]
    exact mem_recordedOf atTurn
  refine .inr (Classical.or_iff_not_imp_left.2 fun takes => ?_)
  refine ⟨recordedOf genealogy before, fun other recorded => ⟨?_, ?_⟩, ?_⟩
  · refine List.mem_map_of_mem ?_
    rw [split, recordedOf_append]
    exact List.mem_append_left _ recorded
  · have isBefore := (recordedOf_sublist genealogy before).subset recorded
    have inOrder : [other, kept].Sublist (reducePairs usable) := by
      rw [split]
      exact (List.singleton_sublist.2 isBefore).append (List.singleton_sublist.2 (.head _))
    exact inOrder.trans (reduceAfter_sublist _ _ _)
  · -- No other variant that remains has this identity, so only a cycle is left as the reason.
    have distinct := @nodup_ids_reduceAfter _ Prod.fst [] usable
    rw [← reducePairs, split, List.map_append, List.map_cons] at distinct
    have apart : ∀ other ∈ recordedOf genealogy before, other.1.id ≠ kept.1.id :=
      fun other recorded same => List.disjoint_of_nodup_append distinct
        (List.mem_map_of_mem ((recordedOf_sublist genealogy before).subset recorded))
        (same ▸ List.mem_cons_self)
    exact closesCycleWith_of_refused apart (Classical.not_not.1 takes) atTurn

/-- A usable variant is lost: what was kept for it is dropped for its lineage. -/
structure IsLost (genealogy : Genealogy) (usable : List (TestCase × TestId))
    (expanded : List TestCase) (kept variant : TestCase × TestId) : Prop where
  /-- It remained when variants were deduplicated. -/
  remains : kept ∈ reducePairs usable
  /-- It has the identity or the body of the variant. -/
  shares : Shares variant.1 kept.1
  /-- It is the variant itself, or it was generated before. -/
  first : kept = variant ∨ [kept, variant].Sublist usable
  /-- It is not among the candidates. -/
  dropped : kept.1 ∉ expanded
  /-- It is another one, whose step the genealogy does not take, or its step closes a cycle with
  those of candidates before it. -/
  refused : kept ≠ variant ∧ ¬ Takes genealogy kept ∨ ∃ earlier,
    (∀ other ∈ earlier, other.1 ∈ expanded ∧ [other, kept].Sublist usable) ∧
      ClosesCycleWith genealogy earlier kept

/-- **Expansion covers usable variants.** Whatever the genealogy, the suite, the nominated tests and
the amplifiers are: if a variant is usable and the genealogy takes its step, then a candidate has
its identity or its body, unless what was kept for it is dropped for its lineage. -/
theorem expand_covers_usable (orchestrator : Orchestrator σ W) (suite : TestSuite)
    (nominated : List TestCase) (run : Run σ W) :
    let generated := (generatedFrom orchestrator.workshop.amplifiers nominated run.world).1
    let expanded := (orchestrator.expand suite nominated run).1
    ∀ variant ∈ generated, IsUsable suite variant.1 → Takes run.genealogy variant →
      (∃ candidate ∈ expanded, Shares variant.1 candidate) ∨
        ∃ kept, IsLost run.genealogy (usableIn suite generated) expanded kept variant := by
  intro generated expanded variant made usable takes
  have expanded_eq : expanded =
      (recordedOf run.genealogy (reducePairs (usableIn suite generated))).map Prod.fst :=
    orchestrator.expand_eq suite nominated run
  obtain ⟨kept, remains, shares, first⟩ : ∃ kept ∈ reducePairs (usableIn suite generated),
      Shares variant.1 kept.1 ∧
        (kept = variant ∨ [kept, variant].Sublist (usableIn suite generated)) := by
    rcases @mem_or_clashes_reduceAfter _ Prod.fst [] _ _ (mem_usableIn.2 ⟨made, usable⟩) with
      remains | ⟨_, nothing, _⟩ | ⟨kept, remains, shares, order⟩
    · exact ⟨variant, remains, .inl rfl, .inl rfl⟩
    · cases nothing
    · exact ⟨kept, remains, shares, .inr order⟩
  by_cases stays : kept.1 ∈ expanded
  · exact .inl ⟨kept.1, stays, shares⟩
  have reason := (mem_or_refused remains).resolve_left (expanded_eq ▸ stays)
  rw [← expanded_eq] at reason
  refine .inr ⟨kept, remains, shares, first, stays, reason.imp_left fun refused => ⟨?_, refused⟩⟩
  rintro rfl
  exact refused takes

/-- Gives the same variants for every test. -/
def Amplifier.making (variants : List TestCase) : Amplifier Unit where
  name := "making"
  apply _ := return variants
  reset _ := return

/-- Amplification with the simple tools, which makes the given variants. -/
def Orchestrator.making (variants : List TestCase) : Orchestrator TakeAll Unit :=
  ⟨{ Workshop.simple with amplifiers := [.making variants] }, TakeAll.selector, {}⟩

/-- Of two variants with one body the first is a candidate, and it covers the second. -/
theorem second_variant_covered :
    let seed : TestCase := .plain ⟨"Suite", "testAdd"⟩ "check()"
    let suite : TestSuite := ⟨"Suite", [], [seed]⟩
    let shared : TestCase := .plain ⟨"Suite", "testShared"⟩ "shared()"
    let again : TestCase := .plain ⟨"Suite", "testAgain"⟩ " shared()"
    let expanded := ((Orchestrator.making [shared, again]).expand suite [seed]
      { selector := {}, world := () }).1
    IsUsable suite again ∧ Takes .empty (again, seed.id) ∧
      ∃ candidate ∈ expanded, Shares again candidate := by
  intro seed suite shared again expanded
  have usable : IsUsable suite again := ⟨by decide, by decide +kernel⟩
  have takes : Takes .empty (again, seed.id) := ⟨_, rfl⟩
  have allStay : ∀ kept ∈ reducePairs (usableIn suite [(shared, seed.id), (again, seed.id)]),
      kept.1 ∈ expanded := by decide +kernel
  rcases expand_covers_usable (Orchestrator.making [shared, again]) suite [seed]
    { selector := {}, world := () } (again, seed.id) (by decide +kernel) usable takes with
    covered | ⟨kept, lost⟩
  · exact ⟨usable, takes, covered⟩
  · exact absurd (allStay kept lost.remains) lost.dropped

/-- A variant is lost with an earlier one that has its body and another parent already. Of two
variants that name each other as their origin, the second one is lost. -/
theorem usable_variants_lost :
    let seed : TestCase := .plain ⟨"Suite", "testAdd"⟩ "check()"
    let suite : TestSuite := ⟨"Suite", [], [seed]⟩
    let shared : TestCase := .plain ⟨"Suite", "testShared"⟩ "shared()"
    let again : TestCase := .plain ⟨"Suite", "testAgain"⟩ "shared()"
    let left : TestCase :=
      (TestCase.plain ⟨"Suite", "testLeft"⟩ "left()").withOrigin ⟨"Suite", "testRight"⟩
    let right : TestCase :=
      (TestCase.plain ⟨"Suite", "testRight"⟩ "right()").withOrigin ⟨"Suite", "testLeft"⟩
    let Covered := fun (variants : List TestCase) (genealogy : Genealogy) =>
      let orchestrator := Orchestrator.making variants
      ∀ variant ∈ (generatedFrom orchestrator.workshop.amplifiers [seed] ()).1,
        IsUsable suite variant.1 → Takes genealogy variant →
          ∃ candidate ∈ (orchestrator.expand suite [seed]
            { selector := {}, world := (), genealogy }).1, Shares variant.1 candidate
    ¬ Covered [shared, again] (replay [.record shared ⟨"Suite", "testOther"⟩]) ∧
      ¬ Covered [left, right] .empty := by
  intro seed suite shared again left right Covered
  constructor
  · intro covered
    obtain ⟨candidate, listed, -⟩ := covered (again, seed.id) (by decide +kernel)
      ⟨by decide, by decide +kernel⟩ (refusal?_eq_none_iff.1 (by decide))
    revert candidate
    decide +kernel
  · intro covered
    obtain ⟨candidate, listed, shares⟩ := covered (right, seed.id) (by decide +kernel)
      ⟨by decide, by decide +kernel⟩ ⟨_, rfl⟩
    rw [← clashes_iff] at shares
    revert candidate
    decide +kernel

end TestAmplification
