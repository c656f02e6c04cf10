import Mathlib
import TestAmplification.Proofs.Genealogy.AnyOrder

/-!
# Additions along a lineage

The additions of a test since its origin are counted by a walk through the entries, which adds in
32 bits and stops at a sum that does not fit. The walk may be of any length, and an entry changes
when its step is recorded again, for the test and for all that descend from it.

Against the walk stands a sum that knows of no walk (`sumAbove`): of all entries in the table it
takes those of the test and of its ancestors, each once. The entries that the walk passes are a
permutation of these (`Acyclic.chain_perm`). As partial sums only grow, an overflow on the way is an
overflow of the whole sum (`total_eq`). What an entry holds is said by the calls alone: it is that
of the last derivation of its test that was recorded since all entries were forgotten last
(`find?_replay_iff`).
-/

set_option autoImplicit false

namespace TestAmplification

namespace Genealogy

variable {genealogy : Genealogy}

/-! ## Sums of 32 bits -/

theorem addCount_of_le {sum count : UInt32} (fits : sum.toNat + count.toNat ≤ Text.greatestWord32) :
    addCount sum count = .ok (sum + count) ∧ (sum + count).toNat = sum.toNat + count.toNat := by
  have small : sum.toNat + count.toNat < UInt32.size := Nat.lt_of_le_pred (by decide) fits
  exact ⟨if_pos fits, by rw [UInt32.toNat_add]; exact Nat.mod_eq_of_lt small⟩

/-- Adding goes on exactly as long as the sum fits. -/
theorem foldlM_addCount (counts : List UInt32) (sum : UInt32) :
    UInt32.toNat <$> counts.foldlM addCount sum =
      if sum.toNat + (counts.map UInt32.toNat).sum ≤ Text.greatestWord32 then
        .ok (sum.toNat + (counts.map UInt32.toNat).sum)
      else .error ⟨⟩ := by
  induction counts generalizing sum with
  | nil =>
      have small : sum.toNat ≤ Text.greatestWord32 := Nat.le_pred_of_lt sum.toNat_lt
      simp [small, Pure.pure, Except.pure]
  | cons count rest ih =>
      rw [List.map_cons, List.sum_cons, ← Nat.add_assoc, List.foldlM_cons]
      by_cases fits : sum.toNat + count.toNat ≤ Text.greatestWord32
      · obtain ⟨added, same⟩ := addCount_of_le fits
        rw [added, ← same]
        exact ih (sum + count)
      · have tooMuch : ¬ sum.toNat + count.toNat + (rest.map UInt32.toNat).sum ≤
            Text.greatestWord32 := by omega
        rw [if_neg tooMuch, addCount, if_neg fits]
        rfl

/-- **Counts are summed up** exactly, or their sum does not fit. -/
theorem total_eq (counts : List UInt32) :
    total counts =
      if (counts.map UInt32.toNat).sum ≤ Text.greatestWord32 then
        .ok (counts.map UInt32.toNat).sum
      else .error ⟨⟩ := by
  rw [total, foldlM_addCount, UInt32.toNat_zero, Nat.zero_add]

/-! ## The entries of a test and its ancestors -/

/-- The entries in the table that are those of a test or of an ancestor. -/
def entriesAbove (genealogy : Genealogy) (id : TestId) : List (TestId × Lineage) :=
  genealogy.steps.entries.filter fun entry =>
    entry.1 == id || (genealogy.ancestors id).contains entry.1

/-- The counts of a kind in the entries of a test and its ancestors, summed up. -/
def sumAbove (genealogy : Genealogy) (count : Lineage → UInt32) (id : TestId) : Nat :=
  ((genealogy.entriesAbove id).map fun entry => (count entry.2).toNat).sum

theorem mem_entriesAbove_iff (id : TestId) (entry : TestId × Lineage) :
    entry ∈ genealogy.entriesAbove id ↔
      genealogy.steps.find? entry.1 = some entry.2 ∧
        (entry.1 = id ∨ entry.1 ∈ genealogy.ancestors id) := by
  rw [entriesAbove, List.mem_filter, Table.find?_eq_some_iff, Bool.or_eq_true, beq_iff_eq,
    List.contains_iff_mem]

theorem nodup_entriesAbove (id : TestId) : (genealogy.entriesAbove id).Nodup :=
  (List.Nodup.of_map Prod.fst genealogy.steps.nodup_keys).filter _

theorem entriesAbove_of_origin {id : TestId} (origin : genealogy.parentOf? id = none) :
    genealogy.entriesAbove id = [] := by
  refine List.eq_nil_iff_forall_not_mem.2 fun entry member => ?_
  obtain ⟨derived, above⟩ := (mem_entriesAbove_iff id entry).1 member
  rw [ancestors_of_origin origin] at above
  obtain rfl := above.resolve_right List.not_mem_nil
  simp [parentOf?, derived] at origin

/-- The entries above a derived test are its own and those above its parent. -/
theorem Acyclic.entriesAbove_perm (acyclic : genealogy.Acyclic) {id : TestId} {lineage : Lineage}
    (derived : genealogy.steps.find? id = some lineage) :
    (genealogy.entriesAbove id).Perm ((id, lineage) :: genealogy.entriesAbove lineage.parent) := by
  have step : genealogy.HasParent id lineage.parent :=
    (hasParent_iff_find? _ _).2 ⟨lineage, derived, rfl⟩
  have above := acyclic.ancestors_of_parent step
  have notAbove : (id, lineage) ∉ genealogy.entriesAbove lineage.parent := by
    rw [mem_entriesAbove_iff, ← List.mem_cons, ← above]
    exact fun member => acyclic.not_mem_ancestors id member.2
  refine (List.perm_ext_iff_of_nodup (nodup_entriesAbove id)
    (List.nodup_cons.2 ⟨notAbove, nodup_entriesAbove _⟩)).2 ?_
  rintro ⟨other, entry⟩
  rw [List.mem_cons, mem_entriesAbove_iff, mem_entriesAbove_iff, above, List.mem_cons,
    Prod.mk.injEq]
  constructor
  · rintro ⟨found, rfl | further⟩
    · exact .inl ⟨rfl, Option.some.inj (found.symm.trans derived)⟩
    · exact .inr ⟨found, further⟩
  · rintro (⟨rfl, rfl⟩ | ⟨found, further⟩)
    · exact ⟨derived, .inl rfl⟩
    · exact ⟨found, .inr further⟩

/-- **The walk passes each entry above a test once.** -/
theorem Acyclic.chain_perm (acyclic : genealogy.Acyclic) (id : TestId) :
    (genealogy.chain id).Perm ((genealogy.entriesAbove id).map Prod.snd) := by
  induction id using acyclic.induction with
  | origin id origin =>
      have missing : genealogy.steps.find? id = none := by simpa [parentOf?] using origin
      rw [chain_of_none missing, entriesAbove_of_origin origin]
      exact .nil
  | derived id parent step ih =>
      obtain ⟨lineage, derived, rfl⟩ := (hasParent_iff_find? _ _).1 step
      rw [acyclic.chain_of_some derived]
      exact (ih.cons lineage).trans ((acyclic.entriesAbove_perm derived).map Prod.snd).symm

theorem Acyclic.sum_chain (acyclic : genealogy.Acyclic) (count : Lineage → UInt32) (id : TestId) :
    (((genealogy.chain id).map count).map UInt32.toNat).sum = genealogy.sumAbove count id := by
  rw [List.map_map, ((acyclic.chain_perm id).map _).sum_eq, List.map_map]
  rfl

/-- The sum of a derived test is that of its parent and its own count. -/
theorem Acyclic.sumAbove_of_some (acyclic : genealogy.Acyclic) (count : Lineage → UInt32)
    {id : TestId} {lineage : Lineage} (derived : genealogy.steps.find? id = some lineage) :
    genealogy.sumAbove count id =
      genealogy.sumAbove count lineage.parent + (count lineage).toNat := by
  rw [sumAbove, ((acyclic.entriesAbove_perm derived).map _).sum_eq, List.map_cons, List.sum_cons,
    Nat.add_comm]
  rfl

/-! ## The answers -/

/-- The answers are the sums of the counts of a kind along the lineages. -/
structure SumsUp (genealogy : Genealogy) (count : Lineage → UInt32)
    (answer : TestId → Except AdditionOverflow Nat) : Prop where
  /-- There is an overflow exactly if the sum does not fit. -/
  overflow_iff : ∀ id, answer id = .error ⟨⟩ ↔ 2 ^ 32 - 1 < genealogy.sumAbove count id
  /-- Otherwise the answer is the sum. -/
  sum : ∀ id, genealogy.sumAbove count id ≤ 2 ^ 32 - 1 →
    answer id = .ok (genealogy.sumAbove count id)
  /-- A derived test adds its own count to what its parent has, if that still fits. -/
  derived : ∀ id lineage, genealogy.steps.find? id = some lineage → ∀ number,
    answer id = .ok number ↔ ∃ above, answer lineage.parent = .ok above ∧
      number = above + (count lineage).toNat ∧ number ≤ 2 ^ 32 - 1
  /-- An origin has no additions. -/
  origin : ∀ id, genealogy.parentOf? id = none → answer id = .ok 0

theorem Acyclic.sumsUp (acyclic : genealogy.Acyclic) (count : Lineage → UInt32) :
    SumsUp genealogy count fun id => total ((genealogy.chain id).map count) := by
  have answer : ∀ id, total ((genealogy.chain id).map count) =
      if genealogy.sumAbove count id ≤ 2 ^ 32 - 1 then .ok (genealogy.sumAbove count id)
      else .error ⟨⟩ := by
    intro id
    rw [total_eq, acyclic.sum_chain]
    rfl
  have answer_ok : ∀ id number, total ((genealogy.chain id).map count) = .ok number ↔
      genealogy.sumAbove count id ≤ 2 ^ 32 - 1 ∧ number = genealogy.sumAbove count id := by
    intro id number
    rw [answer]
    split
    · next fits =>
        rw [Except.ok.injEq]
        exact ⟨fun same => ⟨fits, same.symm⟩, fun parts => parts.2.symm⟩
    · next tooMuch => exact ⟨nofun, fun parts => absurd parts.1 tooMuch⟩
  refine ⟨fun id => ?_, fun id fits => ?_, fun id lineage derived number => ?_, fun id origin => ?_⟩
  · rw [answer]
    split
    · next fits => exact ⟨nofun, fun tooMuch => absurd fits (Nat.not_le.2 tooMuch)⟩
    · next tooMuch => exact ⟨fun _ => Nat.not_le.1 tooMuch, fun _ => rfl⟩
  · exact (answer_ok id _).2 ⟨fits, rfl⟩
  · simp only [answer_ok, acyclic.sumAbove_of_some count derived]
    constructor
    · rintro ⟨fits, rfl⟩
      exact ⟨_, ⟨by omega, rfl⟩, rfl, fits⟩
    · rintro ⟨above, ⟨-, rfl⟩, rfl, fits⟩
      exact ⟨fits, rfl⟩
  · have nothing : genealogy.sumAbove count id = 0 := by
      rw [sumAbove, entriesAbove_of_origin origin]
      rfl
    exact (answer_ok id 0).2 ⟨by omega, nothing.symm⟩

/-! ## The calls behind an entry -/

/-- The call puts another entry in place of that of the test: it forgets all entries, or it records
a derivation of the test. -/
def Touches (genealogy : Genealogy) (id : TestId) : Call → Prop
  | .record child parent => child.id = id ∧ genealogy.refusal? (.record child parent) = none
  | .clear => True

/-- None of the calls, made one after the other, puts another entry in place of that of the test. -/
def Untouched (id : TestId) : Genealogy → List Call → Prop
  | _, [] => True
  | genealogy, call :: rest =>
      ¬ genealogy.Touches id call ∧ Untouched id (genealogy.after call) rest

/-- The calls record the derivation, and none behind that puts another entry in its place. -/
inductive LastRecorded (derivation : Derivation) : Genealogy → List Call → Prop where
  | here {genealogy : Genealogy} {rest : List Call}
      (recorded : genealogy.refusal? derivation.call = none)
      (untouched : Untouched derivation.child.id (genealogy.after derivation.call) rest) :
      LastRecorded derivation genealogy (derivation.call :: rest)
  | later {genealogy : Genealogy} {call : Call} {rest : List Call}
      (last : LastRecorded derivation (genealogy.after call) rest) :
      LastRecorded derivation genealogy (call :: rest)

theorem find?_after_of_not_touches {id : TestId} {call : Call}
    (untouched : ¬ genealogy.Touches id call) :
    (genealogy.after call).steps.find? id = genealogy.steps.find? id := by
  cases call with
  | clear => exact absurd trivial untouched
  | record child parent =>
      cases recorded : genealogy.record child parent with
      | error error => rw [after_of_refusal recorded]
      | ok later =>
          have taken : genealogy.refusal? (.record child parent) = none := by
            rw [refusal?, recorded]
          have other : id ≠ child.id := fun same => untouched ⟨same.symm, taken⟩
          rw [after_of_record recorded, (record_eq_ok_iff.1 recorded).2.2, find?_withStep,
            if_neg other]

/-- What stands at a test after calls was recorded by the last of them that touched it, or it stood
there before. -/
theorem find?_foldl_after_iff (calls : List Call) (genealogy : Genealogy) (id : TestId)
    (lineage : Lineage) :
    (calls.foldl after genealogy).steps.find? id = some lineage ↔
      (∃ derivation, LastRecorded derivation genealogy calls ∧ derivation.entry = (id, lineage)) ∨
        Untouched id genealogy calls ∧ genealogy.steps.find? id = some lineage := by
  induction calls generalizing genealogy with
  | nil =>
      have nobody : ∀ derivation, ¬ LastRecorded derivation genealogy [] := nofun
      simp [nobody, Untouched]
  | cons call rest ih =>
      rw [List.foldl_cons, ih]
      constructor
      · rintro (⟨derivation, last, isEntry⟩ | ⟨untouched, found⟩)
        · exact .inl ⟨derivation, .later last, isEntry⟩
        · -- The rest has left the entry alone, so the call put it there or it is older still.
          by_cases touched : genealogy.Touches id call
          · cases call with
            | clear => cases found
            | record child parent =>
                obtain ⟨rfl, taken⟩ := touched
                have stepped := @after_of_no_refusal genealogy ⟨child, parent⟩ taken
                rw [Derivation.call] at stepped
                rw [stepped, find?_withStep, if_pos rfl] at found
                exact .inl ⟨⟨child, parent⟩, .here taken untouched,
                  Prod.ext rfl (Option.some.inj found)⟩
          · rw [find?_after_of_not_touches touched] at found
            exact .inr ⟨⟨touched, untouched⟩, found⟩
      · rintro (⟨derivation, last, isEntry⟩ | ⟨⟨notHere, untouched⟩, found⟩)
        · cases last with
          | later last => exact .inl ⟨derivation, last, isEntry⟩
          | here recorded untouched =>
              obtain ⟨rfl, rfl⟩ := Prod.mk.inj isEntry
              refine .inr ⟨untouched, ?_⟩
              rw [after_of_no_refusal recorded, find?_withStep, if_pos rfl]
        · exact .inr ⟨untouched, (find?_after_of_not_touches notHere).trans found⟩

/-- **The entries after calls** are those of the derivations that were recorded last. -/
theorem find?_replay_iff (calls : List Call) (id : TestId) (lineage : Lineage) :
    (replay calls).steps.find? id = some lineage ↔
      ∃ derivation, LastRecorded derivation .empty calls ∧ derivation.entry = (id, lineage) := by
  rw [replay, find?_foldl_after_iff]
  refine or_iff_left ?_
  rintro ⟨-, found⟩
  cases found

/-- **Additions since the origin** after any calls. Both answers are the exact sums of the counts in
the entries of the test and its ancestors, with an overflow just where the sum does not fit in 32
bits. The entries hold the counts of the derivations that were recorded last. -/
theorem additions_after_calls (calls : List Call) :
    SumsUp (replay calls) Lineage.assertionsAdded (replay calls).assertionsSinceOrigin ∧
      SumsUp (replay calls) Lineage.inputsAdded (replay calls).inputsSinceOrigin ∧
      ∀ id lineage, (replay calls).steps.find? id = some lineage ↔
        ∃ derivation, LastRecorded derivation .empty calls ∧ derivation.entry = (id, lineage) :=
  ⟨(acyclic_replay calls).sumsUp _, (acyclic_replay calls).sumsUp _, find?_replay_iff calls⟩

end Genealogy

end TestAmplification
