import TestAmplification.Proofs.Positions
import TestAmplification.Test.Suite

/-!
# What reduction keeps

Reduction goes through tests from the front. A test is kept unless it shares its identity or its
body with one that was kept before (`reduce_keeps_firsts`). Only kept tests count: one that is
dropped for its identity leaves its body free for a later test, and the other way round, so which
tests remain is not decided by the pairs that share something, but by the tests before them. The
rule determines the positions that remain all the same, and since it looks at the tests alone, tests
that are reduced together with their parents remain at the same positions.

The invariant of the recursion is about the tests that were kept so far: what remains shares nothing
with them, nor with what remains before it (`apart_reduceAfter`).
-/

set_option autoImplicit false

namespace TestAmplification

/-- The tests share their identity or their body, apart from blanks at its ends. -/
def Shares (test other : TestCase) : Prop :=
  test.id = other.id ∨ test.trimmedBody = other.trimmedBody

theorem clashes_iff {test other : TestCase} : clashes test other = true ↔ Shares test other := by
  rw [clashes, TestCase.sameBody, Bool.or_eq_true, beq_iff_eq, beq_iff_eq, Shares]

theorem any_clashes_iff {kept : List TestCase} {test : TestCase} :
    kept.any (clashes test) = true ↔ ∃ other ∈ kept, Shares test other := by
  simp only [List.any_eq_true, clashes_iff]

/-! ## Reducing item by item -/

section

variable {α : Type} {testOf : α → TestCase} {kept : List TestCase} {items : List α} {item : α}

theorem reduceAfter_sublist (testOf : α → TestCase) (kept : List TestCase)
    (items : List α) : (reduceAfter testOf kept items).Sublist items := by
  induction items generalizing kept with
  | nil => exact .slnil
  | cons item rest ih =>
      rw [reduceAfter]
      split
      · exact (ih kept).cons item
      · exact (ih _).cons_cons item

/-- An item remains, or it clashes with an item that is kept before it. -/
theorem mem_or_clashes_reduceAfter (member : item ∈ items) :
    item ∈ reduceAfter testOf kept items ∨
      (∃ test ∈ kept, Shares (testOf item) test) ∨
        ∃ earlier ∈ reduceAfter testOf kept items,
          Shares (testOf item) (testOf earlier) ∧ [earlier, item].Sublist items := by
  induction items generalizing kept with
  | nil => cases member
  | cons first rest ih =>
      rw [reduceAfter]
      split
      · next isKept =>
          rcases List.mem_cons.1 member with rfl | later
          · exact .inr (.inl (any_clashes_iff.1 isKept))
          · rcases ih later with remains | early | ⟨earlier, remains, shares, order⟩
            · exact .inl remains
            · exact .inr (.inl early)
            · exact .inr (.inr ⟨earlier, remains, shares, order.cons first⟩)
      · rcases List.mem_cons.1 member with rfl | later
        · exact .inl (.head _)
        · rcases @ih (testOf first :: kept) later with
            remains | ⟨test, listed, shares⟩ | ⟨earlier, remains, shares, order⟩
          · exact .inl (.tail _ remains)
          · rcases List.mem_cons.1 listed with rfl | early
            · have order : [first, item].Sublist (first :: rest) :=
                (List.singleton_sublist.2 later).cons_cons first
              exact .inr (.inr ⟨first, .head _, shares, order⟩)
            · exact .inr (.inl ⟨test, early, shares⟩)
          · exact .inr (.inr ⟨earlier, .tail _ remains, shares, order.cons first⟩)

/-- **What remains is apart**: no item shares anything with one before it, nor with a test that was
kept before. -/
theorem apart_reduceAfter (testOf : α → TestCase) (kept : List TestCase) (items : List α) :
    (reduceAfter testOf kept items).Pairwise
        (fun earlier later => ¬ Shares (testOf later) (testOf earlier)) ∧
      ∀ item ∈ reduceAfter testOf kept items, ∀ test ∈ kept, ¬ Shares (testOf item) test := by
  induction items generalizing kept with
  | nil => exact ⟨.nil, nofun⟩
  | cons first rest ih =>
      rw [reduceAfter]
      split
      · exact ih kept
      · next fresh =>
          obtain ⟨apart, free⟩ := ih (testOf first :: kept)
          refine ⟨.cons (fun later remains => free later remains _ (.head _)) apart, ?_⟩
          intro item member test listed shares
          rcases List.mem_cons.1 member with rfl | remains
          · exact fresh (any_clashes_iff.2 ⟨test, listed, shares⟩)
          · exact free item remains test (.tail _ listed) shares

/-- No two items that remain share their identity. -/
theorem nodup_ids_reduceAfter :
    ((reduceAfter testOf kept items).map fun item => (testOf item).id).Nodup :=
  List.pairwise_map.2 <| (apart_reduceAfter testOf kept items).1.imp
    fun apart same => apart (.inl same.symm)

/-- No two items that remain share their body. -/
theorem nodup_bodies_reduceAfter :
    ((reduceAfter testOf kept items).map fun item => (testOf item).trimmedBody).Nodup :=
  List.pairwise_map.2 <| (apart_reduceAfter testOf kept items).1.imp
    fun apart same => apart (.inr same.symm)

/-- Further items are reduced after what remains of those in front of them. -/
theorem reduceAfter_append (testOf : α → TestCase) (kept : List TestCase) (front back : List α) :
    reduceAfter testOf kept (front ++ back) =
      reduceAfter testOf kept front ++
        reduceAfter testOf (((reduceAfter testOf kept front).map testOf).reverse ++ kept) back := by
  induction front generalizing kept with
  | nil => rfl
  | cons first rest ih =>
      simp only [List.cons_append, reduceAfter]
      split
      · exact ih kept
      · rw [ih]
        simp

/-- What remains, remains when it is reduced again. -/
theorem reduceAfter_reduceAfter (testOf : α → TestCase) (kept : List TestCase) (items : List α) :
    reduceAfter testOf kept (reduceAfter testOf kept items) = reduceAfter testOf kept items := by
  induction items generalizing kept with
  | nil => rfl
  | cons first rest ih =>
      rw [reduceAfter]
      split
      · exact ih kept
      · next fresh => rw [reduceAfter, if_neg fresh, ih]

/-! ## The positions that remain -/

/-- The positions are, in ascending order, those of the tests that share nothing with a test at an
earlier one of the positions. -/
def KeptAt (tests : List TestCase) (positions : List Nat) : Prop :=
  PositionsWhere
    (fun position test => ∀ other ∈ itemsAt positions (tests.take position), ¬ Shares test other)
    tests positions

/-- **The positions that remain** are given by the tests of the items. -/
theorem exists_keptAt (testOf : α → TestCase) (items : List α) :
    ∃ positions, KeptAt (items.map testOf) positions ∧
      reduceAfter testOf [] items = itemsAt positions items := by
  -- an item at the end remains if its test shares nothing with what remains of those before it
  have clash (front : List α) (item : α) :
      (((reduceAfter testOf [] front).map testOf).reverse ++ []).any (clashes (testOf item)) =
          true ↔
        ¬ ∀ other ∈ (reduceAfter testOf [] front).map testOf, ¬ Shares (testOf item) other := by
    rw [any_clashes_iff]
    simp
  obtain ⟨positions, chosen, remains⟩ := exists_positionsWhere
    (reduceAfter testOf [])
    (fun front item =>
      ∀ other ∈ (reduceAfter testOf [] front).map testOf, ¬ Shares (testOf item) other)
    rfl
    (fun front item free => by
      rw [reduceAfter_append, reduceAfter, if_neg fun shares => (clash front item).1 shares free]
      rfl)
    (fun front item shares => by
      rw [reduceAfter_append, reduceAfter, if_pos ((clash front item).2 shares)]
      exact List.append_nil _)
    items
  refine ⟨positions, ⟨chosen.ascending, fun position => ?_⟩, by simpa using remains items.length⟩
  rw [chosen.mem_iff, List.getElem?_map, ← List.map_take, itemsAt_map, ← remains]
  simp

end

/-- The rule determines the positions that remain. -/
theorem KeptAt.unique {tests : List TestCase} {positions others : List Nat}
    (kept : KeptAt tests positions) (also : KeptAt tests others) : positions = others :=
  PositionsWhere.unique_of_picked
    (fun kept test => ∀ other ∈ kept, ¬ Shares test other) kept also

/-- **Reduction keeps the first of each.** One list of positions obeys the rule: a test is kept
exactly if no earlier kept one shares its identity or its body. Reduction gives the tests at these
positions, and pairs with these tests are reduced to the pairs there. A dropped test shares
something with an earlier kept one. No two tests that remain share anything, reducing them again
changes nothing, and what remains of the tests in front is in front of what remains of all of
them. -/
theorem reduce_keeps_firsts (tests : List TestCase) :
    (∃ positions, KeptAt tests positions ∧ (∀ others, KeptAt tests others → others = positions) ∧
      reduce tests = itemsAt positions tests ∧
      (∀ pairs : List (TestCase × TestId), pairs.map Prod.fst = tests →
        reducePairs pairs = itemsAt positions pairs) ∧
      ∀ position test, tests[position]? = some test → position ∉ positions →
        ∃ other ∈ itemsAt positions (tests.take position), Shares test other) ∧
    ((reduce tests).map TestCase.id).Nodup ∧
    ((reduce tests).map TestCase.trimmedBody).Nodup ∧
    reduce (reduce tests) = reduce tests ∧
    ∀ front, front <+: tests → reduce front <+: reduce tests := by
  refine ⟨?positions, nodup_ids_reduceAfter, nodup_bodies_reduceAfter,
    reduceAfter_reduceAfter _ _ _, ?beginning⟩
  case positions =>
    obtain ⟨positions, kept, remains⟩ := exists_keptAt id tests
    rw [List.map_id] at kept
    refine ⟨positions, kept, fun _ also => also.unique kept, remains, ?_, ?_⟩
    · rintro pairs rfl
      obtain ⟨others, also, pairsRemain⟩ := exists_keptAt Prod.fst pairs
      rw [reducePairs, pairsRemain, also.unique kept]
    · intro position test there dropped
      rw [kept.mem_iff_has there] at dropped
      simpa using dropped
  case beginning =>
    rintro front ⟨back, rfl⟩
    rw [reduce, reduce, reduceAfter_append]
    exact List.prefix_append _ _

/-- A test that is dropped for its identity leaves its body free: of three tests in a row of which
each two neighbours share something, the first and the last one remain. -/
theorem dropped_test_blocks_nothing :
    let first : TestCase := .plain ⟨"Suite", "testDebit"⟩ "debit()"
    let second : TestCase := .plain ⟨"Suite", "testDebit"⟩ "credit()"
    let third : TestCase := .plain ⟨"Suite", "testCredit"⟩ " credit()"
    let tests := [first, second, third]
    let pairs := tests.map (·, (⟨"Suite", "testSeed"⟩ : TestId))
    reduce tests = [first, third] ∧ Shares third second ∧
      ∃ positions, KeptAt tests positions ∧ 1 ∉ positions ∧
        (∃ other ∈ itemsAt positions [first], Shares second other) ∧
        reducePairs pairs = itemsAt positions pairs ∧
        reduce [first, second] <+: [first, third] := by
  intro first second third tests pairs
  have remains : reduce tests = [first, third] := by decide +kernel
  obtain ⟨⟨positions, kept, -, reduced, reducedPairs, dropped⟩, -, -, -, beginning⟩ :=
    reduce_keeps_firsts tests
  have second_dropped : 1 ∉ positions := by
    intro listed
    have member : second ∈ itemsAt positions tests := List.mem_filterMap.2 ⟨1, listed, rfl⟩
    rw [← reduced, remains] at member
    revert member
    decide
  exact ⟨remains, clashes_iff.1 (by decide +kernel), positions, kept, second_dropped,
    dropped 1 second rfl second_dropped, reducedPairs pairs rfl,
    remains ▸ beginning [first, second] ⟨[third], rfl⟩⟩

end TestAmplification
