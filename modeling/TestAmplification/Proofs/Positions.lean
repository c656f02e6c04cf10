import Mathlib.Data.List.Induction
import Mathlib.Data.List.Sort

/-!
# Positions in a list

What a function picks from a list can be said by the positions that it picks, in ascending order
(`PositionsWhere`). Positions tell items apart that are equal, and the same positions can be read
off in several lists of one length.

A function that goes through a list from the front picks an item by what stands before it. If it is
known what becomes of one more item at the end, the picked positions are those whose item has the
property that decides it (`exists_positionsWhere`).
-/

set_option autoImplicit false

namespace TestAmplification

variable {α β : Type}

/-- The items at the positions. -/
def itemsAt (positions : List Nat) (items : List α) : List α :=
  positions.filterMap fun position => items[position]?

/-- The positions are, in ascending order, those of the items with the property. -/
structure PositionsWhere (has : Nat → α → Prop) (items : List α) (positions : List Nat) :
    Prop where
  ascending : positions.Pairwise (· < ·)
  mem_iff : ∀ position, position ∈ positions ↔
    ∃ item, items[position]? = some item ∧ has position item

variable {has : Nat → α → Prop} {items front : List α} {positions others : List Nat}

/-! ## Items at positions -/

theorem itemsAt_map (positions : List Nat) (change : α → β) (items : List α) :
    itemsAt positions (items.map change) = (itemsAt positions items).map change := by
  simp only [itemsAt, List.getElem?_map, List.map_filterMap]

/-- In the first items only the positions up to there count. -/
theorem itemsAt_take (positions : List Nat) (count : Nat) (items : List α) :
    itemsAt positions (items.take count) =
      itemsAt (positions.filter (· < count)) items := by
  rw [itemsAt, itemsAt, List.filterMap_filter]
  refine List.filterMap_congr fun position _ => ?_
  rw [List.getElem?_take]
  by_cases inside : position < count <;> simp [inside]

theorem itemsAt_append (within : ∀ position ∈ positions, position < front.length)
    (back : List α) : itemsAt positions (front ++ back) = itemsAt positions front := by
  refine List.filterMap_congr fun position member => ?_
  exact List.getElem?_append_left (within position member)

/-- A position behind the items adds nothing. -/
theorem itemsAt_concat_of_le {position : Nat} (behind : items.length ≤ position) :
    itemsAt (positions ++ [position]) items = itemsAt positions items := by
  simp [itemsAt, List.filterMap_append, behind]

theorem itemsAt_concat (within : ∀ position ∈ positions, position < front.length) (item : α) :
    itemsAt (positions ++ [front.length]) (front ++ [item]) =
      itemsAt positions front ++ [item] := by
  rw [itemsAt, List.filterMap_append]
  exact congrArg₂ _ (itemsAt_append within [item]) (by simp)

/-! ## Positions of items with a property -/

namespace PositionsWhere

theorem lt_length (chosen : PositionsWhere has items positions) {position : Nat}
    (member : position ∈ positions) : position < items.length := by
  obtain ⟨item, there, -⟩ := (chosen.mem_iff position).1 member
  exact (List.getElem?_eq_some_iff.1 there).1

theorem mem_iff_has (chosen : PositionsWhere has items positions) {position : Nat} {item : α}
    (there : items[position]? = some item) : position ∈ positions ↔ has position item := by
  rw [chosen.mem_iff, there]
  simp

section

variable {later : Nat → α → Prop} (chosen : PositionsWhere has front positions)
  (same : ∀ position < front.length, ∀ item, later position item ↔ has position item) (item : α)

include chosen same

/-- One more item at the end leaves the positions before it. -/
theorem concat_iff (position : Nat) :
    (∃ other, (front ++ [item])[position]? = some other ∧ later position other) ↔
      position ∈ positions ∨ position = front.length ∧ later front.length item := by
  rcases lt_trichotomy position front.length with inside | rfl | behind
  · rw [List.getElem?_append_left inside, chosen.mem_iff]
    simp only [same position inside, inside.ne, false_and, or_false]
  · have unlisted : front.length ∉ positions := fun member =>
      (chosen.lt_length member).false
    simp [unlisted]
  · have unlisted : position ∉ positions := fun member =>
      (chosen.lt_length member).not_gt behind
    have nothing : (front ++ [item])[position]? = none := by simp; omega
    simp [nothing, unlisted, behind.ne']

theorem concat_of_has (isPicked : later front.length item) :
    PositionsWhere later (front ++ [item]) (positions ++ [front.length]) where
  ascending := by
    refine List.pairwise_append.2 ⟨chosen.ascending, List.pairwise_singleton _ _, ?_⟩
    intro position member last isLast
    rw [List.mem_singleton.1 isLast]
    exact chosen.lt_length member
  mem_iff position := by
    rw [chosen.concat_iff same item]
    simp [isPicked]

theorem concat_of_not_has (isLeft : ¬ later front.length item) :
    PositionsWhere later (front ++ [item]) positions where
  ascending := chosen.ascending
  mem_iff position := by
    rw [chosen.concat_iff same item]
    simp [isLeft]

end

/-- Where what was picked before decides about an item, the positions are determined as well. -/
theorem unique_of_picked (has : List α → α → Prop)
    (chosen : PositionsWhere
      (fun position item => has (itemsAt positions (items.take position)) item) items positions)
    (also : PositionsWhere
      (fun position item => has (itemsAt others (items.take position)) item) items others) :
    positions = others := by
  have agree (position : Nat) : position ∈ positions ↔ position ∈ others := by
    induction position using Nat.strongRecOn with
    | ind position ih =>
        have before : positions.filter (· < position) = others.filter (· < position) := by
          refine (chosen.ascending.filter _).eq_of_mem_iff (also.ascending.filter _) ?_
          intro earlier
          simp only [List.mem_filter, decide_eq_true_eq]
          exact and_congr_left (ih earlier)
        rw [chosen.mem_iff, also.mem_iff, itemsAt_take, itemsAt_take, before]
  exact chosen.ascending.eq_of_mem_iff also.ascending agree

end PositionsWhere

/-! ## Picking by what stands before -/

/-- **Picked items** are those at the positions whose item has the property that decides about one
more item at the end. -/
theorem exists_positionsWhere (pick : List α → List α) (has : List α → α → Prop)
    (nothing : pick [] = [])
    (picked : ∀ front item, has front item → pick (front ++ [item]) = pick front ++ [item])
    (left : ∀ front item, ¬ has front item → pick (front ++ [item]) = pick front)
    (items : List α) :
    ∃ positions,
      PositionsWhere (fun position item => has (items.take position) item) items positions ∧
        ∀ count, pick (items.take count) = itemsAt positions (items.take count) := by
  induction items using List.reverseRecOn with
  | nil => exact ⟨[], ⟨.nil, by simp⟩, fun count => by simp [nothing, itemsAt]⟩
  | append_singleton front item ih =>
      obtain ⟨positions, chosen, picks⟩ := ih
      have before {count : Nat} (inside : count ≤ front.length) :
          (front ++ [item]).take count = front.take count :=
        List.take_append_of_le_length inside
      have same : ∀ position < front.length, ∀ other,
          has ((front ++ [item]).take position) other ↔ has (front.take position) other :=
        fun position inside _ => by rw [before inside.le]
      have pickFront : pick front = itemsAt positions front := by
        simpa using picks front.length
      -- a beginning of the longer list is one of the shorter list or all of it
      have extend {next : List Nat}
          (below : ∀ count ≤ front.length,
            itemsAt next (front.take count) = itemsAt positions (front.take count))
          (last : pick (front ++ [item]) = itemsAt next (front ++ [item])) (count : Nat) :
          pick ((front ++ [item]).take count) = itemsAt next ((front ++ [item]).take count) := by
        rcases le_or_gt count front.length with inside | beyond
        · rw [before inside, picks, below count inside]
        · rw [List.take_of_length_le (by simp; omega), last]
      by_cases isPicked : has front item
      · refine ⟨_, chosen.concat_of_has same item (by simpa using isPicked), extend ?_ ?_⟩
        · intro count inside
          exact itemsAt_concat_of_le (by simp [inside])
        · rw [picked front item isPicked, pickFront, itemsAt_concat fun _ => chosen.lt_length]
      · refine ⟨_, chosen.concat_of_not_has same item (by simpa using isPicked), extend ?_ ?_⟩
        · exact fun _ _ => rfl
        · rw [left front item isPicked, pickFront, itemsAt_append fun _ => chosen.lt_length]

end TestAmplification
