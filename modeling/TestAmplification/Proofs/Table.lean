import Mathlib.Data.Finset.Card
import TestAmplification.Table

/-!
# Keys of tables and members of sets

A table finds a value exactly at its keys, and its keys are distinct, so a table
with as many entries as a list is long, all at members of the list, has every
member (`nodup_of_length_le_size`). Tables with the same look-ups are equal
(`ext_find?`), and so are sets with the same members. A set made from a list has
the members of the list (`KeySet.contains_ofList`) and as many of them as the
list has different members (`KeySet.size_ofList`).
-/

set_option autoImplicit false

namespace TestAmplification

open Std

variable {κ ν : Type} [Ord κ] [TransOrd κ] [LawfulEqOrd κ]

namespace Table

@[simp] theorem find?_insert_self (table : Table κ ν) (key : κ) (value : ν) :
    (table.insert key value).find? key = some value := by
  simp [find?_insert]

theorem find?_insert_of_ne (table : Table κ ν) {key other : κ} (value : ν)
    (different : other ≠ key) :
    (table.insert key value).find? other = table.find? other := by
  rw [find?_insert, if_neg]
  intro same
  exact different (LawfulEqOrd.eq_of_compare same)

theorem find?_filter (table : Table κ ν) (passes : κ → ν → Bool) (key : κ) :
    (table.filter passes).find? key = (table.find? key).filter (passes key) := by
  refine Option.ext fun value => ?_
  rw [find?_eq_some_iff, Option.filter_eq_some_iff, find?_eq_some_iff]
  exact List.mem_filter

omit [TransOrd κ] [LawfulEqOrd κ] in
theorem contains_iff (table : Table κ ν) (key : κ) :
    table.contains key = true ↔ ∃ value, table.find? key = some value :=
  Option.isSome_iff_exists

theorem contains_insert (table : Table κ ν) (key other : κ) (value : ν) :
    (table.insert key value).contains other = true ↔
      other = key ∨ table.contains other = true := by
  by_cases same : other = key
  · subst same
    simp [contains]
  · simp [contains, find?_insert_of_ne table value same, same]

theorem mem_keys_iff (table : Table κ ν) (key : κ) :
    key ∈ table.keys ↔ table.contains key = true := by
  rw [contains_iff]
  constructor
  · intro member
    obtain ⟨entry, inEntries, rfl⟩ := List.mem_map.1 member
    exact ⟨entry.2, (find?_eq_some_iff table entry.1 entry.2).2 inEntries⟩
  · rintro ⟨value, found⟩
    exact List.mem_map.2 ⟨(key, value), (find?_eq_some_iff table key value).1 found, rfl⟩

omit [TransOrd κ] in
/-- The keys of a table are distinct. -/
theorem nodup_keys (table : Table κ ν) : table.keys.Nodup := by
  refine List.pairwise_map.2 (table.ascending.imp ?_)
  intro earlier later less same
  simp [same] at less

/-- A table that has as many entries as a list is long, and only keys of the list, has all of
them, and the list has no repetitions. -/
theorem nodup_of_length_le_size (table : Table κ ν) {keys : List κ}
    (among : ∀ key, table.contains key = true → key ∈ keys)
    (enough : keys.length ≤ table.size) :
    keys.Nodup ∧ ∀ key ∈ keys, table.contains key = true := by
  have subset : table.keys ⊆ keys := fun key member => among key ((mem_keys_iff table key).1 member)
  have sameSize : table.keys.length = table.size := List.length_map _
  have perm : table.keys.Perm keys :=
    (table.nodup_keys.subperm subset).perm_of_length_le (sameSize ▸ enough)
  exact ⟨perm.nodup table.nodup_keys,
    fun key member => (mem_keys_iff table key).1 (perm.mem_iff.2 member)⟩

/-- **Extensionality.** Tables with the same look-ups are equal. -/
theorem ext_find? {first second : Table κ ν} (same : ∀ key, first.find? key = second.find? key) :
    first = second := by
  have distinct : ∀ table : Table κ ν, table.entries.Nodup := fun table =>
    List.Nodup.of_map Prod.fst table.nodup_keys
  have members : ∀ entry, entry ∈ first.entries ↔ entry ∈ second.entries := by
    rintro ⟨key, value⟩
    rw [← find?_eq_some_iff, ← find?_eq_some_iff, same]
  have entries : first.entries = second.entries := by
    refine List.Perm.eq_of_pairwise ?_ first.ascending second.ascending
      ((List.perm_ext_iff_of_nodup (distinct first) (distinct second)).2 members)
    -- no entry is both before and behind another one
    intro entry other _ _ less greater
    simp [OrientedCmp.gt_of_lt less] at greater
  obtain ⟨firstEntries, _⟩ := first
  obtain ⟨secondEntries, _⟩ := second
  obtain rfl : firstEntries = secondEntries := entries
  rfl

theorem find?_foldl_insert {entries : List (κ × ν)} (distinct : (entries.map Prod.fst).Nodup)
    (table : Table κ ν) (key : κ) (value : ν) :
    (entries.foldl (fun table entry => table.insert entry.1 entry.2) table).find? key =
        some value ↔
      (key, value) ∈ entries ∨ key ∉ entries.map Prod.fst ∧ table.find? key = some value := by
  induction entries generalizing table with
  | nil => simp
  | cons first rest ih =>
      obtain ⟨new, distinct⟩ := List.nodup_cons.1 distinct
      rw [List.foldl_cons, ih distinct]
      by_cases same : key = first.1
      · subst same
        have notLater : (first.1, value) ∉ rest := fun member =>
          new (List.mem_map.2 ⟨_, member, rfl⟩)
        simp only [find?_insert_self, notLater, new, Option.some.injEq, List.mem_cons,
          List.map_cons, Prod.ext_iff, true_and, false_or, not_true, or_false, false_and,
          not_false_eq_true, eq_comm]
      · have different : (key, value) ≠ first := fun isFirst => same (congrArg Prod.fst isFirst)
        simp only [find?_insert_of_ne _ _ same, List.mem_cons, different, List.map_cons, same,
          false_or]

/-- **A list with distinct keys** has the entries of its table. -/
theorem perm_entries_ofList {entries : List (κ × ν)} (distinct : (entries.map Prod.fst).Nodup) :
    (ofList entries).entries.Perm entries := by
  have nodup : (ofList entries).entries.Nodup := (nodup_keys (ofList entries)).of_map
  refine (List.perm_ext_iff_of_nodup nodup distinct.of_map).2 fun entry => ?_
  rw [← find?_eq_some_iff, ofList, find?_foldl_insert distinct]
  simp

/-- The table of a list with distinct keys finds just the entries of the list. -/
theorem find?_ofList {entries : List (κ × ν)} (distinct : (entries.map Prod.fst).Nodup)
    (key : κ) (value : ν) : (ofList entries).find? key = some value ↔ (key, value) ∈ entries := by
  rw [find?_eq_some_iff]
  exact (perm_entries_ofList distinct).mem_iff

/-- Entries with distinct keys make the same table in any order. -/
theorem ofList_perm {entries others : List (κ × ν)} (perm : entries.Perm others)
    (distinct : (entries.map Prod.fst).Nodup) : ofList entries = ofList others := by
  refine ext_find? fun key => Option.ext fun value => ?_
  rw [find?_ofList distinct, find?_ofList ((perm.map _).nodup_iff.1 distinct), perm.mem_iff]

/-- Tables that hold the same keys of a kind list them in the same order. -/
theorem filter_keys_congr {μ : Type} {first : Table κ ν} {second : Table κ μ} {passes : κ → Bool}
    (same : ∀ key, passes key = true → (first.contains key = true ↔ second.contains key = true)) :
    first.keys.filter passes = second.keys.filter passes := by
  have ascending : ∀ {ω : Type} (table : Table κ ω),
      (table.keys.filter passes).Pairwise fun earlier later => compare earlier later = .lt :=
    fun table => (List.pairwise_map.2 table.ascending).sublist List.filter_sublist
  have members : ∀ key, key ∈ first.keys.filter passes ↔ key ∈ second.keys.filter passes := by
    intro key
    rw [List.mem_filter, List.mem_filter, mem_keys_iff, mem_keys_iff]
    exact and_congr_left (same key)
  refine List.Perm.eq_of_pairwise ?_ (ascending first) (ascending second)
    ((List.perm_ext_iff_of_nodup (first.nodup_keys.filter _) (second.nodup_keys.filter _)).2 members)
  intro key other _ _ less greater
  simp [OrientedCmp.gt_of_lt less] at greater

end Table

namespace KeySet

/-- Sets with the same members are equal. -/
theorem ext_contains {first second : KeySet κ}
    (same : ∀ key, first.contains key = true ↔ second.contains key = true) : first = second := by
  refine Table.ext_find? fun key => ?_
  have present := same key
  simp only [Table.contains] at present
  cases inFirst : first.find? key <;> cases inSecond : second.find? key <;>
    simp_all

theorem contains_foldl_add (members : List κ) (set : KeySet κ) (key : κ) :
    (members.foldl (fun set member => KeySet.add set member) set).contains key = true ↔
      key ∈ members ∨ set.contains key = true := by
  induction members generalizing set with
  | nil => simp
  | cons member rest ih =>
      rw [List.foldl_cons, ih, KeySet.add, Table.contains_insert, List.mem_cons]
      tauto

/-- A set made from a list has the members of the list. -/
theorem contains_ofList (members : List κ) (key : κ) :
    (KeySet.ofList members).contains key = true ↔ key ∈ members := by
  rw [KeySet.ofList, contains_foldl_add]
  simp [Table.contains]

/-- The set made from the members of a set is that set. -/
theorem ofList_toList (set : KeySet κ) : KeySet.ofList set.toList = set := by
  refine ext_contains fun key => ?_
  rw [contains_ofList, KeySet.toList, Table.mem_keys_iff]

/-- A set made from a list has as many members as the list has different ones. -/
theorem size_ofList [DecidableEq κ] (members : List κ) :
    (KeySet.ofList members).size = members.toFinset.card := by
  have sameMembers : (KeySet.ofList members).keys.toFinset = members.toFinset := by
    ext key
    rw [List.mem_toFinset, List.mem_toFinset, Table.mem_keys_iff, contains_ofList]
  rw [← sameMembers, List.toFinset_card_of_nodup (Table.nodup_keys _)]
  simp [Table.keys, Table.size]

end KeySet

end TestAmplification
