/-!
# Tables in key order

A table holds at most one value for a key and lists its entries by ascending
key. The order is part of the type, so listing a table needs no further
sorting and no key occurs twice.

Main statements: what a look-up finds after an insertion (`find?_insert`,
`find?_insertIfAbsent`), and that it finds exactly the entries of the table
(`find?_eq_some_iff`).
-/

set_option autoImplicit false

namespace TestAmplification

open Std

variable {κ ν : Type} [Ord κ]

/-- Entries in strictly ascending order of their keys. -/
structure Table (κ ν : Type) [Ord κ] where
  /-- The entries, by ascending key. -/
  entries : List (κ × ν)
  /-- Every key is below all later ones. -/
  ascending : entries.Pairwise fun earlier later => compare earlier.1 later.1 = .lt

namespace Table

/-! ## Operations on entries -/

/-- Puts an entry at its place; an entry of the same key is replaced. -/
def placeEntry (key : κ) (value : ν) : List (κ × ν) → List (κ × ν)
  | [] => [(key, value)]
  | entry :: rest =>
      match compare key entry.1 with
      | .lt => (key, value) :: entry :: rest
      | .eq => (key, value) :: rest
      | .gt => entry :: placeEntry key value rest

/-- The value of the entry with the key, where no entry behind a greater key is looked
at. -/
def findEntry (key : κ) : List (κ × ν) → Option ν
  | [] => none
  | entry :: rest =>
      match compare key entry.1 with
      | .lt => none
      | .eq => some entry.2
      | .gt => findEntry key rest

theorem mem_placeEntry {key : κ} {value : ν} {entries : List (κ × ν)} {entry : κ × ν}
    (member : entry ∈ placeEntry key value entries) :
    entry = (key, value) ∨ entry ∈ entries := by
  induction entries with
  | nil => simpa [placeEntry] using member
  | cons first rest ih =>
      rw [placeEntry] at member
      split at member
      · simpa using member
      · rcases List.mem_cons.1 member with same | later
        · exact .inl same
        · exact .inr (List.mem_cons_of_mem _ later)
      · rcases List.mem_cons.1 member with same | later
        · exact .inr (same ▸ List.mem_cons_self)
        · exact (ih later).imp id (List.mem_cons_of_mem _)

theorem ascending_placeEntry [TransOrd κ] (key : κ) (value : ν) {entries : List (κ × ν)}
    (ascending : entries.Pairwise fun earlier later => compare earlier.1 later.1 = .lt) :
    (placeEntry key value entries).Pairwise
      fun earlier later => compare earlier.1 later.1 = .lt := by
  induction entries with
  | nil => simp [placeEntry]
  | cons first rest ih =>
      obtain ⟨below, restAscending⟩ := List.pairwise_cons.1 ascending
      rw [placeEntry]
      split
      · next less =>
          refine List.pairwise_cons.2 ⟨fun later member => ?_, ascending⟩
          rcases List.mem_cons.1 member with rfl | member
          · exact less
          · exact TransCmp.lt_trans less (below later member)
      · next same =>
          exact List.pairwise_cons.2
            ⟨fun later member => TransCmp.lt_of_eq_of_lt same (below later member), restAscending⟩
      · next greater =>
          refine List.pairwise_cons.2 ⟨fun later member => ?_, ih restAscending⟩
          rcases mem_placeEntry member with rfl | member
          · exact OrientedCmp.lt_of_gt greater
          · exact below later member

/-! ## Tables -/

/-- The table without entries. -/
def empty : Table κ ν := ⟨[], List.Pairwise.nil⟩

instance : EmptyCollection (Table κ ν) := ⟨empty⟩

instance : Inhabited (Table κ ν) := ⟨empty⟩

/-- The value at a key. -/
def find? (table : Table κ ν) (key : κ) : Option ν :=
  findEntry key table.entries

/-- Does the table hold the key? -/
def contains (table : Table κ ν) (key : κ) : Bool :=
  (table.find? key).isSome

/-- The number of entries. -/
def size (table : Table κ ν) : Nat :=
  table.entries.length

/-- The keys in ascending order. -/
def keys (table : Table κ ν) : List κ :=
  table.entries.map Prod.fst

/-- The values by ascending key. -/
def values (table : Table κ ν) : List ν :=
  table.entries.map Prod.snd

/-- The table with the value at the key, whatever stood there before. -/
def insert [TransOrd κ] (table : Table κ ν) (key : κ) (value : ν) : Table κ ν :=
  ⟨placeEntry key value table.entries, ascending_placeEntry key value table.ascending⟩

/-- The table with the value at the key, unless the key has a value already. -/
def insertIfAbsent [TransOrd κ] (table : Table κ ν) (key : κ) (value : ν) : Table κ ν :=
  if table.contains key then table else table.insert key value

/-- The entries whose key and value pass the test. -/
def filter (table : Table κ ν) (passes : κ → ν → Bool) : Table κ ν :=
  ⟨table.entries.filter fun entry => passes entry.1 entry.2,
    table.ascending.sublist List.filter_sublist⟩

/-- The table of a list of entries; the last entry of a key counts. -/
def ofList [TransOrd κ] (entries : List (κ × ν)) : Table κ ν :=
  entries.foldl (fun table entry => table.insert entry.1 entry.2) ∅

/-! ## Look-ups -/

@[simp] theorem find?_empty (key : κ) : (∅ : Table κ ν).find? key = none := rfl

theorem findEntry_placeEntry [TransOrd κ] [LawfulEqOrd κ] (key other : κ) (value : ν)
    (entries : List (κ × ν)) :
    findEntry other (placeEntry key value entries) =
      if compare other key = .eq then some value else findEntry other entries := by
  induction entries with
  | nil =>
      simp only [placeEntry, findEntry]
      split <;> simp_all
  | cons first rest ih =>
      rw [placeEntry]
      split
      · next less =>
          rw [findEntry]
          split
          · next below =>
              simp [below, findEntry, TransCmp.lt_trans below less]
          · next same => simp [same]
          · next above => simp [above]
      · next same =>
          have same : key = first.1 := LawfulEqOrd.eq_of_compare same
          simp only [findEntry, same]
          split <;> simp_all
      · next greater =>
          simp only [findEntry, ih]
          have below : compare first.1 key = .lt := OrientedCmp.lt_of_gt greater
          split
          · next less => simp [TransCmp.lt_trans less below]
          · next same =>
              have same : other = first.1 := LawfulEqOrd.eq_of_compare same
              simp [same, below]
          · rfl

/-- **Insertion.** A look-up finds the inserted value at its key and the former
value everywhere else. -/
theorem find?_insert [TransOrd κ] [LawfulEqOrd κ] (table : Table κ ν) (key other : κ)
    (value : ν) :
    (table.insert key value).find? other =
      if compare other key = .eq then some value else table.find? other :=
  findEntry_placeEntry key other value table.entries

/-- A look-up after an insertion that does not replace. -/
theorem find?_insertIfAbsent [TransOrd κ] [LawfulEqOrd κ] (table : Table κ ν) (key other : κ)
    (value : ν) :
    (table.insertIfAbsent key value).find? other =
      if compare other key = .eq then some ((table.find? key).getD value)
      else table.find? other := by
  unfold insertIfAbsent
  split
  · next present =>
      obtain ⟨former, found⟩ := Option.isSome_iff_exists.1 present
      split
      · next same =>
          have same : other = key := LawfulEqOrd.eq_of_compare same
          simp [same, found]
      · rfl
  · next absent =>
      have absent : table.find? key = none := by simpa [contains] using absent
      simp [find?_insert, absent]

/-- An entry is found exactly at its key. -/
theorem find?_eq_some_iff [TransOrd κ] [LawfulEqOrd κ] (table : Table κ ν) (key : κ)
    (value : ν) : table.find? key = some value ↔ (key, value) ∈ table.entries := by
  obtain ⟨entries, ascending⟩ := table
  simp only [find?]
  induction entries with
  | nil => simp [findEntry]
  | cons first rest ih =>
      obtain ⟨below, restAscending⟩ := List.pairwise_cons.1 ascending
      rw [findEntry]
      split
      · next less =>
          refine ⟨fun found => (nomatch found), fun member => ?_⟩
          rcases List.mem_cons.1 member with same | later
          · rw [← same] at less
            simp [ReflCmp.compare_self] at less
          · have above := TransCmp.lt_trans less (below _ later)
            simp [ReflCmp.compare_self] at above
      · next same =>
          have same : key = first.1 := LawfulEqOrd.eq_of_compare same
          subst same
          constructor
          · intro found
            exact List.mem_cons.2 (.inl (by simpa using (Option.some.inj found) ▸ rfl))
          · intro member
            rcases List.mem_cons.1 member with same | later
            · rw [← same]
            · have less := below _ later
              simp [ReflCmp.compare_self] at less
      · next greater =>
          rw [ih restAscending]
          constructor
          · exact List.mem_cons_of_mem _
          · intro member
            rcases List.mem_cons.1 member with same | later
            · rw [← same] at greater
              simp [ReflCmp.compare_self] at greater
            · exact later

end Table

/-! ## Sets -/

/-- A finite set whose members are listed in ascending order. -/
abbrev KeySet (κ : Type) [Ord κ] := Table κ Unit

namespace KeySet

/-- The set with one more member. -/
def add [TransOrd κ] (set : KeySet κ) (member : κ) : KeySet κ :=
  Table.insert set member ()

/-- The members of a list, each once. -/
def ofList [TransOrd κ] (members : List κ) : KeySet κ :=
  members.foldl (fun set member => KeySet.add set member) ∅

/-- The members in ascending order. -/
def toList (set : KeySet κ) : List κ :=
  Table.keys set

/-- Is the set without members? -/
def isEmpty (set : KeySet κ) : Bool :=
  set.entries.isEmpty

end KeySet

end TestAmplification
