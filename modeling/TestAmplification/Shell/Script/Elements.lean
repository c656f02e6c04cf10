import TestAmplification.Shell.Row

/-!
# Lists of values

A list holds values at numbers, which need not follow one another, or under keys.
What is kept under keys has no order of its own; it is gone through by the places
that the keys have in a table of fixed size, the last one set first where keys share
a place.
-/

set_option autoImplicit false

namespace TestAmplification.Shell

/-- The elements of a list. -/
inductive Elements where
  /-- Values at numbers, in their order. -/
  | indexed (entries : List (Nat × Row))
  /-- Values under keys, the last one set first. -/
  | keyed (entries : List (Row × Row))
deriving DecidableEq, Inhabited

/-- Where an element stands in its list. -/
inductive ElementKey where
  /-- At a number. -/
  | number (number : Nat)
  /-- Under a key. -/
  | key (key : Row)
deriving DecidableEq, Inhabited

/-- The row that denotes a key. -/
def ElementKey.row : ElementKey → Row
  | .number place => natRow place
  | .key text => text

/-- The place of a key in a table of fixed size. -/
def tablePlace (key : Row) : Nat :=
  (key.foldl (fun sum character => (sum * 16777619 % 4294967296) ^^^ character.toNat)
    2166136261) % 1024

/-- Entries in the order of the places of their keys. -/
def inTableOrder {α : Type} (key : α → Row) (entries : List α) : List α :=
  (entries.map fun entry => (tablePlace (key entry), entry)).mergeSort
    (fun first second => decide (first.1 ≤ second.1)) |>.map Prod.snd

namespace Elements

/-- The list of values at the numbers from zero on. -/
def ofList (values : List Row) : Elements :=
  indexed ((List.range values.length).zip values)

/-- Has the list keys? -/
def isKeyed : Elements → Bool
  | keyed _ => true
  | indexed _ => false

/-- The keys and values in order. -/
def entries : Elements → List (ElementKey × Row)
  | indexed entries => entries.map fun (number, value) => (.number number, value)
  | keyed entries => (inTableOrder Prod.fst entries).map fun (key, value) => (.key key, value)

/-- The values in order. -/
def values (elements : Elements) : List Row :=
  elements.entries.map Prod.snd

/-- The number of elements. -/
def size : Elements → Nat
  | indexed entries => entries.length
  | keyed entries => entries.length

/-- The element at a place. -/
def get? (elements : Elements) (key : ElementKey) : Option Row :=
  match elements, key with
  | indexed entries, .number number => entries.lookup number
  | keyed entries, key => entries.lookup key.row
  | indexed _, .key _ => none

/-- The element that stands for the whole list: the one at zero. -/
def first? (elements : Elements) : Option Row :=
  elements.get? (.number 0)

/-- The first number behind all elements. -/
def nextNumber : Elements → Nat
  | indexed entries => (entries.getLast?.map fun entry => entry.1 + 1).getD 0
  | keyed _ => 0

/-- Entries with a value at a number. -/
def insertNumber (number : Nat) (value : Row) : List (Nat × Row) → List (Nat × Row)
  | [] => [(number, value)]
  | (other, found) :: rest =>
      if number < other then (number, value) :: (other, found) :: rest
      else if number = other then (number, value) :: rest
      else (other, found) :: insertNumber number value rest

/-- The list with a value at a place. -/
def set (elements : Elements) (key : ElementKey) (value : Row) : Elements :=
  match elements, key with
  | indexed entries, .number number =>
      if (entries.getLast?.map fun entry => decide (entry.1 < number)).getD true then
        indexed (entries ++ [(number, value)])
      else indexed (insertNumber number value entries)
  | indexed entries, .key _ => indexed entries
  | keyed entries, key =>
      if (entries.lookup key.row).isSome then
        keyed (entries.map fun entry => if entry.1 = key.row then (key.row, value) else entry)
      else keyed ((key.row, value) :: entries)

/-- The list without the element at a place. -/
def erase (elements : Elements) (key : ElementKey) : Elements :=
  match elements, key with
  | indexed entries, .number number => indexed (entries.filter fun entry => entry.1 != number)
  | indexed entries, .key _ => indexed entries
  | keyed entries, key => keyed (entries.filter fun entry => entry.1 != key.row)

end Elements

end TestAmplification.Shell
