/-!
# TOML documents

A value is a text, a number, a truth value, a moment, an array or a table.
Numbers with a point or an exponent and moments are kept as they are spelled.

A document is built up line by line. Headers open tables and elements of arrays
of tables, dotted keys open tables on the way to their last name, and every
table remembers how it came about, because that decides what may still be added
to it:

* a table that was only passed through by a header can still get a header of
  its own;
* a table that was opened by a dotted key can be entered by further dotted
  keys, but gets no header;
* a table with a header of its own is not entered by dotted keys;
* a value is never entered at all.

The table under the last header is kept apart until the next header.
-/

set_option autoImplicit false

namespace TestAmplification.Toml

/-- A TOML value. -/
inductive Value where
  /-- A text. -/
  | text (text : String)
  /-- A whole number. -/
  | integer (number : Int)
  /-- A number that is not whole, as it is spelled. -/
  | float (spelling : List Char)
  /-- A truth value. -/
  | bool (value : Bool)
  /-- A date, a time or both, as it is spelled. -/
  | moment (spelling : List Char)
  /-- The elements of an array. -/
  | array (elements : List Value)
  /-- The entries of a table. -/
  | table (entries : List (String × Value))
deriving Inhabited

/-- A part of a document that may still grow. -/
inductive Node where
  /-- A value, which is complete. -/
  | leaf (value : Value)
  /-- A table: was it only passed through, was it opened by a dotted key, and
  what is in it? -/
  | table (passedThrough dotted : Bool) (entries : List (String × Node))
  /-- The elements of an array of tables. -/
  | tables (elements : List (List (String × Node)))
deriving Inhabited

/-- The entries of a table. -/
abbrev Entries := List (String × Node)

namespace Entries

/-- The node at a key. -/
def find? (entries : Entries) (key : String) : Option Node :=
  entries.lookup key

/-- The entries with the node at the key, in its old place if there is one. -/
def put (key : String) (node : Node) : Entries → Entries
  | [] => [(key, node)]
  | (other, former) :: rest =>
      if other == key then (key, node) :: rest else (other, former) :: put key node rest

/-- Changes the entries that a path of keys leads to. A missing table on the
way is opened. The change is told whether a dotted key opened the table it
applies to. -/
def changeAt (byDottedKey : Bool) (change : Bool → Entries → Option Entries) :
    List String → Bool → Entries → Option Entries
  | [], dotted, entries => change dotted entries
  | key :: path, _, entries =>
      match entries.find? key with
      | none => do
          let inner ← changeAt byDottedKey change path byDottedKey []
          return entries ++ [(key, .table true byDottedKey inner)]
      | some (.leaf _) => none
      | some (.table passedThrough dotted inner) =>
          if byDottedKey && !passedThrough then none
          else do
            let inner ← changeAt byDottedKey change path dotted inner
            return put key (.table passedThrough dotted inner) entries
      | some (.tables elements) =>
          match elements.getLast? with
          | none => none
          | some last => do
              let last ← changeAt byDottedKey change path false last
              return put key (.tables (elements.dropLast ++ [last])) entries

/-- Adds a value under a dotted key. The last name must be new, and its table
must have come about by just this kind of key. -/
def addValue (path : List String) (key : String) (value : Value) (entries : Entries) :
    Option Entries :=
  changeAt true
    (fun dotted inner =>
      if dotted == path.isEmpty || (inner.find? key).isSome then none
      else some (inner ++ [(key, .leaf value)]))
    path false entries

end Entries

mutual

/-- The value of a node. -/
def Node.toValue : Node → Value
  | .leaf value => value
  | .table _ _ entries => .table (entriesToValues entries)
  | .tables elements => .array (elementsToValues elements)

/-- The values of entries. -/
def entriesToValues : List (String × Node) → List (String × Value)
  | [] => []
  | (key, node) :: rest => (key, node.toValue) :: entriesToValues rest

/-- The values of the elements of an array of tables. -/
def elementsToValues : List (List (String × Node)) → List Value
  | [] => []
  | entries :: rest => .table (entriesToValues entries) :: elementsToValues rest

end

/-! ## Documents -/

/-- A document under construction. -/
structure Draft where
  /-- The finished tables. -/
  root : Entries := []
  /-- The path of the last header. -/
  path : List String := []
  /-- Did the last header open an element of an array of tables? -/
  inArray : Bool := false
  /-- The entries under the last header. -/
  current : Entries := []
deriving Inhabited

namespace Draft

/-- Puts the table under the last header into the finished ones. -/
def finish (draft : Draft) : Option Entries :=
  match draft.path.getLast? with
  | none => some draft.current
  | some key =>
      Entries.changeAt false
        (fun _ parent =>
          if draft.inArray then
            match parent.find? key with
            | none => some (parent ++ [(key, .tables [draft.current])])
            | some (.tables elements) =>
                some (Entries.put key (.tables (elements ++ [draft.current])) parent)
            | some _ => none
          else some (Entries.put key (.table false false draft.current) parent))
        draft.path.dropLast false draft.root

/-- What stands at a path: nothing inside when nothing stands there, and
nothing at all when the way is barred. -/
def nodeAt (entries : Entries) : List String → Option (Option Node)
  | [] => none
  | [key] => some (entries.find? key)
  | key :: path =>
      match entries.find? key with
      | none => some none
      | some (.leaf _) => none
      | some (.table _ _ inner) => nodeAt inner path
      | some (.tables elements) =>
          match elements.getLast? with
          | none => none
          | some last => nodeAt last path

/-- Opens the table of a header. A table that was only passed through so far
keeps its entries; any other node at the path bars the header. -/
def openTable (draft : Draft) (path : List String) : Option Draft := do
  let root ← draft.finish
  match ← nodeAt root path with
  | none => return { root, path, inArray := false, current := [] }
  | some (.table true false entries) => return { root, path, inArray := false, current := entries }
  | some _ => none

/-- Opens a further element of an array of tables. -/
def openElement (draft : Draft) (path : List String) : Option Draft := do
  let root ← draft.finish
  match ← nodeAt root path with
  | none | some (.tables _) => return { root, path, inArray := true, current := [] }
  | some _ => none

/-- Adds a value under a dotted key to the table under the last header. -/
def addValue (draft : Draft) (path : List String) (key : String) (value : Value) :
    Option Draft := do
  return { draft with current := ← draft.current.addValue path key value }

/-- The finished document. -/
def toValue (draft : Draft) : Option Value := do
  return .table (entriesToValues (← draft.finish))

end Draft

end TestAmplification.Toml
