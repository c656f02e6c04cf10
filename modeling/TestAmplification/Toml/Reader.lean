import TestAmplification.Toml.Document
import TestAmplification.Toml.Scalar

/-!
# Reading TOML

A document is a sequence of lines: headers, keys with values, comments and
empty lines. Arrays may run over several lines, tables within a line may not.
Arrays and tables within values nest less than eighty deep, and a dotted key has
less than eighty names. A byte order mark in front does not count.
-/

set_option autoImplicit false

namespace TestAmplification.Toml

open Scan

/-- Values nest less deep than this, and dotted keys have fewer names. -/
def depthLimit : Nat := 80

/-! ## Keys -/

/-- May the character stand in a bare name? -/
def isBareCharacter (character : Char) : Bool :=
  character.isAlphanum || character == '_' || character == '-'

/-- One name of a key. -/
def keyName : Scan String := do
  match ← peek with
  | some '"' => basicText
  | some '\'' => literalText
  | _ => return String.ofList (← runOfSome isBareCharacter)

/-- One name of a key with blanks around it. -/
def spacedName : Scan String := do
  blanks
  let name ← keyName
  blanks
  return name

/-- The names of a dotted key: those on the way, and the last one. -/
def key : Scan (List String × String) := do
  let first ← spacedName
  let others ← repeated (do expect ['.']; spacedName)
  let names := first :: others
  if names.length < depthLimit then
    return (names.dropLast, names.getLast (List.cons_ne_nil _ _))
  else failure

/-- A key with its value, up to the end of the value. -/
def keyWith (value : Scan Value) : Scan ((List String × String) × Value) := do
  let key ← key
  expect ['=']
  blanks
  return (key, ← value)

/-! ## Values -/

/-- The elements of an array, read by the given scanner. -/
def arrayOf (value : Scan Value) : Scan (List Value) := do
  expect ['[']
  let elements ← repeated (do
    spaceAndLines
    let element ← value
    spaceAndLines
    let separated ← isNext (expect [','])
    return (element, separated))
  spaceAndLines
  expect [']']
  if elements.dropLast.all Prod.snd then return elements.map Prod.fst else failure

/-- The entries of a table within a line. -/
def entriesOf (value : Scan Value) : Scan (List ((List String × String) × Value)) := do
  let first ← keyWith value
  blanks
  let others ← repeated (do
    expect [',']
    let entry ← keyWith value
    blanks
    return entry)
  return first :: others

/-- A table within a line, its values read by the given scanner. -/
def inlineTable (value : Scan Value) : Scan Value := do
  expect ['\x7b']
  blanks
  let pairs ← (do if (← peek) == some '\x7d' then return [] else entriesOf value)
  expect ['\x7d']
  let entries ← (pairs.foldlM
    (fun entries ((path, key), value) => Entries.addValue path key value entries) [] :
      Option Entries)
  return .table (entriesToValues entries)

/-- A number or a moment. -/
def numberOrMoment : Scan Value :=
  (Value.moment <$> spelling moment) <|> (Value.float <$> spelling pointedFloat)
    <|> (Value.float <$> spelling specialFloat) <|> (Value.integer <$> integer)

/-- A value. Values within it are read by the given scanner; without one, no
array and no table may be opened. -/
def valueAround (inner : Option (Scan Value)) : Scan Value := do
  match ← peek with
  | some '"' | some '\'' => Value.text <$> anyText
  | some '[' =>
      match inner with
      | none => failure
      | some inner => Value.array <$> arrayOf inner
  | some '\x7b' =>
      match inner with
      | none => failure
      | some inner => inlineTable inner
  | some 't' => expect ['t', 'r', 'u', 'e']; return .bool true
  | some 'f' => expect ['f', 'a', 'l', 's', 'e']; return .bool false
  | _ => numberOrMoment

/-- A value in which so many arrays and tables may be opened inside each
other. -/
def value : Nat → Scan Value
  | 0 => valueAround none
  | levels + 1 => valueAround (some (value levels))

/-! ## Documents -/

/-- A line that adds to the draft of a document. -/
def line (draft : Draft) : Scan Draft := do
  match ← get with
  | '#' :: _ =>
      comment
      lineEnd
      return draft
  | '[' :: '[' :: _ =>
      expect ['[', '[']
      let (path, name) ← key
      expect [']', ']']
      restOfLine
      draft.openElement (path ++ [name])
  | '[' :: _ =>
      expect ['[']
      let (path, name) ← key
      expect [']']
      restOfLine
      draft.openTable (path ++ [name])
  | '\n' :: _ | '\r' :: _ =>
      newline
      return draft
  | _ =>
      let ((path, name), value) ← keyWith (value (depthLimit - 1))
      restOfLine
      draft.addValue path name value

/-- The lines of a document up to its end, at most as many as given. -/
def linesUpTo : Nat → Draft → Scan Draft
  | 0, draft => do if ← atEnd then return draft else failure
  | count + 1, draft => do
      blanks
      if ← atEnd then return draft
      else linesUpTo count (← line draft)

/-- A document. -/
def document : Scan Draft := do
  let _ ← optional (expect ['\uFEFF'])
  linesUpTo ((← remaining) + 1) {}

/-- Reads a document; the result is always a table. -/
def parse? (text : String) : Option Value := do
  (← document.whole text.toList).toValue

end TestAmplification.Toml
