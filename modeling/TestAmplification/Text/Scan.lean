/-!
# Scanning characters

A scanner reads from the front of a list of characters. It gives a result and
leaves the characters that it did not use, or it fails. Every operation here
looks at one character or takes a run of them; larger scanners are put together
from these.
-/

set_option autoImplicit false

namespace TestAmplification

/-- A scanner with results of a type. -/
abbrev Scan (α : Type) := StateT (List Char) Option α

namespace Scan

variable {α : Type}

/-- The next character, which stays in place. -/
def peek : Scan (Option Char) :=
  List.head? <$> get

/-- Takes the next character, whatever it is. -/
def next : Scan Char := do
  match ← get with
  | character :: rest => set rest; return character
  | [] => failure

/-- Takes the given characters. -/
def expect (characters : List Char) : Scan Unit := do
  let rest ← get
  if characters.isPrefixOf rest then set (rest.drop characters.length) else failure

/-- Takes the next character if it passes the test. -/
def nextIf (passes : Char → Bool) : Scan Char := do
  let character ← next
  if passes character then return character else failure

/-- Takes the longest run of characters that pass the test. -/
def run (passes : Char → Bool) : Scan (List Char) := do
  let rest ← get
  set (rest.dropWhile passes)
  return rest.takeWhile passes

/-- Takes the longest run of characters that pass the test, and at least
one. -/
def runOfSome (passes : Char → Bool) : Scan (List Char) := do
  match ← run passes with
  | [] => failure
  | characters => return characters

/-- Takes exactly so many characters, all of which pass the test. -/
def exactly (passes : Char → Bool) : Nat → Scan (List Char)
  | 0 => return []
  | count + 1 => do
      let character ← nextIf passes
      return character :: (← exactly passes count)

/-- Does the scanner succeed? If so, what it used is taken. -/
def isNext (scanner : Scan α) : Scan Bool :=
  Option.isSome <$> optional scanner

/-- Is everything used up? -/
def atEnd : Scan Bool :=
  List.isEmpty <$> get

/-- The number of characters that remain. -/
def remaining : Scan Nat :=
  List.length <$> get

/-- Repeats a scanner until it fails, at most as often as given. -/
def repeatUpTo (scanner : Scan α) : Nat → Scan (List α)
  | 0 => return []
  | count + 1 => do
      match ← optional scanner with
      | some result => return result :: (← repeatUpTo scanner count)
      | none => return []

/-- Repeats a scanner until it fails. It has to use a character each time, so
the number of remaining characters bounds the repetitions. -/
def repeated (scanner : Scan α) : Scan (List α) := do
  repeatUpTo scanner (← remaining)

/-- The result of a scanner that uses up all characters. -/
def whole (scanner : Scan α) (characters : List Char) : Option α :=
  match scanner characters with
  | some (result, []) => some result
  | _ => none

end Scan

end TestAmplification
