/-!
# Searching, cutting and replacing

Every operation looks for a pattern from left to right, or for a single
character from either end, and says what stands before and after it. The
patterns in use are never empty.
-/

set_option autoImplicit false

namespace TestAmplification.Text

/-- The characters before and after the first place where the pattern
stands. -/
def cutAt (pattern : List Char) : List Char → Option (List Char × List Char)
  | [] => if pattern.isEmpty then some ([], []) else none
  | character :: rest =>
      if pattern.isPrefixOf (character :: rest) then
        some ([], (character :: rest).drop pattern.length)
      else
        (cutAt pattern rest).map fun (before, after) => (character :: before, after)

/-- The characters before and after the last place where the separator
stands. -/
def cutLast (separator : Char) : List Char → Option (List Char × List Char)
  | [] => none
  | character :: rest =>
      match cutLast separator rest with
      | some (before, after) => some (character :: before, after)
      | none => if character = separator then some ([], rest) else none

/-- The characters before and after the first place where the separator
stands. -/
def cutFirst (separator : Char) : List Char → Option (List Char × List Char)
  | [] => none
  | character :: rest =>
      if character = separator then some ([], rest)
      else (cutFirst separator rest).map fun (before, after) => (character :: before, after)

/-- What follows the last separator, or everything when there is none. -/
def afterLast (separator : Char) (characters : List Char) : List Char :=
  match cutLast separator characters with
  | some (_, after) => after
  | none => characters

/-- The fields between separators, at most `limit + 1` of them: once `limit`
separators are used up, the rest is the last field as it stands. -/
def fields (separator : Char) : Nat → List Char → List (List Char)
  | 0, characters => [characters]
  | limit + 1, characters =>
      match cutFirst separator characters with
      | some (before, after) => before :: fields separator limit after
      | none => [characters]

/-- Does the pattern stand somewhere in the characters? -/
def holds (pattern characters : List Char) : Bool :=
  (cutAt pattern characters).isSome

/-- Replaces the occurrences of a pattern from left to right. The first
argument counts the characters that the last occurrence still covers. -/
def replaceFrom (pattern replacement : List Char) : Nat → List Char → List Char
  | _, [] => []
  | covered + 1, _ :: rest => replaceFrom pattern replacement covered rest
  | 0, character :: rest =>
      if pattern.isPrefixOf (character :: rest) then
        replacement ++ replaceFrom pattern replacement (pattern.length - 1) rest
      else
        character :: replaceFrom pattern replacement 0 rest

/-- The characters with every occurrence of the pattern replaced.
Occurrences are found from left to right and do not overlap, and the
replacement is not searched again. -/
def replaceChars (pattern replacement characters : List Char) : List Char :=
  replaceFrom pattern replacement 0 characters

/-- A text with every occurrence of the pattern replaced. -/
def replace (text pattern replacement : String) : String :=
  String.ofList (replaceChars pattern.toList replacement.toList text.toList)

/-- Does the pattern stand somewhere in the text? -/
def occursIn (pattern text : String) : Bool :=
  holds pattern.toList text.toList

/-- Does the text start with the given one? -/
def beginsWith (text start : String) : Bool :=
  start.toList.isPrefixOf text.toList

/-- Does the text end with the given one? -/
def finishesWith (text finish : String) : Bool :=
  finish.toList.isSuffixOf text.toList

/-- The characters without the given ones at their start, where these stand
there. -/
def withoutStart? (start characters : List Char) : Option (List Char) :=
  if start.isPrefixOf characters then some (characters.drop start.length) else none

/-- Cutting at the first separator loses nothing but that separator. -/
theorem eq_of_cutFirst {separator : Char} {characters before after : List Char}
    (cut : cutFirst separator characters = some (before, after)) :
    characters = before ++ separator :: after ∧ separator ∉ before := by
  induction characters generalizing before with
  | nil => simp [cutFirst] at cut
  | cons first rest ih =>
      by_cases same : first = separator
      · simp only [cutFirst, same, if_true, Option.some.injEq, Prod.mk.injEq] at cut
        obtain ⟨rfl, rfl⟩ := cut
        simp [same]
      · simp only [cutFirst, same, if_false, Option.map_eq_some_iff, Prod.mk.injEq] at cut
        obtain ⟨⟨front, back⟩, found, rfl, rfl⟩ := cut
        obtain ⟨whole, absent⟩ := ih found
        exact ⟨by simp [whole], by simp [absent, Ne.symm same]⟩

/-- A separator is found exactly when it occurs. -/
theorem cutFirst_eq_none_iff {separator : Char} {characters : List Char} :
    cutFirst separator characters = none ↔ separator ∉ characters := by
  induction characters with
  | nil => simp [cutFirst]
  | cons first rest ih =>
      by_cases same : first = separator
      · simp [cutFirst, same]
      · simp [cutFirst, same, ih, Ne.symm same]

/-- Cutting at the last separator loses nothing but that separator. -/
theorem eq_of_cutLast {separator : Char} {characters before after : List Char}
    (cut : cutLast separator characters = some (before, after)) :
    characters = before ++ separator :: after := by
  induction characters generalizing before with
  | nil => simp [cutLast] at cut
  | cons first rest ih =>
      rw [cutLast] at cut
      split at cut
      · next front back found =>
          simp only [Option.some.injEq, Prod.mk.injEq] at cut
          obtain ⟨rfl, rfl⟩ := cut
          simp [ih found]
      · split at cut
        · next same =>
            simp only [Option.some.injEq, Prod.mk.injEq] at cut
            obtain ⟨rfl, rfl⟩ := cut
            simp [same]
        · simp at cut

end TestAmplification.Text
