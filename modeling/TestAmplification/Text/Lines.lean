/-!
# Blanks and lines

A character is blank when Unicode gives it the property White_Space. Trimming
removes the longest run of blank characters from each end of a text, and a
text is blank when nothing is left of it.

The zero width characters (U+200B, U+2060, U+FEFF), the Mongolian vowel
separator (U+180E) and the information separators (U+001C to U+001F) do not
have the property, so they survive trimming.

A text is split into lines at its line feeds. A carriage return directly
before a line feed belongs to the line end; one that stands elsewhere, also at
the end of the text, belongs to its line. A line feed at the end of the text
opens no further line, so the empty text has no line at all.
-/

set_option autoImplicit false

namespace TestAmplification.Text

/-! ## Blanks -/

/-- The code points with the property White_Space, as closed ranges in
ascending order. -/
def blankRanges : List (Nat × Nat) :=
  [(0x9, 0xD), (0x20, 0x20), (0x85, 0x85), (0xA0, 0xA0), (0x1680, 0x1680), (0x2000, 0x200A),
   (0x2028, 0x2029), (0x202F, 0x202F), (0x205F, 0x205F), (0x3000, 0x3000)]

/-- A character is blank when one of the ranges holds its code point. -/
def isBlank (character : Char) : Bool :=
  blankRanges.any fun range => range.1 ≤ character.toNat && character.toNat ≤ range.2

/-- The characters without the blank run at their start. -/
def trimStart (characters : List Char) : List Char :=
  characters.dropWhile isBlank

/-- The characters without the blank run at their end. -/
def trimEnd (characters : List Char) : List Char :=
  (characters.reverse.dropWhile isBlank).reverse

/-- The characters without the blank runs at both ends. -/
def trimChars (characters : List Char) : List Char :=
  trimEnd (trimStart characters)

/-- A text without the blank runs at both ends. -/
def trim (text : String) : String :=
  String.ofList (trimChars text.toList)

/-- What is trimmed at its start does not start with a blank character. -/
theorem not_isBlank_head_trimStart (characters : List Char) (character : Char)
    (rest : List Char) (starts : trimStart characters = character :: rest) :
    isBlank character = false := by
  induction characters with
  | nil => simp [trimStart] at starts
  | cons first others ih =>
      by_cases blank : isBlank first = true
      · simp only [trimStart, List.dropWhile_cons_of_pos blank] at starts
        exact ih starts
      · simp only [trimStart, List.dropWhile_cons_of_neg blank, List.cons.injEq] at starts
        simpa [starts.1] using blank

/-! ## Lines -/

/-- The lines of a text, in order and without their line ends. -/
def lineChars : List Char → List (List Char)
  | [] => []
  | '\n' :: rest => [] :: lineChars rest
  | '\r' :: '\n' :: rest => [] :: lineChars rest
  | character :: rest =>
      match lineChars rest with
      | [] => [[character]]
      | line :: others => (character :: line) :: others

/-- The lines of a text, in order and without their line ends. -/
def lines (text : String) : List String :=
  (lineChars text.toList).map String.ofList

/-- Texts written one after the other with a line feed between neighbours. -/
def joinLines (texts : List String) : String :=
  "\n".intercalate texts

example : lines "a\r\n\nb\rc\r" = ["a", "", "b\rc\r"] := by decide +kernel

end TestAmplification.Text
