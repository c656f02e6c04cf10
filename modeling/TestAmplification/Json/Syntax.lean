import TestAmplification.Text.Decimal

/-!
# JSON as it is written

A JSON value is kept the way it is spelled: a number is its digits, signs and
points, a string is what stands between its quotes, and an object lists its
members in order, also repeated ones. What a spelling means is asked for
separately. A string whose escapes name half of a surrogate pair is well
spelled but has no text, and so is harmless as long as nobody asks for it.

Main statement: every text has a spelling, and reading the spelling gives the
text back (`textOf?_spell`).
-/

set_option autoImplicit false

namespace TestAmplification

/-- A JSON value. -/
inductive Json where
  /-- The literal `null`. -/
  | null
  /-- One of the two truth values. -/
  | bool (value : Bool)
  /-- A number, as it is spelled. -/
  | number (spelling : List Char)
  /-- A string, as it is spelled between its quotes. -/
  | string (spelling : List Char)
  /-- The elements of an array, in order. -/
  | array (elements : List Json)
  /-- The members of an object, in order. -/
  | object (members : List (List Char × Json))
deriving Inhabited

namespace Json

/-! ## Strings -/

/-- The escape of a character inside a string. Quotes, backslashes and control
characters are escaped, everything else stands for itself. -/
def escape (character : Char) : List Char :=
  if character = '"' then ['\\', '"']
  else if character = '\\' then ['\\', '\\']
  else if character = '\x08' then ['\\', 'b']
  else if character = '\t' then ['\\', 't']
  else if character = '\n' then ['\\', 'n']
  else if character = '\x0c' then ['\\', 'f']
  else if character = '\r' then ['\\', 'r']
  else if character.toNat < 0x20 then '\\' :: 'u' :: Text.fourHexDigits character.toNat
  else [character]

/-- The spelling of a text. -/
def spell (text : String) : List Char :=
  text.toList.flatMap escape

/-- The character that a letter stands for after a backslash. -/
def shortEscape? (letter : Char) : Option Char :=
  if letter = '"' then some '"'
  else if letter = '\\' then some '\\'
  else if letter = '/' then some '/'
  else if letter = 'b' then some '\x08'
  else if letter = 'f' then some '\x0c'
  else if letter = 'n' then some '\n'
  else if letter = 'r' then some '\r'
  else if letter = 't' then some '\t'
  else none

/-- Is the code unit the first half of a surrogate pair? -/
def isHighSurrogate (codeUnit : Nat) : Bool :=
  0xD800 ≤ codeUnit && codeUnit ≤ 0xDBFF

/-- Is the code unit the second half of a surrogate pair? -/
def isLowSurrogate (codeUnit : Nat) : Bool :=
  0xDC00 ≤ codeUnit && codeUnit ≤ 0xDFFF

/-- The character of a surrogate pair. -/
def pairedCharacter (high low : Nat) : Char :=
  Char.ofNat (0x10000 + (high - 0xD800) * 0x400 + (low - 0xDC00))

/-- The characters that a spelling denotes. -/
def charsOf? : List Char → Option (List Char)
  | [] => some []
  | '\\' :: 'u' :: a :: b :: c :: d :: rest =>
      let codeUnit := Text.hexValue [a, b, c, d]
      if isHighSurrogate codeUnit then
        match rest with
        | '\\' :: 'u' :: e :: f :: g :: h :: others =>
            let second := Text.hexValue [e, f, g, h]
            if isLowSurrogate second then
              (charsOf? others).map (pairedCharacter codeUnit second :: ·)
            else none
        | _ => none
      else if isLowSurrogate codeUnit then none
      else (charsOf? rest).map (Char.ofNat codeUnit :: ·)
  | '\\' :: letter :: rest =>
      match shortEscape? letter with
      | some character => (charsOf? rest).map (character :: ·)
      | none => none
  | character :: rest => (charsOf? rest).map (character :: ·)

/-- The text of a spelling, if it has one. -/
def textOf? (spelling : List Char) : Option String :=
  (charsOf? spelling).map String.ofList

/-- The string of a text. -/
def ofText (text : String) : Json :=
  .string (spell text)

/-- The number of a natural number. -/
def ofNat (number : Nat) : Json :=
  .number (Text.decimalDigits number)

/-- The object with the given members. -/
def ofMembers (members : List (String × Json)) : Json :=
  .object (members.map fun (name, value) => (spell name, value))

/-! ## Reading values back -/

/-- The text of a string. -/
def text? : Json → Option String
  | string spelling => textOf? spelling
  | _ => none

/-- The natural number of a number without sign, point and exponent. -/
def nat? : Json → Option Nat
  | number spelling => Text.digits? spelling
  | _ => none

/-- A natural number of at most 32 bits. -/
def word32? (value : Json) : Option UInt32 :=
  (value.nat?.filter (· ≤ Text.greatestWord32)).map UInt32.ofNat

/-- The elements of an array. -/
def elements? : Json → Option (List Json)
  | array elements => some elements
  | _ => none

/-! ## The round trip of texts -/

/-- A control character is a code unit of four digits that is no surrogate. -/
theorem control_digits (code : Fin 0x20) :
    ∃ a b c d, Text.fourHexDigits code = [a, b, c, d] ∧ Text.hexValue [a, b, c, d] = code ∧
      isHighSurrogate code = false ∧ isLowSurrogate code = false :=
  ⟨_, _, _, _, rfl, by revert code; decide, by revert code; decide, by revert code; decide⟩

theorem charsOf?_append_escape (character : Char) (rest : List Char) :
    charsOf? (escape character ++ rest) = (charsOf? rest).map (character :: ·) := by
  unfold escape
  split
  · next same => subst same; rfl
  split
  · next same => subst same; rfl
  split
  · next same => subst same; rfl
  split
  · next same => subst same; rfl
  split
  · next same => subst same; rfl
  split
  · next same => subst same; rfl
  split
  · next same => subst same; rfl
  split
  · next control =>
      obtain ⟨a, b, c, d, digits, value, notHigh, notLow⟩ := control_digits ⟨_, control⟩
      simp only at digits value notHigh notLow
      simp only [digits, List.cons_append, List.nil_append]
      rw [charsOf?.eq_def]
      simp [value, notHigh, notLow]
  · next noQuote noBackslash _ _ _ _ _ _ =>
      simp only [List.cons_append, List.nil_append]
      rw [charsOf?]
      · intro a b c d others equal
        exact absurd equal noBackslash
      · intro letter others equal
        exact absurd equal noBackslash

/-- **Spelling.** The spelling of a text denotes that text. -/
theorem textOf?_spell (text : String) : textOf? (spell text) = some text := by
  have chars : ∀ characters : List Char,
      charsOf? (characters.flatMap escape) = some characters := by
    intro characters
    induction characters with
    | nil => rfl
    | cons first rest ih => simp [List.flatMap_cons, charsOf?_append_escape, ih]
  simp [textOf?, spell, chars]

end Json

end TestAmplification
