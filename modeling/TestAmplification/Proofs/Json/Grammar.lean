import Mathlib.Data.List.TakeDrop
import TestAmplification.Json.Reader

/-!
# The grammar of JSON

Which characters spell which value: a number and a string by rules of their own, an array and an
object by what stands between their brackets, with blanks around every element, name and value
(`Spells`). The grammar is a relation, so one value has many spellings; it does not say how much of
a text belongs to a value.

The reader needs to know that. It takes a number as far as it goes, so the characters behind a
value must not go on with one (`Closes`). Every bracket, comma and blank ends a number, and then the
reader takes exactly the spelling, with as many steps as it has characters, twice
(`readValue_of_spells`). A text that spells a value is therefore read as that value
(`parse?_of_spells`).
-/

set_option autoImplicit false

namespace TestAmplification.Json

/-! ## Numbers -/

/-- At least one digit, and nothing else. -/
def IsDigits (characters : List Char) : Prop :=
  characters ≠ [] ∧ ∀ character ∈ characters, Text.isDigit character = true

/-- The whole part of a number: a zero alone, or digits that do not start with one. -/
inductive IsWhole : List Char → Prop where
  | zero : IsWhole ['0']
  | digits {first : Char} {others : List Char} (nonzero : first ≠ '0')
      (all : IsDigits (first :: others)) : IsWhole (first :: others)

/-- The fraction of a number, if it has one. -/
inductive IsFraction : List Char → Prop where
  | missing : IsFraction []
  | digits {digits : List Char} (all : IsDigits digits) : IsFraction ('.' :: digits)

/-- The exponent of a number, if it has one. -/
inductive IsExponent : List Char → Prop where
  | missing : IsExponent []
  | plain {mark : Char} {digits : List Char} (isMark : mark = 'e' ∨ mark = 'E')
      (all : IsDigits digits) : IsExponent (mark :: digits)
  | signed {mark sign : Char} {digits : List Char} (isMark : mark = 'e' ∨ mark = 'E')
      (isSign : sign = '+' ∨ sign = '-') (all : IsDigits digits) :
      IsExponent (mark :: sign :: digits)

/-- A number without a sign. -/
inductive IsMagnitude : List Char → Prop where
  | parts {whole fraction exponent : List Char} (isWhole : IsWhole whole)
      (isFraction : IsFraction fraction) (isExponent : IsExponent exponent) :
      IsMagnitude (whole ++ fraction ++ exponent)

/-- A number. -/
inductive IsNumber : List Char → Prop where
  | positive {magnitude : List Char} (isMagnitude : IsMagnitude magnitude) : IsNumber magnitude
  | negative {magnitude : List Char} (isMagnitude : IsMagnitude magnitude) :
      IsNumber ('-' :: magnitude)

/-! ## Strings -/

/-- What may stand between quotes. -/
inductive IsSpelling : List Char → Prop where
  | empty : IsSpelling []
  | plain {character : Char} {others : List Char} (noQuote : character ≠ '"')
      (noBackslash : character ≠ '\\') (noControl : 0x20 ≤ character.toNat)
      (rest : IsSpelling others) : IsSpelling (character :: others)
  | escape {letter : Char} {others : List Char} (known : (shortEscape? letter).isSome = true)
      (rest : IsSpelling others) : IsSpelling ('\\' :: letter :: others)
  | codeUnit {a b c d : Char} {others : List Char}
      (hexadecimal : [a, b, c, d].all isHexDigit = true) (rest : IsSpelling others) :
      IsSpelling ('\\' :: 'u' :: a :: b :: c :: d :: others)

/-! ## Values -/

/-- Nothing but blanks. -/
def IsBlanks (characters : List Char) : Prop :=
  ∀ character ∈ characters, isBlank character = true

/-- What a stretch of a text can stand for. -/
inductive Part where
  /-- A value. -/
  | value (value : Json)
  /-- A value with blanks around it. -/
  | spaced (value : Json)
  /-- What stands between the brackets of an array. -/
  | elements (elements : List Json)
  /-- What stands between the braces of an object. -/
  | members (members : List (List Char × Json))

/-- The characters spell the part. -/
inductive Spells : List Char → Part → Prop where
  | null : Spells ['n', 'u', 'l', 'l'] (.value .null)
  | true : Spells ['t', 'r', 'u', 'e'] (.value (.bool true))
  | false : Spells ['f', 'a', 'l', 's', 'e'] (.value (.bool false))
  | number {spelling : List Char} (isNumber : IsNumber spelling) :
      Spells spelling (.value (.number spelling))
  | string {spelling : List Char} (isSpelling : IsSpelling spelling) :
      Spells ('"' :: spelling ++ ['"']) (.value (.string spelling))
  | array {inside : List Char} {elements : List Json} (spelled : Spells inside (.elements elements)) :
      Spells ('[' :: inside ++ [']']) (.value (.array elements))
  | object {inside : List Char} {members : List (List Char × Json)}
      (spelled : Spells inside (.members members)) :
      Spells ('{' :: inside ++ ['}']) (.value (.object members))
  | spaced {before characters after : List Char} {value : Json} (blanksBefore : IsBlanks before)
      (spelled : Spells characters (.value value)) (blanksAfter : IsBlanks after) :
      Spells (before ++ characters ++ after) (.spaced value)
  | noElements {blanks : List Char} (isBlanks : IsBlanks blanks) : Spells blanks (.elements [])
  | lastElement {characters : List Char} {element : Json}
      (spelled : Spells characters (.spaced element)) : Spells characters (.elements [element])
  | element {characters inside : List Char} {element next : Json} {others : List Json}
      (spelled : Spells characters (.spaced element))
      (rest : Spells inside (.elements (next :: others))) :
      Spells (characters ++ ',' :: inside) (.elements (element :: next :: others))
  | noMembers {blanks : List Char} (isBlanks : IsBlanks blanks) : Spells blanks (.members [])
  | lastMember {before name after characters : List Char} {value : Json}
      (blanksBefore : IsBlanks before) (isSpelling : IsSpelling name)
      (blanksAfter : IsBlanks after) (spelled : Spells characters (.spaced value)) :
      Spells (before ++ '"' :: name ++ '"' :: after ++ ':' :: characters) (.members [(name, value)])
  | member {before name after characters inside : List Char} {value : Json}
      {next : List Char × Json} {others : List (List Char × Json)}
      (blanksBefore : IsBlanks before) (isSpelling : IsSpelling name)
      (blanksAfter : IsBlanks after) (spelled : Spells characters (.spaced value))
      (rest : Spells inside (.members (next :: others))) :
      Spells (before ++ '"' :: name ++ '"' :: after ++ ':' :: characters ++ ',' :: inside)
        (.members ((name, value) :: next :: others))

theorem isBlanks_nil : IsBlanks [] := nofun

/-- A value without blanks around it. -/
theorem Spells.alone {characters : List Char} {value : Json}
    (spells : Spells characters (.value value)) : Spells characters (.spaced value) := by
  simpa using Spells.spaced isBlanks_nil spells isBlanks_nil

/-! ## Reading blanks -/

theorem skipBlanks_append {blanks : List Char} (isBlanks : IsBlanks blanks)
    (rest : List Char) : skipBlanks (blanks ++ rest) = skipBlanks rest := by
  induction blanks with
  | nil => rfl
  | cons first others ih =>
      have blank : isBlank first = true := isBlanks first List.mem_cons_self
      rw [List.cons_append, skipBlanks, List.dropWhile_cons_of_pos blank]
      exact ih fun character member => isBlanks character (List.mem_cons_of_mem _ member)

theorem skipBlanks_of_isBlanks {blanks : List Char} (isBlanks : IsBlanks blanks) :
    skipBlanks blanks = [] := by
  simpa [skipBlanks] using skipBlanks_append isBlanks []

theorem skipBlanks_cons {first : Char} (visible : isBlank first = false) (rest : List Char) :
    skipBlanks (first :: rest) = first :: rest := by
  rw [skipBlanks, List.dropWhile_cons_of_neg (by simp [visible])]

/-! ## Reading numbers -/

/-- The characters do not go on with a run of digits. -/
def NoDigit (rest : List Char) : Prop :=
  ∀ character ∈ rest.head?, Text.isDigit character = false

/-- The characters do not go on with a number. -/
def Closes (rest : List Char) : Prop :=
  ∀ character ∈ rest.head?,
    Text.isDigit character = false ∧ character ≠ '.' ∧ character ≠ 'e' ∧ character ≠ 'E'

theorem closes_nil : Closes [] := nofun

theorem closes_of_isBlank {character : Char} (blank : isBlank character = true)
    (rest : List Char) : Closes (character :: rest) := by
  intro other same
  obtain rfl : character = other := by simpa using same
  simp only [isBlank, Bool.or_eq_true, beq_iff_eq] at blank
  rcases blank with ((rfl | rfl) | rfl) | rfl <;> decide

theorem closes_append {blanks rest : List Char} (isBlanks : IsBlanks blanks)
    (closes : Closes rest) : Closes (blanks ++ rest) := by
  cases blanks with
  | nil => exact closes
  | cons first others => exact closes_of_isBlank (isBlanks first List.mem_cons_self) _

theorem Closes.noDigit {rest : List Char} (closes : Closes rest) : NoDigit rest :=
  fun character first => (closes character first).1

theorem takeDigits_append {digits rest : List Char} (isDigits : IsDigits digits)
    (noDigit : NoDigit rest) : takeDigits (digits ++ rest) = some (digits, rest) := by
  have taken : (digits ++ rest).span Text.isDigit = (digits, rest) := by
    rw [List.span_eq_takeWhile_dropWhile, List.takeWhile_append_of_pos isDigits.2,
      List.dropWhile_append_of_pos isDigits.2]
    cases rest with
    | nil => simp
    | cons first others =>
        have stops : Text.isDigit first = false := noDigit first rfl
        simp [stops]
  rw [takeDigits, taken]
  cases digits with
  | nil => exact absurd rfl isDigits.1
  | cons first others => rfl

theorem takeWhole_append {whole rest : List Char} (isWhole : IsWhole whole)
    (noDigit : NoDigit rest) : takeWhole (whole ++ rest) = some (whole, rest) := by
  cases isWhole with
  | zero => rfl
  | digits nonzero all =>
      rw [← takeDigits_append all noDigit, List.cons_append, takeWhole]
      intro others same
      exact nonzero (List.cons.inj same).1

theorem takeFraction_append {fraction rest : List Char} (isFraction : IsFraction fraction)
    (noDigit : NoDigit rest) (noPoint : '.' ∉ rest.head?) :
    takeFraction (fraction ++ rest) = some (fraction, rest) := by
  cases isFraction with
  | missing =>
      rw [List.nil_append, takeFraction]
      intro others same
      exact noPoint (same ▸ rfl)
  | digits all => simp [takeFraction, takeDigits_append all noDigit]

theorem takeExponent_append {exponent rest : List Char} (isExponent : IsExponent exponent)
    (closes : Closes rest) : takeExponent (exponent ++ rest) = some (exponent, rest) := by
  cases isExponent with
  | missing =>
      cases rest with
      | nil => rfl
      | cons first others =>
          obtain ⟨-, -, noSmall, noLarge⟩ := closes first rfl
          simp [takeExponent, noSmall, noLarge]
  | @plain mark digits isMark all =>
      obtain ⟨nonempty, areDigits⟩ := all
      cases digits with
      | nil => exact absurd rfl nonempty
      | cons first others =>
          have digit : Text.isDigit first = true := areDigits first List.mem_cons_self
          have noSign : ¬ (first = '+' ∨ first = '-') := by
            rintro (rfl | rfl) <;> exact absurd digit (by decide)
          have taken := takeDigits_append ⟨nonempty, areDigits⟩ closes.noDigit
          rw [List.cons_append] at taken
          simp [takeExponent, isMark, noSign, taken]
  | signed isMark isSign all =>
      simp [takeExponent, isMark, isSign, takeDigits_append all closes.noDigit]

theorem readMagnitude_append {magnitude rest : List Char} (isMagnitude : IsMagnitude magnitude)
    (closes : Closes rest) : readMagnitude (magnitude ++ rest) = some (magnitude, rest) := by
  obtain @⟨whole, fraction, exponent, isWhole, isFraction, isExponent⟩ := isMagnitude
  -- what follows the fraction is the exponent or what follows the number
  have afterFraction : NoDigit (exponent ++ rest) ∧ '.' ∉ (exponent ++ rest).head? := by
    cases isExponent with
    | missing => exact ⟨closes.noDigit, fun point => (closes _ point).2.1 rfl⟩
    | plain isMark _ => rcases isMark with rfl | rfl <;> exact ⟨by simp [NoDigit]; decide, by simp⟩
    | signed isMark _ _ => rcases isMark with rfl | rfl <;> exact ⟨by simp [NoDigit]; decide, by simp⟩
  have afterWhole : NoDigit (fraction ++ (exponent ++ rest)) := by
    cases isFraction with
    | missing => exact afterFraction.1
    | digits _ => simp [NoDigit]; decide
  have wholeTaken := takeWhole_append isWhole afterWhole
  have fractionTaken := takeFraction_append isFraction afterFraction.1 afterFraction.2
  have exponentTaken := takeExponent_append isExponent closes
  simp only [List.append_assoc] at wholeTaken ⊢
  simp [readMagnitude, wholeTaken, fractionTaken, exponentTaken]

theorem IsMagnitude.startsWithDigit {magnitude : List Char} (isMagnitude : IsMagnitude magnitude) :
    ∃ first others, magnitude = first :: others ∧ Text.isDigit first = true := by
  obtain @⟨whole, fraction, exponent, isWhole, -, -⟩ := isMagnitude
  cases isWhole with
  | zero => exact ⟨'0', fraction ++ exponent, by simp, by decide⟩
  | @digits first others _ all =>
      exact ⟨first, others ++ fraction ++ exponent, by simp, all.2 first List.mem_cons_self⟩

theorem readNumber_append {spelling rest : List Char} (isNumber : IsNumber spelling)
    (closes : Closes rest) : readNumber (spelling ++ rest) = some (spelling, rest) := by
  cases isNumber with
  | positive isMagnitude =>
      rw [← readMagnitude_append isMagnitude closes, readNumber]
      obtain ⟨first, others, rfl, digit⟩ := isMagnitude.startsWithDigit
      intro rest same
      obtain rfl : first = '-' := (List.cons.inj same).1
      exact absurd digit (by decide)
  | negative isMagnitude => simp [readNumber, readMagnitude_append isMagnitude closes]

/-! ## Reading strings -/

theorem readSpelling_append {spelling : List Char} (isSpelling : IsSpelling spelling)
    (rest : List Char) : readSpelling (spelling ++ '"' :: rest) = some (spelling, rest) := by
  induction isSpelling with
  | empty => rfl
  | @plain character others noQuote noBackslash noControl _ ih =>
      rw [List.cons_append, readSpelling]
      · simp [Nat.not_lt.2 noControl, ih]
      · exact noQuote
      · intro a b c d others same
        exact absurd same noBackslash
      · intro letter others same
        exact absurd same noBackslash
  | @escape letter others known _ ih =>
      have noCodeUnit : letter ≠ 'u' := by
        rintro rfl
        exact absurd known (by decide)
      rw [List.cons_append, List.cons_append, readSpelling]
      · simp [known, ih]
      · intro a b c d others same
        exact absurd same noCodeUnit
  | codeUnit hexadecimal _ ih =>
      simp only [List.cons_append]
      rw [readSpelling]
      simp [hexadecimal, ih]

/-! ## Reading values -/

/-- No blank, and not the bracket that ends an array. -/
def Opens (first : Char) : Prop :=
  isBlank first = false ∧ first ≠ ']'

/-- A number starts with a digit or a sign. -/
theorem IsNumber.starts {spelling : List Char} (isNumber : IsNumber spelling) :
    ∃ first others, spelling = first :: others ∧ (Text.isDigit first = true ∨ first = '-') := by
  cases isNumber with
  | positive isMagnitude =>
      obtain ⟨first, others, same, digit⟩ := isMagnitude.startsWithDigit
      exact ⟨first, others, same, .inl digit⟩
  | @negative magnitude _ => exact ⟨'-', magnitude, rfl, .inr rfl⟩

theorem opens_of_isDigit {first : Char} (digit : Text.isDigit first = true) : Opens first := by
  refine ⟨?_, by rintro rfl; exact absurd digit (by decide)⟩
  rw [Bool.eq_false_iff]
  intro blank
  simp only [isBlank, Bool.or_eq_true, beq_iff_eq] at blank
  rcases blank with ((rfl | rfl) | rfl) | rfl <;> exact absurd digit (by decide)

/-- A value does not start with a blank, nor with the bracket that ends an array. -/
theorem Spells.opens {characters : List Char} {value : Json}
    (spells : Spells characters (.value value)) :
    ∃ first others, characters = first :: others ∧ Opens first := by
  cases spells with
  | number isNumber =>
      obtain ⟨first, others, same, digit | rfl⟩ := isNumber.starts
      · exact ⟨first, others, same, opens_of_isDigit digit⟩
      · exact ⟨'-', others, same, by decide, by decide⟩
  | _ => exact ⟨_, _, rfl, by decide, by decide⟩

/-- How the reader takes a part, whatever stands behind it. -/
def Part.IsReadFrom (characters : List Char) : Part → Prop
  | value json =>
      ∀ steps rest, 2 * characters.length ≤ steps + 1 → Closes rest →
        readValue (steps + 1) (characters ++ rest) = some (json, rest)
  | spaced json =>
      ∀ steps rest, 2 * characters.length ≤ steps + 1 → Closes rest →
        ∃ blanks, IsBlanks blanks ∧
          readValue (steps + 1) (characters ++ rest) = some (json, blanks ++ rest)
  | elements list =>
      ∀ steps rest, 2 * characters.length ≤ steps → list ≠ [] →
        readElements (steps + 1) (characters ++ ']' :: rest) = some (list, rest)
  | members list =>
      ∀ steps rest, 2 * characters.length ≤ steps → list ≠ [] →
        readMembers (steps + 1) (characters ++ '}' :: rest) = some (list, rest)

theorem readValue_append_blanks {blanks : List Char} (isBlanks : IsBlanks blanks) (steps : Nat)
    (rest : List Char) : readValue steps (blanks ++ rest) = readValue steps rest := by
  cases steps with
  | zero => rfl
  | succ steps => rw [readValue, readValue, skipBlanks_append isBlanks]

theorem readValue_number {spelling rest : List Char} (isNumber : IsNumber spelling)
    (closes : Closes rest) (steps : Nat) :
    readValue (steps + 1) (spelling ++ rest) = some (.number spelling, rest) := by
  have taken := readNumber_append isNumber closes
  obtain ⟨first, others, rfl, starts⟩ := isNumber.starts
  have visible : isBlank first = false := by
    rcases starts with digit | rfl
    · exact (opens_of_isDigit digit).1
    · decide
  rw [readValue, List.cons_append, skipBlanks_cons visible]
  -- no other kind of value starts with a digit or a sign
  split
  case h_7 =>
    rw [← List.cons_append, taken]
    rfl
  all_goals
    next same =>
      obtain rfl := (List.cons.inj same).1
      rcases starts with digit | sign
      · exact absurd digit (by decide)
      · exact absurd sign (by decide)

/-- What spells an element does not start like the end of an array. -/
theorem Spells.skipBlanks_element {characters : List Char} {element : Json}
    (spells : Spells characters (.spaced element)) (rest : List Char) :
    ∃ first others, skipBlanks (characters ++ rest) = first :: others ∧ first ≠ ']' := by
  cases spells with
  | @spaced before characters after _ blanksBefore spelled _ =>
      obtain ⟨first, others, rfl, visible, noBracket⟩ := spelled.opens
      refine ⟨first, others ++ (after ++ rest), ?_, noBracket⟩
      simp only [List.append_assoc, List.cons_append]
      rw [skipBlanks_append blanksBefore, skipBlanks_cons visible]

theorem Spells.length_pos {characters : List Char} {value : Json}
    (spells : Spells characters (.spaced value)) : 0 < characters.length := by
  cases spells with
  | spaced _ spelled _ =>
      obtain ⟨first, others, rfl, -⟩ := spelled.opens
      simp only [List.length_append, List.length_cons]
      omega

theorem Spells.skipBlanks_elements {characters : List Char} {elements : List Json}
    (spells : Spells characters (.elements elements)) (some : elements ≠ []) (rest : List Char) :
    ∃ first others, skipBlanks (characters ++ rest) = first :: others ∧ first ≠ ']' := by
  cases spells with
  | noElements _ => exact absurd rfl some
  | lastElement spelled => exact spelled.skipBlanks_element rest
  | element spelled _ =>
      rw [List.append_assoc]
      exact spelled.skipBlanks_element _

theorem Spells.skipBlanks_members {characters : List Char} {members : List (List Char × Json)}
    (spells : Spells characters (.members members)) (some : members ≠ []) (rest : List Char) :
    ∃ others, skipBlanks (characters ++ rest) = '"' :: others := by
  cases spells with
  | noMembers _ => exact absurd rfl some
  | lastMember blanksBefore _ _ _ =>
      simp only [List.append_assoc, List.cons_append]
      rw [skipBlanks_append blanksBefore]
      exact ⟨_, skipBlanks_cons (by decide) _⟩
  | member blanksBefore _ _ _ _ =>
      simp only [List.append_assoc, List.cons_append]
      rw [skipBlanks_append blanksBefore]
      exact ⟨_, skipBlanks_cons (by decide) _⟩

theorem readValue_array {inside : List Char} {elements : List Json}
    (spells : Spells inside (.elements elements))
    (read : (Part.elements elements).IsReadFrom inside) :
    (Part.value (.array elements)).IsReadFrom ('[' :: inside ++ [']']) := by
  intro steps rest enough _
  simp only [List.cons_append, List.append_assoc, List.nil_append, List.length_cons,
    List.length_append, List.length_nil] at enough ⊢
  rw [readValue, skipBlanks_cons (by decide)]
  by_cases none : elements = []
  · subst none
    cases spells with
    | noElements isBlanks =>
        simp only [skipBlanks_append isBlanks, skipBlanks_cons (show isBlank ']' = false by decide)]
  · obtain ⟨first, others, skipped, noBracket⟩ := spells.skipBlanks_elements none (']' :: rest)
    obtain ⟨steps, rfl⟩ : ∃ fewer, steps = fewer + 1 := ⟨steps - 1, by omega⟩
    simp only [skipped, read steps rest (by omega) none]
    split
    · next same => exact absurd (List.cons.inj same).1 noBracket
    · rfl

theorem readValue_object {inside : List Char} {members : List (List Char × Json)}
    (spells : Spells inside (.members members))
    (read : (Part.members members).IsReadFrom inside) :
    (Part.value (.object members)).IsReadFrom ('{' :: inside ++ ['}']) := by
  intro steps rest enough _
  simp only [List.cons_append, List.append_assoc, List.nil_append, List.length_cons,
    List.length_append, List.length_nil] at enough ⊢
  rw [readValue, skipBlanks_cons (by decide)]
  by_cases none : members = []
  · subst none
    cases spells with
    | noMembers isBlanks =>
        simp only [skipBlanks_append isBlanks, skipBlanks_cons (show isBlank '}' = false by decide)]
  · obtain ⟨others, skipped⟩ := spells.skipBlanks_members none ('}' :: rest)
    obtain ⟨steps, rfl⟩ : ∃ fewer, steps = fewer + 1 := ⟨steps - 1, by omega⟩
    simp only [skipped, read steps rest (by omega) none]
    rfl

/-- The characters go on with a comma or with the end of what is in brackets. -/
theorem closes_of_separator {character : Char}
    (separator : character = ',' ∨ character = ']' ∨ character = '}') (rest : List Char) :
    Closes (character :: rest) := by
  intro other same
  obtain rfl : character = other := by simpa using same
  rcases separator with rfl | rfl | rfl <;> decide

theorem readElements_last {characters : List Char} {element : Json}
    (spells : Spells characters (.spaced element))
    (read : (Part.spaced element).IsReadFrom characters) :
    (Part.elements [element]).IsReadFrom characters := by
  intro steps rest enough _
  have nonempty := spells.length_pos
  obtain ⟨steps, rfl⟩ : ∃ fewer, steps = fewer + 1 := ⟨steps - 1, by omega⟩
  obtain ⟨blanks, isBlanks, taken⟩ :=
    read steps (']' :: rest) enough (closes_of_separator (by decide) rest)
  rw [readElements, taken]
  simp only [skipBlanks_append isBlanks, skipBlanks_cons (show isBlank ']' = false by decide)]

theorem readElements_cons {characters inside : List Char} {element next : Json}
    {others : List Json} (spells : Spells characters (.spaced element))
    (read : (Part.spaced element).IsReadFrom characters)
    (readRest : (Part.elements (next :: others)).IsReadFrom inside) :
    (Part.elements (element :: next :: others)).IsReadFrom (characters ++ ',' :: inside) := by
  intro steps rest enough _
  have nonempty := spells.length_pos
  simp only [List.append_assoc, List.cons_append, List.length_append, List.length_cons] at enough ⊢
  obtain ⟨steps, rfl⟩ : ∃ fewer, steps = fewer + 1 := ⟨steps - 1, by omega⟩
  obtain ⟨blanks, isBlanks, taken⟩ :=
    read steps (',' :: (inside ++ ']' :: rest)) (by omega) (closes_of_separator (by decide) _)
  rw [readElements, taken]
  simp only [skipBlanks_append isBlanks, skipBlanks_cons (show isBlank ',' = false by decide),
    readRest steps rest (by omega) (List.cons_ne_nil _ _)]
  rfl

theorem readMembers_last {before name after characters : List Char} {value : Json}
    (blanksBefore : IsBlanks before) (isSpelling : IsSpelling name) (blanksAfter : IsBlanks after)
    (read : (Part.spaced value).IsReadFrom characters) :
    (Part.members [(name, value)]).IsReadFrom
      (before ++ '"' :: name ++ '"' :: after ++ ':' :: characters) := by
  intro steps rest enough _
  simp only [List.append_assoc, List.cons_append, List.length_append, List.length_cons] at enough ⊢
  obtain ⟨steps, rfl⟩ : ∃ fewer, steps = fewer + 1 := ⟨steps - 1, by omega⟩
  obtain ⟨blanks, isBlanks, taken⟩ :=
    read steps ('}' :: rest) (by omega) (closes_of_separator (by decide) rest)
  rw [readMembers, skipBlanks_append blanksBefore, skipBlanks_cons (by decide)]
  simp only [readSpelling_append isSpelling, skipBlanks_append blanksAfter,
    skipBlanks_cons (show isBlank ':' = false by decide), taken, skipBlanks_append isBlanks,
    skipBlanks_cons (show isBlank '}' = false by decide)]

theorem readMembers_cons {before name after characters inside : List Char} {value : Json}
    {next : List Char × Json} {others : List (List Char × Json)}
    (blanksBefore : IsBlanks before) (isSpelling : IsSpelling name) (blanksAfter : IsBlanks after)
    (read : (Part.spaced value).IsReadFrom characters)
    (readRest : (Part.members (next :: others)).IsReadFrom inside) :
    (Part.members ((name, value) :: next :: others)).IsReadFrom
      (before ++ '"' :: name ++ '"' :: after ++ ':' :: characters ++ ',' :: inside) := by
  intro steps rest enough _
  simp only [List.append_assoc, List.cons_append, List.length_append, List.length_cons] at enough ⊢
  obtain ⟨steps, rfl⟩ : ∃ fewer, steps = fewer + 1 := ⟨steps - 1, by omega⟩
  obtain ⟨blanks, isBlanks, taken⟩ :=
    read steps (',' :: (inside ++ '}' :: rest)) (by omega) (closes_of_separator (by decide) _)
  rw [readMembers, skipBlanks_append blanksBefore, skipBlanks_cons (by decide)]
  simp only [readSpelling_append isSpelling, skipBlanks_append blanksAfter,
    skipBlanks_cons (show isBlank ':' = false by decide), taken, skipBlanks_append isBlanks,
    skipBlanks_cons (show isBlank ',' = false by decide),
    readRest steps rest (by omega) (List.cons_ne_nil _ _)]
  rfl

/-- **Reading what is spelled.** The reader takes every part from the characters that spell it. -/
theorem isReadFrom_of_spells {characters : List Char} {part : Part}
    (spells : Spells characters part) : part.IsReadFrom characters := by
  induction spells with
  | null => intro steps rest _ _; simp [readValue, skipBlanks, isBlank]
  | true => intro steps rest _ _; simp [readValue, skipBlanks, isBlank]
  | false => intro steps rest _ _; simp [readValue, skipBlanks, isBlank]
  | number isNumber => exact fun steps rest _ closes => readValue_number isNumber closes steps
  | string isSpelling =>
      intro steps rest _ _
      simp only [List.cons_append, List.append_assoc, List.nil_append]
      rw [readValue, skipBlanks_cons (by decide)]
      simp [readSpelling_append isSpelling]
  | array spelled ih => exact readValue_array spelled ih
  | object spelled ih => exact readValue_object spelled ih
  | @spaced before characters after _ blanksBefore spelled blanksAfter ih =>
      intro steps rest enough closes
      refine ⟨after, blanksAfter, ?_⟩
      simp only [List.append_assoc]
      rw [readValue_append_blanks blanksBefore]
      refine ih steps (after ++ rest) ?_ (closes_append blanksAfter closes)
      simp only [List.length_append] at enough
      omega
  | noElements _ => exact fun steps rest _ some => absurd rfl some
  | lastElement spelled ih => exact readElements_last spelled ih
  | element spelled _ ih ihRest => exact readElements_cons spelled ih ihRest
  | noMembers _ => exact fun steps rest _ some => absurd rfl some
  | lastMember blanksBefore isSpelling blanksAfter _ ih =>
      exact readMembers_last blanksBefore isSpelling blanksAfter ih
  | member blanksBefore isSpelling blanksAfter _ _ ih ihRest =>
      exact readMembers_cons blanksBefore isSpelling blanksAfter ih ihRest

/-- **A text that spells a value is read as that value.** -/
theorem parse?_of_spells {characters : List Char} {value : Json}
    (spells : Spells characters (.spaced value)) :
    parse? (String.ofList characters) = some value := by
  obtain ⟨blanks, isBlanks, taken⟩ :=
    isReadFrom_of_spells spells (2 * characters.length + 1) [] (by omega) closes_nil
  rw [List.append_nil, List.append_nil] at taken
  simp [parse?, taken, skipBlanks_of_isBlanks isBlanks]

end TestAmplification.Json
