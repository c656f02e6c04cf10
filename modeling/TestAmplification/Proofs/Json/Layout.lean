import TestAmplification.Json.Printer
import TestAmplification.Json.Record
import TestAmplification.Proofs.Json.Grammar
import TestAmplification.Proofs.Text.Decimal

/-!
# Both layouts spell their value

A value is well spelled when all numbers and strings in it are (`WellSpelled`); values made from
texts, natural numbers, members and lists are. Then the compact layout and the indented one both
spell the value (`spells_compact`, `spells_indented`), at any depth and with its blanks, so reading
either of them gives the value back (`parse?_compact`, `parse?_indented`).

A way to write values restores them when what it writes is well spelled and the matching way to
read gives the value back (`Restores`). Texts, natural numbers of 32 bits and arrays of restored
elements are such values, and a record is one when its fields are: a written record has each of its
members under the name it was given (`fieldValues?_ofMembers`).

What is restored as a document is restored from its text, in either layout
(`Restores.parse?_compact`, `Restores.parse?_indented`).
-/

set_option autoImplicit false

namespace TestAmplification.Json

/-! ## Values that can be written -/

/-- All numbers, strings and names in the value are well spelled. -/
inductive WellSpelled : Json → Prop where
  | null : WellSpelled .null
  | bool (value : Bool) : WellSpelled (.bool value)
  | number {spelling : List Char} (isNumber : IsNumber spelling) : WellSpelled (.number spelling)
  | string {spelling : List Char} (isSpelling : IsSpelling spelling) :
      WellSpelled (.string spelling)
  | array {elements : List Json} (all : ∀ element ∈ elements, WellSpelled element) :
      WellSpelled (.array elements)
  | object {members : List (List Char × Json)} (names : ∀ member ∈ members, IsSpelling member.1)
      (values : ∀ member ∈ members, WellSpelled member.2) : WellSpelled (.object members)

theorem isHexDigit_fourHexDigits (code : Fin 0x20) :
    ∃ a b c d, Text.fourHexDigits code = [a, b, c, d] ∧ [a, b, c, d].all isHexDigit = true :=
  ⟨_, _, _, _, rfl, by revert code; decide⟩

theorem IsSpelling.append_escape {others : List Char} (rest : IsSpelling others)
    (character : Char) : IsSpelling (Json.escape character ++ others) := by
  unfold Json.escape
  split
  · exact .escape rfl rest
  split
  · exact .escape rfl rest
  split
  · exact .escape rfl rest
  split
  · exact .escape rfl rest
  split
  · exact .escape rfl rest
  split
  · exact .escape rfl rest
  split
  · exact .escape rfl rest
  split
  · next control =>
      obtain ⟨a, b, c, d, digits, hexadecimal⟩ := isHexDigit_fourHexDigits ⟨_, control⟩
      simp only at digits
      rw [digits]
      exact .codeUnit hexadecimal rest
  · next noQuote noBackslash _ _ _ _ _ noControl =>
      exact .plain noQuote noBackslash (Nat.not_lt.1 noControl) rest

/-- The spelling of a text may stand between quotes. -/
theorem isSpelling_spell (text : String) : IsSpelling (spell text) := by
  unfold spell
  induction text.toList with
  | nil => exact .empty
  | cons first others ih => exact ih.append_escape first

theorem isNumber_decimalDigits (number : Nat) : IsNumber (Text.decimalDigits number) := by
  have isWhole : IsWhole (Text.decimalDigits number) := by
    by_cases zero : number = 0
    · rw [zero, Text.decimalDigits_zero]
      exact .zero
    · cases digits : Text.decimalDigits number with
      | nil => exact absurd digits (Text.decimalDigits_ne_nil number)
      | cons first others =>
          refine .digits (Text.head_decimalDigits zero digits) ⟨List.cons_ne_nil _ _, ?_⟩
          intro character member
          rw [← digits] at member
          exact Text.isDigit_of_mem_decimalDigits member
  simpa using IsNumber.positive (.parts isWhole .missing .missing)

theorem wellSpelled_ofText (text : String) : WellSpelled (ofText text) :=
  .string (isSpelling_spell text)

theorem wellSpelled_ofNat (number : Nat) : WellSpelled (ofNat number) :=
  .number (isNumber_decimalDigits number)

theorem wellSpelled_ofMembers {members : List (String × Json)}
    (values : ∀ member ∈ members, WellSpelled member.2) : WellSpelled (ofMembers members) := by
  refine .object (fun member inside => ?_) fun member inside => ?_
  · obtain ⟨named, -, rfl⟩ := List.mem_map.1 inside
    exact isSpelling_spell named.1
  · obtain ⟨named, there, rfl⟩ := List.mem_map.1 inside
    exact values named there

theorem wellSpelled_array_map {α : Type} {write : α → Json} (values : List α)
    (all : ∀ value ∈ values, WellSpelled (write value)) :
    WellSpelled (.array (values.map write)) := by
  refine .array fun element inside => ?_
  obtain ⟨value, there, rfl⟩ := List.mem_map.1 inside
  exact all value there

/-! ## The compact layout -/

theorem spells_compactElements {elements : List Json}
    (all : ∀ element ∈ elements, Spells (compactChars element) (.value element)) :
    Spells (compactElements elements) (.elements elements) := by
  induction elements with
  | nil => exact .noElements isBlanks_nil
  | cons element others ih =>
      have first := (all element List.mem_cons_self).alone
      have rest := ih fun other member => all other (List.mem_cons_of_mem _ member)
      cases others with
      | nil => exact .lastElement first
      | cons next others => exact .element first rest

theorem spells_compactMembers {members : List (List Char × Json)}
    (names : ∀ member ∈ members, IsSpelling member.1)
    (values : ∀ member ∈ members, Spells (compactChars member.2) (.value member.2)) :
    Spells (compactMembers members) (.members members) := by
  induction members with
  | nil => exact .noMembers isBlanks_nil
  | cons member others ih =>
      have name := names member List.mem_cons_self
      have value := (values member List.mem_cons_self).alone
      have rest := ih (fun other inside => names other (List.mem_cons_of_mem _ inside))
        fun other inside => values other (List.mem_cons_of_mem _ inside)
      cases others with
      | nil => simpa [compactMembers, quoted] using Spells.lastMember isBlanks_nil name isBlanks_nil value
      | cons next others =>
          simpa [compactMembers, quoted] using
            Spells.member isBlanks_nil name isBlanks_nil value rest

/-- **The compact layout spells the value.** -/
theorem spells_compact {value : Json} (wellSpelled : WellSpelled value) :
    Spells (compactChars value) (.value value) := by
  induction wellSpelled with
  | null => exact .null
  | bool value => cases value with
      | true => exact .true
      | false => exact .false
  | number isNumber => exact .number isNumber
  | string isSpelling => exact .string isSpelling
  | array _ ih => exact .array (spells_compactElements ih)
  | object names _ ih => exact .object (spells_compactMembers names ih)

/-! ## The indented layout -/

theorem isBlanks_newLine (depth : Nat) : IsBlanks (newLine depth) := by
  intro character member
  rcases List.mem_cons.1 member with rfl | space
  · decide
  · rw [List.eq_of_mem_replicate space]
    decide

/-- A value on a line of its own, with blanks behind it. -/
theorem Spells.onLine {characters after : List Char} {value : Json}
    (spells : Spells characters (.value value)) (depth : Nat) (blanks : IsBlanks after) :
    Spells (newLine depth ++ characters ++ after) (.spaced value) :=
  .spaced (isBlanks_newLine depth) spells blanks

theorem spells_indentedElements {elements : List Json} (some : elements ≠ []) (depth : Nat)
    {after : List Char} (blanks : IsBlanks after)
    (all : ∀ element ∈ elements, Spells (indentedChars depth element) (.value element)) :
    Spells (indentedElements depth elements ++ after) (.elements elements) := by
  induction elements with
  | nil => exact absurd rfl some
  | cons element others ih =>
      have first := all element List.mem_cons_self
      cases others with
      | nil => exact .lastElement (first.onLine depth blanks)
      | cons next others =>
          have rest := ih (List.cons_ne_nil _ _)
            fun other member => all other (List.mem_cons_of_mem _ member)
          simpa [indentedElements] using Spells.element (first.onLine depth isBlanks_nil) rest

theorem spells_indentedMembers {members : List (List Char × Json)} (some : members ≠ [])
    (depth : Nat) {after : List Char} (blanks : IsBlanks after)
    (names : ∀ member ∈ members, IsSpelling member.1)
    (values : ∀ member ∈ members, Spells (indentedChars depth member.2) (.value member.2)) :
    Spells (indentedMembers depth members ++ after) (.members members) := by
  have space : IsBlanks [' '] := by simp [IsBlanks, isBlank]
  induction members with
  | nil => exact absurd rfl some
  | cons member others ih =>
      have name := names member List.mem_cons_self
      have value := values member List.mem_cons_self
      cases others with
      | nil =>
          simpa [indentedMembers, quoted] using Spells.lastMember (isBlanks_newLine depth) name
            isBlanks_nil (.spaced space value blanks)
      | cons next others =>
          have rest := ih (List.cons_ne_nil _ _)
            (fun other inside => names other (List.mem_cons_of_mem _ inside))
            fun other inside => values other (List.mem_cons_of_mem _ inside)
          simpa [indentedMembers, quoted] using Spells.member (isBlanks_newLine depth) name
            isBlanks_nil (.spaced space value isBlanks_nil) rest

/-- **The indented layout spells the value**, at any depth. -/
theorem spells_indented {value : Json} (wellSpelled : WellSpelled value) (depth : Nat) :
    Spells (indentedChars depth value) (.value value) := by
  induction wellSpelled generalizing depth with
  | null => exact .null
  | bool value => cases value with
      | true => exact .true
      | false => exact .false
  | number isNumber => exact .number isNumber
  | string isSpelling => exact .string isSpelling
  | @array elements _ ih =>
      cases elements with
      | nil => exact .array (.noElements isBlanks_nil)
      | cons element others =>
          have inside := spells_indentedElements (List.cons_ne_nil element others) (depth + 1)
            (isBlanks_newLine depth) fun other member => ih other member (depth + 1)
          exact .array inside
  | @object members names _ ih =>
      cases members with
      | nil => exact .object (.noMembers isBlanks_nil)
      | cons member others =>
          have inside := spells_indentedMembers (List.cons_ne_nil member others) (depth + 1)
            (isBlanks_newLine depth) names fun other inside => ih other inside (depth + 1)
          exact .object inside

/-! ## Reading what was written -/

/-- **Reading the compact layout** gives the value back. -/
theorem parse?_compact {value : Json} (wellSpelled : WellSpelled value) :
    parse? value.compact = some value :=
  parse?_of_spells (spells_compact wellSpelled).alone

/-- **Reading the indented layout** gives the value back. -/
theorem parse?_indented {value : Json} (wellSpelled : WellSpelled value) :
    parse? value.indented = some value :=
  parse?_of_spells (spells_indented wellSpelled 0).alone

/-! ## What restores a value -/

variable {α : Type} {write : α → Json} {read : Json → Option α}

/-- Every written value is well spelled and is read back. -/
structure Restores (write : α → Json) (read : Json → Option α) : Prop where
  wellSpelled : ∀ value, WellSpelled (write value)
  reads : ∀ value, read (write value) = some value

namespace Restores

/-- **The compact layout restores the value.** -/
theorem parse?_compact (restores : Restores write read) (value : α) :
    (parse? (write value).compact).bind read = some value := by
  rw [Json.parse?_compact (restores.wellSpelled value)]
  exact restores.reads value

/-- **The indented layout restores the value.** -/
theorem parse?_indented (restores : Restores write read) (value : α) :
    (parse? (write value).indented).bind read = some value := by
  rw [Json.parse?_indented (restores.wellSpelled value)]
  exact restores.reads value

end Restores

/-! ## Texts, numbers and lists -/

@[simp] theorem text?_ofText (text : String) : (ofText text).text? = some text :=
  textOf?_spell text

@[simp] theorem word32?_ofNat (number : UInt32) : (ofNat number.toNat).word32? = some number := by
  have small : number.toNat ≤ Text.greatestWord32 := Nat.le_pred_of_lt number.toNat_lt
  simp [word32?, nat?, ofNat, Text.digits?_decimalDigits, small]

theorem restores_text : Restores ofText text? :=
  ⟨wellSpelled_ofText, text?_ofText⟩

namespace Restores

theorem list?_map (restores : Restores write read) (values : List α) :
    list? read (.array (values.map write)) = some values := by
  simp only [list?, elements?, Option.bind_some]
  induction values with
  | nil => rfl
  | cons value others ih => simp [restores.reads value, ih]

theorem list (restores : Restores write read) :
    Restores (fun values : List α => .array (values.map write)) (list? read) where
  wellSpelled values := wellSpelled_array_map values fun value _ => restores.wellSpelled value
  reads := restores.list?_map

theorem optional?_some (restores : Restores write read) {value : α} (notNull : write value ≠ .null) :
    optional? read (some (write value)) = some (some value) := by
  rw [optional?, restores.reads value, Option.map_some]
  exact notNull

/-- A value that may be missing is written as the value or `null`, provided no value is itself
written as `null`. -/
theorem optional?_getD_null (restores : Restores write read) (notNull : ∀ value, write value ≠ .null)
    (value : Option α) : optional? read (some ((value.map write).getD .null)) = some value := by
  cases value with
  | none => rfl
  | some value => exact restores.optional?_some (notNull value)

end Restores

/-! ## Members -/

theorem namedMembers?_map_spell (members : List (String × Json)) :
    namedMembers? (members.map fun (name, value) => (spell name, value)) = some members := by
  simp only [namedMembers?]
  induction members with
  | nil => rfl
  | cons member others ih => simp [textOf?_spell, ih]

/-- The members of a written record are found under the names they were given. -/
theorem fieldValues?_ofMembers (fields : List Field) (members : List (String × Json)) :
    fieldValues? fields (ofMembers members) = fields.mapM (memberValue? members) := by
  rw [ofMembers, fieldValues?, namedMembers?_map_spell, Option.bind_some]

end TestAmplification.Json
