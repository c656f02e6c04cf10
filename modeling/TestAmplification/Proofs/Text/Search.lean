import Mathlib.Data.List.Infix
import TestAmplification.Proofs.Text.Lines

/-!
# Searching and cutting

The fields of a text are the only parts that give the text when they are joined with a separator
between neighbours, that are at most one more than the separators that count, and of which the
parts before the last of these hold no separator themselves (`fields_eq_iff`). Once the separators
are used up, the last part is whatever is left.

A blank more at the end of the text is a blank more at the end of its last field, which makes no
difference once the fields are trimmed (`map_trimChars_fields_append`).

A pattern is found exactly when it stands somewhere in the text (`cutAt_eq_none_iff`). Where it
stands first is easy to say of a pattern whose first character does not come again in it, as is the
case with a tag after an opening bracket. Two places of such a pattern do not overlap, so cutting a
text that is put together around the pattern gives the two sides back, if the first side does not
hold the pattern itself (`cutAt_append`).

Replacing goes through a text in the same way. It leaves what has no first character of the pattern
(`replaceChars_append`), and where the pattern stands it goes on behind it
(`replaceChars_pattern_append`).
-/

set_option autoImplicit false

namespace TestAmplification.Text

/-! ## Fields between separators -/

section

variable {separator : Char}

theorem cutFirst_append {before : List Char} (absent : separator ∉ before) (after : List Char) :
    cutFirst separator (before ++ separator :: after) = some (before, after) := by
  induction before with
  | nil => simp [cutFirst]
  | cons first others ih =>
      obtain ⟨different, absentLater⟩ := List.ne_and_not_mem_of_not_mem_cons absent
      simp [cutFirst, Ne.symm different, ih absentLater]

/-- What the fields of a text are: the parts that it is joined from. -/
structure AreFields (separator : Char) (limit : Nat) (characters : List Char)
    (parts : List (List Char)) : Prop where
  /-- There is a part. -/
  some : parts ≠ []
  /-- Only one part follows the parts that end with a separator. -/
  few : parts.length ≤ limit + 1
  /-- The parts in front of a separator that counts do not hold it. -/
  absent : ∀ part ∈ parts.take limit, separator ∉ part
  /-- The parts and the separators between them are the text. -/
  joined : [separator].intercalate parts = characters

theorem areFields_fields (limit : Nat) (characters : List Char) :
    AreFields separator limit characters (fields separator limit characters) := by
  induction limit generalizing characters with
  | zero => exact ⟨List.cons_ne_nil _ _, Nat.le_refl _, by simp, List.intercalate_singleton⟩
  | succ limit ih =>
      rw [fields]
      cases cut : cutFirst separator characters with
      | none =>
          refine ⟨List.cons_ne_nil _ _, by simp, fun part member => ?_, List.intercalate_singleton⟩
          rw [List.mem_singleton.1 (List.mem_of_mem_take member)]
          exact cutFirst_eq_none_iff.1 cut
      | some parts =>
          obtain ⟨before, after⟩ := parts
          obtain ⟨whole, absent⟩ := eq_of_cutFirst cut
          have later := ih after
          refine ⟨List.cons_ne_nil _ _, Nat.succ_le_succ later.few, fun part member => ?_, ?_⟩
          · rcases List.mem_cons.1 member with rfl | inLater
            · exact absent
            · exact later.absent part inLater
          · rw [List.intercalate_cons_of_ne_nil later.some, later.joined, whole]
            simp

theorem AreFields.fields_eq {limit : Nat} {characters : List Char} {parts : List (List Char)}
    (areFields : AreFields separator limit characters parts) :
    fields separator limit characters = parts := by
  obtain ⟨some, few, absent, rfl⟩ := areFields
  induction limit generalizing parts with
  | zero =>
      obtain ⟨part, rfl⟩ := List.length_eq_one_iff.1
        (Nat.le_antisymm few (List.length_pos_iff.2 some))
      simp [fields]
  | succ limit ih =>
      cases parts with
      | nil => exact absurd rfl some
      | cons part others =>
          have absentHere : separator ∉ part := absent part (by simp)
          cases others with
          | nil => simp [fields, cutFirst_eq_none_iff.2 absentHere]
          | cons next others =>
              have later := ih (List.cons_ne_nil next others) (Nat.le_of_succ_le_succ few)
                fun other member => absent other (List.mem_cons_of_mem _ member)
              rw [List.intercalate_cons_cons, List.append_assoc, List.singleton_append, fields,
                cutFirst_append absentHere]
              simp only [later]

/-- **The fields of a text** are the only parts that it can be joined from. -/
theorem fields_eq_iff {limit : Nat} {characters : List Char} {parts : List (List Char)} :
    fields separator limit characters = parts ↔ AreFields separator limit characters parts :=
  ⟨fun same => same ▸ areFields_fields limit characters, AreFields.fields_eq⟩

/-- A blank at the end that is no separator ends up in the last field. -/
theorem map_trimChars_fields_append {blank : Char} (isBlank : isBlank blank = true)
    (noSeparator : blank ≠ separator) (limit : Nat) (characters : List Char) :
    (fields separator limit (characters ++ [blank])).map trimChars =
      (fields separator limit characters).map trimChars := by
  induction limit generalizing characters with
  | zero => simp [fields, trimChars_append_blank isBlank]
  | succ limit ih =>
      cases cut : cutFirst separator characters with
      | none =>
          have absent : separator ∉ characters ++ [blank] := by
            simpa [Ne.symm noSeparator] using cutFirst_eq_none_iff.1 cut
          simp [fields, cut, cutFirst_eq_none_iff.2 absent, trimChars_append_blank isBlank]
      | some parts =>
          obtain ⟨before, after⟩ := parts
          obtain ⟨rfl, absent⟩ := eq_of_cutFirst cut
          rw [List.append_assoc, List.cons_append, fields, fields, cutFirst_append absent,
            cutFirst_append absent]
          simp only [List.map_cons, ih]

end

/-! ## Where a pattern stands -/

variable {opener : Char} {pattern rest front back characters : List Char}

theorem cutAt_eq_none_iff : cutAt pattern characters = none ↔ ¬ pattern <:+: characters := by
  induction characters with
  | nil => cases pattern <;> simp [cutAt]
  | cons first others ih =>
      rw [List.infix_cons_iff, not_or, cutAt, ← ih]
      by_cases here : pattern <+: first :: others
      · simp [here]
      · simp [here]

/-- A pattern with a character that the text does not have does not stand there. -/
theorem not_infix_of_not_mem (absent : opener ∉ characters) : ¬ opener :: rest <:+: characters :=
  fun inside => absent (inside.subset List.mem_cons_self)

/-- In front of its first character, the pattern does not start. -/
theorem infix_of_infix_append (absent : opener ∉ front)
    (inside : opener :: rest <:+: front ++ back) : opener :: rest <:+: back := by
  induction front with
  | nil => exact inside
  | cons first others ih =>
      obtain ⟨different, absentLater⟩ := List.ne_and_not_mem_of_not_mem_cons absent
      rcases List.infix_cons_iff.1 inside with here | later
      · exact absurd (List.cons_prefix_cons.1 here).1 different
      · exact ih absentLater later

/-- A pattern does not reach over a character that it does not have. -/
theorem infix_or_infix_of_separator {separator : Char} (absent : separator ∉ pattern)
    (inside : pattern <:+: front ++ separator :: back) :
    pattern <:+: front ∨ pattern <:+: back := by
  induction front with
  | nil =>
      rcases List.infix_cons_iff.1 inside with here | later
      · cases pattern with
        | nil => exact .inl List.nil_infix
        | cons first others =>
            obtain ⟨rfl, -⟩ := List.cons_prefix_cons.1 here
            exact absurd List.mem_cons_self absent
      · exact .inr later
  | cons first others ih =>
      rcases List.infix_cons_iff.1 inside with here | later
      · rcases List.prefix_or_prefix_of_prefix here (List.prefix_append (first :: others) _) with
          within | ⟨reach, rfl⟩
        · exact .inl within.isInfix
        · have reached := (List.prefix_append_right_inj _).1 here
          cases reach with
          | nil => exact .inl (by simp)
          | cons next _ =>
              obtain ⟨rfl, -⟩ := List.cons_prefix_cons.1 reached
              exact absurd (by simp) absent
      · exact (ih later).imp_left fun within => within.trans (List.suffix_cons _ _).isInfix

/-! ## Patterns that do not overlap themselves -/

section

variable (once : opener ∉ rest)

include once

/-- A place that starts in front of another one ends there. -/
theorem prefix_of_prefix_append (some : front ≠ [])
    (starts : opener :: rest <+: front ++ opener :: back) : opener :: rest <+: front := by
  rcases List.prefix_or_prefix_of_prefix starts (List.prefix_append front _) with
    within | ⟨reach, whole⟩
  · exact within
  · obtain ⟨first, others, rfl⟩ := List.exists_cons_of_ne_nil some
    obtain ⟨rfl, tail⟩ := List.cons.inj whole
    rw [← whole, List.prefix_append_right_inj] at starts
    cases reach with
    | nil => rw [← whole, List.append_nil]
    | cons next _ =>
        obtain ⟨rfl, -⟩ := List.cons_prefix_cons.1 starts
        exact absurd (tail ▸ by simp) once

/-- Where a further place could start, no place of the pattern goes on. -/
theorem infix_or_infix_of_opener (inside : opener :: rest <:+: front ++ opener :: back) :
    opener :: rest <:+: front ∨ opener :: rest <:+: opener :: back := by
  induction front with
  | nil => exact .inr inside
  | cons first others ih =>
      rcases List.infix_cons_iff.1 inside with here | later
      · exact .inl (prefix_of_prefix_append once (List.cons_ne_nil _ _) here).isInfix
      · exact (ih later).imp_left fun within => within.trans (List.suffix_cons _ _).isInfix

/-- **Cutting at a pattern** gives the two sides back, if the first one does not hold it. -/
theorem cutAt_append (absent : ¬ opener :: rest <:+: front) :
    cutAt (opener :: rest) (front ++ (opener :: rest ++ back)) = some (front, back) := by
  induction front with
  | nil =>
      have starts : (opener :: rest).isPrefixOf (opener :: (rest ++ back)) = true := by simp
      rw [List.nil_append, List.cons_append, cutAt, if_pos starts]
      simp
  | cons first others ih =>
      have notHere :
          ¬ (opener :: rest).isPrefixOf (first :: (others ++ (opener :: rest ++ back))) := by
        rw [List.isPrefixOf_iff_prefix]
        exact fun starts => absent
          (prefix_of_prefix_append once (List.cons_ne_nil _ _) starts).isInfix
      have absentLater : ¬ opener :: rest <:+: others := fun within =>
        absent (within.trans (List.suffix_cons _ _).isInfix)
      rw [List.cons_append, cutAt, if_neg notHere, ih absentLater]
      rfl

end

/-! ## Replacing -/

section

variable {replacement : List Char}

/-- Characters that an occurrence covers are passed over. -/
theorem replaceFrom_append (covered back : List Char) :
    replaceFrom pattern replacement covered.length (covered ++ back) =
      replaceChars pattern replacement back := by
  induction covered with
  | nil => rfl
  | cons character others ih => exact ih

theorem replaceChars_cons_of_not_prefix {character : Char}
    (notHere : ¬ pattern <+: character :: back) :
    replaceChars pattern replacement (character :: back) =
      character :: replaceChars pattern replacement back := by
  rw [replaceChars, replaceFrom, if_neg (by simpa using notHere), ← replaceChars]

/-- What does not have the first character of the pattern stays. -/
theorem replaceChars_append (absent : opener ∉ front) (back : List Char) :
    replaceChars (opener :: rest) replacement (front ++ back) =
      front ++ replaceChars (opener :: rest) replacement back := by
  induction front with
  | nil => rfl
  | cons first others ih =>
      obtain ⟨different, absentLater⟩ := List.ne_and_not_mem_of_not_mem_cons absent
      have notHere : ¬ opener :: rest <+: first :: (others ++ back) := fun starts =>
        different (List.cons_prefix_cons.1 starts).1
      rw [List.cons_append, replaceChars_cons_of_not_prefix notHere, ih absentLater,
        List.cons_append]

/-- The pattern gives way to the replacement. -/
theorem replaceChars_pattern_append (back : List Char) :
    replaceChars (opener :: rest) replacement (opener :: rest ++ back) =
      replacement ++ replaceChars (opener :: rest) replacement back := by
  have starts : (opener :: rest).isPrefixOf (opener :: (rest ++ back)) = true := by simp
  rw [List.cons_append, replaceChars, replaceFrom, if_pos starts, List.length_cons,
    Nat.add_sub_cancel, replaceFrom_append]

end

end TestAmplification.Text
