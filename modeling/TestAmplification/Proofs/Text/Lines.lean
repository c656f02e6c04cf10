import Mathlib.Data.List.TakeWhile
import TestAmplification.Text.Lines
import TestAmplification.Text.Search

/-!
# Trimmed lines

Trimming takes away the blanks around a text that itself starts and ends with no blank
(`trimChars_between`), and what it leaves is such a text (`isTrimmed_trimChars`). A text falls
apart at every line feed (`lineChars_append_newLine`), and what stands before the first line feed
is the first line (`map_trimChars_lineChars`). That holds of trimmed lines only: a carriage return
in front of the line feed belongs to the line end, but then it is a blank anyway.

Cutting at the last separator gives the two sides back when there is no separator on the second
(`cutLast_append`).
-/

set_option autoImplicit false

namespace TestAmplification.Text

/-! ## Trimming -/

/-- Blank throughout. -/
def AllBlank (characters : List Char) : Prop :=
  ∀ character ∈ characters, isBlank character = true

instance (characters : List Char) : Decidable (AllBlank characters) :=
  List.decidableBAll (fun character => isBlank character = true) characters

/-- Neither the first character nor the last one is blank. -/
structure IsTrimmed (characters : List Char) : Prop where
  starts : ∀ first ∈ characters.head?, isBlank first = false
  ends : ∀ last ∈ characters.getLast?, isBlank last = false

theorem dropWhile_isBlank_append {blanks characters : List Char} (allBlank : AllBlank blanks)
    (starts : ∀ first ∈ characters.head?, isBlank first = false) :
    (blanks ++ characters).dropWhile isBlank = characters := by
  rw [List.dropWhile_append_of_pos allBlank]
  cases characters with
  | nil => rfl
  | cons first others => exact List.dropWhile_cons_of_neg (by simp [starts first rfl])

theorem trimEnd_append {characters blanks : List Char} (allBlank : AllBlank blanks)
    (ends : ∀ last ∈ characters.getLast?, isBlank last = false) :
    trimEnd (characters ++ blanks) = characters := by
  have reversed : AllBlank blanks.reverse := fun character member =>
    allBlank character (List.mem_reverse.1 member)
  rw [trimEnd, List.reverse_append, dropWhile_isBlank_append reversed, List.reverse_reverse]
  simpa using ends

/-- Trimming takes away the blanks around a trimmed text. -/
theorem trimChars_between {before characters after : List Char} (blanksBefore : AllBlank before)
    (isTrimmed : IsTrimmed characters) (blanksAfter : AllBlank after) :
    trimChars (before ++ characters ++ after) = characters := by
  cases characters with
  | nil =>
      have all : AllBlank (before ++ after) := fun character member =>
        (List.mem_append.1 member).elim (blanksBefore character) (blanksAfter character)
      have nothing := @dropWhile_isBlank_append _ [] all nofun
      rw [List.append_nil] at nothing
      rw [trimChars, trimStart, List.append_nil, nothing]
      rfl
  | cons first others =>
      rw [trimChars, trimStart, List.append_assoc,
        dropWhile_isBlank_append blanksBefore (by simpa using isTrimmed.starts),
        trimEnd_append blanksAfter isTrimmed.ends]

/-- The blanks at the start are those in front of a text that starts with no blank. -/
theorem dropWhile_isBlank_before {characters : List Char}
    (starts : ∀ first ∈ characters.head?, isBlank first = false) (before : List Char) :
    (before ++ characters).dropWhile isBlank = before.dropWhile isBlank ++ characters := by
  rw [List.dropWhile_append]
  split
  · next nothing =>
      rw [List.isEmpty_iff.1 nothing]
      exact @dropWhile_isBlank_append [] characters nofun starts
  · rfl

/-- Trimming stops at a text that itself starts and ends with no blank. -/
theorem trimChars_around {characters : List Char} (isTrimmed : IsTrimmed characters)
    (some : characters ≠ []) (before after : List Char) :
    trimChars (before ++ characters ++ after) =
      trimStart before ++ characters ++ trimEnd after := by
  obtain ⟨first, others, rfl⟩ := List.exists_cons_of_ne_nil some
  have starts : ∀ character ∈ ((first :: others) ++ after).head?, isBlank character = false :=
    isTrimmed.starts
  have ends : ∀ character ∈ (trimStart before ++ first :: others).reverse.head?,
      isBlank character = false := by
    rw [List.head?_reverse, List.getLast?_append]
    simpa using isTrimmed.ends
  calc trimChars (before ++ first :: others ++ after)
      = trimEnd (trimStart before ++ first :: others ++ after) := by
        rw [trimChars, List.append_assoc, trimStart, dropWhile_isBlank_before starts,
          List.append_assoc]
        rfl
    _ = trimStart before ++ first :: others ++ trimEnd after := by
        rw [trimEnd, List.reverse_append, dropWhile_isBlank_before ends, List.reverse_append,
          List.reverse_reverse]
        rfl

theorem IsTrimmed.trimChars {characters : List Char} (isTrimmed : IsTrimmed characters) :
    trimChars characters = characters := by
  simpa using @trimChars_between [] characters [] nofun isTrimmed nofun

/-- Trimming leaves no blank at either end. -/
theorem isTrimmed_trimChars (characters : List Char) : IsTrimmed (trimChars characters) := by
  have noBlankFirst : ∀ characters : List Char, ∀ first ∈ (characters.dropWhile isBlank).head?,
      isBlank first = false := by
    intro characters first isFirst
    have := List.head?_dropWhile_not isBlank characters
    rw [isFirst] at this
    exact this
  constructor
  · intro first isFirst
    have front : trimChars characters <+: trimStart characters := by
      rw [trimChars, trimEnd, ← List.reverse_suffix, List.reverse_reverse]
      exact List.dropWhile_suffix _
    obtain ⟨blanks, whole⟩ := front
    refine noBlankFirst characters first ?_
    rw [← trimStart, ← whole, List.head?_append, isFirst]
    rfl
  · intro last isLast
    rw [trimChars, trimEnd, List.getLast?_reverse] at isLast
    exact noBlankFirst _ last isLast

theorem trimChars_trimChars (characters : List Char) :
    trimChars (trimChars characters) = trimChars characters :=
  (isTrimmed_trimChars characters).trimChars

theorem trimChars_eq_nil_iff {characters : List Char} :
    trimChars characters = [] ↔ AllBlank characters := by
  rw [trimChars, trimEnd, List.reverse_eq_nil_iff, List.dropWhile_eq_nil_iff]
  constructor
  · intro all
    have nothing : trimStart characters = [] := by
      cases trimmed : trimStart characters with
      | nil => rfl
      | cons first rest =>
          have notBlank := not_isBlank_head_trimStart _ _ _ trimmed
          rw [all first (by simp [trimmed])] at notBlank
          cases notBlank
    exact List.dropWhile_eq_nil_iff.1 nothing
  · intro allBlank
    rw [trimStart, List.dropWhile_eq_nil_iff.2 allBlank]
    simp

/-- One blank more at the end makes no difference. -/
theorem trimChars_append_blank {blank : Char} (isBlank : isBlank blank = true)
    (characters : List Char) : trimChars (characters ++ [blank]) = trimChars characters := by
  have trimEnd_append_blank : ∀ front : List Char, trimEnd (front ++ [blank]) = trimEnd front := by
    intro front
    rw [trimEnd, trimEnd, List.reverse_append, List.reverse_singleton, List.singleton_append,
      List.dropWhile_cons_of_pos isBlank]
  rw [trimChars, trimChars, trimStart, trimStart, List.dropWhile_append]
  split
  · next nothing =>
      rw [List.isEmpty_iff.1 nothing, List.dropWhile_cons_of_pos isBlank]
      rfl
  · exact trimEnd_append_blank _

/-! ## Cutting -/

theorem cutLast_eq_none {separator : Char} {characters : List Char}
    (absent : separator ∉ characters) : cutLast separator characters = none := by
  induction characters with
  | nil => rfl
  | cons first others ih =>
      have different : first ≠ separator := fun same => absent (same ▸ List.mem_cons_self)
      rw [cutLast, ih fun member => absent (List.mem_cons_of_mem _ member)]
      simp [different]

/-- Cutting at the last separator finds what stands before and after it. -/
theorem cutLast_append {separator : Char} {after : List Char} (absent : separator ∉ after)
    (before : List Char) :
    cutLast separator (before ++ separator :: after) = some (before, after) := by
  induction before with
  | nil => simp [cutLast, cutLast_eq_none absent]
  | cons first others ih => simp [cutLast, ih]

/-- Of the separators in a text one is the last. -/
theorem exists_last_separator {separator : Char} {characters : List Char}
    (member : separator ∈ characters) :
    ∃ before after, characters = before ++ separator :: after ∧ separator ∉ after := by
  obtain ⟨after, before, reversed, absent⟩ :=
    List.eq_append_cons_of_mem (List.mem_reverse.2 member)
  refine ⟨before.reverse, after.reverse, ?_, by simpa using absent⟩
  rw [← List.reverse_reverse characters, reversed]
  simp

theorem cutLast_eq_none_iff {separator : Char} {characters : List Char} :
    cutLast separator characters = none ↔ separator ∉ characters := by
  refine ⟨fun none member => ?_, cutLast_eq_none⟩
  obtain ⟨before, after, rfl, absent⟩ := exists_last_separator member
  rw [cutLast_append absent] at none
  cases none

/-- **The last separator** is the one that no other one follows. -/
theorem cutLast_eq_some_iff {separator : Char} {characters before after : List Char} :
    cutLast separator characters = some (before, after) ↔
      characters = before ++ separator :: after ∧ separator ∉ after := by
  constructor
  · intro cut
    have whole := eq_of_cutLast cut
    obtain ⟨front, back, rfl, absent⟩ :=
      exists_last_separator (whole ▸ by simp : separator ∈ characters)
    rw [cutLast_append absent] at cut
    obtain ⟨rfl, rfl⟩ := Prod.mk.inj (Option.some.inj cut)
    exact ⟨rfl, absent⟩
  · rintro ⟨rfl, absent⟩
    exact cutLast_append absent before

/-! ## Lines -/

/-- A character that is no line end starts the first line. -/
theorem lineChars_cons {character : Char} {rest : List Char} (noFeed : character ≠ '\n')
    (noReturn : character = '\r' → rest.head? ≠ some '\n') :
    lineChars (character :: rest) =
      (character :: (lineChars rest).headD []) :: (lineChars rest).tail := by
  rw [lineChars]
  · cases lineChars rest <;> rfl
  · exact noFeed
  · rintro others rfl rfl
    exact noReturn rfl rfl

theorem lineChars_ne_nil {characters : List Char} (some : characters ≠ []) :
    lineChars characters ≠ [] := by
  rw [lineChars.eq_def]
  split
  · exact absurd rfl some
  · exact List.cons_ne_nil _ _
  · exact List.cons_ne_nil _ _
  · split <;> exact List.cons_ne_nil _ _

/-- **A text falls apart at every line feed.** -/
theorem lineChars_append_newLine (before rest : List Char) :
    lineChars (before ++ '\n' :: rest) = lineChars (before ++ ['\n']) ++ lineChars rest := by
  -- a character that stands in a line goes in front of the first line of what follows it
  have goesOn : ∀ (character : Char) (others : List Char), character ≠ '\n' →
      (∀ rest, character = '\r' → others = '\n' :: rest → False) →
      lineChars (others ++ '\n' :: rest) = lineChars (others ++ ['\n']) ++ lineChars rest →
      lineChars (character :: others ++ '\n' :: rest) =
        lineChars (character :: others ++ ['\n']) ++ lineChars rest := by
    intro character others noFeed noReturn ih
    by_cases lineEnd : character = '\r' ∧ others = []
    · obtain ⟨rfl, rfl⟩ := lineEnd
      rfl
    · have inLine : ∀ tail, character = '\r' → (others ++ '\n' :: tail).head? ≠ some '\n' := by
        intro tail isReturn
        cases others with
        | nil => exact absurd ⟨isReturn, rfl⟩ lineEnd
        | cons next others =>
            intro feed
            exact noReturn others isReturn (by simpa using feed)
      obtain ⟨first, later, split⟩ := List.exists_cons_of_ne_nil
        (@lineChars_ne_nil (others ++ ['\n']) (by simp))
      rw [List.cons_append, List.cons_append, lineChars_cons noFeed (inLine rest),
        lineChars_cons noFeed (inLine []), ih, split]
      rfl
  induction before using lineChars.induct with
  | case1 => rfl
  | case2 others ih => simp [lineChars, ih]
  | case3 others ih => simp [lineChars, ih]
  | case4 character others noFeed noReturn _ ih => exact goesOn character others noFeed noReturn ih
  | case5 character others noFeed noReturn _ _ _ ih =>
      exact goesOn character others noFeed noReturn ih

/-- What stands before the first line feed is the first line, perhaps without a carriage
return. -/
theorem lineChars_newLine {line : List Char} (noFeed : '\n' ∉ line) :
    lineChars (line ++ ['\n']) = [line] ∨
      ∃ shorter, line = shorter ++ ['\r'] ∧ lineChars (line ++ ['\n']) = [shorter] := by
  induction line with
  | nil => exact .inl rfl
  | cons first others ih =>
      obtain ⟨notFirst, notLater⟩ := List.ne_and_not_mem_of_not_mem_cons noFeed
      by_cases lineEnd : first = '\r' ∧ others = []
      · obtain ⟨rfl, rfl⟩ := lineEnd
        exact .inr ⟨[], rfl, rfl⟩
      · have inLine : first = '\r' → (others ++ ['\n']).head? ≠ some '\n' := by
          intro isReturn
          cases others with
          | nil => exact absurd ⟨isReturn, rfl⟩ lineEnd
          | cons next others =>
              intro feed
              exact notLater (List.mem_of_head? feed)
        have goesOn := lineChars_cons (Ne.symm notFirst) inLine
        rw [List.cons_append, goesOn]
        rcases ih notLater with whole | ⟨shorter, rfl, cut⟩
        · exact .inl (by rw [whole]; rfl)
        · exact .inr ⟨first :: shorter, rfl, by rw [cut]; rfl⟩

/-- **The first of the trimmed lines** is what stands before the first line feed. -/
theorem map_trimChars_lineChars {line : List Char} (noFeed : '\n' ∉ line) (rest : List Char) :
    (lineChars (line ++ '\n' :: rest)).map trimChars =
      trimChars line :: (lineChars rest).map trimChars := by
  rw [lineChars_append_newLine, List.map_append]
  rcases lineChars_newLine noFeed with whole | ⟨shorter, rfl, cut⟩
  · rw [whole]
    rfl
  · rw [cut, trimChars_append_blank (by decide)]
    rfl

/-- A text without line feeds is one line. -/
theorem lineChars_of_noFeed {line : List Char} (noFeed : '\n' ∉ line) (some : line ≠ []) :
    lineChars line = [line] := by
  induction line with
  | nil => exact absurd rfl some
  | cons first others ih =>
      obtain ⟨notFirst, notLater⟩ := List.ne_and_not_mem_of_not_mem_cons noFeed
      have noFeedNext : others.head? ≠ Option.some '\n' := fun feed =>
        notLater (List.mem_of_head? feed)
      rw [lineChars_cons (Ne.symm notFirst) fun _ => noFeedNext]
      cases others with
      | nil => rfl
      | cons next others => rw [ih notLater (List.cons_ne_nil _ _)]; rfl

/-- **A line feed at the end** ends the last line, which loses the carriage return at its end if it
has one, or it ends a line without characters. -/
theorem lineChars_append_feed (characters : List Char) :
    lineChars (characters ++ ['\n']) = lineChars characters ∨
      lineChars (characters ++ ['\n']) = lineChars characters ++ [[]] ∨
      ∃ front line, lineChars characters = front ++ [line ++ ['\r']] ∧
        lineChars (characters ++ ['\n']) = front ++ [line] := by
  -- induction on the number of line feeds: each one cuts lines off the front
  induction feeds : characters.count '\n' generalizing characters with
  | zero =>
      have noFeed : '\n' ∉ characters := List.count_eq_zero.1 feeds
      by_cases nothing : characters = []
      · subst nothing
        exact .inr (.inl rfl)
      · rw [lineChars_of_noFeed noFeed nothing]
        rcases lineChars_newLine noFeed with whole | ⟨shorter, rfl, cut⟩
        · exact .inl whole
        · exact .inr (.inr ⟨[], shorter, rfl, cut⟩)
  | succ count ih =>
      have feed : '\n' ∈ characters := List.count_pos_iff.1 (by omega)
      obtain ⟨before, after, rfl, noFeed⟩ := List.eq_append_cons_of_mem feed
      have fewer : after.count '\n' = count := by
        simpa [List.count_eq_zero.2 noFeed] using feeds
      rw [List.append_assoc, List.cons_append, lineChars_append_newLine before (after ++ ['\n']),
        lineChars_append_newLine before after]
      rcases ih after fewer with same | empty | ⟨front, line, last, cut⟩
      · exact .inl (by rw [same])
      · exact .inr (.inl (by rw [empty, List.append_assoc]))
      · exact .inr (.inr ⟨_, line, by rw [last, List.append_assoc], by rw [cut, List.append_assoc]⟩)

end TestAmplification.Text
