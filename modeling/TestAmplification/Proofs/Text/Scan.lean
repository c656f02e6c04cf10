import TestAmplification.Text.Scan

/-!
# What scanners take

A scanner is a function of the characters in front of it: it gives a result with what it leaves, or
nothing. The first part evaluates the ways of putting scanners together at such a list.

A run of characters is taken as a whole when the first character after it does not pass
(`run_append`, `runOfSome_append`). A repetition is described by its turns, `Turns`: every turn uses
some characters, and the last one leaves what the scanner fails on. Such turns are what `repeated`
takes (`Turns.repeated`), and a character in front of them that belongs to a run joins the run or is
one by itself (`Turns.cons_run`).
-/

set_option autoImplicit false

namespace TestAmplification.Scan

variable {α β : Type} {scanner other : Scan α} {characters rest : List Char}

/-! ## One scanner after another -/

theorem pure_apply (result : α) (characters : List Char) :
    (pure result : Scan α) characters = some (result, characters) :=
  rfl

theorem get_bind (next : List Char → Scan β) (characters : List Char) :
    (get >>= next : Scan β) characters = next characters characters :=
  rfl

theorem bind_apply (scanner : Scan α) (next : α → Scan β) (characters : List Char) :
    (scanner >>= next) characters =
      (scanner characters).bind fun scanned => next scanned.1 scanned.2 :=
  rfl

theorem map_apply (f : α → β) (scanner : Scan α) (characters : List Char) :
    (f <$> scanner) characters =
      (scanner characters).bind fun scanned => some (f scanned.1, scanned.2) :=
  rfl

theorem orElse_apply (scanner other : Scan α) (characters : List Char) :
    (scanner <|> other) characters = (scanner characters <|> other characters) :=
  rfl

theorem bind_of_some {next : α → Scan β} {result : α}
    (scanned : scanner characters = some (result, rest)) :
    (scanner >>= next) characters = next result rest := by
  rw [bind_apply, scanned, Option.bind_some]

theorem bind_of_none {next : α → Scan β} (fails : scanner characters = none) :
    (scanner >>= next) characters = none := by
  rw [bind_apply, fails, Option.bind_none]

theorem map_of_some {f : α → β} {result : α}
    (scanned : scanner characters = some (result, rest)) :
    (f <$> scanner) characters = some (f result, rest) := by
  rw [map_apply, scanned, Option.bind_some]

theorem map_of_none {f : α → β} (fails : scanner characters = none) :
    (f <$> scanner) characters = none := by
  rw [map_apply, fails, Option.bind_none]

/-! ## Alternatives -/

theorem orElse_of_some {result : α} (scanned : scanner characters = some (result, rest)) :
    (scanner <|> other) characters = some (result, rest) := by
  rw [orElse_apply, scanned]
  rfl

theorem orElse_of_none (fails : scanner characters = none) :
    (scanner <|> other) characters = other characters := by
  rw [orElse_apply, fails]
  rfl

theorem optional_of_some {result : α} (scanned : scanner characters = some (result, rest)) :
    optional scanner characters = some (some result, rest) :=
  orElse_of_some (map_of_some scanned)

theorem optional_of_none (fails : scanner characters = none) :
    optional scanner characters = some (none, characters) :=
  orElse_of_none (map_of_none fails)

theorem isNext_of_some {result : α} (scanned : scanner characters = some (result, rest)) :
    isNext scanner characters = some (true, rest) :=
  map_of_some (optional_of_some scanned)

theorem isNext_of_none (fails : scanner characters = none) :
    isNext scanner characters = some (false, characters) :=
  map_of_some (optional_of_none fails)

/-! ## Single characters -/

theorem peek_bind (next : Option Char → Scan β) (characters : List Char) :
    (peek >>= next) characters = next characters.head? characters :=
  rfl

theorem next_cons (character : Char) (rest : List Char) :
    next (character :: rest) = some (character, rest) :=
  rfl

theorem nextIf_cons {passes : Char → Bool} {first : Char} (passed : passes first = true)
    (rest : List Char) : nextIf passes (first :: rest) = some (first, rest) := by
  rw [nextIf, bind_of_some (next_cons first rest), if_pos passed]
  rfl

theorem expect_append (taken rest : List Char) :
    expect taken (taken ++ rest) = some ((), rest) := by
  rw [expect, get_bind, if_pos (List.isPrefixOf_iff_prefix.2 (List.prefix_append taken rest)),
    List.drop_left]
  rfl

theorem expect_cons (first : Char) (rest : List Char) :
    expect [first] (first :: rest) = some ((), rest) :=
  expect_append [first] rest

theorem expect_eq_none {taken : List Char} (other : ¬ taken <+: characters) :
    expect taken characters = none := by
  rw [expect, get_bind, if_neg (mt List.isPrefixOf_iff_prefix.1 other)]
  rfl

theorem expect_cons_of_head_ne {first : Char} {others : List Char}
    (other : characters.head? ≠ some first) : expect (first :: others) characters = none := by
  refine expect_eq_none ?_
  rintro ⟨rest, rfl⟩
  exact other rfl

/-! ## Runs -/

section Runs

variable {passes : Char → Bool}

/-- A run of characters that pass the test ends before these characters. -/
def EndsRun (passes : Char → Bool) (rest : List Char) : Prop :=
  ∀ character ∈ rest.head?, passes character = false

@[simp]
theorem endsRun_nil : EndsRun passes [] := by
  simp [EndsRun]

@[simp]
theorem endsRun_cons {character : Char} :
    EndsRun passes (character :: rest) ↔ passes character = false := by
  simp [EndsRun]

theorem EndsRun.takeWhile_eq_nil (ends : EndsRun passes rest) : rest.takeWhile passes = [] := by
  cases rest with
  | nil => rfl
  | cons first others => rw [List.takeWhile_cons, endsRun_cons.1 ends]; rfl

theorem EndsRun.dropWhile_eq_self (ends : EndsRun passes rest) : rest.dropWhile passes = rest := by
  cases rest with
  | nil => rfl
  | cons first others => rw [List.dropWhile_cons, endsRun_cons.1 ends]; rfl

theorem run_apply (passes : Char → Bool) (characters : List Char) :
    run passes characters =
      some (characters.takeWhile passes, characters.dropWhile passes) :=
  rfl

/-- **A run is taken as a whole.** -/
theorem run_append {taken : List Char} (all : ∀ character ∈ taken, passes character = true)
    (ends : EndsRun passes rest) : run passes (taken ++ rest) = some (taken, rest) := by
  rw [run_apply, List.takeWhile_append_of_pos all, List.dropWhile_append_of_pos all,
    ends.takeWhile_eq_nil, ends.dropWhile_eq_self, List.append_nil]

theorem run_of_ends (ends : EndsRun passes rest) : run passes rest = some ([], rest) := by
  rw [run_apply, ends.takeWhile_eq_nil, ends.dropWhile_eq_self]

theorem runOfSome_cons {first : Char} (passed : passes first = true) (others : List Char) :
    runOfSome passes (first :: others) =
      some (first :: others.takeWhile passes, others.dropWhile passes) := by
  rw [runOfSome, bind_apply, run_apply, List.takeWhile_cons_of_pos passed,
    List.dropWhile_cons_of_pos passed]
  rfl

theorem runOfSome_append {taken : List Char} (some_taken : taken ≠ [])
    (all : ∀ character ∈ taken, passes character = true) (ends : EndsRun passes rest) :
    runOfSome passes (taken ++ rest) = some (taken, rest) := by
  rw [runOfSome, bind_of_some (run_append all ends)]
  cases taken with
  | nil => exact absurd rfl some_taken
  | cons first others => rfl

theorem runOfSome_of_ends (ends : EndsRun passes rest) : runOfSome passes rest = none := by
  rw [runOfSome, bind_of_some (run_of_ends ends)]
  rfl

theorem exactly_append {taken : List Char} (all : ∀ character ∈ taken, passes character = true)
    (rest : List Char) : exactly passes taken.length (taken ++ rest) = some (taken, rest) := by
  induction taken with
  | nil => rfl
  | cons first others ih =>
      obtain ⟨firstPassed, othersPassed⟩ := List.forall_mem_cons.1 all
      rw [List.length_cons, exactly, List.cons_append, bind_of_some (nextIf_cons firstPassed _),
        bind_of_some (ih othersPassed)]
      rfl

end Runs

/-! ## Repetitions -/

/-- The turns of a repetition: the results that a scanner gives one after another, each time using
some characters, until it fails on the last characters. -/
inductive Turns (scanner : Scan α) : List Char → List α → List Char → Prop where
  | stop {last : List Char} (fails : scanner last = none) : Turns scanner last [] last
  | again {characters rest last : List Char} {result : α} {results : List α}
      (scanned : scanner characters = some (result, rest))
      (shorter : rest.length < characters.length) (turns : Turns scanner rest results last) :
      Turns scanner characters (result :: results) last

namespace Turns

variable {results : List α} {last : List Char}

theorem repeatUpTo_eq (turns : Turns scanner characters results last) {count : Nat}
    (enough : characters.length ≤ count) :
    repeatUpTo scanner count characters = some (results, last) := by
  induction turns generalizing count with
  | stop fails =>
      cases count with
      | zero => rfl
      | succ count => rw [repeatUpTo, bind_of_some (optional_of_none fails)]; rfl
  | again scanned shorter turns ih =>
      cases count with
      | zero => exact absurd shorter (by omega)
      | succ count =>
          rw [repeatUpTo, bind_of_some (optional_of_some scanned)]
          exact bind_of_some (ih (by omega))

/-- **A repetition takes its turns.** -/
theorem repeated (turns : Turns scanner characters results last) :
    repeated scanner characters = some (results, last) :=
  turns.repeatUpTo_eq (Nat.le_refl _)

/-- A scanner that takes runs of characters takes one more in front, in the first run or in one of
its own. -/
theorem cons_run {scanner : Scan (List Char)} {results : List (List Char)} {passes : Char → Bool}
    (takesRun : ∀ first others, passes first = true → scanner (first :: others) =
      some (first :: others.takeWhile passes, others.dropWhile passes))
    {character : Char} (passed : passes character = true)
    (turns : Turns scanner characters results last) :
    ∃ joined, Turns scanner (character :: characters) joined last ∧
      joined.flatten = character :: results.flatten := by
  have taken := takesRun character characters passed
  by_cases ends : EndsRun passes characters
  · -- the character is a run by itself
    rw [ends.takeWhile_eq_nil, ends.dropWhile_eq_self] at taken
    exact ⟨[character] :: results, .again taken (by simp) turns, rfl⟩
  · -- the first turn takes the run that the character joins
    cases characters with
    | nil => exact absurd endsRun_nil ends
    | cons first others =>
        have passedToo : passes first = true := by simpa using ends
        rw [List.takeWhile_cons_of_pos passedToo, List.dropWhile_cons_of_pos passedToo] at taken
        cases turns with
        | stop fails =>
            rw [takesRun first others passedToo] at fails
            contradiction
        | again scanned shorter turns =>
            rw [takesRun first others passedToo, Option.some.injEq, Prod.mk.injEq] at scanned
            obtain ⟨rfl, rfl⟩ := scanned
            exact ⟨_, .again taken (Nat.lt_succ_of_lt shorter) turns, rfl⟩

end Turns

end TestAmplification.Scan
