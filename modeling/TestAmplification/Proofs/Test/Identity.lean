import TestAmplification.Proofs.Text.Lines
import TestAmplification.Test.Identity

/-!
# Reading back the written form of an identity

A text that is read is the written form of an identity, or the bare name of its method in the suite
that the reader supplies, with blanks around it in either case (`parse_eq_some_iff`). Not every
identity can be told from its written form. The last `#` has to be the one between suite and method,
so there must be none in the method; something has to follow it; and as blanks at the ends do not
count, the method must not end with one and the suite must not start with one. That is all
(`TestId.Legible`). Nothing is asked of the suite beyond its first character: it may be empty, it
may hold any number of `#`, and it may end with blanks.

What is read is legible itself, unless the reader supplies a suite that starts with a blank. So
writing and reading once more changes nothing (`legible_iff_reads_back`).
-/

set_option autoImplicit false

namespace TestAmplification.TestId

open Text (IsTrimmed isBlank trimChars)

/-- The written form of the identity stands for no other one: no blank at its ends is lost, and the
last `#` in it is the one between suite and method. -/
structure Legible (id : TestId) : Prop where
  suiteStarts : ∀ first ∈ id.suite.toList.head?, isBlank first = false
  hasMethod : id.method ≠ ""
  noHash : '#' ∉ id.method.toList
  methodEnds : ∀ last ∈ id.method.toList.getLast?, isBlank last = false

instance (id : TestId) : Decidable id.Legible :=
  decidable_of_iff
    ((id.suite.toList.head?.all fun first => !isBlank first) = true ∧ id.method ≠ "" ∧
      '#' ∉ id.method.toList ∧
      (id.method.toList.getLast?.all fun last => !isBlank last) = true)
    (by
      simp only [Option.all_eq_true, Bool.not_eq_true']
      exact ⟨fun ⟨suiteStarts, hasMethod, noHash, methodEnds⟩ =>
          ⟨suiteStarts, hasMethod, noHash, methodEnds⟩,
        fun ⟨suiteStarts, hasMethod, noHash, methodEnds⟩ =>
          ⟨suiteStarts, hasMethod, noHash, methodEnds⟩⟩)

variable {id : TestId} {raw defaultSuite : String}

theorem toList_render (id : TestId) :
    id.render.toList = id.suite.toList ++ '#' :: id.method.toList := by
  simp [render]

theorem getLast?_render (hasMethod : id.method ≠ "") :
    id.render.toList.getLast? = id.method.toList.getLast? := by
  obtain ⟨first, others, isMethod⟩ :=
    List.exists_cons_of_ne_nil (mt String.toList_eq_nil_iff.1 hasMethod)
  rw [toList_render, isMethod, List.getLast?_append, List.getLast?_cons_cons,
    List.getLast?_cons, Option.some_or]

/-- **What is read** is the written form of the identity or, in the default suite, its method. -/
theorem parse_eq_some_iff :
    parse raw defaultSuite = some id ↔
      id.method ≠ "" ∧ '#' ∉ id.method.toList ∧
        (trimChars raw.toList = id.render.toList ∨
          trimChars raw.toList = id.method.toList ∧ id.suite = defaultSuite) := by
  rw [parse, parseTrimmed, toList_render]
  generalize trimChars raw.toList = characters
  obtain ⟨suite, method⟩ := id
  cases cut : Text.cutLast '#' characters with
  | none =>
      have absent : '#' ∉ characters := Text.cutLast_eq_none_iff.1 cut
      by_cases empty : characters = []
      · subst empty
        simpa using fun hasMethod _ isEmpty => absurd isEmpty hasMethod
      · constructor
        · intro read
          obtain ⟨rfl, rfl⟩ : defaultSuite = suite ∧ String.ofList characters = method := by
            simpa [empty] using read
          exact ⟨by simpa using empty, by simpa using absent, .inr ⟨by simp, rfl⟩⟩
        · rintro ⟨-, -, rfl | ⟨rfl, rfl⟩⟩
          · exact absurd (by simp) absent
          · simp [empty]
  | some parts =>
      obtain ⟨before, after⟩ := parts
      obtain ⟨rfl, absent⟩ := Text.cutLast_eq_some_iff.1 cut
      constructor
      · intro read
        obtain ⟨notEmpty, rfl, rfl⟩ :
            after ≠ [] ∧ String.ofList before = suite ∧ String.ofList after = method := by
          simpa using read
        exact ⟨by simpa using notEmpty, by simpa using absent, .inl (by simp)⟩
      · rintro ⟨hasMethod, noHash, same | ⟨same, -⟩⟩
        · rw [same, Text.cutLast_append noHash] at cut
          obtain ⟨rfl, rfl⟩ := Prod.mk.inj (Option.some.inj cut)
          simpa using hasMethod
        · exact absurd (same ▸ by simp) noHash

/-- The written form of a legible identity has no blank at either end. -/
theorem Legible.isTrimmed (legible : id.Legible) : IsTrimmed id.render.toList := by
  refine ⟨fun first isFirst => ?_, getLast?_render legible.hasMethod ▸ legible.methodEnds⟩
  rw [toList_render] at isFirst
  cases suite : id.suite.toList with
  | nil =>
      obtain rfl : '#' = first := by simpa [suite] using isFirst
      decide
  | cons character others =>
      refine legible.suiteStarts first ?_
      simpa [suite] using isFirst

/-- What is trimmed to the written form of an identity starts and ends with no blank. -/
theorem legible_of_trimmed (hasMethod : id.method ≠ "") (noHash : '#' ∉ id.method.toList)
    (written : trimChars raw.toList = id.render.toList) : id.Legible := by
  have trimmed := Text.isTrimmed_trimChars raw.toList
  rw [written] at trimmed
  refine ⟨fun first isFirst => trimmed.starts first ?_, hasMethod, noHash,
    getLast?_render hasMethod ▸ trimmed.ends⟩
  rw [toList_render, List.head?_append, isFirst]
  rfl

/-- What is read is legible, if the suite that the reader supplies starts with no blank. -/
theorem legible_of_parse (starts : ∀ first ∈ defaultSuite.toList.head?, isBlank first = false)
    (read : parse raw defaultSuite = some id) : id.Legible := by
  obtain ⟨hasMethod, noHash, written | ⟨bare, rfl⟩⟩ := parse_eq_some_iff.1 read
  · exact legible_of_trimmed hasMethod noHash written
  · exact ⟨starts, hasMethod, noHash, bare ▸ (Text.isTrimmed_trimChars raw.toList).ends⟩

/-- The mark between suite and method is no blank, so trimming stops at it. -/
theorem trimChars_render (id : TestId) :
    trimChars id.render.toList =
      Text.trimStart id.suite.toList ++ '#' :: Text.trimEnd id.method.toList := by
  have mark : IsTrimmed ['#'] := by constructor <;> simp <;> decide
  have around := Text.trimChars_around mark (by simp) id.suite.toList id.method.toList
  rw [toList_render]
  simpa using around

theorem parse_render_eq_some_iff : parse id.render defaultSuite = some id ↔ id.Legible := by
  constructor
  · intro read
    obtain ⟨hasMethod, noHash, written | ⟨bare, -⟩⟩ := parse_eq_some_iff.1 read
    · exact legible_of_trimmed hasMethod noHash written
    · rw [trimChars_render] at bare
      exact absurd (bare ▸ by simp) noHash
  · intro legible
    exact parse_eq_some_iff.2
      ⟨legible.hasMethod, legible.noHash, .inl legible.isTrimmed.trimChars⟩

/-- **The written form of a legible identity** is read as the identity, whatever the default
suite. -/
theorem parse_render (legible : id.Legible) (defaultSuite : String) :
    parse id.render defaultSuite = some id :=
  parse_render_eq_some_iff.2 legible

/-- **Writing and reading.** An identity is read back from its written form just if it is legible,
whichever suite the reader supplies. Whatever was read, with a suite that starts with no blank, is
read back as well. -/
theorem legible_iff_reads_back :
    (∀ (id : TestId) (defaultSuite : String),
      parse id.render defaultSuite = some id ↔
        id.method ≠ "" ∧ '#' ∉ id.method.toList ∧
          (∀ last ∈ id.method.toList.getLast?, isBlank last = false) ∧
          ∀ first ∈ id.suite.toList.head?, isBlank first = false) ∧
    ∀ (raw defaultSuite : String) (id : TestId),
      (∀ first ∈ defaultSuite.toList.head?, isBlank first = false) →
        parse raw defaultSuite = some id →
          ∀ otherSuite : String, parse id.render otherSuite = some id := by
  refine ⟨fun id defaultSuite => ?_, fun raw defaultSuite id starts read otherSuite => ?_⟩
  · rw [parse_render_eq_some_iff]
    exact ⟨fun legible =>
        ⟨legible.hasMethod, legible.noHash, legible.methodEnds, legible.suiteStarts⟩,
      fun ⟨hasMethod, noHash, ends, starts⟩ => ⟨starts, hasMethod, noHash, ends⟩⟩
  · exact parse_render (legible_of_parse starts read) otherSuite

/-- A method that is named without its suite is read, and read back with the suite. -/
theorem bare_method_reads_back :
    (∀ first ∈ "Account tests".toList.head?, isBlank first = false) ∧
      parse " deposit \t" "Account tests" = some ⟨"Account tests", "deposit"⟩ ∧
      parse "Account tests#deposit" "" = some ⟨"Account tests", "deposit"⟩ := by
  have starts : ∀ first ∈ "Account tests".toList.head?, isBlank first = false := by
    intro first isFirst
    obtain rfl : 'A' = first := Option.some.inj isFirst
    decide
  have read : parse " deposit \t" "Account tests" = some ⟨"Account tests", "deposit"⟩ := by
    decide +kernel
  have written : render ⟨"Account tests", "deposit"⟩ = "Account tests#deposit" := by
    decide +kernel
  exact ⟨starts, read, written ▸ legible_iff_reads_back.2 _ _ _ starts read ""⟩

end TestAmplification.TestId
