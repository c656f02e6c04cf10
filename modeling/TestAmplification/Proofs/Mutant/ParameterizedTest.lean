import TestAmplification.Proofs.Mutant.KillingTest
import TestAmplification.Proofs.Mutant.Report

/-!
# Killing tests with parameters

The method of a test that is run with several parameters is named with these in brackets, and a
report spells the test by that name with its suite in parentheses, in front of the name too or not.
The commas among the parameters do no harm, since the killing test is all that follows the sixth
comma of a record. But two of the forms that a reader tries mistake the parameters for something
else:

* a bracket in which the parameters start with `method:` looks like the segment of a path, whatever
  else the text holds;
* the last dot among the parameters looks like the one between suite and method, unless the suite
  stands in front of the method.

In these cases the kill goes to a test that is not there, and in all others the name is kept
(`parameterized_name_kept_iff`).
-/

set_option autoImplicit false

namespace TestAmplification

open Text (AllBlank IsNumeral trimChars isBlank)

namespace Text

/-- A prefix that reaches up to a character that it does not have ends in front of it. -/
theorem prefix_of_prefix_append_separator {separator : Char} {pattern front back : List Char}
    (absent : separator ∉ pattern) (starts : pattern <+: front ++ separator :: back) :
    pattern <+: front := by
  rcases List.prefix_or_prefix_of_prefix starts (List.prefix_append front _) with
    within | ⟨reach, rfl⟩
  · exact within
  · cases reach with
    | nil => simp
    | cons next others =>
        obtain ⟨rfl, -⟩ := List.cons_prefix_cons.1 ((List.prefix_append_right_inj front).1 starts)
        exact absurd (by simp) absent

/-- Behind the last separator there is none. -/
theorem not_mem_afterLast (separator : Char) (characters : List Char) :
    separator ∉ afterLast separator characters := by
  unfold afterLast
  cases cut : cutLast separator characters with
  | none => exact cutLast_eq_none_iff.1 cut
  | some parts => exact (cutLast_eq_some_iff.1 cut).2

end Text

/-- A test that is run with parameters: its suite, and the method with its parameters. -/
structure ParameterizedTest where
  suite : List Char
  method : List Char
  parameters : List Char

namespace ParameterizedTest

variable (test : ParameterizedTest)

/-- The name of the method with the parameters. -/
def name : List Char :=
  test.method ++ '[' :: (test.parameters ++ [']'])

/-- The identity of the test. -/
def id : TestId :=
  ⟨String.ofList test.suite, String.ofList test.name⟩

/-- The suite and the method have names, the latter without dots, and there are neither
parentheses nor further brackets among the parameters. -/
structure IsNamed : Prop where
  suite : KillingTest.IsName test.suite
  method : KillingTest.IsName test.method
  noDot : '.' ∉ test.method
  parameters : ∀ mark ∈ ['(', ')', '[', ']'], mark ∉ test.parameters

instance : Decidable test.IsNamed :=
  decidable_of_iff
    ((KillingTest.IsName test.suite ∧ KillingTest.IsName test.method ∧ '.' ∉ test.method) ∧
      ['(', ')', '[', ']'].all (· ∉ test.parameters))
    ⟨fun ⟨⟨suite, method, noDot⟩, noMarks⟩ => ⟨suite, method, noDot, by simpa using noMarks⟩,
      fun named => ⟨⟨named.suite, named.method, named.noDot⟩, by simpa using named.parameters⟩⟩

/-- Whether the suite stands in front of the method as well. -/
inductive Spelling where
  | inSuite
  | qualifiedInSuite

/-- What stands in front of the suite in parentheses. -/
def head : Spelling → List Char
  | .inSuite => test.name
  | .qualifiedInSuite => test.suite ++ '.' :: test.name

/-- The test as a report spells it. -/
def spelled (spelling : Spelling) : List Char :=
  test.head spelling ++ '(' :: (test.suite ++ [')'])

/-- How the parameters start that look like the segment of a path. -/
def segmentStart : List Char := KillingTest.methodTag.tail

/-- The parameters do not look like a segment and, unless the suite stands in front of the method,
they have no dots. -/
def Inconspicuous : Spelling → Prop
  | .inSuite => ¬ segmentStart <+: test.parameters ∧ '.' ∉ test.parameters
  | .qualifiedInSuite => ¬ segmentStart <+: test.parameters

variable {test} {spelling : Spelling}

/-! ## The only bracket -/

/-- The text in front of the only opening bracket and the one behind it. -/
theorem spelled_eq (named : test.IsNamed) (spelling : Spelling) :
    ∃ front, '[' ∉ front ∧
      test.spelled spelling =
        front ++ '[' :: (test.parameters ++ ']' :: '(' :: (test.suite ++ [')'])) := by
  have noBracket := named.method.noMark '[' (by simp)
  cases spelling with
  | inSuite => exact ⟨test.method, noBracket, by simp [spelled, head, name]⟩
  | qualifiedInSuite =>
      refine ⟨test.suite ++ '.' :: test.method, ?_, by simp [spelled, head, name]⟩
      simp [named.suite.noMark '[' (by simp), noBracket]

theorem noBracket_behind (named : test.IsNamed) :
    '[' ∉ test.parameters ++ ']' :: '(' :: (test.suite ++ [')']) := by
  simp [named.parameters '[' (by simp), named.suite.noMark '[' (by simp)]

/-- A tag stands in the spelling only if the parameters start with the rest of it. -/
theorem tag_infix_iff (named : test.IsNamed) (spelling : Spelling) {tag : List Char}
    (noBracket : ']' ∉ tag) : '[' :: tag <:+: test.spelled spelling ↔ tag <+: test.parameters := by
  obtain ⟨front, absent, spelled⟩ := spelled_eq named spelling
  rw [spelled]
  constructor
  · intro inside
    rcases List.infix_cons_iff.1 (Text.infix_of_infix_append absent inside) with here | later
    · exact Text.prefix_of_prefix_append_separator noBracket (List.cons_prefix_cons.1 here).2
    · exact absurd later (Text.not_infix_of_not_mem (noBracket_behind named))
  · rintro ⟨rest, parameters⟩
    refine ⟨front, rest ++ ']' :: '(' :: (test.suite ++ [')']), ?_⟩
    simp [← parameters]

/-- Without the tag in it, the spelling has no segment. -/
theorem segment?_eq_none (named : test.IsNamed) (spelling : Spelling) {tag : List Char}
    (noBracket : ']' ∉ tag) (notStart : ¬ tag <+: test.parameters) :
    KillingTest.segment? ('[' :: tag) (test.spelled spelling) = none := by
  rw [KillingTest.segment?,
    Text.cutAt_eq_none_iff.2 (mt (tag_infix_iff named spelling noBracket).1 notStart),
    Option.bind_none]

/-! ## Reading a spelling -/

theorem noParenthesis_head (named : test.IsNamed) (spelling : Spelling) :
    '(' ∉ test.head spelling := by
  have noMethod := named.method.noMark '(' (by simp)
  have noParameter := named.parameters '(' (by simp)
  have noSuite := named.suite.noMark '(' (by simp)
  cases spelling <;> simp [head, name, noMethod, noParameter, noSuite]

/-- The name does not start with the suite and a dot by itself. -/
theorem withoutStart?_name (named : test.IsNamed) :
    Text.withoutStart? (test.suite ++ ['.']) test.name = none := by
  have noBracket : '[' ∉ test.suite ++ ['.'] := by simp [named.suite.noMark '[' (by simp)]
  refine if_neg fun starts => named.noDot ?_
  have inMethod := Text.prefix_of_prefix_append_separator noBracket
    (List.isPrefixOf_iff_prefix.1 starts)
  exact inMethod.subset (by simp)

/-- The method that is read is the name if the suite stands in front of it, and what follows the
last dot of the name otherwise. -/
theorem unqualified_head (named : test.IsNamed) (spelling : Spelling) :
    KillingTest.unqualified test.suite (test.head spelling) =
      match spelling with
      | .inSuite => Text.afterLast '.' test.name
      | .qualifiedInSuite => test.name := by
  cases spelling with
  | inSuite =>
      change KillingTest.unqualified test.suite test.name = _
      rw [KillingTest.unqualified, withoutStart?_name named]
  | qualifiedInSuite => exact KillingTest.unqualified_append _ _

theorem dot_mem_name_iff (named : test.IsNamed) :
    '.' ∈ test.name ↔ '.' ∈ test.parameters := by
  simp [name, named.noDot]

theorem saysNone_spelled (test : ParameterizedTest) (spelling : Spelling) :
    KillingTest.saysNone (test.spelled spelling) = false :=
  KillingTest.saysNone_eq_false '(' (by simp [spelled]) (by decide)

/-- What looks like a segment is read as one, and then there is no suite. -/
theorem ofTrimmed?_of_segment (named : test.IsNamed) (spelling : Spelling)
    (starts : segmentStart <+: test.parameters) :
    ∃ method, KillingTest.ofTrimmed? (test.spelled spelling) =
      KillingTest.identity? [] method := by
  obtain ⟨front, absent, spelled⟩ := spelled_eq named spelling
  obtain ⟨value, parameters⟩ := starts
  have noBracket : ']' ∉ value := fun member =>
    named.parameters ']' (by simp) (parameters ▸ List.mem_append_right _ member)
  have method :
      KillingTest.segment? KillingTest.methodTag (test.spelled spelling) = some value := by
    have found := KillingTest.segment?_append (by decide : '[' ∉ segmentStart)
      (Text.not_infix_of_not_mem absent) noBracket ('(' :: (test.suite ++ [')']))
    rw [← found, spelled, ← parameters, KillingTest.methodTag]
    simp only [List.append_assoc, List.cons_append]
    rfl
  have noClass : ¬ KillingTest.classTag.tail <+: test.parameters := by
    rintro ⟨rest, same⟩
    exact absurd (parameters.trans same.symm) (by simp [segmentStart, KillingTest.methodTag,
      KillingTest.classTag])
  have suite : KillingTest.segment? KillingTest.classTag (test.spelled spelling) = none :=
    segment?_eq_none named spelling (by decide) noClass
  refine ⟨KillingTest.beforeParenthesis value, ?_⟩
  rw [KillingTest.ofTrimmed?, saysNone_spelled, method, suite]
  rfl

/-- What does not look like a segment is read by its parentheses. -/
theorem ofTrimmed?_of_notSegment (named : test.IsNamed) (spelling : Spelling)
    (notStart : ¬ segmentStart <+: test.parameters) :
    KillingTest.ofTrimmed? (test.spelled spelling) =
      KillingTest.identity? test.suite
        (KillingTest.unqualified test.suite (test.head spelling)) := by
  have noSegment :
      KillingTest.segment? KillingTest.methodTag (test.spelled spelling) = none :=
    segment?_eq_none named spelling (by decide) notStart
  have cut : Text.cutFirst '(' (test.spelled spelling) =
      some (test.head spelling, test.suite ++ [')']) :=
    Text.cutFirst_append (noParenthesis_head named spelling) _
  rw [KillingTest.ofTrimmed?, saysNone_spelled, noSegment, cut]
  simp only [Bool.false_eq_true, if_false, KillingTest.withoutClosing_append named.suite]

theorem identity?_eq_some_id_iff {method : List Char} (test : ParameterizedTest) :
    KillingTest.identity? test.suite method = some test.id ↔ method = test.name := by
  have some : test.name ≠ [] := by simp [name]
  rw [KillingTest.identity?]
  by_cases empty : method = []
  · simp [empty, Ne.symm some]
  · simp [empty, id, String.ofList_inj]

/-- **The name is kept** just if the parameters are inconspicuous. -/
theorem ofTrimmed?_spelled_iff (named : test.IsNamed) (spelling : Spelling) :
    KillingTest.ofTrimmed? (test.spelled spelling) = some test.id ↔
      test.Inconspicuous spelling := by
  by_cases starts : segmentStart <+: test.parameters
  · have conspicuous : ¬ test.Inconspicuous spelling := by
      cases spelling <;> simp [Inconspicuous, starts]
    obtain ⟨method, read⟩ := ofTrimmed?_of_segment named spelling starts
    refine iff_of_false (fun kept => ?_) conspicuous
    rw [read, KillingTest.identity?] at kept
    split at kept
    · cases kept
    · have noSuite := congrArg TestId.suite (Option.some.inj kept)
      exact named.suite.some (by simpa [id] using noSuite.symm)
  · rw [ofTrimmed?_of_notSegment named spelling starts, identity?_eq_some_id_iff,
      unqualified_head named]
    cases spelling with
    | qualifiedInSuite => simpa [Inconspicuous] using starts
    | inSuite =>
        simp only [Inconspicuous, starts, not_false_eq_true, true_and]
        rw [← dot_mem_name_iff named]
        refine ⟨fun kept => kept ▸ Text.not_mem_afterLast '.' test.name, fun noDot => ?_⟩
        rw [Text.afterLast, Text.cutLast_eq_none noDot]

/-- A spelling starts with a name and ends with a parenthesis. -/
theorem isTrimmed_spelled (named : test.IsNamed) (spelling : Spelling) :
    Text.IsTrimmed (test.spelled spelling) := by
  obtain ⟨front, back, isName, starts⟩ : ∃ front back, KillingTest.IsName front ∧
      test.spelled spelling = front ++ back := by
    cases spelling with
    | inSuite => exact ⟨_, _, named.method, List.append_assoc ..⟩
    | qualifiedInSuite => exact ⟨_, _, named.suite, List.append_assoc ..⟩
  obtain ⟨character, others, isFront⟩ := List.exists_cons_of_ne_nil isName.some
  constructor
  · intro first isFirst
    rw [starts, isFront] at isFirst
    obtain rfl : character = first := by simpa using isFirst
    exact isName.noBlank character (by simp [isFront])
  · intro last isLast
    have isParenthesis : (test.spelled spelling).getLast? = some ')' := by
      rw [spelled, ← List.cons_append, ← List.append_assoc, List.getLast?_concat]
    obtain rfl : ')' = last := by simpa [isParenthesis] using isLast
    decide

end ParameterizedTest

namespace MutationReport

/-- **Killing tests with parameters.** A record whose killing test is spelled with parameters is
read, and its kill goes to that test just if the parameters are inconspicuous in that spelling. -/
theorem parameterized_name_kept_iff {test : ParameterizedTest} (named : test.IsNamed)
    (spelling : ParameterizedTest.Spelling) {record : Record} {line before after : List Char}
    (isLine : record.IsLine line) {number : UInt32} {state : MutantState}
    (numeral : IsNumeral (trimChars record.line) number.toNat)
    (isState : trimChars record.state = state.name.toList)
    (killer : record.killingTest = some (before ++ test.spelled spelling ++ after))
    (blanksBefore : AllBlank before) (blanksAfter : AllBlank after) :
    ∃ outcome, outcomeOf (fieldsOf line) = .ok outcome ∧
      (outcome.killingTest = some test.id ↔ test.Inconspicuous spelling) := by
  have read : (record.killingTest.bind fun raw => KillingTest.ofText? (String.ofList raw)) =
      KillingTest.ofTrimmed? (test.spelled spelling) := by
    rw [killer, Option.bind_some, KillingTest.ofText?, String.toList_ofList,
      Text.trimChars_between blanksBefore
        (ParameterizedTest.isTrimmed_spelled named spelling) blanksAfter]
  exact ⟨⟨⟨_, _, _, number⟩, state, _⟩,
    outcomeOf_of_isRecordOf ⟨record, isLine, rfl, rfl, rfl, numeral, isState, read.symm⟩,
    ParameterizedTest.ofTrimmed?_spelled_iff named spelling⟩

/-- A record of a test that is run with two numbers and spelled with its suite in front. -/
theorem dotted_name_kept :
    let test : ParameterizedTest := ⟨"com.acme.CalcTest".toList, "testAdd".toList, "1.5, 2".toList⟩
    let record : Record := ⟨"Calc.java".toList, "com.acme.Calc".toList, "MathMutator".toList,
      "add".toList, "12".toList, "KILLED".toList,
      some ([' '] ++ test.spelled .qualifiedInSuite ++ [])⟩
    let line := ("Calc.java,com.acme.Calc,MathMutator,add,12,KILLED, " ++
      "com.acme.CalcTest.testAdd[1.5, 2](com.acme.CalcTest)").toList
    test.IsNamed ∧ record.IsLine line ∧ IsNumeral (trimChars record.line) (12 : UInt32).toNat ∧
      trimChars record.state = MutantState.killed.name.toList ∧
      ∃ outcome, outcomeOf (fieldsOf line) = .ok outcome ∧ outcome.killingTest = some test.id := by
  intro test record line
  have named : test.IsNamed := by decide
  have isLine : record.IsLine line := ⟨by decide +kernel, by decide +kernel⟩
  have numeral : IsNumeral (trimChars record.line) (12 : UInt32).toNat :=
    Text.word32?_eq_some_iff.1 (by decide +kernel)
  have isState : trimChars record.state = MutantState.killed.name.toList := by decide +kernel
  obtain ⟨outcome, read, kept⟩ := parameterized_name_kept_iff named .qualifiedInSuite isLine
    numeral isState rfl (show AllBlank [' '] by decide) (show AllBlank [] by decide)
  have notStart : test.Inconspicuous .qualifiedInSuite := by
    change ¬ ParameterizedTest.segmentStart <+: test.parameters
    decide
  exact ⟨named, isLine, numeral, isState, outcome, read, kept.2 notStart⟩

/-- **Names that are lost.** A dot among the parameters makes the two spellings of one test into two
tests, and parameters that look like a segment take the suite away from it. -/
theorem parameterized_names_lost :
    let dotted : ParameterizedTest := ⟨"com.acme.CalcTest".toList, "testAdd".toList, "1.5".toList⟩
    let labelled : ParameterizedTest :=
      ⟨"com.acme.CalcTest".toList, "testAdd".toList, "method:add".toList⟩
    let killer (name : String) : Option (List (Option TestId)) :=
      (parse ("Calc.java,com.acme.Calc,MathMutator,add,12,KILLED," ++ name)).toOption.map
        (·.map MutantOutcome.killingTest)
    dotted.IsNamed ∧ labelled.IsNamed ∧
      killer "testAdd[1.5](com.acme.CalcTest)" = some [some ⟨"com.acme.CalcTest", "5]"⟩] ∧
      killer "com.acme.CalcTest.testAdd[1.5](com.acme.CalcTest)" = some [some dotted.id] ∧
      dotted.id ≠ ⟨"com.acme.CalcTest", "5]"⟩ ∧
      killer "testAdd[method:add](com.acme.CalcTest)" = some [some ⟨"", "add"⟩] ∧
      labelled.id ≠ ⟨"", "add"⟩ :=
  ⟨by decide, by decide, by decide +kernel, by decide +kernel, by decide +kernel, by decide +kernel,
    by decide +kernel⟩

end MutationReport

end TestAmplification
