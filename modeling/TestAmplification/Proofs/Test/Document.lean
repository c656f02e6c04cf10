import TestAmplification.Proofs.Json.Layout
import TestAmplification.Proofs.Table
import TestAmplification.Tooling.SuiteFile

/-!
# Documents of tests, mutants and results are read back

Every identity, state, outcome, test, suite and result is restored from its document. A test
without an origin is written without that member, so its two shapes are read separately. A result
is restored because the set made from the members of a set is that set.

The main result, `documents_read_back`, is about texts: the content of a suite's file is read as
the suite, and the texts of tests, outcomes and results are read as what was written.
-/

set_option autoImplicit false

namespace TestAmplification

open Json (Restores wellSpelled_ofMembers wellSpelled_ofText wellSpelled_ofNat fieldValues?_ofMembers
  memberValue? restores_text)

/-! ## Identities -/

theorem TestId.restores : Restores TestId.toJson TestId.ofJson? where
  wellSpelled id := wellSpelled_ofMembers (by simp [wellSpelled_ofText])
  reads id := by simp [toJson, ofJson?, fieldValues?_ofMembers, memberValue?]

theorem MutantId.restores : Restores MutantId.toJson MutantId.ofJson? where
  wellSpelled mutant := wellSpelled_ofMembers (by simp [wellSpelled_ofText, wellSpelled_ofNat])
  reads mutant := by simp [toJson, ofJson?, fieldValues?_ofMembers, memberValue?]

/-! ## Outcomes of mutants -/

theorem MutantState.restores : Restores MutantState.toJson MutantState.ofJson? where
  wellSpelled state := wellSpelled_ofText state.name
  reads state := by
    simp [toJson, ofJson?, Json.ofText, Json.textOf?_spell, MutantState.ofName?_name]

theorem TestId.toJson_ne_null (id : TestId) : id.toJson ≠ .null :=
  nofun

/-- An outcome is restored, whether or not a test is named. -/
theorem MutantOutcome.restores : Restores MutantOutcome.toJson MutantOutcome.ofJson? where
  wellSpelled outcome := by
    have test : Json.WellSpelled ((outcome.killingTest.map TestId.toJson).getD .null) := by
      cases outcome.killingTest with
      | none => exact .null
      | some id => exact TestId.restores.wellSpelled id
    exact wellSpelled_ofMembers (by
      simp [test, MutantId.restores.wellSpelled, MutantState.restores.wellSpelled])
  reads outcome := by
    have test := TestId.restores.optional?_getD_null TestId.toJson_ne_null outcome.killingTest
    simp [toJson, ofJson?, fieldValues?_ofMembers, memberValue?, test, MutantId.restores.reads,
      MutantState.restores.reads]

/-! ## Tests and suites -/

/-- A test is restored: without an origin the member is left out and read as no origin. -/
theorem TestCase.restores : Restores TestCase.toJson TestCase.ofJson? where
  wellSpelled test := by
    refine wellSpelled_ofMembers ?_
    cases test.derivedFrom with
    | none => simp [TestId.restores.wellSpelled, wellSpelled_ofText, wellSpelled_ofNat]
    | some origin => simp [TestId.restores.wellSpelled, wellSpelled_ofText, wellSpelled_ofNat]
  reads test := by
    obtain ⟨id, body, derivedFrom, assertionsAdded, inputsAdded⟩ := test
    cases derivedFrom with
    | none =>
        simp [toJson, ofJson?, fieldValues?_ofMembers, memberValue?, TestId.restores.reads,
          Json.optional?, Json.withDefault?]
    | some origin =>
        have present := TestId.restores.optional?_some origin.toJson_ne_null
        simp [toJson, ofJson?, fieldValues?_ofMembers, memberValue?, TestId.restores.reads, present,
          Json.withDefault?]

theorem TestSuite.restores : Restores TestSuite.toJson TestSuite.ofJson? where
  wellSpelled suite := wellSpelled_ofMembers (by
    simp [wellSpelled_ofText, restores_text.list.wellSpelled suite.fixtures,
      TestCase.restores.list.wellSpelled suite.methods])
  reads suite := by
    simp [toJson, ofJson?, fieldValues?_ofMembers, memberValue?, Json.withDefault?,
      restores_text.list?_map, TestCase.restores.list?_map]

/-! ## Results -/

/-- A result is restored, since its sets are those of their members. -/
theorem ExecutionResult.restores : Restores ExecutionResult.toJson ExecutionResult.ofJson? where
  wellSpelled result := wellSpelled_ofMembers (by
    simp [TestId.restores.list.wellSpelled result.testsRun.toList,
      TestId.restores.list.wellSpelled result.failures.toList])
  reads result := by
    simp [toJson, ofJson?, fieldValues?_ofMembers, memberValue?, TestId.restores.list?_map, ofLists,
      KeySet.ofList_toList]

/-! ## Texts -/

/-- **Every suite survives its file, and every test, outcome and result survives its text.** The
content of a suite's file is read as exactly that suite, and so are the texts of a test, an
outcome and a result, in the compact layout and in the indented one, as what was written. -/
theorem documents_read_back :
    (∀ suite : TestSuite,
      (Json.parse? (SuiteFile.content suite)).bind TestSuite.ofJson? = some suite) ∧
    (∀ test : TestCase,
      (Json.parse? test.toJson.compact).bind TestCase.ofJson? = some test ∧
      (Json.parse? test.toJson.indented).bind TestCase.ofJson? = some test) ∧
    (∀ outcome : MutantOutcome,
      (Json.parse? outcome.toJson.compact).bind MutantOutcome.ofJson? = some outcome ∧
      (Json.parse? outcome.toJson.indented).bind MutantOutcome.ofJson? = some outcome) ∧
    (∀ result : ExecutionResult,
      (Json.parse? result.toJson.compact).bind ExecutionResult.ofJson? = some result ∧
      (Json.parse? result.toJson.indented).bind ExecutionResult.ofJson? = some result) := by
  refine ⟨fun suite => ?_, fun test => ?_, fun outcome => ?_, fun result => ?_⟩
  · exact TestSuite.restores.parse?_indented suite
  · exact ⟨TestCase.restores.parse?_compact test, TestCase.restores.parse?_indented test⟩
  · exact ⟨MutantOutcome.restores.parse?_compact outcome,
      MutantOutcome.restores.parse?_indented outcome⟩
  · exact ⟨ExecutionResult.restores.parse?_compact result,
      ExecutionResult.restores.parse?_indented result⟩

end TestAmplification
