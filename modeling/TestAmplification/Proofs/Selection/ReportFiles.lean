import TestAmplification.Json.Record
import TestAmplification.Proofs.Json.Layout
import TestAmplification.Proofs.Selection.Counting
import TestAmplification.Proofs.Selection.Session

/-!
# The files of a report

A report writes a text that counts and a document that lists. The document is keyed by method name
and the credits by test, but all tests of a report are of one suite, so no two of them share an
entry: the document has an entry for each credited test of the suite, and each entry lists the
mutants of its test (`entries_of_killReport`).

In a session no test is listed without a credit and no credited mutant is one that the baseline
kills. So the counts in the text are those of the document, and the mutants that it counts come on
top of those that the initial suite kills (`Session.files_of_report`).
-/

set_option autoImplicit false

namespace TestAmplification

/-! ## What a report says -/

/-- The entries of the document of a report. -/
def KillReport.entries (report : KillReport) : List (String × Json) :=
  report.byMethod.entries.map fun entry => (entry.1, KillReport.testDocument entry.2)

/-- What the text of a report says. -/
theorem KillReport.text_eq (report : KillReport) {selector : String}
    (isSelector : report.selector = selector) :
    report.text =
      "\n======= REPORT =======\n" ++ selector ++ ":\n"
        ++ "The original test suite kills " ++ Text.decimal report.baselineKilled ++ " mutants\n"
        ++ "The amplification results with " ++ Text.decimal report.tests.length ++ " new tests\n"
        ++ "it kills " ++ Text.decimal report.newMutantsKilled ++ " more mutants\n" := by
  subst isSelector
  unfold KillReport.text
  rfl

/-! ## What the document should say -/

/-- What the document of a report says about a mutant. -/
def MutantId.document (mutant : MutantId) : Json :=
  .ofMembers [("ID", .ofText mutant.operator),
    ("lineNumber", .ofText (Text.decimal mutant.line.toNat)),
    ("location", .ofText mutant.location)]

/-- The entry of a test: what was added to the test since its origin, how many mutants it lists, and
these mutants. They are the ones that the test is credited with, each once. -/
structure IsEntryOf (credits : Credits) (genealogy : Genealogy) (test : TestId) (entry : Json)
    (listed : List MutantId) : Prop where
  assertions : ∃ added, genealogy.assertionsSinceOrigin test = .ok added ∧
    entry.member? "#AssertionAdded" = some (.ofNat added)
  inputs : ∃ added, genealogy.inputsSinceOrigin test = .ok added ∧
    entry.member? "#InputAdded" = some (.ofNat added)
  count : entry.member? "#MutantKilled" = some (.ofNat listed.length)
  mutants : entry.member? "MutantsKilled" = some (.array (listed.map MutantId.document))
  distinct : listed.Nodup
  credited : ∀ mutant, mutant ∈ listed ↔ credits.holds test mutant = true

/-- The entries of the credited tests of a suite by method name: one for each of these tests and no
other. -/
structure AreEntriesOf (credits : Credits) (genealogy : Genealogy) (suite : String)
    (entries : List (String × Json)) (listed : String → List MutantId) : Prop where
  distinct : (entries.map Prod.fst).Nodup
  methods : ∀ method, method ∈ entries.map Prod.fst ↔
    ∃ mutant, credits.holds ⟨suite, method⟩ mutant = true
  entry : ∀ method entry, (method, entry) ∈ entries →
    IsEntryOf credits genealogy ⟨suite, method⟩ entry (listed method)

/-- What the entries list is what is credited to the tests of the suite. -/
theorem AreEntriesOf.exists_listed_iff {credits : Credits} {genealogy : Genealogy} {suite : String}
    {entries : List (String × Json)} {listed : String → List MutantId}
    (areEntries : AreEntriesOf credits genealogy suite entries listed) (mutant : MutantId) :
    (∃ method ∈ entries.map Prod.fst, mutant ∈ listed method) ↔
      ∃ test, test.suite = suite ∧ credits.holds test mutant = true := by
  have ofEntry : ∀ method ∈ entries.map Prod.fst,
      (mutant ∈ listed method ↔ credits.holds ⟨suite, method⟩ mutant = true) := by
    intro method member
    obtain ⟨⟨_, entry⟩, isEntry, rfl⟩ := List.mem_map.1 member
    exact (areEntries.entry _ entry isEntry).credited mutant
  constructor
  · rintro ⟨method, member, isListed⟩
    exact ⟨⟨suite, method⟩, rfl, (ofEntry method member).1 isListed⟩
  · rintro ⟨⟨_, method⟩, rfl, holds⟩
    have member := (areEntries.methods method).2 ⟨mutant, holds⟩
    exact ⟨method, member, (ofEntry method member).2 holds⟩

namespace MutationScore

variable {genealogy : Genealogy} {credits : Credits}

/-! ## Documents of single tests -/

/-- Every outcome at a test stands at its own mutant. -/
theorem keys_eq_map_values (named : credits.Named) {test : TestId}
    {mutants : Table MutantId MutantOutcome} (listed : (test, mutants) ∈ credits.entries) :
    mutants.keys = mutants.values.map MutantOutcome.mutant := by
  rw [Table.keys, Table.values, List.map_map]
  refine List.map_congr_left fun entry member => ?_
  exact (named test entry.1 entry.2
    ((Credits.outcome?_eq_some_iff _ _ _).2 ⟨mutants, listed, member⟩)).symm

theorem mutantsOf_eq (named : credits.Named) {test : TestId}
    {mutants : Table MutantId MutantOutcome} (listed : (test, mutants) ∈ credits.entries) :
    credits.mutantsOf test = mutants.values.map MutantOutcome.mutant := by
  rw [Credits.mutantsOf, (Table.find?_eq_some_iff _ _ _).2 listed, Option.map_some,
    Option.getD_some, keys_eq_map_values named listed]

/-- The document of a test is its entry. -/
theorem isEntryOf_testDocument (named : credits.Named) {test : TestId}
    {mutants : Table MutantId MutantOutcome} {kills : TestKills}
    (listed : (test, mutants) ∈ credits.entries)
    (counted : killsOf genealogy test mutants = .ok kills) :
    IsEntryOf credits genealogy test (KillReport.testDocument kills) (credits.mutantsOf test) := by
  obtain ⟨assertions, inputs, -, outcomes⟩ := killsOf_eq_ok_iff.1 counted
  rw [mutantsOf_eq named listed]
  refine ⟨⟨_, assertions, ?_⟩, ⟨_, inputs, ?_⟩, ?_, ?_, ?_, named.mem_values_iff listed⟩
  · simp [KillReport.testDocument, Json.member?_ofMembers_cons]
  · simp [KillReport.testDocument, Json.member?_ofMembers_cons]
  · simp [KillReport.testDocument, Json.member?_ofMembers_cons, outcomes]
  · simp only [KillReport.testDocument, Json.member?_ofMembers_cons, outcomes, List.map_map]
    rfl
  · rw [← keys_eq_map_values named listed]
    exact mutants.nodup_keys

/-! ## Documents of suites -/

section

variable {entries : List (TestId × Table MutantId MutantOutcome)} {tests : List TestKills}

theorem map_test_of_forall₂
    (counted : List.Forall₂ (fun entry kills => killsOf genealogy entry.1 entry.2 = .ok kills)
      entries tests) : tests.map TestKills.test = entries.map Prod.fst := by
  induction counted with
  | nil => rfl
  | cons here _ ih => rw [List.map_cons, List.map_cons, (killsOf_eq_ok_iff.1 here).2.2.1, ih]

theorem exists_of_mem_tests
    (counted : List.Forall₂ (fun entry kills => killsOf genealogy entry.1 entry.2 = .ok kills)
      entries tests) {kills : TestKills} (member : kills ∈ tests) :
    ∃ mutants, (kills.test, mutants) ∈ entries ∧
      killsOf genealogy kills.test mutants = .ok kills := by
  induction counted with
  | nil => cases member
  | @cons entry first _ _ here _ ih =>
      rcases List.mem_cons.1 member with rfl | later
      · rw [(killsOf_eq_ok_iff.1 here).2.2.1]
        exact ⟨entry.2, List.mem_cons_self, here⟩
      · obtain ⟨mutants, listed, counted⟩ := ih later
        exact ⟨mutants, List.mem_cons_of_mem _ listed, counted⟩

end

variable {state : MutationScore} {suite : String} {report : KillReport}

/-- The tests of a kill report are the listed tests of the suite. -/
theorem tests_of_killReport (reported : state.killReport suite genealogy = .ok report) :
    report.tests.map TestKills.test =
      state.credits.keys.filter fun test => test.suite == suite := by
  obtain ⟨-, -, -, counted⟩ := parts_of_killReport reported
  rw [map_test_of_forall₂ counted, Table.keys, List.filter_map]
  rfl

/-- **No two entries have one name**: tests of one suite differ in their methods. -/
theorem nodup_methods_of_killReport
    (reported : state.killReport suite genealogy = .ok report) :
    (report.tests.map fun kills => kills.test.method).Nodup := by
  have tests := tests_of_killReport reported
  have distinct : (report.tests.map TestKills.test).Nodup :=
    tests ▸ state.credits.nodup_keys.filter _
  have ofSuite : ∀ test ∈ report.tests.map TestKills.test, test.suite = suite := by
    intro test member
    rw [tests] at member
    simpa using (List.mem_filter.1 member).2
  have methods := distinct.map_on (f := TestId.method) fun first isFirst second isSecond same => by
    obtain ⟨firstSuite, firstMethod⟩ := first
    obtain ⟨secondSuite, secondMethod⟩ := second
    obtain rfl : firstSuite = suite := ofSuite _ isFirst
    obtain rfl : secondSuite = firstSuite := ofSuite _ isSecond
    exact congrArg _ same
  rwa [List.map_map] at methods

/-- **The entries of a document** are those of the credited tests of the suite, and as many as the
kill report has tests. -/
theorem entries_of_killReport (named : state.credits.Named) (noneEmpty : state.credits.NoneEmpty)
    (reported : state.killReport suite genealogy = .ok report) :
    report.entries.length = report.tests.length ∧
      AreEntriesOf state.credits genealogy suite report.entries
        fun method => state.credits.mutantsOf ⟨suite, method⟩ := by
  have perm : report.byMethod.entries.Perm
      (report.tests.map fun kills => (kills.test.method, kills)) := by
    refine Table.perm_entries_ofList ?_
    rw [List.map_map]
    exact nodup_methods_of_killReport reported
  have names : report.entries.map Prod.fst = report.byMethod.keys := by
    rw [KillReport.entries, List.map_map]
    rfl
  refine ⟨by simp [KillReport.entries, perm.length_eq], ?_, fun method => ?_,
    fun method entry member => ?_⟩
  · rw [names]
    exact report.byMethod.nodup_keys
  · have sameKeys : method ∈ report.byMethod.keys ↔
        ∃ kills ∈ report.tests, kills.test.method = method := by
      rw [Table.keys, (perm.map Prod.fst).mem_iff]
      simp
    have tests := tests_of_killReport reported
    rw [names, sameKeys, ← noneEmpty.mem_keys_iff]
    constructor
    · rintro ⟨kills, member, rfl⟩
      have inKeys : kills.test ∈ report.tests.map TestKills.test := List.mem_map_of_mem member
      rw [tests, List.mem_filter, beq_iff_eq] at inKeys
      obtain ⟨inKeys, rfl⟩ := inKeys
      exact inKeys
    · intro inKeys
      have inTests : (⟨suite, method⟩ : TestId) ∈ report.tests.map TestKills.test := by
        rw [tests, List.mem_filter]
        exact ⟨inKeys, beq_self_eq_true _⟩
      obtain ⟨kills, member, same⟩ := List.mem_map.1 inTests
      exact ⟨kills, member, by rw [same]⟩
  · obtain ⟨⟨_, kills⟩, listed, same⟩ := List.mem_map.1 member
    cases same
    obtain ⟨_, inTests, same⟩ := List.mem_map.1 (perm.mem_iff.1 listed)
    cases same
    obtain ⟨-, -, -, counted⟩ := parts_of_killReport reported
    obtain ⟨mutants, inFiltered, here⟩ := exists_of_mem_tests counted inTests
    obtain ⟨inCredits, ofSuite⟩ := List.mem_filter.1 inFiltered
    obtain rfl := beq_iff_eq.1 ofSuite
    exact isEntryOf_testDocument named inCredits here

/-! ## The files -/

variable {W : Type} {setting : Setting W}

theorem publishAll_cons_eq_ok {publish : Path → String → StateM W (Except String Unit)}
    {path : Path} {content : String} {rest : List (Path × String)} {world after : W}
    (written : publishAll publish ((path, content) :: rest) world = (.ok (), after)) :
    ∃ between, publish path content world = (.ok (), between) ∧
      publishAll publish rest between = (.ok (), after) := by
  simp only [publishAll, StateM.bind_apply] at written
  cases first : (publish path content world).1 with
  | error source =>
      rw [first] at written
      cases congrArg Prod.fst written
  | ok done =>
      rw [first] at written
      exact ⟨_, Prod.ext first rfl, written⟩

/-- A report that succeeds has written the kill report on the current suite. -/
theorem files_of_report_ok {selection : Selection MutationScore W} {result : SelectionReport}
    (reported : (MutationScore.report setting genealogy selection).1 = .ok result) :
    ∃ (suite : TestSuite) (kills : KillReport), selection.state.currentSuite = some suite ∧
      selection.state.killReport suite.name genealogy = .ok kills ∧
      result = reportOn kills ((kills.files setting.outputDirectory).map Prod.fst) ∧
      publishAll setting.publish (kills.files setting.outputDirectory) selection.world =
        (.ok (), (MutationScore.report setting genealogy selection).2.world) := by
  cases active : selection.state.currentSuite with
  | none => simp [MutationScore.report, active] at reported
  | some suite =>
      cases killed : selection.state.killReport suite.name genealogy with
      | error overflow => simp [MutationScore.report, active, killed] at reported
      | ok kills =>
          cases written : (publishAll setting.publish (kills.files setting.outputDirectory)
              selection.world).1 with
          | error error => simp [MutationScore.report, active, killed, written] at reported
          | ok done =>
              simp only [MutationScore.report, active, killed, written, Select.state_apply,
                StateM.bind_apply, StateM.pure_apply, Select.onWorld_apply,
                Select.modifyState_apply, Except.ok.injEq] at reported ⊢
              exact ⟨suite, kills, rfl, killed, reported.symm, Prod.ext written rfl⟩

/-- The text of a report and its document say the same: the document has an entry for each credited
test, the text counts the entries and the mutants that these list, and the baseline kills other
mutants. -/
structure FilesAgree (events : List SessionEvent) (credits : Credits) (genealogy : Genealogy)
    (report : SelectionReport) (text document : String) (entries : List (String × Json))
    (listed : String → List MutantId) : Prop where
  wording : text =
    "\n======= REPORT =======\n" ++ "MutationScoreSelector" ++ ":\n"
      ++ "The original test suite kills " ++ Text.decimal report.baselineKilled ++ " mutants\n"
      ++ "The amplification results with " ++ Text.decimal report.amplifiedTests ++ " new tests\n"
      ++ "it kills " ++ Text.decimal report.newlyKilled ++ " more mutants\n"
  members : Json.parse? document = some (.ofMembers [(report.suite, .ofMembers entries)])
  areEntries : AreEntriesOf credits genealogy report.suite entries listed
  tests : report.amplifiedTests = entries.length
  mutants : report.newlyKilled =
    Set.ncard { mutant | ∃ method ∈ entries.map Prod.fst, mutant ∈ listed method }
  onTop : ∀ outcomes, SessionEvent.loaded outcomes ∈ events →
    report.baselineKilled = Set.ncard { mutant | ∃ outcome ∈ outcomes,
      outcome.mutant = mutant ∧ outcome.state = .killed } ∧
    ∀ method ∈ entries.map Prod.fst, ∀ mutant ∈ listed method, ∀ outcome ∈ outcomes,
      outcome.mutant = mutant → outcome.state ≠ .killed

theorem wellSpelled_document (report : KillReport) : Json.WellSpelled report.document := by
  refine Json.wellSpelled_ofMembers fun member isMember => ?_
  obtain rfl := List.mem_singleton.1 isMember
  refine Json.wellSpelled_ofMembers fun member isMember => ?_
  obtain ⟨⟨method, kills⟩, -, rfl⟩ := List.mem_map.1 isMember
  have mutants : ∀ outcome, Json.WellSpelled (KillReport.mutantDocument outcome) := by
    intro outcome
    refine Json.wellSpelled_ofMembers fun member isMember => ?_
    simp only [List.mem_cons, List.not_mem_nil, or_false] at isMember
    rcases isMember with rfl | rfl | rfl <;> exact Json.wellSpelled_ofText _
  refine Json.wellSpelled_ofMembers fun member isMember => ?_
  simp only [List.mem_cons, List.not_mem_nil, or_false] at isMember
  rcases isMember with rfl | rfl | rfl | rfl
  · exact Json.wellSpelled_ofNat _
  · exact Json.wellSpelled_ofNat _
  · exact Json.wellSpelled_ofNat _
  · exact Json.wellSpelled_array_map _ fun outcome _ => mutants outcome

/-- The baseline counts the mutants that the initial suite kills, each once. -/
theorem size_killed_ofOutcomes (outcomes : List MutantOutcome) :
    (Baseline.ofOutcomes outcomes).killed.size = Set.ncard { mutant | ∃ outcome ∈ outcomes,
      outcome.mutant = mutant ∧ outcome.state = .killed } := by
  have killed : { mutant | ∃ outcome ∈ outcomes,
      outcome.mutant = mutant ∧ outcome.state = .killed } =
        ↑((outcomes.filter MutantOutcome.isKilled).map MutantOutcome.mutant).toFinset := by
    ext mutant
    simp [MutantOutcome.isKilled, and_comm, and_assoc]
  rw [killed, Set.ncard_coe_finset, Baseline.ofOutcomes, KeySet.size_ofList]

/-- **The files of a report agree.** A report that succeeds in a session writes a text and a
document that agree with each other, with the credits and with what is returned. -/
theorem Session.files_of_report {events : List SessionEvent}
    {selection : Selection MutationScore W} (session : Session setting events selection)
    {report : SelectionReport}
    (reported : ((selector setting).report genealogy selection).1 = .ok report) :
    ∃ (suite : TestSuite) (text document : String) (entries : List (String × Json))
      (listed : String → List MutantId) (between : W),
      selection.state.currentSuite = some suite ∧ report.suite = suite.name ∧
      setting.publish (Path.join setting.outputDirectory (suite.name ++ "_mutants_report.txt"))
        text selection.world = (.ok (), between) ∧
      setting.publish (Path.join setting.outputDirectory (suite.name ++ "_mutants_killed.json"))
        document between = (.ok (), ((selector setting).report genealogy selection).2.world) ∧
      FilesAgree events selection.state.credits genealogy report text document entries listed := by
  have invariant := session.invariant
  have named : selection.state.credits.Named := fun test mutant outcome found =>
    (invariant.inOrder test mutant outcome found).sameMutant
  obtain ⟨suite, kills, active, killed, rfl, written⟩ := files_of_report_ok reported
  obtain ⟨isSelector, isSuite, isBaseline, -⟩ := parts_of_killReport killed
  obtain ⟨between, first, written⟩ := publishAll_cons_eq_ok written
  obtain ⟨_, second, written⟩ := publishAll_cons_eq_ok written
  obtain ⟨sameLength, areEntries⟩ := entries_of_killReport named invariant.noneEmpty killed
  cases written
  rw [isSuite] at first second
  refine ⟨suite, kills.text, kills.document.indented, kills.entries,
    fun method => selection.state.credits.mutantsOf ⟨suite.name, method⟩, between, active, isSuite,
    first, second,
    ⟨?_, Json.parse?_indented (wellSpelled_document kills), ?_, sameLength.symm, ?_,
      fun outcomes loaded => ⟨?_, ?_⟩⟩⟩
  · have selector : kills.selector = "MutationScoreSelector" := isSelector
    exact kills.text_eq selector
  · rw [reportOn, isSuite]
    exact areEntries
  · simp only [areEntries.exists_listed_iff]
    exact newMutantsKilled_of_killReport named killed
  · rw [reportOn, isBaseline, invariant.baselineOf outcomes loaded, Option.map_some,
      Option.getD_some, size_killed_ofOutcomes]
  · intro method member mutant isListed outcome inBaseline sameMutant
    obtain ⟨test, -, holds⟩ := (areEntries.exists_listed_iff mutant).1 ⟨method, member, isListed⟩
    obtain ⟨credited, found⟩ := (Credits.holds_iff _ _ _).1 holds
    exact ((invariant.inOrder test mutant credited found).undecided outcomes loaded outcome
      inBaseline sameMutant).1

/-- A session that ends with a report on one kept test, which kills one more mutant. -/
theorem Session.files_of_first_report :
    let test := TestCase.plain ⟨"Suite", "testAdded"⟩ "check()"
    let events := [.loaded [], .passed, .decided [test] [test]]
    ∃ (selection : Selection MutationScore Unit) (report : SelectionReport)
      (text document : String) (entries : List (String × Json)) (listed : String → List MutantId),
      Session (.everyTestKills default) events selection ∧
      ((selector (.everyTestKills default)).report .empty selection).1 = .ok report ∧
      report.newlyKilled = 1 ∧
      FilesAgree events selection.state.credits .empty report text document entries listed := by
  intro test events
  have start : Session (.everyTestKills default) [] ⟨{}, (), []⟩ := .start () []
  have loaded := start.step (.load _ [] rfl)
  have nominated := loaded.step (.nominate _ ⟨"Suite", [], []⟩ [test])
  have decided := nominated.step (.keep _ [test] .empty)
  obtain ⟨suite, text, document, entries, listed, _, -, -, -, -, agree⟩ :=
    @Session.files_of_report .empty Unit (.everyTestKills default) _ _ decided _ rfl
  exact ⟨_, _, text, document, entries, listed, decided, rfl, rfl, agree⟩

end MutationScore

end TestAmplification
