import TestAmplification.Proofs.Amplification.DecisionRule
import TestAmplification.Proofs.Amplification.KeptTests

/-!
# One suite after the other

The selector by mutation score notes a suite with the first nomination and scores candidates for
the noted suite only. A report closes the suite, unless it fails: then the suite stays noted, and
all candidates of the following calls are scored for it, until a report succeeds. Which suite
is noted can be told from the calls so far and their answers (`openSuite`), and whatever the
engine is asked about during a call was built from that suite, or from the suite of the call if
none is noted (`scored_suites_of_calls`). As long as no report fails, nothing of one suite gets into
the scoring of another. After a failed one it does (`failed_report_crosses_suites`).
-/

set_option autoImplicit false

namespace TestAmplification

open MutationScore

/-! ## Calls -/

/-- The amplification of a suite with a report on it, and what came of it. -/
structure SuiteCall where
  /-- The suite. -/
  suite : TestSuite
  /-- The answer. -/
  answer : Except ReportError (Option SuiteOutcome)

/-- The suite that is noted after a call, given the one that was noted before. A successful report
leaves none, a failed one leaves the suite that it was about. -/
def openAfter (noted : Option TestSuite) (call : SuiteCall) : Option TestSuite :=
  match call.answer with
  | .ok none => noted
  | .ok (some _) => none
  | .error _ => some (noted.getD call.suite)

/-- The suite that is noted after calls. -/
def openSuite (calls : List SuiteCall) : Option TestSuite :=
  calls.foldl openAfter none

section

variable {W : Type} (workshop : Workshop W) (setting : Setting W)

/-- The runs that calls come to, from a run with no suite noted. Between the calls the settings
and the world may become any others. -/
inductive SuiteCalls : List SuiteCall → Run MutationScore W → Prop where
  | start (run : Run MutationScore W) (idle : run.selector.currentSuite = none) :
      SuiteCalls [] run
  | call {calls : List SuiteCall} {run ended : Run MutationScore W}
      {answer : Except ReportError (Option SuiteOutcome)} (earlier : SuiteCalls calls run)
      (settings : Settings) (world : W) (suite : TestSuite) (maxIterations : UInt32)
      (result : (byMutationScore workshop setting settings).runSuite suite maxIterations
        { run with world } = (answer, ended)) :
      SuiteCalls (calls ++ [⟨suite, answer⟩]) ended

end

/-- The suite has the name and the fixtures of the base, and its methods start with those of the
base that are no tests. -/
structure BuiltFrom (isTest : TestPredicate) (base suite : TestSuite) : Prop where
  name : suite.name = base.name
  fixtures : suite.fixtures = base.fixtures
  helpers : base.methods.filter (fun method => !isTest method) <+: suite.methods

theorem builtFrom_extendedWith (isTest : TestPredicate) (base : TestSuite)
    (candidates : List TestCase) :
    BuiltFrom isTest base ((base.withoutTests isTest).extendedWith candidates) := by
  rw [TestSuite.extendedWith_eq]
  exact ⟨rfl, rfl, List.prefix_append _ _⟩

/-! ## One call -/

section

variable {W : Type} {workshop : Workshop W} {setting : Setting W} {settings : Settings}
  {suite : TestSuite} {start run : Run MutationScore W}

variable (setting suite) in
/-- Since the start, the engine was asked only about suites built from the one that was noted
then, or from the given one if none was. That suite is noted still, or for the first
time. -/
structure StaysWith (start run : Run MutationScore W) : Prop where
  noted : run.selector.currentSuite = start.selector.currentSuite ∨
    run.selector.currentSuite = some (start.selector.currentSuite.getD suite)
  asked : ∃ asked, run.analyzed = start.analyzed ++ asked ∧ ∀ scored ∈ asked,
    BuiltFrom setting.isTest (start.selector.currentSuite.getD suite) scored

namespace StaysWith

variable {after : Run MutationScore W}

theorem base (stays : StaysWith setting suite start run) :
    run.selector.currentSuite.getD suite = start.selector.currentSuite.getD suite := by
  rcases stays.noted with same | base
  · rw [same]
  · rw [base, Option.getD_some]

/-- A step that notes no other suite and asks about suites built from the noted one. -/
theorem step (stays : StaysWith setting suite start run)
    (noted : after.selector.currentSuite = run.selector.currentSuite ∨
      after.selector.currentSuite = some (run.selector.currentSuite.getD suite))
    {more : List TestSuite} (asked : after.analyzed = run.analyzed ++ more)
    (built : ∀ scored ∈ more,
      BuiltFrom setting.isTest (run.selector.currentSuite.getD suite) scored) :
    StaysWith setting suite start after := by
  rw [stays.base] at noted built
  obtain ⟨before, same, all⟩ := stays.asked
  refine ⟨?_, before ++ more, ?_, fun scored member => ?_⟩
  · rcases noted with same | base
    · rw [same]
      exact stays.noted
    · exact .inr base
  · rw [asked, same, List.append_assoc]
  · exact (List.mem_append.1 member).elim (all scored) (built scored)

/-- No decision was made since. -/
theorem advance (stays : StaysWith setting suite start run) (advances : run.Advances after) :
    StaysWith setting suite start after :=
  stays.step (.inl (congrArg _ advances.selector))
    (advances.analyzed.trans (List.append_nil _).symm) nofun

theorem judge (stays : StaysWith setting suite start run) (seed : Option TestCase)
    (candidates : List TestCase) :
    StaysWith setting suite start
      ((byMutationScore workshop setting settings).judge seed candidates run).2 := by
  have sameSuite := (keep_leaves setting candidates run.genealogy
    ⟨run.selector, run.world, []⟩).2
  have asked := consult_analyzed (keep setting candidates run.genealogy) run
  rw [suites_keep] at asked
  refine stays.step (.inl sameSuite) asked fun scored member => ?_
  obtain ⟨initial, active, rfl⟩ := noted_of_scoredSuite? setting (Option.mem_toList.1 member)
  rw [active]
  exact builtFrom_extendedWith _ _ _

variable (workshop setting settings suite start) in
/-- **All decisions of a call stay with one suite.** -/
theorem decisionRule :
    DecisionRule (byMutationScore workshop setting settings) suite
      (fun _ _ => StaysWith setting suite start) fun _ => True where
  quiet := ⟨rfl, rfl⟩
  lasts _ _ _ _ advances stays := stays.advance advances
  stays _ _ _ _ := trivial
  next _ _ _ _ stays := stays
  nominate _ _ tests run stays := by
    refine ⟨stays.step ?_ (consult_analyzed _ _) nofun, fun _ => trivial⟩
    have noted := currentSuite_enter run.selector suite tests
    by_cases nobody : tests.isEmpty = true
    · exact .inl (noted.trans (if_pos nobody))
    · exact .inr (noted.trans (if_neg nobody))
  first candidates _ _ now := now.1.judge none candidates
  judge _ seed _ _ _ _ _ := by
    rintro ⟨before, ⟨stays, -⟩, ran⟩
    exact (stays.advance ran.advances).judge (some seed) _

end StaysWith

variable (workshop setting settings suite start) in
theorem amplify_staysWith (seedTests : List TestCase) (maxIterations : UInt32) :
    let amplified :=
      (byMutationScore workshop setting settings).amplify suite seedTests maxIterations start
    StaysWith setting suite start amplified.2 ∧
      (amplified.1 = none →
        amplified.2.selector.currentSuite = start.selector.currentSuite) := by
  have rule := StaysWith.decisionRule workshop setting settings suite start
  have lasting : Run.Lasting fun run : Run MutationScore W =>
      run.selector.currentSuite = start.selector.currentSuite ∧ StaysWith setting suite start run :=
    fun _ _ advances now =>
      ⟨(congrArg _ advances.selector).trans now.1, rule.lasts [] [] _ _ advances now.2⟩
  have init : Ensures
      (fun run : Run MutationScore W =>
        run.selector.currentSuite = start.selector.currentSuite ∧
          StaysWith setting suite start run)
      (Amplify.consult (prepare setting)) fun answer run =>
        (run.selector.currentSuite = start.selector.currentSuite ∧
          StaysWith setting suite start run) ∧ (answer = .ok () → True) := by
    rintro run ⟨same, stays⟩
    have asked := consult_analyzed (prepare setting) run
    rw [suites_prepare] at asked
    have kept := currentSuite_prepare setting ⟨run.selector, run.world, []⟩
    exact ⟨⟨kept.trans same, stays.step (.inl kept) asked nofun⟩, fun _ => trivial⟩
  have idle : StaysWith setting suite start start :=
    ⟨.inl rfl, [], (List.append_nil _).symm, nofun⟩
  rcases rule.amplify_ensures lasting init (fun _ now _ => now.2) (fun _ _ _ _ => trivial)
    seedTests maxIterations start ⟨rfl, idle⟩ with ⟨-, same, stays⟩ | ⟨_, _, -, stays, answer⟩
  · exact ⟨stays, fun _ => same⟩
  · exact ⟨stays, fun nothing => nomatch answer.symm.trans nothing⟩

variable (workshop settings) in
/-- A report that succeeds leaves no suite noted, and so does one that is refused because none
was. One that fails leaves the suite that the call stays with. -/
theorem StaysWith.report (stays : StaysWith setting suite start run) :
    let reported := (byMutationScore workshop setting settings).report run
    reported.2.analyzed = run.analyzed ∧
      (reported.1.isOk = true ∨ reported.1 = .error .noActiveSuite →
        reported.2.selector.currentSuite = none) ∧
      ∀ error, error ≠ .noActiveSuite → reported.1 = .error error →
        reported.2.selector.currentSuite = some (start.selector.currentSuite.getD suite) := by
  intro reported
  have asked := consult_analyzed (MutationScore.report setting run.genealogy) run
  rw [report_calls] at asked
  refine ⟨asked.trans (List.append_nil _), ?_⟩
  have sameBase := stays.base
  rcases report_cases setting run.genealogy ⟨run.selector, run.world, []⟩ with
    ⟨idle, answer, same⟩ |
    ⟨noted, active, ⟨error, other, answer, same⟩ | ⟨kills, -, answer, closed⟩⟩
  · refine ⟨fun _ => ?_, fun error other failed => ?_⟩
    · exact (congrArg _ same).trans idle
    · cases (show reported.1 = _ from answer).symm.trans failed
      exact absurd rfl other
  · have base : noted = start.selector.currentSuite.getD suite := by
      rw [← sameBase, show run.selector.currentSuite = some noted from active, Option.getD_some]
    refine ⟨fun fine => ?_, fun _ _ _ => ?_⟩
    · rw [show reported.1 = _ from answer] at fine
      rcases fine with fine | refused
      · cases fine
      · cases refused
        exact absurd rfl other
    · rw [← base]
      exact (congrArg _ same).trans active
  · refine ⟨fun _ => congrArg _ closed, fun error _ failed => ?_⟩
    cases (show reported.1 = _ from answer).symm.trans failed

variable (workshop setting settings suite start) in
/-- **One call.** All suites that the engine was asked about are built from one suite, and which
suite is noted afterwards can be told from the answer. -/
theorem runSuite_staysWith (maxIterations : UInt32) :
    let ended := (byMutationScore workshop setting settings).runSuite suite maxIterations start
    (∃ asked, ended.2.analyzed = start.analyzed ++ asked ∧ ∀ scored ∈ asked,
      BuiltFrom setting.isTest (start.selector.currentSuite.getD suite) scored) ∧
    ended.2.selector.currentSuite =
      openAfter start.selector.currentSuite ⟨suite, ended.1⟩ := by
  intro ended
  obtain ⟨stays, untouched⟩ :=
    amplify_staysWith workshop setting settings suite start suite.methods maxIterations
  rcases (byMutationScore workshop setting settings).runSuite_cases suite maxIterations start with
    ⟨nothing, answer, same⟩ | ⟨same, outcome⟩
  · refine ⟨same ▸ stays.asked, ?_⟩
    rw [show ended.1 = .ok none from answer, show ended.2 = _ from same, untouched nothing]
    rfl
  · obtain ⟨sameQuestions, closes, fails⟩ := stays.report workshop settings
    rw [show ended.2 = _ from same]
    refine ⟨sameQuestions ▸ stays.asked, ?_⟩
    rcases outcome with ⟨fine, _, answer⟩ | ⟨error, other, failed, answer⟩
    · rw [show ended.1 = _ from answer]
      exact closes fine
    · rw [show ended.1 = _ from answer]
      exact fails error other failed

end

/-! ## Sequences of calls -/

section

variable {W : Type} {workshop : Workshop W} {setting : Setting W} {calls : List SuiteCall}
  {run : Run MutationScore W}

/-- The noted suite can be told from the calls. -/
theorem SuiteCalls.noted (history : SuiteCalls workshop setting calls run) :
    run.selector.currentSuite = openSuite calls := by
  induction history with
  | start run idle => exact idle
  | @call calls run ended answer _ settings world suite maxIterations result ih =>
      have one := (runSuite_staysWith workshop setting settings suite { run with world }
        maxIterations).2
      rw [result] at one
      rw [openSuite, List.foldl_append, ← openSuite, ← ih]
      exact one

theorem openSuite_eq_none (calls : List SuiteCall)
    (fine : ∀ call ∈ calls, call.answer.isOk = true) : openSuite calls = none := by
  induction calls using List.reverseRecOn with
  | nil => rfl
  | append_singleton earlier call ih =>
      have idle := ih fun other member => fine other (List.mem_append_left _ member)
      have last := fine call (List.mem_append_right _ (.head _))
      rw [openSuite, List.foldl_append, ← openSuite, idle]
      obtain ⟨suite, answer⟩ := call
      cases answer with
      | error error => cases last
      | ok outcome => cases outcome <;> rfl

end

/-- **Suites are scored one after the other, unless a report fails.** Take any calls for any
suites with one selector that had no suite noted before, with any settings, whatever the
tools did and whatever the answers were. During a further call the engine is asked only about
suites with the name, the fixtures and the helper methods of the suite that the calls
left noted. If they left none, in particular if no call failed, that is the suite of the
call. -/
theorem scored_suites_of_calls {W : Type} (workshop : Workshop W) (setting : Setting W)
    {calls : List SuiteCall} {run : Run MutationScore W}
    (history : SuiteCalls workshop setting calls run) (settings : Settings) (world : W)
    (suite : TestSuite) (maxIterations : UInt32) :
    ∃ asked, ((byMutationScore workshop setting settings).runSuite suite maxIterations
        { run with world }).2.analyzed = run.analyzed ++ asked ∧
      (∀ scored ∈ asked, BuiltFrom setting.isTest ((openSuite calls).getD suite) scored) ∧
      ((∀ call ∈ calls, call.answer.isOk = true) →
        ∀ scored ∈ asked, BuiltFrom setting.isTest suite scored) := by
  obtain ⟨⟨asked, same, built⟩, -⟩ :=
    runSuite_staysWith workshop setting settings suite { run with world } maxIterations
  have base : ∀ scored ∈ asked, BuiltFrom setting.isTest ((openSuite calls).getD suite) scored :=
    history.noted ▸ built
  refine ⟨asked, same, base, fun fine => ?_⟩
  rw [openSuite_eq_none calls fine] at base
  exact base

/-- When the report on the first suite was written, the second suite is scored for itself. -/
theorem second_suite_scored_for_itself :
    let setting : Setting Unit := .everyTestKills default
    let amplification := byMutationScore .simple setting {}
    let first : TestSuite :=
      ⟨"First", ["account"], [.plain ⟨"First", "testOnce"⟩ "check()"]⟩
    let second : TestSuite := ⟨"Second", [], [.plain ⟨"Second", "testOnce"⟩ "check()"]⟩
    let one := amplification.runSuite first 1 { selector := {}, world := () }
    let two := amplification.runSuite second 1 one.2
    ∃ asked, two.2.analyzed = one.2.analyzed ++ asked ∧ asked ≠ [] ∧
      ∀ scored ∈ asked, BuiltFrom setting.isTest second scored := by
  intro setting amplification first second one two
  have history : SuiteCalls .simple setting [⟨first, one.1⟩] one.2 :=
    .call (.start { selector := {}, world := () } rfl) {} () first 1 rfl
  have fine : one.1.isOk = true := by decide +kernel
  have more : two.2.analyzed ≠ one.2.analyzed := by decide +kernel
  obtain ⟨asked, same, -, built⟩ := scored_suites_of_calls .simple setting history {} () second 1
  refine ⟨asked, same, ?_, built fun call only => ?_⟩
  · rintro rfl
    exact more (same.trans (List.append_nil _))
  · rw [List.mem_singleton.1 only]
    exact fine

/-- **A failed report crosses suites.** When the report on the first suite cannot be written, a
candidate for the second suite is scored as a test of the first. -/
theorem failed_report_crosses_suites :
    let setting : Setting Unit :=
      { Setting.everyTestKills default with publish := fun _ _ => return .error "refused" }
    let amplification := byMutationScore .simple setting {}
    let first : TestSuite :=
      ⟨"First", ["account"], [.plain ⟨"First", "testOnce"⟩ "check()"]⟩
    let second : TestSuite := ⟨"Second", [], [.plain ⟨"Second", "testOnce"⟩ "check()"]⟩
    let one := amplification.runSuite first 1 { selector := {}, world := () }
    let two := amplification.runSuite second 1 one.2
    SuiteCalls .simple setting [⟨first, one.1⟩] one.2 ∧
      ∃ scored, two.2.analyzed = one.2.analyzed ++ [scored] ∧
        ¬ BuiltFrom setting.isTest second scored := by
  intro setting amplification first second one two
  refine ⟨.call (.start { selector := {}, world := () } rfl) {} () first 1 rfl,
    ⟨"First", ["account"],
      [.plain ⟨"Second", "againtestOnce"⟩ "check() again() assert()"]⟩, ?_, fun built => ?_⟩
  · decide +kernel
  · exact absurd built.name (by decide)

end TestAmplification
