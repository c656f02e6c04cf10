import TestAmplification.Proofs.Amplification.Preflight

/-!
# The runs of a preflight

A preflight is a sequence of runs, each of one batch. The first batch is the seed tests, and every
later one is what the run before left of its batch. Compiler and runner may answer
anything: they may fail, name tests that nobody submitted, or change their minds between two runs.
`NarrowedBy` says what holds nevertheless of the runs, the excluded tests and the answer. It is
shown from the last run backwards (`Narrows.exists_runs`); the step puts one more run in front of
those that narrow what it leaves (`NarrowedBy.cons`).
-/

set_option autoImplicit false

namespace TestAmplification

open Orchestrator

/-! ## Runs of batches -/

/-- A batch that was compiled and run. -/
structure BatchRun where
  /-- The tests of the batch. -/
  batch : List TestCase
  /-- What became of the batch. -/
  outcome : Except BatchFailure ExecutionResult
  /-- What compiler and runner answered. -/
  answers : List ToolAnswer

namespace BatchRun

/-- The run came to a result, which names the test as failed. -/
def blames (run : BatchRun) (test : TestCase) : Bool :=
  match run.outcome with
  | .ok result => result.hasFailed test.id
  | .error _ => false

/-- The tests of the batch that the run names as failed. -/
def blamed (run : BatchRun) : List TestCase :=
  run.batch.filter run.blames

theorem batch_ne_nil {run : BatchRun} (named : run.blamed ≠ []) : run.batch ≠ [] := by
  intro empty
  simp [blamed, empty] at named

/-- The ways in which a run can end a preflight without tests. -/
inductive LeavesNone (run : BatchRun) : Prop where
  /-- The batch fails as a whole. -/
  | failed (failure : BatchFailure) (outcome : run.outcome = .error failure)
  /-- There are failures, and none of them is a test of the batch. -/
  | blamesOthers (result : ExecutionResult) (outcome : run.outcome = .ok result)
      (red : result.failures.isEmpty = false) (others : run.blamed = [])
  /-- Every test of the batch is named as failed. -/
  | blamesAll (result : ExecutionResult) (outcome : run.outcome = .ok result)
      (all : run.blamed = run.batch)

end BatchRun

/-- No run names the test as failed. -/
def unblamed (runs : List BatchRun) (test : TestCase) : Bool :=
  runs.all fun run => !run.blames test

/-- The runs narrow the tests and come to an answer. -/
structure NarrowedBy (suite : TestSuite) (tests : List TestCase) (runs : List BatchRun)
    (answer : Option (List TestCase)) : Prop where
  /-- Every run is one of a batch, with the answers of compiler and runner to it. -/
  answered : ∀ run ∈ runs, BatchAnswered suite run.batch run.outcome run.answers
  /-- There are no more runs than tests. -/
  few : runs.length ≤ tests.length
  /-- A batch consists of the tests that no earlier run has blamed, and there are such tests. -/
  batches : ∀ earlier run later, runs = earlier ++ run :: later →
    run.batch = tests.filter (unblamed earlier) ∧ run.batch ≠ []
  /-- Every test is blamed once, in a batch that it belongs to, or no run blames it. -/
  once : (runs.flatMap BatchRun.blamed ++ tests.filter (unblamed runs)).Perm tests
  /-- The tests that remain are those that no run before the last one has blamed, and the last
  run was one of just these and named no failed test at all. -/
  remaining : ∀ rest, answer = some rest → rest ≠ [] ∧ ∃ earlier last result,
    runs = earlier ++ [last] ∧ rest = tests.filter (unblamed earlier) ∧ last.batch = rest ∧
      last.outcome = .ok result ∧ result.failures.isEmpty = true
  /-- There is no answer exactly when there is no test or a run leaves none. -/
  none_iff : answer = none ↔ tests = [] ∨ ∃ run ∈ runs, run.LeavesNone

theorem filter_unblamed_nil (tests : List TestCase) : tests.filter (unblamed []) = tests :=
  List.filter_eq_self.2 fun _ _ => rfl

/-- The tests that no run blames are those that the first one leaves and no other one blames. -/
theorem filter_unblamed_cons (run : BatchRun) (runs : List BatchRun) (tests : List TestCase) :
    tests.filter (unblamed (run :: runs)) =
      (tests.filter fun test => !run.blames test).filter (unblamed runs) := by
  rw [List.filter_filter]
  refine List.filter_congr fun test _ => ?_
  rw [unblamed, List.all_cons, Bool.and_comm]
  rfl

namespace NarrowedBy

variable {suite : TestSuite} {tests : List TestCase} {runs : List BatchRun}
  {answer : Option (List TestCase)} {run : BatchRun}

theorem nobody : NarrowedBy suite [] [] none where
  answered := nofun
  few := Nat.le_refl 0
  batches _ _ _ same := by simp at same
  once := .refl _
  remaining := nofun
  none_iff := by simp

/-- **The last run** blames no test of its batch. -/
theorem last (answered : BatchAnswered suite run.batch run.outcome run.answers)
    (someone : run.batch ≠ []) (nobody : run.blamed = [])
    (remaining : ∀ rest, answer = some rest → rest = run.batch ∧
      ∃ result, run.outcome = .ok result ∧ result.failures.isEmpty = true)
    (none_iff : answer = none ↔ run.LeavesNone) :
    NarrowedBy suite run.batch [run] answer where
  answered := by simpa using answered
  few := List.length_pos_iff.2 someone
  batches earlier other later same := by
    rcases List.cons_eq_append_iff.1 same with ⟨rfl, ⟨⟩⟩ | ⟨others, -, more⟩
    · exact ⟨(filter_unblamed_nil _).symm, someone⟩
    · simp at more
  once := by
    have all : (run.batch.filter fun test => !run.blames test) = run.batch :=
      List.filter_eq_self.2 fun test member => by
        simpa using List.filter_eq_nil_iff.1 nobody test member
    rw [filter_unblamed_cons, all, filter_unblamed_nil, List.flatMap_cons, nobody]
    exact .refl _
  remaining rest same := by
    obtain ⟨rfl, result, outcome, green⟩ := remaining rest same
    exact ⟨someone, [], run, result, rfl, (filter_unblamed_nil _).symm, rfl, outcome, green⟩
  none_iff := by simp [someone, none_iff]

/-- A run with a result that blames a test leaves none exactly when it blames all. -/
theorem leavesNone_iff {result : ExecutionResult} (outcome : run.outcome = .ok result)
    (named : run.blamed ≠ []) :
    run.LeavesNone ↔ (run.batch.filter fun test => !run.blames test) = [] := by
  constructor
  · intro leavesNone
    cases leavesNone with
    | failed failure failed => cases outcome.symm.trans failed
    | blamesOthers _ _ _ others => exact absurd others named
    | blamesAll _ _ all =>
        refine List.filter_eq_nil_iff.2 fun test member => ?_
        simpa using List.filter_eq_self.1 all test member
  · intro nobody
    refine .blamesAll result outcome (List.filter_eq_self.2 fun test member => ?_)
    simpa using List.filter_eq_nil_iff.1 nobody test member

/-- **A run before others** blames some tests of its batch, and the others narrow the rest. -/
theorem cons {result : ExecutionResult}
    (answered : BatchAnswered suite run.batch run.outcome run.answers)
    (outcome : run.outcome = .ok result) (named : run.blamed ≠ [])
    (narrowed : NarrowedBy suite (run.batch.filter fun test => !run.blames test) runs answer) :
    NarrowedBy suite run.batch (run :: runs) answer where
  answered := List.forall_mem_cons.2 ⟨answered, narrowed.answered⟩
  few := by
    have fewer : (run.batch.filter fun test => !run.blames test).length < run.batch.length := by
      obtain ⟨test, member⟩ := List.exists_mem_of_ne_nil _ named
      obtain ⟨submitted, blamed⟩ := List.mem_filter.1 member
      exact List.length_filter_lt_length_iff_exists.2 ⟨test, submitted, by simp [blamed]⟩
    exact Nat.succ_le_of_lt (narrowed.few.trans_lt fewer)
  batches earlier other later same := by
    rcases List.cons_eq_append_iff.1 same with ⟨rfl, ⟨⟩⟩ | ⟨others, rfl, more⟩
    · exact ⟨(filter_unblamed_nil _).symm, BatchRun.batch_ne_nil named⟩
    · rw [filter_unblamed_cons]
      exact narrowed.batches others other later more
  once := by
    rw [filter_unblamed_cons, List.flatMap_cons, List.append_assoc]
    exact (narrowed.once.append_left _).trans (List.filter_append_perm run.blames run.batch)
  remaining rest same := by
    obtain ⟨someone, earlier, last, final, rfl, unblamed, batch, green⟩ :=
      narrowed.remaining rest same
    refine ⟨someone, run :: earlier, last, final, rfl, ?_, batch, green⟩
    rw [filter_unblamed_cons]
    exact unblamed
  none_iff := by
    rw [narrowed.none_iff, ← leavesNone_iff outcome named]
    simp [BatchRun.batch_ne_nil named]

end NarrowedBy

/-- The ways of narrowing tests are those of such runs. -/
theorem Narrows.exists_runs {suite : TestSuite} {tests excluded : List TestCase}
    {answers : List ToolAnswer} {answer : Option (List TestCase)}
    (narrows : Narrows suite tests answers excluded answer) :
    ∃ runs, NarrowedBy suite tests runs answer ∧ answers = runs.flatMap BatchRun.answers ∧
      excluded = runs.flatMap BatchRun.blamed := by
  induction narrows with
  | nobody => exact ⟨[], .nobody, rfl, rfl⟩
  | @failed tests answers failure someone answered =>
      let run : BatchRun := ⟨tests, .error failure, answers⟩
      have nobody : run.blamed = [] := List.filter_eq_nil_iff.2 nofun
      exact ⟨[run], .last answered someone nobody nofun (iff_of_true rfl (.failed failure rfl)),
        by simp [run], by simp [nobody]⟩
  | @passed tests result someone enough green =>
      let run : BatchRun := ⟨tests, .ok result, ranWith suite tests result⟩
      have nobody : run.blamed = [] := List.filter_eq_nil_iff.2 fun test _ =>
        Bool.eq_false_iff.1 (result.hasFailed_of_isEmpty green test.id)
      refine ⟨[run], .last (.complete result enough) someone nobody ?_ (iff_of_false nofun ?_),
        by simp [run], by simp [nobody]⟩
      · intro rest same
        exact ⟨(Option.some.inj same).symm, result, rfl, green⟩
      · intro leavesNone
        cases leavesNone with
        | failed failure failed => cases failed
        | blamesOthers _ same red =>
            cases same
            exact Bool.eq_false_iff.1 red green
        | blamesAll _ _ all => exact someone (all.symm.trans nobody)
  | @stuck tests result someone enough red unnamed =>
      let run : BatchRun := ⟨tests, .ok result, ranWith suite tests result⟩
      have nobody : run.blamed = [] := unnamed
      exact ⟨[run], .last (.complete result enough) someone nobody nofun
        (iff_of_true rfl (.blamesOthers result rfl red nobody)), by simp [run], by simp [nobody]⟩
  | @narrowed tests result answers excluded green someone enough named rest ih =>
      obtain ⟨runs, narrowed, rfl, rfl⟩ := ih
      let run : BatchRun := ⟨tests, .ok result, ranWith suite tests result⟩
      have narrowedAll : NarrowedBy suite run.batch (run :: runs) green :=
        .cons (.complete result enough) rfl named narrowed
      exact ⟨run :: runs, narrowedAll, rfl, rfl⟩

/-! ## Counting calls -/

/-- Is it an answer of the compiler? -/
def ToolAnswer.isCompilation : ToolAnswer → Bool
  | compiled .. => true
  | ran .. => false

/-- A batch is compiled once. -/
theorem BatchAnswered.countP_isCompilation {suite : TestSuite} {batch : List TestCase}
    {outcome : Except BatchFailure ExecutionResult} {answers : List ToolAnswer}
    (answered : BatchAnswered suite batch outcome answers) :
    answers.countP ToolAnswer.isCompilation = 1 := by
  cases answered <;> rfl

theorem countP_isCompilation_flatMap {suite : TestSuite} {runs : List BatchRun}
    (answered : ∀ run ∈ runs, BatchAnswered suite run.batch run.outcome run.answers) :
    (runs.flatMap BatchRun.answers).countP ToolAnswer.isCompilation = runs.length := by
  induction runs with
  | nil => rfl
  | cons run rest ih =>
      obtain ⟨own, others⟩ := List.forall_mem_cons.1 answered
      rw [List.flatMap_cons, List.countP_append, own.countP_isCompilation, ih others,
        List.length_cons, Nat.add_comm]

/-- **The preflight narrows the seed tests**, whatever compiler and runner answer. It makes one run
after the other, each of one compilation, and no more of them than there are tests. The
tests that it announces as excluded are those that the runs blame in their batches, run by run, each
listed test once. If it answers with tests, these are some, they are the given ones in their
order without those that an earlier run has blamed, and the last run was one of exactly these
and named no failed test. It answers with none exactly when there was no test or in some run
the batch failed, the failures named no test of the batch, or they named all of them. -/
theorem Orchestrator.preflight_narrows {σ W : Type} (orchestrator : Orchestrator σ W)
    (suite : TestSuite) (tests : List TestCase) (start : Run σ W) :
    let answer := (orchestrator.preflight suite tests start).1
    let final := (orchestrator.preflight suite tests start).2
    ∃ runs : List BatchRun, NarrowedBy suite tests runs answer ∧
      final.answers = start.answers ++ runs.flatMap BatchRun.answers ∧
      final.answers.countP ToolAnswer.isCompilation =
        start.answers.countP ToolAnswer.isCompilation + runs.length ∧
      final.events = start.events ++
        (runs.flatMap BatchRun.blamed).map fun test => .seedExcluded suite.name test.id := by
  intro answer final
  obtain ⟨added, grown, answers, excluded, narrows, rfl⟩ :=
    orchestrator.preflight_yields suite tests start
  obtain ⟨runs, narrowed, rfl, rfl⟩ := narrows.exists_runs
  refine ⟨runs, narrowed, grown.answers, ?_, grown.events⟩
  rw [grown.answers, List.countP_append, countP_isCompilation_flatMap narrowed.answered]

end TestAmplification
