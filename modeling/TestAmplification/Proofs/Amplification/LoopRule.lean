import TestAmplification.Proofs.Amplification.Steps

/-!
# A rule for the amplification loop

The rule takes three things: a condition on the tests kept so far and the
standing, and two conditions on tests. A test is ready when an iteration for a seed test
may start from it, and fit when the selector may be asked about it. If the single
steps of the loop sustain them (`LoopRule`), the condition holds for
the kept tests at the end of every run: of the iterations for one seed test
(`iterate_leads`), of the amplification of all seed tests (`amplifySeeds_leads`), and
of that of a suite (`amplify_leads`).
-/

set_option autoImplicit false

namespace TestAmplification

variable {σ W : Type}

/-- The condition holds for the kept tests, the tests at hand are ready, and the
candidates are fit. -/
structure Busy (holds : List TestCase → Standing σ → Prop)
    (ready fit : TestCase → Standing σ → TestCase → Prop) (seed : TestCase)
    (kept working candidates : List TestCase) (standing : Standing σ) : Prop where
  holds : holds kept standing
  ready : ∀ test ∈ working, ready seed standing test
  fit : ∀ test ∈ candidates, fit seed standing test

/-- The single steps of the loop sustain the condition. -/
structure LoopRule (orchestrator : Orchestrator σ W) (suite : TestSuite)
    (holds : List TestCase → Standing σ → Prop)
    (ready fit : TestCase → Standing σ → TestCase → Prop) : Prop where
  seedReady : ∀ kept standing, ∀ seed ∈ suite.methods, holds kept standing →
    ready seed standing seed
  fitReady : ∀ seed standing test, fit seed standing test → ready seed standing test
  update : ∀ seed kept working candidates,
    Keeps (Busy holds ready fit seed kept working candidates)
      (Amplify.consult orchestrator.selector.update)
  reset : ∀ kept, Keeps (holds kept) (Amplify.consult orchestrator.selector.reset)
  nominate : ∀ seed kept working,
    Leads (Busy holds ready fit seed kept working [])
      (Amplify.consult (orchestrator.selector.nominate suite working))
      fun nominated => Busy holds ready fit seed kept nominated []
  expand : ∀ seed kept nominated,
    Leads (Busy holds ready fit seed kept nominated []) (orchestrator.expand suite nominated)
      fun expanded => Busy holds ready fit seed kept nominated expanded
  inject : ∀ seed kept nominated expanded,
    Leads (Busy holds ready fit seed kept nominated expanded)
      (orchestrator.injectAssertions suite expanded)
      fun candidates => Busy holds ready fit seed kept nominated candidates
  judge : ∀ seed kept working candidates,
    Leads (Busy holds ready fit seed kept working candidates)
      (orchestrator.judge (some seed) candidates)
      fun more => Busy holds ready fit seed (kept ++ more) working []
  preAmplify : ∀ seeds, seeds ⊆ suite.methods →
    Leads (holds []) (orchestrator.preAmplify suite seeds) holds

namespace LoopRule

variable {orchestrator : Orchestrator σ W} {suite : TestSuite}
  {holds : List TestCase → Standing σ → Prop}
  {ready fit : TestCase → Standing σ → TestCase → Prop}

/-- Candidates that stay become the tests to start from. -/
theorem pass (rule : LoopRule orchestrator suite holds ready fit) {seed : TestCase}
    {kept working candidates passing : List TestCase} {standing : Standing σ}
    (busy : Busy holds ready fit seed kept working candidates standing)
    (among : passing ⊆ candidates) :
    Busy holds ready fit seed kept passing passing standing where
  holds := busy.holds
  ready test member := rule.fitReady seed standing test (busy.fit test (among member))
  fit test member := busy.fit test (among member)

theorem update_idle (rule : LoopRule orchestrator suite holds ready fit) (kept : List TestCase) :
    Keeps (holds kept) (Amplify.consult orchestrator.selector.update) :=
  (rule.update default kept [] []).weaken (fun _ idle => ⟨idle, nofun, nofun⟩)
    fun _ _ busy => busy.holds

/-! ## Iterations -/

/-- Iterations that stop have kept nothing more. -/
theorem stop_leads (seed : TestCase) (kept working candidates : List TestCase) :
    Leads (Busy holds ready fit seed kept working candidates)
      (pure [] : Amplify σ W (List TestCase)) fun more => holds (kept ++ more) := by
  refine Leads.pure fun standing busy => ?_
  rw [List.append_nil]
  exact busy.holds

/-- **The iterations for a seed test** sustain the condition, from tests that are
ready. The induction is on the number of iterations left. -/
theorem iterate_leads (rule : LoopRule orchestrator suite holds ready fit) (seed : TestCase)
    (left iteration : Nat) (kept working : List TestCase) :
    Leads (Busy holds ready fit seed kept working [])
      (orchestrator.iterate suite seed left iteration working)
      fun more => holds (kept ++ more) := by
  induction left generalizing iteration kept working with
  | zero => exact stop_leads seed kept working []
  | succ left ih =>
      rw [Orchestrator.iterate]
      refine (rule.nominate seed kept working).bind fun nominated => ?_
      by_cases nobody : nominated.isEmpty = true
      · rw [if_pos nobody]
        exact (orchestrator.announce_keeps _).bind fun _ =>
          stop_leads seed kept nominated []
      rw [if_neg nobody]
      refine (rule.expand seed kept nominated).bind fun expanded => ?_
      by_cases nothing : expanded.isEmpty = true
      · rw [if_pos nothing]
        exact (orchestrator.announce_keeps _).bind fun _ =>
          stop_leads seed kept nominated expanded
      rw [if_neg nothing]
      refine (rule.inject seed kept nominated expanded).bind fun candidates => ?_
      refine (orchestrator.compileAndRun_keeps
        (rule.update seed kept nominated candidates) suite candidates).bind fun answer => ?_
      cases answer with
      | error failure =>
          -- The candidates are dropped, and the nominated tests are ready still.
          refine (orchestrator.announce_keeps _).bind fun _ => ?_
          exact (ih (iteration + 1) kept nominated).weaken
            (fun _ busy => ⟨busy.holds, busy.ready, nofun⟩) fun _ _ result => result
      | ok result =>
          dsimp only
          refine (count_keeps _).bind fun _ => ?_
          have among : candidates.filter (fun candidate => result.passed candidate.id) ⊆
              candidates :=
            fun _ member => (List.mem_filter.1 member).1
          refine ((rule.judge seed kept _ _).weaken (fun _ busy => rule.pass busy among)
            fun _ _ busy => busy).bind fun more => ?_
          refine (orchestrator.announce_keeps _).bind fun _ => ?_
          refine (ih (iteration + 1) (kept ++ more) _).bind fun later =>
            Leads.pure fun standing result => ?_
          rw [← List.append_assoc]
          exact result

/-! ## Seed tests -/

theorem amplifySeed_leads (rule : LoopRule orchestrator suite holds ready fit)
    (maxIterations : UInt32) (kept : List TestCase) {seed : TestCase}
    (member : seed ∈ suite.methods) :
    Leads (holds kept) (orchestrator.amplifySeed suite maxIterations seed)
      fun more => holds (kept ++ more) := by
  have nothing : Leads (holds kept) (pure [] : Amplify σ W (List TestCase))
      fun more => holds (kept ++ more) := by
    refine Leads.pure fun standing idle => ?_
    rw [List.append_nil]
    exact idle
  rw [Orchestrator.amplifySeed]
  refine (rule.reset kept).bind fun _ => ?_
  refine (orchestrator.compileAndRun_keeps (rule.update_idle kept) suite [seed]).bind
    fun answer => ?_
  cases answer with
  | error failure => exact nothing
  | ok result =>
      dsimp only
      by_cases green : result.isGreen = true
      · rw [if_pos green]
        refine Leads.bind ((rule.iterate_leads seed _ 0 kept [seed]).weaken ?_
          fun _ _ result => result) fun more => ?_
        · intro standing idle
          refine ⟨idle, ?_, nofun⟩
          intro test only
          rw [List.mem_singleton.1 only]
          exact rule.seedReady kept standing seed member idle
        · exact (Orchestrator.countKept_keeps more).bind fun _ => Leads.pure fun _ result => result
      · rw [if_neg green]
        exact nothing

/-- **The amplification of seed tests** sustains the condition. -/
theorem amplifySeeds_leads (rule : LoopRule orchestrator suite holds ready fit)
    (maxIterations : UInt32) (kept seeds : List TestCase) (among : seeds ⊆ suite.methods) :
    Leads (holds kept) (orchestrator.amplifySeeds suite maxIterations seeds)
      fun more => holds (kept ++ more) := by
  induction seeds generalizing kept with
  | nil =>
      refine Leads.pure fun standing idle => ?_
      rw [List.append_nil]
      exact idle
  | cons seed rest ih =>
      obtain ⟨member, others⟩ := List.cons_subset.1 among
      rw [Orchestrator.amplifySeeds]
      refine (rule.amplifySeed_leads maxIterations kept member).bind fun more => ?_
      refine (ih (kept ++ more) others).bind fun later => Leads.pure fun standing result => ?_
      rw [← List.append_assoc]
      exact result

/-! ## Suites -/

theorem preAmplifyIfWanted_leads (rule : LoopRule orchestrator suite holds ready fit)
    {seeds : List TestCase} (among : seeds ⊆ suite.methods) :
    Leads (holds []) (orchestrator.preAmplifyIfWanted suite seeds) holds := by
  rw [Orchestrator.preAmplifyIfWanted]
  by_cases wanted : orchestrator.settings.preAmplification = true
  · rw [if_pos wanted]
    refine (rule.preAmplify seeds among).bind fun kept => ?_
    exact (Orchestrator.countKept_keeps kept).bind fun _ => Leads.pure fun _ result => result
  · rw [if_neg wanted]
    exact Leads.pure fun _ idle => idle

/-- **The amplification of a suite.** Either it ends before the genealogy is cleared, or the
condition holds for the tests by which the suite is extended, if it is. -/
theorem amplify_leads (rule : LoopRule orchestrator suite holds ready fit)
    {before : Standing σ → Prop}
    (init : Keeps before (Amplify.consult orchestrator.selector.init))
    (cleared : ∀ standing, before standing → holds [] { standing with
      genealogy := .empty
      chronicle := standing.chronicle ++ [.lineage .empty] })
    {seedTests : List TestCase} (among : seedTests ⊆ suite.methods) (maxIterations : UInt32) :
    Leads before (orchestrator.amplify suite seedTests maxIterations)
      fun answer standing => answer = none ∧ before standing ∨
        ∃ kept, holds kept standing ∧
          (answer = none ∨ answer = some (suite.extendedWith kept)) := by
  rw [Orchestrator.amplify]
  dsimp only
  by_cases nothing : (seedTests.filter orchestrator.workshop.isTest).isEmpty = true
  · rw [if_pos nothing]
    exact Leads.pure fun _ idle => .inl ⟨rfl, idle⟩
  rw [if_neg nothing]
  refine get_keeps.bind fun _ => ?_
  refine (orchestrator.announce_keeps _).bind fun _ => init.bind fun prepared => ?_
  cases prepared with
  | error error => exact Leads.pure fun _ idle => .inl ⟨rfl, idle⟩
  | ok _ =>
      refine (withGenealogy_leads cleared).bind fun _ => (rule.reset []).bind fun _ => ?_
      refine (orchestrator.preflight_leads (rule.update_idle []) suite _).bind fun answer => ?_
      cases answer with
      | none => exact Leads.pure fun _ result => .inr ⟨[], result.1, .inl rfl⟩
      | some green =>
          refine Leads.assume fun remain => ?_
          have greenAmong : green ⊆ suite.methods := fun test member =>
            among (List.mem_filter.1 (remain green rfl member)).1
          refine (Orchestrator.resetAmplifiers_keeps suite _).bind fun _ => ?_
          refine (rule.preAmplifyIfWanted_leads greenAmong).bind fun before => ?_
          refine (rule.amplifySeeds_leads maxIterations before green greenAmong).bind
            fun during => ?_
          refine (count_keeps _).bind fun _ => get_keeps.bind fun _ => ?_
          refine (orchestrator.announce_keeps _).bind fun _ => ?_
          exact Leads.pure fun _ result => .inr ⟨before ++ during, result, .inr rfl⟩

end LoopRule

end TestAmplification
