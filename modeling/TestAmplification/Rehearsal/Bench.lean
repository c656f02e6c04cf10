import TestAmplification.Amplification.Workshop
import TestAmplification.Failure
import TestAmplification.Files.Disk
import TestAmplification.Mutant
import TestAmplification.Test.Suite
import TestAmplification.Tooling.Launch
import TestAmplification.Tooling.Toolchain

/-!
# The bench of a rehearsal

Scripted tools share a bench: a disk, counts of the calls so far, and replies
that are queued for the mutation engine. Compiler, runner and engine may also
be the tools of a project, which run their commands on the disk of the bench.

A rehearsal is one way of choosing the tools of an amplification. The theorems
about amplifications are about all tools, and do not mention rehearsals.
-/

set_option autoImplicit false

/-!
## Scripts for tools

A rehearsal runs an amplification with tools that follow a script instead of
programs. A script says by simple rules what a tool answers: new tests are made
from templates, and failures are tied to texts in the bodies of tests or to the
number of a call.
-/

namespace TestAmplification.Rehearsal

/-- What a test made from a template names as its origin. -/
inductive TemplateOrigin where
  /-- Nothing. -/
  | nothing
  /-- The test that the template was applied to. -/
  | self
  /-- A given test. -/
  | given (id : TestId)
deriving DecidableEq, Inhabited

/-- A template for tests. Its texts may hold the placeholders `name`, `body` and
`suite` of the test that it is applied to. -/
structure Template where
  /-- The name of the method. -/
  name : String
  /-- The body. -/
  body : String
  /-- The suite. -/
  suite : String := placeholder "suite"
  /-- The only name of tests that it applies to, if there is one. -/
  whenName : Option String := none
  /-- A text that the bodies of tests hold that it applies to, if there is
  one. -/
  whenBody : Option String := none
  /-- What the new test names as its origin. -/
  origin : TemplateOrigin := .nothing
  /-- The assertions that the new test counts as added. -/
  assertionsAdded : UInt32 := 0
  /-- The inputs that the new test counts as added. -/
  inputsAdded : UInt32 := 0
deriving DecidableEq, Inhabited

/-- Does the template apply to a test? -/
def Template.appliesTo (template : Template) (test : TestCase) : Bool :=
  template.whenName.all (· == test.name)
    && template.whenBody.all fun text => Text.occursIn text test.body

/-- The test that a template makes from another. -/
def Template.instantiate (template : Template) (test : TestCase) : TestCase :=
  let fill := fillInAll [("name", test.name), ("body", test.body), ("suite", test.id.suite)]
  { id := ⟨fill template.suite, fill template.name⟩
    body := fill template.body
    derivedFrom :=
      match template.origin with
      | .nothing => none
      | .self => some test.id
      | .given id => some id
    assertionsAdded := template.assertionsAdded
    inputsAdded := template.inputsAdded }

/-- The tests that templates make from one test. -/
def instantiateAll (templates : List Template) (test : TestCase) : List TestCase :=
  (templates.filter (·.appliesTo test)).map (·.instantiate test)

/-- Does a text hold one of the given texts? -/
def holdsAny (texts : List String) (text : String) : Bool :=
  texts.any fun wanted => Text.occursIn wanted text

/-- What an amplifier does. -/
structure AmplifierScript where
  /-- Its name. -/
  name : String
  /-- How it makes variants. -/
  templates : List Template := []
deriving DecidableEq, Inhabited

/-- What a compiler does. -/
structure CompilerScript where
  /-- Texts in the bodies of methods that do not compile. -/
  failIf : List String := []
  /-- The numbers of calls that fail, counted from one. -/
  failCalls : List Nat := []
  /-- How it fails. -/
  error : ToolingError := .compilationFailed "S" "cannot find symbol"
deriving DecidableEq, Inhabited

/-- What a runner does. -/
structure RunnerScript where
  /-- Texts in the bodies of tests that fail. -/
  failIf : List String := []
  /-- Texts in the bodies of tests that do not run. -/
  skipIf : List String := []
  /-- Texts in the bodies of tests that break the runner. -/
  errorIf : List String := []
  /-- The numbers of calls that break the runner, counted from one. -/
  errorCalls : List Nat := []
  /-- Tests that are reported as failed in any case. -/
  extraFailures : List TestId := []
  /-- Tests that are reported as run in any case. -/
  extraRun : List TestId := []
  /-- How it breaks. -/
  error : ToolingError := .executionFailed "S" "crashed"
deriving DecidableEq, Inhabited

/-- What a mutation engine answers. -/
abbrev EngineReply := Except ToolingError (List MutantOutcome)

/-- What a mutation engine does. -/
structure EngineScript where
  /-- What it answers about the unchanged program. -/
  baseline : EngineReply := .ok []
  /-- For mutants the texts in the bodies of the methods that kill them. -/
  markers : List (MutantId × String) := []

/-- The outcome for a mutant of the baseline when a suite is analyzed: the first
method with the text of the mutant kills it. -/
def EngineScript.outcomeFor (script : EngineScript) (suite : TestSuite)
    (outcome : MutantOutcome) : MutantOutcome :=
  let killer := (script.markers.lookup outcome.mutant).bind fun text =>
    suite.methods.find? fun method => Text.occursIn text method.body
  { mutant := outcome.mutant
    state := if killer.isSome then .killed else .survived
    killingTest := killer.map TestCase.id }

/-- What the engine answers about a suite by its markers. -/
def EngineScript.answer (script : EngineScript) (suite : TestSuite) : List MutantOutcome :=
  if script.markers.isEmpty then []
  else
    match script.baseline with
    | .ok outcomes => outcomes.map (script.outcomeFor suite)
    | .error _ => []

end TestAmplification.Rehearsal

namespace TestAmplification.Rehearsal

/-- What scripted tools share. -/
structure Bench where
  /-- The disk. -/
  disk : Disk
  /-- The number of calls of the compiler. -/
  compileCalls : Nat := 0
  /-- The number of calls of the runner. -/
  runCalls : Nat := 0
  /-- The replies that the engine gives next. -/
  replies : List EngineReply := []

namespace Bench

/-- Acts on the disk of a bench. -/
def onDisk {α : Type} (action : StateM Disk α) : StateM Bench α := fun bench =>
  let (result, disk) := action bench.disk
  (result, { bench with disk })

/-- Queues a reply for the engine. -/
def queue (reply : EngineReply) (bench : Bench) : Bench :=
  { bench with replies := bench.replies ++ [reply] }

end Bench

/-! ## Scripted tools -/

/-- An amplifier that follows a script. -/
def AmplifierScript.amplifier (script : AmplifierScript) : Amplifier Bench where
  name := script.name
  apply test := return instantiateAll script.templates test
  reset _ := return

/-- Compiles as the script says. -/
def CompilerScript.compile (script : CompilerScript) (suite : TestSuite) :
    StateM Bench (Except ToolingError Unit) := do
  modify fun bench => { bench with compileCalls := bench.compileCalls + 1 }
  let call := (← get).compileCalls
  if script.failCalls.contains call
      || suite.methods.any fun method => holdsAny script.failIf method.body then
    return .error script.error
  else return .ok ()

/-- What the script says about tests that run. -/
def RunnerScript.result (script : RunnerScript) (tests : List TestCase) : ExecutionResult :=
  let ran := tests.filter fun test => !holdsAny script.skipIf test.body
  let failed := tests.filter fun test => holdsAny script.failIf test.body
  .ofLists (ran.map TestCase.id ++ script.extraRun)
    (failed.map TestCase.id ++ script.extraFailures)

/-- Runs tests as the script says. -/
def RunnerScript.run (script : RunnerScript) (tests : List TestCase) :
    StateM Bench (Except ToolingError ExecutionResult) := do
  modify fun bench => { bench with runCalls := bench.runCalls + 1 }
  let call := (← get).runCalls
  if script.errorCalls.contains call
      || tests.any fun test => holdsAny script.errorIf test.body then
    return .error script.error
  else return .ok (script.result tests)

/-- An engine that follows a script. Queued replies come first. -/
def EngineScript.engine (script : EngineScript) : MutationEngine Bench where
  baseline := return script.baseline
  analyze suite := do
    let bench ← get
    match bench.replies with
    | reply :: rest =>
        set { bench with replies := rest }
        return reply
    | [] => return .ok (script.answer suite)

/-! ## The whole cast -/

/-- The scripts of all tools of a rehearsal. -/
structure Cast where
  /-- The amplifiers. -/
  amplifiers : List AmplifierScript := []
  /-- How assertions are added. -/
  assertions : List Template := []
  /-- The compiler. -/
  compiler : CompilerScript := {}
  /-- The runner. -/
  runner : RunnerScript := {}
  /-- The engine. -/
  engine : EngineScript := {}
  /-- The tools of a project, where they take the places of compiler, runner and
  engine. -/
  toolchain : Option Toolchain := none
  /-- Which methods of a suite are tests. -/
  isTest : TestPredicate

namespace Cast

/-- The engine of a cast. -/
def mutationEngine (cast : Cast) (launcher : Launcher) : MutationEngine Bench :=
  match cast.toolchain with
  | none => cast.engine.engine
  | some tools =>
      let engine := tools.engine.engine launcher
      { baseline := Bench.onDisk engine.baseline
        analyze := fun suite => Bench.onDisk (engine.analyze suite) }

/-- The workshop of a cast. -/
def workshop (cast : Cast) (launcher : Launcher) : Workshop Bench where
  amplifiers := cast.amplifiers.map AmplifierScript.amplifier
  addAssertions _ tests := return tests.flatMap (instantiateAll cast.assertions)
  compile suite paths :=
    match cast.toolchain with
    | none => cast.compiler.compile suite
    | some tools => Bench.onDisk (tools.compiler.compile launcher suite paths)
  run suite tests classpath :=
    match cast.toolchain with
    | none => cast.runner.run tests
    | some tools => Bench.onDisk (tools.runner.run launcher suite tests classpath)
  isTest := cast.isTest
  handlers := []
  clock bench := (bench.disk.clock / 1000000).toNat

end Cast

end TestAmplification.Rehearsal
