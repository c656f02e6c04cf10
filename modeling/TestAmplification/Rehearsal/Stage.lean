import TestAmplification.Amplification.Document
import TestAmplification.Amplification.Loop
import TestAmplification.Config.Document
import TestAmplification.Config.Summary
import TestAmplification.Failure.Document
import TestAmplification.Rehearsal.Bench
import TestAmplification.Selection.Configured
import TestAmplification.Test.Document

/-!
# The stage of a rehearsal

A script as a JSON document, and the rehearsal that is played by it.
-/

set_option autoImplicit false

/-!
## Scripts as JSON documents

The scripts of a rehearsal are read from JSON. Whatever is left out has its
default.
-/

namespace TestAmplification

/-- Reads what tells tests from other methods: an ending of their names, a text
in their bodies, or a beginning of their names. -/
def predicateOfJson? (value : Json) : Option TestPredicate := do
  match ← value.given? "suffix" Json.text? with
  | some ending => return fun test => Text.finishesWith test.name ending
  | none =>
      match ← value.given? "body_contains" Json.text? with
      | some text => return fun test => Text.occursIn text test.body
      | none => return namedFrom (← value.givenOr? "prefix" Json.text? "test")

namespace Rehearsal

/-- Reads the additions of a test: of assertions and of inputs. -/
def additions? (value : Json) : Option (UInt32 × UInt32) :=
  value.givenOr? "additions" (Json.pair? Json.word32? Json.word32?) (0, 0)

/-- Reads a reply of the engine. A reply that is `null` lists no outcome. -/
def reply? (value : Json) : Option EngineReply :=
  match value with
  | .null => some (.ok [])
  | value =>
      match value.member? "error" with
      | some error => (ToolingError.ofJson? error).map .error
      | none => (Json.list? MutantOutcome.ofJson? value).map .ok

/-- Reads what a new test names as its origin. -/
def origin? (value : Json) : Option TemplateOrigin :=
  match value with
  | .string _ => some .self
  | value => (TestId.ofJson? value).map .given

/-- Reads a template. -/
def template? (value : Json) : Option Template := do
  let (assertionsAdded, inputsAdded) ← additions? value
  return {
    name := ← value.required? "name" Json.text?
    body := ← value.required? "body" Json.text?
    suite := ← value.givenOr? "suite" Json.text? (placeholder "suite")
    whenName := ← value.given? "when_name" Json.text?
    whenBody := ← value.given? "when_body" Json.text?
    origin := ← value.givenOr? "derived_from" origin? .nothing
    assertionsAdded
    inputsAdded }

/-- Reads the script of an amplifier. -/
def amplifier? (value : Json) : Option AmplifierScript := do
  return {
    name := ← value.required? "name" Json.text?
    templates := ← value.givenOr? "templates" (Json.list? template?) [] }

/-- Reads the script of a compiler. -/
def compiler? (value : Json) : Option CompilerScript := do
  let script : CompilerScript := {}
  return {
    failIf := ← value.givenOr? "fail_if" Json.texts? []
    failCalls := ← value.givenOr? "fail_calls" (Json.list? Json.nat?) []
    error := ← value.givenOr? "error" ToolingError.ofJson? script.error }

/-- Reads the script of a runner. -/
def runner? (value : Json) : Option RunnerScript := do
  let script : RunnerScript := {}
  return {
    failIf := ← value.givenOr? "fail_if" Json.texts? []
    skipIf := ← value.givenOr? "skip_if" Json.texts? []
    errorIf := ← value.givenOr? "error_if" Json.texts? []
    errorCalls := ← value.givenOr? "error_calls" (Json.list? Json.nat?) []
    extraFailures := ← value.givenOr? "extra_failures" (Json.list? TestId.ofJson?) []
    extraRun := ← value.givenOr? "extra_run" (Json.list? TestId.ofJson?) []
    error := ← value.givenOr? "error" ToolingError.ofJson? script.error }

/-- Reads the script of an engine. -/
def engine? (value : Json) : Option EngineScript := do
  return {
    baseline := ← value.givenOr? "baseline" reply? (.ok [])
    markers := ← value.givenOr? "markers"
      (Json.list? (Json.pair? MutantId.ofJson? Json.text?)) [] }

/-- Reads the replies that are queued for the engine. -/
def replies? (value : Json) : Option (List EngineReply) :=
  ((value.member? "engine").getD .null).givenOr? "replies" (Json.list? reply?) []

/-- Reads a cast, or says why its tools are not usable. -/
def Cast.ofJson? (value : Json) : Option (Except ConfigError Cast) := do
  let cast : Cast := {
    amplifiers := ← value.givenOr? "amplifiers" (Json.list? amplifier?) []
    assertions := ← value.givenOr? "assertions" (Json.list? template?) []
    compiler := ← value.givenOr? "compiler" compiler? {}
    runner := ← value.givenOr? "harness" runner? {}
    engine := ← value.givenOr? "engine" engine? {}
    isTest := ← value.givenOr? "predicate" predicateOfJson? (namedFrom "test") }
  match ← value.given? "toolchain" Json.text? with
  | none => return .ok cast
  | some document =>
      return do
        let tools ← Toolchain.ofConfig (← Config.ofToml document) "."
        return { cast with toolchain := some tools }

end Rehearsal

end TestAmplification

/-!
## The stage of a rehearsal

A stage is a cast together with a selector and settings, described by one JSON
document. Selectors have states of different types, so a stage holds one of two
kinds of selectors.
-/

namespace TestAmplification.Rehearsal

open Json (ofText)

/-- A selector with the state that it starts in and ways to look at its
states. -/
structure SelectorKit (σ : Type) where
  /-- The selector. -/
  selector : Selector σ Bench
  /-- The state that it starts in. -/
  start : σ
  /-- The document of a state. -/
  stateJson : σ → Json
  /-- The document of what a test is credited with. -/
  creditedJson : σ → TestId → Json
  /-- The state with another baseline. -/
  loadBaseline : List MutantOutcome → σ → σ

/-- A selector of either kind. -/
inductive AnyKit where
  | takeAll (kit : SelectorKit TakeAll)
  | score (kit : SelectorKit MutationScore)

/-- The selector that keeps everything. It gives no credits and needs no
baseline. -/
def takeAllKit : SelectorKit TakeAll where
  selector := TakeAll.selector
  start := {}
  stateJson := TakeAll.toJson
  creditedJson _ _ := .null
  loadBaseline _ state := state

/-- A selector by mutation score. -/
def scoreKit (setting : MutationScore.Setting Bench) (start : MutationScore) :
    SelectorKit MutationScore where
  selector := MutationScore.selector setting
  start
  stateJson := MutationScore.toJson
  creditedJson state test := .array ((state.credits.mutantsOf test).map MutantId.toJson)
  loadBaseline outcomes state := state.loadBaseline outcomes

/-- Writes a file of a report on the disk of the bench. -/
def publish (path : Path) (content : String) : StateM Bench (Except String Unit) :=
  Bench.onDisk (Disk.publish path content)

/-- The selector by mutation score under a configuration. -/
def configuredKit (config : Config) (engine : MutationEngine Bench) (disk : Disk) :
    Except AmplificationError (SelectorKit MutationScore) := do
  let start ← (MutationScore.startOf config disk).1
  return scoreKit (.ofConfig config engine publish) start

/-- Reads a selector: the one that keeps everything, or one by mutation score
with a configuration or with values of its own. -/
def AnyKit.ofJson? (value : Json) (cast : Cast) (launcher : Launcher) (disk : Disk) :
    Option (Except AmplificationError AnyKit) := do
  if (value.member? "selector").bind Json.text? == some "take_all" then
    return .ok (.takeAll takeAllKit)
  let engine := cast.mutationEngine launcher
  match ← value.given? "selector_toml" Json.text? with
  | some document =>
      match Config.ofToml document with
      | .error error => return .error (.config error)
      | .ok config => return (configuredKit config engine disk).map .score
  | none =>
      let setting : MutationScore.Setting Bench := {
        engine
        isTest := cast.isTest
        outputDirectory := ← value.givenOr? "output_dir" Json.text? "out"
        publish }
      let start ←
        if value.hasMember "preload" then
          (value.required? "preload" (Json.list? MutantOutcome.ofJson?)).map
            MutationScore.withBaseline
        else some {}
      return .ok (.score (scoreKit setting start))

/-- A cast with a selector and settings. -/
structure Stage where
  /-- The cast. -/
  cast : Cast
  /-- The selector. -/
  kit : AnyKit
  /-- The settings. -/
  settings : Settings
  /-- The replies that are queued for the engine. -/
  replies : List EngineReply

namespace Stage

/-- Reads a stage, or says why it is not usable. -/
def ofJson? (value : Json) (launcher : Launcher) (disk : Disk) :
    Option (Except AmplificationError Stage) := do
  match ← Cast.ofJson? value with
  | .error error => return .error (.config error)
  | .ok cast =>
      let replies ← replies? value
      match ← AnyKit.ofJson? value cast launcher disk,
          ← value.givenOr? "settings" Settings.ofJson? (.ok {}) with
      | .error error, _ => return .error error
      | _, .error error => return .error (.config error)
      | .ok kit, .ok settings => return .ok { cast, kit, settings, replies }

/-- The bench that a rehearsal starts with. -/
def bench (stage : Stage) (disk : Disk) : Bench :=
  { disk, replies := stage.replies }

/-- The orchestrator on a stage. -/
def orchestrator {σ : Type} (stage : Stage) (launcher : Launcher) (kit : SelectorKit σ) :
    Orchestrator σ Bench where
  workshop := stage.cast.workshop launcher
  selector := kit.selector
  settings := stage.settings

/-- Amplifies one suite from the start. -/
def amplifyWith {σ : Type} (stage : Stage) (launcher : Launcher) (kit : SelectorKit σ)
    (maxIterations : UInt32) (suite : TestSuite) :
    StateM Disk (Except ReportError (Option SuiteOutcome)) := fun disk =>
  let (outcome, bench) := (stage.orchestrator launcher kit).amplifyAlone kit.start suite
    maxIterations (stage.bench disk)
  (outcome, bench.disk)

/-- Amplifies one suite from the start with the selector of the stage. -/
def amplify (stage : Stage) (launcher : Launcher) (maxIterations : UInt32) (suite : TestSuite) :
    StateM Disk (Except ReportError (Option SuiteOutcome)) :=
  match stage.kit with
  | .takeAll kit => stage.amplifyWith launcher kit maxIterations suite
  | .score kit => stage.amplifyWith launcher kit maxIterations suite

end Stage

end TestAmplification.Rehearsal
