import TestAmplification.Shell.Script.Simple

/-!
# Running commands

A command is run by running the commands inside it, so one step is described with
the runner of the inner commands as a parameter, and a bound on the nesting closes
the circle.

A command may be the last thing that its process does. A program then takes the place
of the shell, unless the shell is prepared for signals or for its end.
-/

set_option autoImplicit false

namespace TestAmplification.Shell

open Session

/-- The work of running a command. -/
def commandEffort : Nat := 100

/-! ## Signals -/

/-- Runs an action for a signal. The status is afterwards what it was before, unless
the action leaves the script. -/
def runAction (run : Runner) (action : Row) : Session Unit := do
  let shell ← get
  runLabelled run false "trap" (if shell.isExtended then 1 else shell.line) action

/-- Runs the actions for the signals that have come, at most so many. -/
def runActions (run : Runner) : Nat → Session Unit
  | 0 => return
  | steps + 1 => do
      let process ← Act.self
      match process.pending.find? process.caught.contains with
      | none => return
      | some signal =>
          Act.changeSelf fun process => { process with pending := process.pending.erase signal }
          match (← get).traps.lookup signal with
          | some action => runAction run action
          | none => pure ()
          runActions run steps

/-- How many actions for signals run one after the other. -/
def mostActions : Nat := 64

/-! ## Loops -/

/-- What the end of a loop body means for the loop: nothing when the loop goes on,
else what is left beyond the loop. -/
def afterBody : Option Leave → Option (Option Leave)
  | none => none
  | some (.loops count) => some (if count ≤ 1 then none else some (.loops (count - 1)))
  | some (.round count) => if count ≤ 1 then none else some (some (.round (count - 1)))
  | left => some left

/-- The most rounds of a loop. -/
def mostRounds : Nat := 1000000000

/-- Takes a step inside one more loop. -/
def insideLoop (step : Session Unit) : Session (Option Leave) := do
  let loops := (← get).loops
  modify fun shell => { shell with loops := loops + 1 }
  let left ← catching step
  modify fun shell => { shell with loops }
  return left

/-- Runs a loop for at most so many rounds, with the status of the last round so
far. -/
def runLoop (run : Runner) (untilSuccess : Bool) (condition body : Command) :
    Nat → Nat → Session Unit
  | 0, _ => return
  | rounds + 1, status => do
      Act.work commandEffort
      match afterBody (← insideLoop (observing (run false condition))) with
      | some left => resuming left
      | none =>
          if ((← get).status == 0) == untilSuccess then finish status
          else
            match afterBody (← insideLoop (run false body)) with
            | some left => resuming left
            | none => runLoop run untilSuccess condition body rounds (← get).status

/-- Runs a loop over values. The row is shown before every round. -/
def runForEach (run : Runner) (name : String) (shown : Row) (body : Command) :
    List Row → Session Unit
  | [] => return
  | value :: rest => do
      Act.work commandEffort
      if (← get).isExtended then
        traceHere shown
        store name none false value
      else assign name value
      match afterBody (← insideLoop (run false body)) with
      | some left => resuming left
      | none => runForEach run name shown body rest

/-! ## Calculations -/

/-- Takes a step whose faults are told under a label of its own. They only make it fail. -/
def underLabel (step : Session Unit) : Session Unit := do
  let left ← catching step
  match left with
  | some .fault =>
      if (← get).builtin.isSome then
        modify fun shell => { shell with builtin := none }
        finish 1
      else leave .fault
  | left => resuming left

/-- Works out an expression between double parentheses, where nothing counts as the given
number. -/
def calculate (nothing : Int) (expression : Word) : Session Int := do
  let row ← rowOfAssigned expression
  traceHere (rowOf "(( " ++ row ++ rowOf " ))")
  if row.all isSpace then return nothing
  else reckon (some (rowOf "((")) row

/-- Runs a loop that counts, for at most so many rounds. -/
def runCounting (run : Runner) (condition step : Word) (body : Command) : Nat → Session Unit
  | 0 => return
  | rounds + 1 => do
      Act.work commandEffort
      if (← calculate 1 condition) = 0 then return
      else
        match afterBody (← insideLoop (run false body)) with
        | some left => resuming left
        | none =>
            let status := (← get).status
            let _ ← calculate 1 step
            finish status
            runCounting run condition step body rounds

/-! ## Choices -/

/-- Does the row match one of the patterns? -/
def matchesAny (row : Row) : List Word → Session Bool
  | [] => return false
  | word :: rest => do
      let glyphs ← glyphsOf word
      let shell ← get
      let isMatch :=
        if shell.isExtended then
          { matchStyle shell with ignoresCase := shell.isSet "nocasematch" : MatchStyle }.accepts
            glyphs row
        else matchesPattern glyphs row
      if isMatch then return true else matchesAny row rest

/-- Runs the body of a branch. -/
def runBranch (run : Runner) (isFinal : Bool) (body : Command) : Session Unit :=
  match body with
  | .sequence [] => finish 0
  | body => run isFinal body

/-- Runs the first branch with a matching pattern, and those after it that its end asks for. It
is known how the branch before has ended, if one has run. -/
def runBranches (run : Runner) (isFinal : Bool) (row : Row) :
    Option BranchEnd → List (List Word × Command × BranchEnd) → Session Unit
  | none, [] => finish 0
  | some _, [] => return
  | before, (patterns, body, ending) :: rest => do
      if ← if before = some .runOn then pure true else matchesAny row patterns then
        if ending = .finish then runBranch run isFinal body
        else
          runBranch run false body
          runBranches run isFinal row (some ending) rest
      else runBranches run isFinal row before rest

/-! ## All commands -/

/-- Runs the action for a failing command, if there is one. Functions have none unless that is
wanted. -/
def actOnFailure (run : Runner) : Session Unit := do
  let shell ← get
  if shell.scopes.isEmpty || shell.has 'E' then actOn run failureOccasion "error trap"

/-- Ends the script after a failure, if that is wanted. -/
def checked (run : Runner) (step : Session Unit) : Session Unit := do
  step
  let shell ← get
  if shell.status ≠ 0 && !shell.isObserved then
    if shell.isExtended then actOnFailure run
    if shell.has 'e' then leave .script

/-- Takes a step as a pipeline of its own, whose status is kept. -/
def alone (step : Session Unit) : Session Unit := do
  step
  modify fun shell => { shell with pipeStatuses := [shell.status] }

/-- Takes a step and closes the pipes to commands behind paths that it has opened, unless a
program is to use them. -/
def closingChannels (step : Session Unit) : Session Unit := do
  let before := (← get).channels
  let left ← catching step
  let after := (← get).channels
  if after.length > before.length && !left.any Leave.isBecoming then
    (after.take (after.length - before.length)).forM fun stream => Act.connect stream none
    modify fun shell => { shell with channels := before }
  resuming left

/-- Runs commands one after the other. -/
def runSequence (run : Runner) (isFinal : Bool) : List Command → Session Unit
  | [] => return
  | [command] => run isFinal command
  | command :: rest => do
      run false command
      runSequence run isFinal rest

/-- Defines a function. -/
def defineFunction (name : String) (body : Command) : Session Unit := do
  modify fun shell => { shell with
    functions := (name, body) :: shell.functions.filter fun entry => entry.1 != name
    sources :=
      if shell.isExtended then
        (name, presentSource shell) :: shell.sources.filter fun entry => entry.1 != name
      else [] }
  finish 0

/-- What a time is told like. -/
def timeRow (nanoseconds : Nat) : Row :=
  let milliseconds := nanoseconds / 1000000
  let seconds := milliseconds / 1000
  natRow (seconds / 60) ++ ['m'] ++ natRow (seconds % 60) ++ ['.']
    ++ padZeros 3 (natRow (milliseconds % 1000)) ++ ['s']

/-- Runs a step and tells how long it took. -/
def timing (step : Session Unit) : Session Unit := do
  let before ← Act.now
  step
  let after ← Act.now
  warnRow (rowOf "\nreal\t" ++ timeRow (after - before) ++ rowOf "\nuser\t0m0.000s\nsys\t0m0.000s\n")

/-- Runs a command whose words are worked out where it stands, given how the commands inside it
are run. -/
def runWorded (run : Runner) (isFinal : Bool) (command : Command) : Session Unit := do
  match command with
  | .simple place assignments words redirections => do
      beginCommand run place
      checked run (alone (runSimple run isFinal assignments words redirections))
  | .redirected line command redirections => do
      modify fun shell => { shell with line }
      match ← knownIfPossible redirections with
      | none => checked run (return)
      | some known => underRedirections known false (checked run (return)) (run false command)
  | .forEach line name words body => do
      modify fun shell => { shell with line }
      let values ←
        match words with
        | some words => fieldsOf words
        | none => pure (← get).positional
      let shown := rowOf ("for " ++ name ++ " in ")
        ++ joinWith [' '] ((words.getD [[.parameter (.named "@") .value true]]).map scriptWord)
      finish 0
      runForEach run name shown body values
  | .caseOf line word branches => do
      modify fun shell => { shell with line }
      let row ← rowOfWord word
      if (← get).isExtended then traceHere (rowOf "case " ++ scriptWord word ++ rowOf " in")
      runBranches run isFinal row none branches
  | .condition place condition => checked run <| alone <| underLabel do
      beginCommand run place
      let trace (row : Row) : Session Unit := traceHere (rowOf "[[ " ++ row ++ rowOf " ]]")
      finish (← conditionStatus trace condition)
  | .calculation place expression => checked run <| alone <| underLabel do
      beginCommand run place
      finish (if (← calculate 0 expression) = 0 then 1 else 0)
  | .counting line start condition step body => underLabel do
      modify fun shell => { shell with line }
      let _ ← calculate 1 start
      finish 0
      runCounting run condition step body mostRounds
  | _ => return

/-- Runs a command, given how the commands inside it are run. -/
def runCommand (run : Runner) (isFinal : Bool) (command : Command) : Session Unit := do
  Act.work commandEffort
  if (← get).has 'n' then return
  match command with
  | .pipeline commands => checked run (runPipeline commands)
  | .negated command => do
      observing (run false command)
      finish (if (← get).status = 0 then 1 else 0)
  | .andThen first second => do
      observing (run false first)
      if (← get).status = 0 then run isFinal second
  | .orElse first second => do
      observing (run false first)
      if (← get).status ≠ 0 then run isFinal second
  | .sequence commands => runSequence run isFinal commands
  | .background command => do
      let isObserved := (← get).isObserved
      runBackground command
      modify fun shell => { shell with isObserved }
  | .subshell command => checked run (alone (runSubshell command))
  | .choice condition yes no => do
      observing (run false condition)
      if (← get).status = 0 then run isFinal yes
      else
        match no with
        | .sequence [] => finish 0
        | no => run isFinal no
  | .loop untilSuccess condition body => runLoop run untilSuccess condition body mostRounds 0
  | .define name body => defineFunction name body
  | .timed command => timing (run false command)
  | command =>
      if (← get).isExtended then closingChannels (runWorded run isFinal command)
      else runWorded run isFinal command
  runActions run mostActions

/-- The number of the signal for using memory that is not there. -/
def memorySignal : Nat := 11

/-- Runs commands that are nested at most so deeply. Deeper nesting uses up the
memory. -/
def runUpTo : Nat → Runner
  | 0 => fun _ _ => do
      let _ ← Act.signal memorySignal (← Act.self).number
      leave .script
  | depth + 1 => runCommand (runUpTo depth)

/-- The deepest nesting of running commands. -/
def deepestRun : Nat := 5000

/-- Runs a command. -/
def run : Runner := runUpTo deepestRun

/-! ## The whole of a process -/

/-- Runs the action for the end of a script, if there is one. The status of the script
stays as it is unless the action sets another. -/
def runLastAction (run : Runner) : Session Unit := do
  match (← get).traps.lookup 0 with
  | some action =>
      modify fun shell => { shell with traps := shell.traps.filter fun entry => entry.1 != 0 }
      if !action.isEmpty then
        let shell ← get
        let status := shell.status
        modify fun shell => { shell with builtin := none, level := shell.level + 1, isActing := true }
        let left ← catching (runScript run false (some (rowOf "exit trap"))
          (if shell.isExtended then 1 else shell.line) action)
        match left with
        | none | some .function => finish status
        | some _ => return
  | none => return

/-- Runs a step as all that a process does. -/
def performSession (shell : ShellState) (step : Session Unit) : Act Departure := do
  let whole : Session Departure := do
    match ← catching step with
    | some (.becomes path arguments environment) => return .becomes path arguments environment
    | _ =>
        runLastAction run
        return .ends (← get).status
  match ← (ExceptT.run whole).run shell with
  | (.ok departure, _) => return departure
  | (.error _, shell) => return .ends shell.status

/-- Goes on with a shell as it is, for the time of a command. What the shell was
prepared for is forgotten, except for signals that do not concern it. -/
def performCommand (command : Command) (shell : ShellState) : Act Departure :=
  performSession { shell with
    traps := shell.traps.filter fun entry =>
      (entry.2.isEmpty && entry.1 ≠ 0) || (entry.1 = failureOccasion && shell.has 'E')
    loops := if shell.isExtended then 0 else shell.loops
    jobs := if shell.isExtended then
        shell.jobs.map fun job => { job with isInherited := true }
      else []
    unwritten := [] } (run true command)

end TestAmplification.Shell
