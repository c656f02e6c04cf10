import TestAmplification.Shell.Script.Extended.Assignments
import TestAmplification.Shell.Script.Jobs

/-!
# Signals and background commands in the extended dialect

A script can be prepared for signals, for its end and for failing commands, send signals, and
wait for what it left in the background.
-/

set_option autoImplicit false

namespace TestAmplification.Shell

open Session

/-! ## Names of signals -/

/-- The occasions besides signals that a script can be prepared for, with their numbers. -/
def occasions : List (String × Nat) :=
  [("EXIT", 0), ("DEBUG", 65), ("ERR", 66), ("RETURN", 67)]

/-- The number of the occasion of a command. -/
def commandOccasion : Nat := 65

/-- The number of the occasion of a failing command. -/
def failureOccasion : Nat := 66

/-- The number of the occasion of the end of a function. -/
def returnOccasion : Nat := 67

/-- The name of a signal, without its start. -/
def shortSignalName (number : Nat) : String :=
  if number = 16 then "STKFLT" else nameOfSignal number

/-- The name of a signal or an occasion. -/
def longSignalName (number : Nat) : String :=
  match occasions.find? fun entry => entry.2 == number with
  | some (name, _) => name
  | none => "SIG" ++ shortSignalName number

/-- The number of the signal or the occasion that a text denotes. -/
def extendedSignal? (text : Row) : Option Nat :=
  let name := String.ofList (text.map Char.toUpper)
  let short := if name.startsWith "SIG" then (name.drop 3).toString else name
  match occasions.lookup name with
  | some number => some number
  | none =>
      match Text.digits? text with
      | some number => if number ≤ lastSignal then some number else none
      | none =>
          (List.range (lastSignal + 1)).find? fun number =>
            number > 0 && shortSignalName number == short

/-- Writes all signals with their numbers. -/
def saySignals : Session Unit := do
  let known := ((List.range lastSignal).map (· + 1)).filter fun number =>
    number < 32 || number ≥ firstFreeSignal
  known.zipIdx.forM fun (number, index) => do
    say (padLeft 2 (natRow number) ++ rowOf (") " ++ longSignalName number))
    say (if index % 5 = 4 then ['\n'] else ['\t'])
  if known.length % 5 ≠ 0 then say ['\n']

/-! ## Being prepared -/

/-- Writes what is done on an occasion. -/
def sayTrap (entry : Nat × Row) : Session Unit :=
  say (rowOf "trap -- " ++ betweenSingleQuotes entry.2
    ++ rowOf (" " ++ longSignalName entry.1 ++ "\n"))

/-- Prepares for occasions, or lets them have their way. -/
def prepareFor (action : Option Row) (names : List Row) : Session Unit :=
  names.forM fun name => do
    match extendedSignal? name with
    | none => remark (name ++ rowOf ": invalid signal specification")
    | some number =>
        if number ≤ lastSignal then prepare number action
        else
          modify fun shell => { shell with
            traps := (action.map (number, ·)).toList
              ++ shell.traps.filter fun entry => entry.1 != number }

/-- Says what is done on signals and other occasions. -/
def trapExtended : Builtin := fun arguments => do
  let use : BuiltinUse := { letters := "lp", usage := "trap [-lp] [[arg] signal_spec ...]" }
  let (options, operands) ← use.takeLetters arguments
  finish 0
  let traps := (← get).traps.mergeSort fun first second => decide (first.1 ≤ second.1)
  if options.contains 'l' then saySignals
  else
    match options.contains 'p', operands with
    | _, [] => traps.forM sayTrap
    | true, names =>
        names.forM fun name => do
          match extendedSignal? name with
          | none => remark (name ++ rowOf ": invalid signal specification")
          | some number => (traps.filter fun entry => entry.1 == number).forM sayTrap
    | false, [name] =>
        if (extendedSignal? name).isSome then prepareFor none [name] else use.refuse
    | false, action :: names =>
        if action = ['-'] then prepareFor none names
        else if (Text.digits? action).isSome && (extendedSignal? action).isSome then
          prepareFor none (action :: names)
        else prepareFor (some action) names

/-! ## Sending -/

/-- How `kill` is used in the extended dialect. -/
def killExtendedUsage : String :=
  "kill [-s sigspec | -n signum | -sigspec] pid | jobspec ... or kill -l [sigspec]"

/-- The job that an argument with a percent sign denotes. -/
def placedJob? (argument : Row) : Session (Option BackgroundJob) := do
  let jobs := (← get).jobs
  match argument with
  | ['%'] | ['%', '%'] | ['%', '+'] => return jobs.getLast?
  | ['%', '-'] => return jobs.dropLast.getLast?
  | argument =>
      return (Text.digits? (argument.drop 1)).bind fun index =>
        jobs.find? fun job => job.index == index

/-- Sends a signal to what an argument denotes. -/
def sendTo (signal : Nat) (target : Row) : Session Unit := do
  if target.head? == some '%' then
    match ← placedJob? target with
    | none => remark (target ++ rowOf ": no such job")
    | some job => job.unfinished.forM fun number => do let _ ← Act.signalTo signal number
  else
    match wholeNumber? target with
    | none => remark (target ++ rowOf ": arguments must be process or job IDs")
    | some number =>
        if !(← Act.signalTo signal number) then
          remark (['('] ++ target ++ rowOf ") - No such process")

/-- Tells the names or numbers of signals. -/
def saySignalNames (arguments : List Row) : Session Unit := do
  if arguments.isEmpty then saySignals
  else
    arguments.forM fun argument => do
      match Text.digits? argument with
      | some number =>
          let signal := if number > 128 then number - 128 else number
          if signal > lastSignal then remark (argument ++ rowOf ": invalid signal specification")
          else if signal = 0 then say (rowOf "EXIT\n")
          else say (rowOf (shortSignalName signal ++ "\n"))
      | none =>
          match extendedSignal? argument with
          | some signal => say (natRow signal ++ ['\n'])
          | none => remark (argument ++ rowOf ": invalid signal specification")

/-- Sends signals to processes. -/
def killExtended : Builtin := fun arguments => do
  finish 0
  let send (name : Row) (targets : List Row) : Session Unit := do
    match (extendedSignal? name).filter (· ≤ lastSignal) with
    | none => remark (name ++ rowOf ": invalid signal specification")
    | some signal =>
        if targets.isEmpty then giveUpUsage none killExtendedUsage
        targets.forM (sendTo signal)
  match arguments with
  | [] => giveUpUsage none killExtendedUsage
  | ['-', '-'] :: targets => send (rowOf "TERM") targets
  | ['-', 'l'] :: names | ['-', 'L'] :: names => saySignalNames names
  | ['-', 's'] :: rest | ['-', 'n'] :: rest =>
      match rest with
      | [] =>
          remark (arguments.head?.getD [] ++ rowOf ": option requires an argument")
      | name :: targets => send name (withoutMark targets)
  | ('-' :: letter :: more) :: targets =>
      let name := if (letter = 's' || letter = 'n') && !more.isEmpty
        && (extendedSignal? (letter :: more)).isNone then more else letter :: more
      send name (withoutMark targets)
  | targets => send (rowOf "TERM") targets
where
  /-- The targets behind the sign that ends options. -/
  withoutMark (targets : List Row) : List Row :=
    if targets.head? == some ['-', '-'] then targets.drop 1 else targets

/-! ## Waiting -/

/-- Waits for one of the jobs to end. -/
def awaitAny : Session Unit := do
  noticeEndings
  let jobs := (← get).jobs
  match (jobs.find? fun job => !job.isWaited && job.unfinished.isEmpty).or
      (jobs.find? fun job => !job.awaited.isEmpty) with
  | some job =>
      awaitJob job
      modify fun shell => { shell with jobs := shell.jobs.filter fun other => other.index != job.index }
  | none => finish 127

/-- Waits for a job, which is forgotten then. -/
def awaitAndForget (job : BackgroundJob) : Session Unit := do
  awaitJob job
  modify (·.forget fun other => other.index == job.index)

/-- Waits for all that was left in the background. Only of the last command it stays known how it
ended. -/
def awaitAll : Session Unit := do
  waitForJobs []
  modify fun shell =>
    let shell := shell.forget fun _ => true
    { shell with pastEndings := shell.pastEndings.filter fun past => some past.1 == shell.lastJob }

/-- Waits for what was left in the background. -/
def waitExtended : Builtin := fun arguments => do
  let use : BuiltinUse := { letters := "fn", valued := "p", usage := "wait [-fn] [-p var] [id ...]" }
  let (options, operands) ← use.take arguments
  if options.any fun option => option.1 == 'n' then awaitAny
  else if operands.isEmpty then awaitAll
  else
    operands.forM fun argument => do
      finish 0
      if argument.head? == some '%' then
        match ← placedJob? argument with
        | some job => awaitAndForget job
        | none => complain (argument ++ rowOf ": no such job") 127
      else
        match Text.digits? argument with
        | none => remark (['\x60'] ++ argument ++ rowOf "': not a pid or valid job spec")
        | some number =>
            match (← get).jobs.reverse.find? fun job =>
                !job.isInherited && job.number == number with
            | some job =>
                match optionValue? options 'p' with
                | some target => setFor target argument
                | none => pure ()
                awaitAndForget job
            | none =>
                match (← get).pastEndings.lookup number with
                | some ending => finish (statusOf ending)
                | none =>
                    complain (rowOf "pid " ++ argument ++ rowOf " is not a child of this shell") 127

/-- Lists what was left in the background. -/
def jobsExtended : Builtin := fun arguments => do
  let use : BuiltinUse := {
    letters := "lnprs", usage := "jobs [-lnprs] [jobspec ...] or jobs -x command [args]" }
  let (options, operands) ← use.takeLetters arguments
  finish 0
  noticeEndings
  let list (job : BackgroundJob) : Session Unit := do
    let isLeftOut := options.contains 'r' && job.unfinished.isEmpty
    if !isLeftOut && !options.contains 's' then listJob options job
  if operands.isEmpty then (← get).jobs.forM list
  else
    operands.forM fun argument => do
      match ← placedJob? argument with
      | some job => list job
      | none => remark (argument ++ rowOf ": no such job")

/-- Refuses to bring a command to the front or the back. -/
def refuseControl : Builtin := fun _ =>
  remark (rowOf "no job control")

/-- Forgets what was left in the background. -/
def disown : Builtin := fun arguments => do
  finish 0
  let target := (arguments.filter fun argument => argument.head? != some '-').head?
  match ← placedJob? (target.getD ['%']) with
  | some job =>
      modify fun shell => { shell with jobs := shell.jobs.filter fun other => other.index != job.index }
  | none => remark (target.getD (rowOf "current") ++ rowOf ": no such job")

end TestAmplification.Shell
