import TestAmplification.Shell.Machine.Basic
import TestAmplification.Shell.Script.Builtin

/-!
# Builtins for background commands and signals

What was left in the background can be listed and waited for. A script can be prepared for
signals and send them to processes.
-/

set_option autoImplicit false

/-!
## Builtins for commands in the background

What was left in the background can be listed and waited for. It is denoted by its process
or by its place among the jobs.
-/

namespace TestAmplification.Shell

open Session

/-! ### Choosing -/

/-- The job that an argument with a percent sign denotes. -/
def jobOf (argument : Row) : Session BackgroundJob := do
  let jobs := (← get).jobs
  let chosen (job : Option BackgroundJob) (message : Row) : Session BackgroundJob :=
    match job with
    | some job => return job
    | none => giveUp message
  match argument with
  | ['%'] | ['%', '%'] | ['%', '+'] => chosen jobs.getLast? (rowOf "No current job")
  | ['%', '-'] => chosen jobs.dropLast.getLast? (rowOf "No previous job")
  | argument =>
      chosen ((Text.digits? (argument.drop 1)).bind fun index =>
        jobs.find? fun job => job.index == index) (rowOf "No such job: " ++ argument)

/-- The job that an argument denotes, if there is one: by its process, or by its place
after a percent sign. -/
def jobOf? (argument : Row) : Session (Option BackgroundJob) := do
  if argument.head? == some '%' then return some (← jobOf argument)
  else
    let number ← numberArgument argument
    return (← get).jobs.reverse.find? fun job => job.number == number

/-! ### Waiting -/

/-- Tells what a signal did to a process that was waited for. In the extended dialect only the
signal that asks for an end is told like that, and only of what nobody has put in the
background. -/
def tellEnding (isForeground : Bool) (ending : ExitStatus) : Session Unit := do
  match ending with
  | .signal signal =>
      let isTold := if (← get).isExtended then isForeground && signal = 15
        else signal ≠ 2 && signal ≠ pipeSignal
      if isTold then warnRow (rowOf (signalText signal ++ "\n"))
  | .code _ => return

/-- Waits for processes, unless a signal comes in between. The answer is the
signal. -/
def awaitProcesses (numbers : List Nat) : Session (Option Nat) := do
  if numbers.isEmpty then return none
  Act.await (.endings numbers)
  noticeEndings
  let process ← Act.self
  return process.pending.find? process.caught.contains

/-- Marks jobs that are over as waited for. -/
def settle (passes : BackgroundJob → Bool) : Session Unit :=
  modify (·.changeJobs fun job =>
    if passes job && job.unfinished.isEmpty then { job with isWaited := true } else job)

/-- Waits for a job. -/
def awaitJob (job : BackgroundJob) : Session Unit := do
  match ← awaitProcesses job.awaited with
  | some signal =>
      finish (128 + signal)
      leave .fault
  | none =>
      let after := ((← get).jobs.find? fun other => other.index == job.index).getD job
      after.processes.forM fun (number, ending) => do
        if job.unfinished.contains number then (ending.map (tellEnding false)).getD (pure ())
      settle fun other => other.index == job.index
      match after.ending with
      | some ending => finish (statusOf ending)
      | none => return

/-- Waits for all that was left in the background, or for some of it. -/
def waitForJobs : Builtin := fun arguments => do
  let (_, operands) ← plainOptions [] arguments
  if operands.isEmpty then
    finish 0
    match ← awaitProcesses ((← get).jobs.flatMap BackgroundJob.awaited) with
    | some signal => finish (128 + signal)
    | none => settle fun _ => true
  else
    finish 127
    operands.forM fun argument => do
      match ← jobOf? argument with
      | some job => awaitJob job
      | none => return

/-! ### Listing -/

/-- How a job stands, in words. -/
def BackgroundJob.standing (job : BackgroundJob) : Row :=
  match job.unfinished.isEmpty, job.ending with
  | true, some (.code 0) => rowOf "Done"
  | true, some (.code status) => rowOf "Done(" ++ natRow status ++ [')']
  | true, some (.signal signal) => rowOf (signalText signal)
  | _, _ => rowOf "Running"

/-- A row filled up to the column of commands, which are not known. -/
def beforeCommand (row : Row) : Row :=
  padRight (max 33 (row.length + 1)) row

/-- A job as it is listed, with a mark and perhaps with the numbers of its processes. -/
def BackgroundJob.listed (job : BackgroundJob) (mark : Char) (hasNumbers : Bool) : Row :=
  let start := ['['] ++ natRow job.index ++ rowOf "] " ++ [mark, ' ']
  if hasNumbers then
    let numbers := job.processes.map fun process => natRow process.1 ++ [' ']
    let rows := ((start ++ numbers.head?.getD [] ++ job.standing)
      :: (numbers.drop 1).map fun number => padLeft start.length [] ++ number).map beforeCommand
    joinWith (rowOf " |\n") rows ++ ['\n']
  else beforeCommand (start ++ job.standing) ++ joinWith (rowOf " | ") (job.processes.map fun _ => [])
    ++ ['\n']

/-- A job as it is listed in the extended dialect, with a mark and perhaps with the number of its
first process. -/
def BackgroundJob.listedExtended (job : BackgroundJob) (mark : Char) (hasNumbers : Bool) : Row :=
  let numbers := if hasNumbers then
      (job.processes.head?.map fun process => natRow process.1 ++ [' ']).getD []
    else [' ']
  ['['] ++ natRow job.index ++ [']', mark, ' '] ++ numbers ++ padRight 24 job.standing ++ job.text
    ++ rowOf (if job.unfinished.isEmpty then "\n" else " &\n")

/-- Lists a job, and forgets it if it has ended. -/
def listJob (options : List Char) (job : BackgroundJob) : Session Unit := do
  if options.contains 'p' then
    say (natRow ((job.processes.head?.map Prod.fst).getD 0) ++ ['\n'])
  else
    let later := ((← get).jobs.reverse.takeWhile fun other => other.index != job.index).length
    let mark := if later = 0 then '+' else if later = 1 then '-' else ' '
    say ((if (← get).isExtended then job.listedExtended else job.listed) mark
      (options.contains 'l'))
    if job.unfinished.isEmpty then
      modify fun shell => { shell with jobs := shell.jobs.filter fun other => other.index != job.index }

/-- Lists jobs, or all of them, the last one first. -/
def listJobs : Builtin := fun arguments => do
  let (options, operands) ← plainOptions ['l', 'p'] arguments
  finish 0
  noticeEndings
  if operands.isEmpty then (← get).jobs.reverse.forM (listJob options)
  else
    operands.forM fun argument => do
      match ← if argument.head? == some '%' then some <$> jobOf argument else pure none with
      | some job => listJob options job
      | none => giveUp (rowOf "No such job: " ++ argument)

/-- Refuses to bring a job to the front or the back. -/
def refuseJobs : Builtin := fun arguments => do
  let (_, operands) ← plainOptions [] arguments
  let argument := operands.head?.getD ['%']
  let _ ← jobOf argument
  let shown := operands.head?.getD (rowOf "(null)")
  giveUp (rowOf "job " ++ shown ++ rowOf " not created under job control")

end TestAmplification.Shell

/-!
## Builtins for signals

A script can be prepared for signals and send them to processes.
-/

namespace TestAmplification.Shell

open Session

/-! ### Being prepared -/

/-- The action for a signal as a command. -/
def trapRow (signal : Nat) (action : Row) : Row :=
  rowOf "trap -- " ++ singleQuoted action
    ++ rowOf (" " ++ nameOfSignal signal ++ "\n")

/-- Prepares the process for a signal, or lets it have its way. -/
def prepare (signal : Nat) (action : Option Row) : Session Unit := do
  modify fun shell => { shell with
    traps := (action.map (signal, ·)).toList ++ shell.traps.filter fun entry => entry.1 != signal }
  if signal ≠ 0 then
    Act.changeSelf fun process => { process with
      caught := (if (action.map fun action => !action.isEmpty).getD false then [signal] else [])
        ++ process.caught.filter (· != signal)
      ignored := (if action = some [] then [signal] else [])
        ++ process.ignored.filter (· != signal) }

/-- Prepares for signals one after the other, up to one that does not exist. -/
def prepareAll (action : Option Row) : List Row → Session Unit
  | [] => return
  | name :: rest => do
      match signalOf? name with
      | some signal =>
          prepare signal action
          prepareAll action rest
      | none =>
          warnRow (rowOf "trap: " ++ name ++ rowOf ": bad trap\n")
          finish 1

/-- Says what is done on signals. -/
def trap : Builtin := fun arguments => do
  let (_, operands) ← plainOptions [] arguments
  finish 0
  match operands with
  | [] =>
      let traps := (← get).traps.mergeSort fun first second => decide (first.1 ≤ second.1)
      traps.forM fun (signal, action) => say (trapRow signal action)
  | [name] => prepareAll none [name]
  | action :: names =>
      if (Text.digits? action).isSome then prepareAll none (action :: names)
      else prepareAll (if action = ['-'] then none else some action) names

/-! ### Sending -/

/-- How `kill` is used. -/
def killUsage : String :=
  "Usage: kill [-s sigspec | -signum | -sigspec] [pid | job]... or\nkill -l [exitstatus]"

/-- Tells the name of a signal, or of the one that a status stands for, or all
names. -/
def sayName (arguments : List Row) : Session Unit := do
  match arguments with
  | [] =>
      say (joinRows (['0'] :: (List.range lastSignal).map fun index => rowOf (nameOfSignal (index + 1))))
  | argument :: _ =>
      let number ← numberArgument argument
      let signal := if number > 128 then number - 128 else number
      if signal = 0 || signal > lastSignal then
        giveUp (rowOf "invalid signal number or exit status: " ++ argument)
      say (rowOf (nameOfSignal signal ++ "\n"))

/-- What the options of `kill` ask for. -/
inductive KillRequest where
  /-- To send a signal to processes. -/
  | send (signal : Nat) (targets : List Row)
  /-- To tell names. -/
  | tell (arguments : List Row)

/-- Reads the options of `kill`. -/
def killRequest : List Row → Session KillRequest
  | ['-', '-'] :: rest => return .send 15 rest
  | ['-', 'l'] :: rest => return .tell rest
  | ['-', 's'] :: [] => giveUp (rowOf "No arg for -s option")
  | ['-', 's'] :: name :: rest => do
      match signalOf? name with
      | some signal => return .send signal rest
      | none => giveUp (rowOf "invalid signal number or name: " ++ name)
  | ('-' :: letter :: name) :: rest => do
      match signalOf? (letter :: name) with
      | some signal => return .send signal rest
      | none =>
          if letter = 's' then
            match signalOf? name with
            | some signal => return .send signal rest
            | none => giveUp (rowOf "invalid signal number or name: " ++ name)
          else giveUp (rowOf "Illegal option -" ++ [letter])
  | targets => return .send 15 targets

/-- Sends signals to processes. -/
def kill : Builtin := fun arguments => do
  if arguments.isEmpty then giveUp (rowOf killUsage)
  finish 0
  match ← killRequest arguments with
  | .tell arguments => sayName arguments
  | .send _ [] => giveUp (rowOf killUsage)
  | .send signal targets =>
      targets.forM fun target => do
        let number : Int ←
          match target with
          | '%' :: _ => do
              let job ← jobOf target
              pure (-((job.processes.head?.map Prod.fst).getD 0 : Int))
          | '-' :: group => do pure (-(← numberArgument group : Int))
          | target => do pure (← numberArgument target : Int)
        if !(← Act.signalTo signal number) then
          warn (rowOf "No such process\n")
          finish 1

end TestAmplification.Shell
