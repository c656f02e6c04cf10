import TestAmplification.Shell.Script.Directory
import TestAmplification.Shell.Script.Names
import TestAmplification.Shell.Script.Jobs
import TestAmplification.Shell.Script.Syntax

/-!
# Programs and processes of a script

A program takes the place of the shell when it is the last thing that is left to do, unless
the shell is prepared for signals or for its end; else it gets a process of its own. So do the
commands of a pipeline, commands that nobody waits for, and commands in a shell of their own.
-/

set_option autoImplicit false

namespace TestAmplification.Shell

open Session

/-! ## Programs -/

/-- Is the shell prepared for anything? -/
def hasTraps (shell : ShellState) : Bool :=
  shell.traps.any fun entry => !entry.2.isEmpty

/-- The message about arguments that cannot be handed to a program. -/
def tooMuchMessage (arguments : List Row) : Row :=
  arguments.head?.getD [] ++ rowOf (": " ++ FileFault.argumentsTooLong.reason)

/-- The status of a program that cannot be run. -/
def statusOfMissing (fault : FileFault) : Nat :=
  if [.notFound, .notADirectory, .nameTooLong, .tooManyLinks].contains fault then 127 else 126

/-- The reason that a shell gives for a program that cannot be run. -/
def missingReason (fault : FileFault) : String :=
  if fault = .notFound || fault = .notADirectory then "not found" else fault.reason

/-- The shell with a count of shells in one another that is lower by one. -/
def withLowerLevel (environment : List (String × Row)) : List (String × Row) :=
  environment.map fun (name, value) =>
    if name = "SHLVL" then (name, natRow ((Text.digits? value).getD 1 - 1)) else (name, value)

/-- The variables that a program gets to see, perhaps in the place of the shell. -/
def environmentFor (shell : ShellState) (isFinal : Bool) (path : Row) : List (String × Row) :=
  if shell.isExtended then
    let environment := shell.environment.filter fun entry => entry.1 != "_"
    (if isFinal then withLowerLevel environment else environment) ++ [("_", path)]
  else shell.environment

/-- The program that runs the file at a path, and its arguments. A script that does not say what
runs it is run by a shell of the same dialect. -/
def carrierFor (shell : ShellState) (disk : Disk) (path : Row) (arguments : List Row) :
    Row × List Row :=
  match shell.dialect, runnableAt disk path with
  | .extended, .ok .unknown =>
      (rowOf "/usr/bin/bash", rowOf "bash" :: path :: arguments.drop 1)
  | _, _ => (path, arguments)

/-- Runs the program at a path: in the place of the shell if that is all that is
left to do, else in a process of its own. -/
def runProgram (isFinal : Bool) (path : Row) (arguments : List Row) : Session Unit := do
  let shell ← get
  let isFinal := isFinal && !hasTraps shell
  let environment := environmentFor shell isFinal path
  if isTooMuch arguments environment then
    complain (tooMuchMessage (if shell.isExtended then [path] else arguments)) 126
    if isFinal then leave .script
    return
  let (path, arguments) := carrierFor shell (← disk) path arguments
  if isFinal then leave (.becomes path arguments environment)
  let _ ← takePlace
  let number ← Act.start (.program path arguments environment) id
  let ending ← Act.awaitEnding number
  noticeAll
  tellEnding true ending
  finish (statusOf ending)

/-- What is said about a program that cannot be run, in the extended dialect, with its
status. -/
def missingExtended (shell : ShellState) (disk : Disk) (name : Row) (fault : FileFault) : Row × Nat :=
  let about (reason : String) : Row := name ++ rowOf (": " ++ reason)
  if !name.contains '/' then
    if name.isEmpty || fault = .notFound then
      if (shell.binding? "PATH").isNone then (about FileFault.notFound.reason, 127)
      else (about "command not found", 127)
    else
      let found := (pathsIn shell.search name).find? fun path => disk.isThere (textOf path)
      (found.getD name ++ rowOf (": " ++ fault.reason), 126)
  else if (directoryAt? disk name).isSome then (about "Is a directory", 126)
  else if fault = .notFound && disk.isThere (textOf name) then
    (about "cannot execute: required file not found", 127)
  else (about fault.reason, if fault = .notFound then 127 else 126)

/-- Looks for a program. -/
def findProgram (name : Row) : Session (Option Row) := do
  let isPath := name.contains '/'
  let shell ← get
  match searchProgram (← disk) shell.search name with
  | .ok path =>
      if !isPath then
        if shell.isExtended then
          modify fun shell => { shell with tracked := shell.tracked ++ [textOf name] }
        else track name
      return some path
  | .error fault =>
      if shell.isExtended then
        let (message, status) := missingExtended shell (← disk) name fault
        complain message status
      else if name.isEmpty then complain (rowOf ": Permission denied") 127
      else
        complain (name ++ rowOf (": " ++ missingReason fault))
          (if isPath then statusOfMissing fault else 127)
      return none

/-! ## Processes -/

/-- Does a command only list jobs? -/
def Command.isListing : Command → Bool
  | .simple _ [] ([.text ['j', 'o', 'b', 's'] false] :: _) _ => true
  | _ => false

/-- The state of a shell that runs a part of the script in a process of its own. It knows no jobs,
unless it only lists them. -/
def ShellState.forPart (shell : ShellState) (command : Command) : ShellState :=
  if shell.isExtended then
    { shell with
      isPart := true, depth := shell.depth + 1
      jobs := if command.isListing then shell.jobs else [] }
  else shell

/-- Takes note of a command in the background. -/
def addJob (index : Nat) (processes : List Nat) (command : Command) : Session Unit :=
  modify fun shell => { shell with
    jobs := shell.jobs ++ [{
      index, processes := processes.map (·, none)
      text := if shell.isExtended then command.shown else [] }]
    lastJob := processes.getLast?
    status := 0 }

/-- Starts the commands of a pipeline, each reading what the one before writes. The
answer are their processes. -/
def startPipeline (input : Option Nat) : List Command → Session (List Nat)
  | [] => return []
  | [command] => do
      let number ← Act.start (.command command ((← get).forPart command)) fun process =>
        match input with
        | some opening => process.withStream 0 (some opening)
        | none => process
      return [number]
  | command :: rest => do
      let (outlet, inlet) ← Act.newPipe
      Act.changeSelf fun process => { process with kept := outlet :: process.kept }
      let number ← Act.start (.command command ((← get).forPart command)) fun process =>
        let process := process.withStream 1 (some inlet)
        match input with
        | some opening => process.withStream 0 (some opening)
        | none => process
      let others ← startPipeline (some outlet) rest
      Act.changeSelf fun process => { process with kept := process.kept.erase outlet }
      return number :: others

/-- Waits for the processes of a pipeline. The last one says how it ended. The answer is how all
of them ended. -/
def awaitPipeline : List Nat → Session (List Nat)
  | [] => do
      noticeAll
      return []
  | number :: rest => do
      let ending ← Act.awaitEnding number
      tellEnding rest.isEmpty ending
      finish (statusOf ending)
      return statusOf ending :: (← awaitPipeline rest)

/-- Runs a pipeline. If that is wanted, its status is that of the last command that failed. -/
def runPipeline (commands : List Command) : Session Unit := do
  let _ ← takePlace
  let statuses ← awaitPipeline (← startPipeline none commands)
  if (← get).isExtended then
    if (← get).isSet "pipefail" then
      finish ((statuses.filter (· != 0)).getLast?.getD 0)
    modify fun shell => { shell with pipeStatuses := statuses }

/-- Runs a command in a shell of its own. -/
def runSubshell (command : Command) : Session Unit := do
  let _ ← takePlace
  let number ← Act.start (.command command ((← get).forPart command)) id
  let _ ← awaitPipeline [number]

/-- Runs a command that nobody waits for. -/
def runBackground (command : Command) : Session Unit := do
  let index ← takePlace
  let nothing ← Act.newOpening { target := .nothing, isRead := true }
  modify fun shell => { shell with isObserved := false }
  let processes ← startPipeline (some nothing)
    (match command with
      | .pipeline commands => commands
      | command => [command])
  addJob index processes command

end TestAmplification.Shell
