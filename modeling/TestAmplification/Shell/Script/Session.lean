import TestAmplification.Shell.Machine.Act

/-!
# Steps of a script

A script runs in a process. Its steps change the state of its shell, act on the
machine, and may leave what is under way: loops, a function, or the script as a
whole. A script is left with the status that the shell has then.

What a builtin writes to its standard output appears when the builtin has come to
its end; what it says about faults appears at once.
-/

set_option autoImplicit false

namespace TestAmplification.Shell

/-- How the order of commands is left. -/
inductive Leave where
  /-- So many loops are left. -/
  | loops (count : Nat)
  /-- So many loops are left but for the last, which goes on. -/
  | round (count : Nat)
  /-- The function is left. -/
  | function
  /-- Something is wrong: the script ends, unless a builtin is to blame that is not
  special. -/
  | fault
  /-- A redirection cannot be made, so that the command is left. -/
  | redirection
  /-- The script ends. -/
  | script
  /-- The process goes on as the program at a path. The arguments start with the name
  that the program is called by. -/
  | becomes (path : Row) (arguments : List Row) (environment : List (String × Row))
deriving DecidableEq, Inhabited

/-- Does the process go on as a program? -/
def Leave.isBecoming : Leave → Bool
  | .becomes .. => true
  | _ => false

/-- Steps of a script. -/
abbrev Session := ExceptT Leave (StateT ShellState Act)

namespace Session

/-- Leaves what is under way. -/
def leave {α : Type} (leave : Leave) : Session α :=
  throw leave

/-- Takes a step and says how it was left, if it was. -/
def catching (step : Session Unit) : Session (Option Leave) := fun shell number machine =>
  (StateT.run (ExceptT.run step) shell number machine).andThen fun result machine =>
    match result with
    | (.ok (), shell) => .done (.ok none, shell) machine
    | (.error leave, shell) => .done (.ok (some leave), shell) machine

/-- Leaves again what a step has left. -/
def resuming : Option Leave → Session Unit
  | none => return
  | some leave => throw leave

/-- Sets the status. -/
def finish (status : Nat) : Session Unit :=
  modify fun shell => { shell with status }

/-- Writes about a fault. -/
def warnRow (row : Row) : Session Unit := do
  let _ ← Act.write 2 row

/-- Where what runs was read, as it stands in messages. -/
def sourceName (shell : ShellState) : Row :=
  match shell.nestings with
  | { source, .. } :: _ => if source.isEmpty then shell.name else source
  | [] => shell.name

/-- What the shell puts in front of its own messages: its name, the line and the
builtin that runs. In the extended dialect there is no line in what is read from the input. -/
def messageStart (shell : ShellState) : Row :=
  let hasLine := !(shell.has 's' && shell.scopes.isEmpty)
  (if !shell.isExtended then shell.name ++ rowOf ": " ++ natRow shell.line ++ rowOf ": "
    else if hasLine then sourceName shell ++ rowOf ": line " ++ natRow shell.line ++ rowOf ": "
    else sourceName shell ++ rowOf ": ")
    ++ (shell.builtin.map (· ++ rowOf ": ")).getD []

/-- Writes a message of the shell itself. -/
def warn (message : Row) : Session Unit := do
  warnRow (messageStart (← get) ++ message ++ ['\n'])

/-- Writes a message of the shell itself and sets the status. -/
def complain (message : Row) (status : Nat) : Session Unit := do
  warn message
  finish status

/-- The status of what has failed. -/
def faultStatus (shell : ShellState) : Nat :=
  if shell.isExtended then 1 else 2

/-- Writes a message of the shell itself and leaves what is under way. -/
def giveUp {α : Type} (message : Row) : Session α := do
  complain message (faultStatus (← get))
  leave .fault

/-- Writes a message that is not about the builtin that runs, and leaves what is under
way. A script of the extended dialect that is to end with the first failure ends, with the status
of the last command if that is one of a failure. -/
def giveUpPlainly {α : Type} (message : Row) : Session α := do
  let shell ← get
  set { shell with builtin := none }
  if shell.isExtended && shell.has 'e' then
    complain message (max 1 shell.status)
    leave .script
  giveUp message

/-- Writes the message for the dialect of the script and leaves what is under way. -/
def giveUpAs {α : Type} (plain extended : Row) : Session α := do
  if (← get).isExtended then giveUpPlainly extended else giveUp plain

/-- Writes a message of a builtin and how it is used, and leaves the builtin. -/
def giveUpUsage {α : Type} (message : Option Row) (usage : String) : Session α := do
  match message with
  | some message => warn message
  | none => pure ()
  warnRow ((((← get).builtin.map (· ++ rowOf ": ")).getD []) ++ rowOf ("usage: " ++ usage ++ "\n"))
  finish 2
  leave .fault

/-- Writes a message and ends the script, as far as it is not a part of another one. -/
def endWith {α : Type} (message : Row) : Session α := do
  modify fun shell => { shell with builtin := none }
  let shell ← get
  complain message
    (if shell.has 'e' then max 1 shell.status
      else if shell.isArgument && !shell.isPart then 127
      else 1)
  leave .script

/-- Refuses to change a variable. -/
def refuseFixed {α : Type} (name : String) : Session α :=
  giveUpAs (rowOf name ++ rowOf ": is read only") (rowOf name ++ rowOf ": readonly variable")

/-- Sets a variable, unless it is kept from changing. -/
def assign (name : String) (value : Row) : Session Unit := do
  if (← get).isFixed name then refuseFixed name
  modify (·.withValue name value)

/-- Writes to the standard output when the builtin has come to its end. -/
def say (row : Row) : Session Unit :=
  modify fun shell => { shell with unwritten := row :: shell.unwritten }

/-- Takes a step whose outcome is looked at. -/
def observing (step : Session Unit) : Session Unit := do
  let before := (← get).isObserved
  modify fun shell => { shell with isObserved := true }
  let left ← catching step
  modify fun shell => { shell with isObserved := before }
  resuming left

/-- The disk as the script sees it. -/
def disk : Session Disk := Act.disk

end Session

end TestAmplification.Shell

/-!
## Places of commands in the background

What was left in the background keeps a place, where it can be asked how it ended. It loses
its place when it was listed after its end, or when it was waited for and a later command
needs the place.
-/

namespace TestAmplification.Shell

/-- Changes the jobs of a shell. -/
def ShellState.changeJobs (shell : ShellState) (change : BackgroundJob → BackgroundJob) :
    ShellState :=
  { shell with jobs := shell.jobs.map change }

/-- Takes note of how processes in the background have ended. -/
def noticeEndings : Session Unit := do
  (← get).jobs.forM fun job => job.awaited.forM fun number => do
    match ← Act.endingOf number with
    | none => return
    | some ending =>
        modify (·.changeJobs fun job => { job with
          processes := job.processes.map fun process =>
            if process.1 = number then (number, some ending) else process })

/-- Forgets the jobs that have ended and pass the test, but not how they ended. -/
def ShellState.forget (shell : ShellState) (passes : BackgroundJob → Bool) : ShellState :=
  let (gone, left) := shell.jobs.partition fun job => passes job && job.unfinished.isEmpty
  { shell with
    jobs := left
    pastEndings := gone.filterMap (fun job => job.ending.map (job.number, ·)) ++ shell.pastEndings }

/-- Takes note of how processes have ended, after a command that was waited for. In the extended
dialect the jobs that have ended lose their places then. -/
def noticeAll : Session Unit := do
  noticeEndings
  if (← get).isExtended then modify (·.forget fun _ => true)

/-- The first free place from one on, where a place counts that was only kept for what is
settled. -/
def takePlaceFrom : Nat → Nat → Session Nat
  | 0, index => return index
  | steps + 1, index => do
      match (← get).jobs.find? fun job => job.index == index with
      | none => return index
      | some job =>
          if job.isSettled then
            modify fun shell => { shell with jobs := shell.jobs.filter fun job => job.index != index }
            return index
          else takePlaceFrom steps (index + 1)

/-- Makes room for a job. The answer is its place. -/
def takePlace : Session Nat := do
  takePlaceFrom ((← get).jobs.length + 1) 1

end TestAmplification.Shell
