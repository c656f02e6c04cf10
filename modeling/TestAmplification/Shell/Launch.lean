import TestAmplification.Shell.Machine.Act
import TestAmplification.Shell.Script.Start
import TestAmplification.Shell.Utility.Awk
import TestAmplification.Shell.Utility.Calendar
import TestAmplification.Shell.Utility.Characters
import TestAmplification.Shell.Utility.Columns
import TestAmplification.Shell.Utility.Comparing
import TestAmplification.Shell.Utility.Diff
import TestAmplification.Shell.Utility.Digests
import TestAmplification.Shell.Utility.Dump
import TestAmplification.Shell.Utility.Expr
import TestAmplification.Shell.Utility.Files.Find
import TestAmplification.Shell.Utility.Files.Listing
import TestAmplification.Shell.Utility.Files.Making
import TestAmplification.Shell.Utility.Files.Modes
import TestAmplification.Shell.Utility.Files.Transfer
import TestAmplification.Shell.Utility.Passing
import TestAmplification.Shell.Utility.Format
import TestAmplification.Shell.Utility.Grep
import TestAmplification.Shell.Utility.Identity
import TestAmplification.Shell.Utility.Launching
import TestAmplification.Shell.Utility.Paths
import TestAmplification.Shell.Utility.Sed
import TestAmplification.Shell.Utility.Sequence
import TestAmplification.Shell.Utility.Sort
import TestAmplification.Shell.Utility.Test
import TestAmplification.Shell.Utility.Xargs
import TestAmplification.Tooling.Launch

/-!
# The standard launcher

Commands are programs of the system, above all its shell. A command is refused when
there is no such program, when it cannot be started in its directory, or when its text
cannot be handed to a program at all.

Whether a command is still running is looked at every now and then, so a limit takes
effect only at the next look.

The programs stand in for the compilers, runners and engines of a project, so that a
project can be tried out. The library works with any launcher, and no theorem about it
rests on this one or on a program of the system.
-/

set_option autoImplicit false

/-!
## The utilities by their names
-/

namespace TestAmplification.Shell

/-- The utilities by their names. -/
def utilities : List (String × Utility) :=
  digestPrograms ++
    [("[", bracketTest), ("arch", arch), ("awk", awk), ("base64", base64), ("basename", basename),
      ("cat", cat), ("chgrp", chgrp), ("chmod", chmod), ("chown", chown), ("cksum", cksum),
      ("cmp", cmp), ("comm", comm), ("cp", cp), ("cut", cut), ("date", date), ("dd", dd),
      ("diff", diff), ("dirname", dirname), ("echo", echo), ("egrep", grep), ("env", env),
      ("expand", expand), ("expr", expr), ("factor", factor), ("false", doNotSucceed),
      ("fgrep", grep), ("find", find), ("fold", fold), ("grep", grep), ("groups", groups),
      ("head", head), ("hostname", hostname), ("id", identity), ("install", install),
      ("join", join), ("kill", sendSignals), ("link", link), ("ln", ln), ("ls", ls),
      ("mawk", awk), ("mkdir", mkdir), ("mkfifo", mkfifo), ("mktemp", mktemp), ("mv", mv),
      ("nice", nice), ("nl", nl), ("nohup", nohup), ("nproc", nproc), ("od", od),
      ("paste", paste), ("printenv", printenv), ("printf", printf), ("pwd", pwd),
      ("readlink", readlink), ("realpath", realpath), ("rev", rev), ("rm", rm), ("rmdir", rmdir),
      ("sed", sed), ("seq", seq), ("setsid", setsid), ("shuf", shuf), ("sleep", sleep),
      ("sort", sort), ("split", split), ("stat", stat), ("stdbuf", stdbuf), ("sum", sum),
      ("sync", sync), ("tac", tac), ("tail", tail), ("tee", tee), ("test", test),
      ("timeout", timeout), ("touch", touch), ("tr", tr), ("true", succeed),
      ("truncate", truncate), ("tsort", tsort), ("tty", tty), ("uname", uname),
      ("unexpand", unexpand), ("uniq", uniq), ("unlink", unlink), ("wc", wc), ("which", which),
      ("whoami", whoami), ("xargs", xargs), ("yes", yes)]

end TestAmplification.Shell

/-!
## Programs

A program is a shell, a utility, or a file with a script. A script is read by the program
that its first line asks for, or by a shell. What a file is depends on what it holds, not on
its name.
-/

namespace TestAmplification.Shell

/-- Runs a utility to its end. -/
def performUtility (utility : Utility) (call : Call) (arguments : List Row) : Act Departure := do
  match ← ExceptT.run ((utility arguments).run call) with
  | .ok status => return .ends status
  | .error departure => return departure

/-- Runs the program of the system with a name. -/
def performNamed (name : String) (arguments : List Row) (environment : List (String × Row)) :
    Act Departure := do
  if name = "sh" || name = "dash" then performShell .plain arguments environment
  else if name = "bash" then performShell .extended arguments environment
  else
    match utilities.lookup name with
    | some utility =>
        let call := { name := textOf (arguments.head?.getD []), environment }
        performUtility utility call (arguments.drop 1)
    | none => return .ends 127

/-- Runs the program at a path. -/
def performProgram (path : Row) (arguments : List Row) (environment : List (String × Row)) :
    Act Departure := do
  match runnableAt (← Act.disk) path with
  | .error fault => return .ends (statusOfMissing fault)
  | .ok (.program name) => performNamed name arguments environment
  | .ok (.script interpreter argument) =>
      return .becomes interpreter (interpreter :: argument.toList ++ path :: arguments.drop 1)
        environment
  | .ok .unknown =>
      return .becomes (rowOf "/bin/sh") (rowOf "sh" :: path :: arguments.drop 1) environment

/-- Does what a process is to do. -/
def perform : Performer
  | .command command shell => performCommand command shell
  | .program path arguments environment => performProgram path arguments environment

end TestAmplification.Shell

namespace TestAmplification.Shell

/-- The time between two looks at a running command, in nanoseconds. -/
def lookInterval : Nat := 20000000

/-- When a command with the given limit is stopped. -/
def deadlineOf (limit : Duration) : Nat :=
  (limit.inNanoseconds + lookInterval - 1) / lookInterval * lookInterval

/-- Can the text be handed to a program? -/
def isSendable (text : String) : Bool :=
  !text.toList.contains '\x00'

/-- The variables that a command gets to see. -/
def firstEnvironment : List (String × Row) :=
  [("PATH", standardSearch), ("HOME", rowOf "/root")]

/-- The machine that a command starts on. Two records take what it writes. -/
def machineFor (disk : Disk) (job : Job) : Machine where
  disk
  openings := #[{ target := .nothing, isRead := true }, { target := .record 0, isWritten := true },
    { target := .record 1, isWritten := true }]
  records := #[[], []]
  processes := [{ number := 1, parent := 0, streams := [(0, 0), (1, 1), (2, 2)]
                  place := disk.workingPlace }]
  started := [(1, job)]

/-- What is left of a machine when it came to an end. -/
def resultOf (isDone : Bool) (machine : Machine) : LaunchResult :=
  match isDone, (machine.process? 1).bind Process.ending with
  | true, some status =>
      let text (record : Nat) : String :=
        Text.decodeWithReplacement (machine.recordBytes record).toList
      .finished { status, output := text 0, errors := text 1 }
  | _, _ => .expired

/-- The disk that is left when all processes have come to an end. Files without a name are gone
then. -/
def diskOf (workingPlace : Place) (machine : Machine) : Disk :=
  let disk := machine.saved.disk
  { disk with
    workingPlace
    tree := ⟨disk.tree.nodes.filter fun place _ => !Machine.isNameless place⟩ }

/-- The path of the program of a command, or why it cannot be started. -/
def startedPath (disk : Disk) (arguments : List Row) : Except FileFault Row := do
  let path ← searchProgram disk standardSearch (arguments.head?.getD [])
  if isTooMuch arguments firstEnvironment then .error .argumentsTooLong
  else
    match runnableAt disk path with
    | .ok .unknown => .error .noProgram
    | _ => .ok path

/-- Runs a command on a disk. -/
def launch : Launcher := fun command limit disk =>
  if !(command.program :: command.arguments ++ command.workingDirectory.toList).all isSendable then
    (.refused "nul byte found in provided data", disk)
  else
    let started := equipped disk
    match started.startingPlace command.workingDirectory with
    | .error fault => (.refused fault.message, disk)
    | .ok place =>
        let started := { started with workingPlace := place }
        let arguments := (command.program :: command.arguments).map rowOf
        match startedPath started arguments with
        | .error fault => (.refused fault.message, disk)
        | .ok path =>
            if limit.inNanoseconds = 0 then (.expired, disk)
            else
              let job : Job := .program path arguments firstEnvironment
              let (isDone, machine) := Machine.run perform (deadlineOf limit) (machineFor started job)
              (resultOf isDone machine, diskOf disk.workingPlace machine)

end TestAmplification.Shell
