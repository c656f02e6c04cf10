import TestAmplification.Failure
import TestAmplification.Files.Disk
import TestAmplification.Files.Path
import TestAmplification.Text.Lines
import TestAmplification.Text.Search

/-!
# Running commands under a limit

A command line is a program with its arguments and, if wanted, the directory
that it is started in. Its arguments may hold placeholders, names in braces,
which are filled in before the command is started: variable by variable, each
in the result of the one before. A placeholder without a variable stays as it
is.

A launcher starts a command, lets it act on the disk and waits for it, but no
longer than a limit. Everything about the command itself is up to the launcher:
a tool that uses one has to cope with whatever a command may do.
-/

set_option autoImplicit false

namespace TestAmplification

/-! ## Command lines -/

/-- A program with its arguments. -/
structure CommandLine where
  /-- The program. -/
  program : String
  /-- The arguments, in order. -/
  arguments : List String := []
  /-- The directory that the program is started in. -/
  workingDirectory : Option Path := none
deriving DecidableEq, Inhabited

/-- Names with the values that they stand for. -/
abbrev Variables := List (String × String)

/-- The placeholder of a name. -/
def placeholder (name : String) : String :=
  "\x7b" ++ name ++ "\x7d"

/-- The text with every placeholder of one name filled in. -/
def fillIn (text name value : String) : String :=
  Text.replace text (placeholder name) value

/-- The text with the placeholders of all variables filled in, one variable
after the other. -/
def fillInAll (placeholders : Variables) (text : String) : String :=
  placeholders.foldl (fun text (name, value) => fillIn text name value) text

namespace CommandLine

/-- The command line with one more argument. -/
def withArgument (command : CommandLine) (argument : String) : CommandLine :=
  { command with arguments := command.arguments ++ [argument] }

/-- The command line with its placeholders filled in. -/
def expanded (command : CommandLine) (placeholders : Variables) : CommandLine :=
  { command with arguments := command.arguments.map (fillInAll placeholders) }

/-- The text of a command line: the program and its arguments with blanks
between them, without any quotes. -/
def render (command : CommandLine) : String :=
  command.arguments.foldl (fun text argument => text ++ " " ++ argument) command.program

end CommandLine

/-! ## Launchers -/

/-- How a process ended. -/
inductive ExitStatus where
  /-- It ended by itself with a code. -/
  | code (number : Nat)
  /-- It was ended by a signal. -/
  | signal (number : Nat)
deriving DecidableEq, Inhabited

namespace ExitStatus

/-- The code of a process that ended by itself. -/
def code? : ExitStatus → Option Nat
  | code number => some number
  | signal _ => none

/-- A process succeeds when it ends by itself with the code zero. -/
def isSuccess (status : ExitStatus) : Bool :=
  status.code? == some 0

/-- The text of a status. -/
def render (status : ExitStatus) : String :=
  match status.code? with
  | some number => "Some(" ++ Text.decimal number ++ ")"
  | none => "None"

end ExitStatus

/-- What a finished process leaves behind. -/
structure ProcessOutput where
  /-- How it ended. -/
  status : ExitStatus
  /-- What it wrote. -/
  output : String
  /-- What it wrote about errors. -/
  errors : String
deriving DecidableEq, Inhabited

namespace ProcessOutput

/-- The last lines of the output that says most about errors: the error
output, unless it is blank. -/
def diagnostics (process : ProcessOutput) (count : Nat) : String :=
  let source := if (Text.trim process.errors).isEmpty then process.output else process.errors
  let lines := Text.lines source
  Text.joinLines (lines.drop (lines.length - count))

end ProcessOutput

/-- What became of a command. -/
inductive LaunchResult where
  /-- It was not started, for the given reason. -/
  | refused (reason : String)
  /-- It outlived the limit and was stopped. -/
  | expired
  /-- While it ran it could not be seen whether it had ended, for the given reason, and it was
  stopped. -/
  | lost (reason : String)
  /-- It came to an end. -/
  | finished (process : ProcessOutput)
deriving DecidableEq, Inhabited

/-- The directory that a command is started in, or why it cannot be. -/
def Disk.startingPlace (disk : Disk) : Option Path → Except FileFault Place
  | none => .ok disk.workingPlace
  | some path => do
      match ← disk.tree.inspect disk.workingPlace path with
      | (place, some .directory) => .ok place
      | (_, some _) => .error .notADirectory
      | (_, none) => .error .notFound

/-- Runs commands, each no longer than a limit. -/
abbrev Launcher := CommandLine → Duration → StateM Disk LaunchResult

/-- What a result means for a tool that needs the command to come to an
end. -/
def LaunchResult.toExcept (command : CommandLine) (limit : Duration) :
    LaunchResult → Except ToolingError ProcessOutput
  | refused reason => .error (.spawn command.render reason)
  | expired => .error (.timeout command.render limit)
  | lost reason => .error (.io ("waiting for \x60" ++ command.render ++ "\x60") reason)
  | finished process => .ok process

/-- Runs a command that has to come to an end. -/
def Launcher.runToEnd (launcher : Launcher) (command : CommandLine) (limit : Duration) :
    StateM Disk (Except ToolingError ProcessOutput) := do
  return (← launcher command limit).toExcept command limit

end TestAmplification
