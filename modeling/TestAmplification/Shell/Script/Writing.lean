import TestAmplification.Shell.Script.Builtin
import TestAmplification.Shell.Script.Extended.Assignments
import TestAmplification.Shell.Utility.Calendar
import TestAmplification.Shell.Utility.Format
import TestAmplification.Shell.Utility.Test

/-!
# Builtins that write and test

The shell writes texts and tests files by itself, in a way of its own.
-/

set_option autoImplicit false

namespace TestAmplification.Shell

open Session

/-- Writes its arguments. -/
def sayArguments : Builtin := fun arguments => do
  finish 0
  say (shellEchoRow arguments)

/-- Writes its arguments by a format. -/
def sayFormatted : Builtin := fun arguments => do
  let (_, operands) ← plainOptions [] arguments
  match operands with
  | [] => giveUp (rowOf "usage: printf format [arg ...]")
  | format :: arguments =>
      let formatting := shellFormat.use format arguments
      finish formatting.status
      formatting.result.forM fun
        | .output row => say row
        | .complaint row => warn row

/-- Tests files and texts. -/
def testTexts : Builtin := fun texts => do
  match holds (← Act.surroundings) texts with
  | .ok value => finish (if value then 0 else 1)
  | .error fault => giveUp fault.message

/-- Tests files and texts up to a closing bracket. -/
def testInBrackets : Builtin := fun texts => do
  if texts.getLast? = some [']'] then testTexts texts.dropLast
  else giveUp (rowOf "missing ]")

/-- Writes how much time was used. -/
def sayTimes : Builtin := fun _ => do
  finish 0
  say (rowOf "0m0.000000s 0m0.000000s\n0m0.000000s 0m0.000000s\n")

end TestAmplification.Shell

/-!
## Writing in the extended dialect

Options say how arguments are written. What a format makes of them can also be the value of a
variable.
-/

namespace TestAmplification.Shell

open Session

/-- Writes its arguments. -/
def echoExtended : Builtin := fun arguments => do
  finish 0
  say (optionedEchoRow extendedEchoRule ((← get).isSet "xpg_echo") true arguments)

/-- The text of a moment in the way of a format; without a usable argument that is now. -/
def momentRow (now : Int) (argument format : Row) : Row :=
  let seconds := (wholeNumber? argument).getD (-1)
  let moment := if seconds < 0 then now else seconds * secondLength
  formattedMoment moment (if format.isEmpty then rowOf "%X" else format)

/-- Writes arguments by a format, or makes that the value of a variable. -/
def printfExtended : Builtin := fun arguments => do
  let use : BuiltinUse := { valued := "v", usage := "printf [-v var] format [arguments]" }
  let (options, operands) ← use.take arguments
  let target := optionValue? options 'v'
  match target.filter fun target => (targetOf? target).isNone with
  | some target =>
      complain (noIdentifier target) 2
      leave .fault
  | none => pure ()
  match operands with
  | [] => use.refuse
  | format :: arguments =>
      let now := (← disk).clock
      let formatting := (extendedFormat (momentRow now)).use format arguments
      finish formatting.status
      let rows ← formatting.result.mapM fun
        | .output row => pure row
        | .complaint row => do
            warn row
            return []
      match target with
      | some target => setFor target rows.flatten
      | none => say rows.flatten

end TestAmplification.Shell
