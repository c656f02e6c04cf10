import TestAmplification.Shell.Machine.Act
import TestAmplification.Shell.Machine.Basic

/-!
# Utilities

A utility is a program that the machine has from the start. It gets arguments and
the variables of its starter, uses streams and files, and comes to its end with a
status. What it says about faults starts with its name, and a fault in how it was
called is followed by a hint.

A utility that cannot write what it has to write gives up.
-/

set_option autoImplicit false

namespace TestAmplification.Shell

/-- How a utility was called. -/
structure Call where
  /-- The name that stands in front of what it says. -/
  name : String
  /-- The variables that it gets to see. -/
  environment : List (String × Row) := []
  /-- The status of a fault in how it was called. -/
  usageStatus : Nat := 1
  /-- What stands in front of the hint where to look for help. -/
  hintStart : Row := []
  /-- What is written in place of the hint. -/
  manual : Option Row := none
deriving Inhabited

/-- Steps of a utility. -/
abbrev Tool := ReaderT Call (ExceptT Departure Act)

/-- A utility: what it does with its arguments. The result is its status. -/
abbrev Utility := List Row → Tool Nat

namespace Tool

/-- Comes to the end. -/
def leave {α : Type} (status : Nat) : Tool α :=
  throw (.ends status)

/-- Writes about a fault. -/
def warnRow (row : Row) : Tool Unit := do
  let _ ← Act.write 2 row

/-- Says something under the name of the utility. -/
def warn (message : Row) : Tool Unit := do
  warnRow (rowOf (← read).name ++ rowOf ": " ++ message ++ ['\n'])

/-- Says something and comes to the end. -/
def fail {α : Type} (message : Row) (status : Nat) : Tool α := do
  warn message
  leave status

/-- Says where to look for help, or gives it, and comes to the end. -/
def hint {α : Type} : Tool α := do
  let call ← read
  warnRow (call.manual.getD
    (call.hintStart ++ rowOf ("Try '" ++ call.name ++ " --help' for more information.\n")))
  leave call.usageStatus

/-- Says what is wrong with the call and comes to the end. -/
def usage {α : Type} (message : Row) : Tool α := do
  warn message
  hint

/-- Writes to the standard output. -/
def put (row : Row) : Tool Unit := do
  match ← Act.write 1 row with
  | .ok () => return
  | .error fault => fail (rowOf ("write error: " ++ fault.reason)) (← read).usageStatus

/-- Writes packed bytes to the standard output. -/
def putBytes (bytes : ByteArray) : Tool Unit := do
  match ← Act.sendTo 1 bytes with
  | .ok () => return
  | .error fault => fail (rowOf ("write error: " ++ fault.reason)) (← read).usageStatus

/-- Writes a line to the standard output. -/
def putLine (row : Row) : Tool Unit :=
  put (row ++ ['\n'])

/-- The greatest status of steps for each item. -/
def worst {α : Type} (step : α → Tool Nat) (items : List α) : Tool Nat :=
  items.foldlM (fun status item => return max status (← step item)) 0

/-! ## Inputs -/

/-- Why an input cannot be used. -/
inductive InputFault where
  /-- It cannot be opened. -/
  | opening (fault : FileFault)
  /-- It cannot be read. -/
  | reading (fault : StreamFault)

/-- The reason of a fault. -/
def InputFault.reason : InputFault → String
  | opening fault => fault.reason
  | reading fault => fault.reason

/-- Opens a file to be read; a hyphen stands for the standard input. -/
def openInput (path : Row) : Tool (Except InputFault Nat) := do
  if path = ['-'] then
    match ← Act.openingOf 0 with
    | some opening => return .ok opening
    | none => return .error (.reading .closed)
  else
    match ← Act.openPath .read (textOf path) with
    | .ok opening => return .ok opening
    | .error fault => return .error (.opening fault)

/-- Keeps an opening while it is used. -/
def keeping {α : Type} (opening : Nat) (step : Tool α) : Tool α := do
  Act.keep opening
  let result ← step
  Act.letGo opening
  return result

/-- The bytes of a named input. -/
def inputBytes (path : Row) : Tool (Except InputFault ByteArray) := do
  match ← openInput path with
  | .error fault => return .error fault
  | .ok opening =>
      let result ← Act.receiveAll opening
      if path != ['-'] then Act.letGo opening
      match result with
      | .ok bytes => return .ok bytes
      | .error fault => return .error (.reading fault)

/-- The whole of a named input. -/
def input (path : Row) : Tool (Except InputFault Row) := do
  match ← inputBytes path with
  | .error fault => return .error fault
  | .ok bytes =>
      Act.work (Act.lookingEffort bytes.size)
      return .ok (unpacked bytes)

/-- The whole of the standard input. -/
def standardInput : Tool (Except InputFault Row) :=
  input ['-']

/-- The named inputs, or the standard input when none is named. -/
def namedInputs (paths : List Row) : List Row :=
  if paths.isEmpty then [['-']] else paths

/-- The disk as the utility sees it. -/
def disk : Tool Disk := Act.disk

end Tool

end TestAmplification.Shell
