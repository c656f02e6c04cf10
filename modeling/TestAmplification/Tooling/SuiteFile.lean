import TestAmplification.Failure
import TestAmplification.Files.Disk
import TestAmplification.Json.Printer
import TestAmplification.Test.Document

/-!
# Suites as files

External tools find a suite in a file of its name, written as an indented JSON
document; no other form of a suite's file is known here. The file is put into a
directory for as long as a tool needs it. Whatever stood there before comes
back afterwards, and where nothing stood the file is removed again; the
directories made on the way stay.
-/

set_option autoImplicit false

namespace TestAmplification

namespace SuiteFile

/-- The name of the file of a suite. -/
def fileName (suite : TestSuite) : String :=
  suite.name ++ ".json"

/-- The content of the file of a suite. -/
def content (suite : TestSuite) : String :=
  suite.toJson.indented

/-- Where the file of a suite goes in a directory. -/
def pathIn (directory : Path) (suite : TestSuite) : Path :=
  Path.join directory (fileName suite)

/-- Makes the directory that a file goes into. -/
def makeParent (path : Path) : StateM Disk (Except ToolingError Unit) := do
  match Path.parent? path with
  | none => return .ok ()
  | some parent =>
      match ← Disk.makeDirectories parent with
      | .ok () => return .ok ()
      | .error fault => return .error (.io ("creating " ++ parent) fault.message)

/-- Writes the file of a suite into a directory. -/
def write (directory : Path) (suite : TestSuite) : StateM Disk (Except ToolingError Path) := do
  let path := pathIn directory suite
  match ← makeParent path with
  | .error error => return .error error
  | .ok () =>
      match ← Disk.write path (Text.encode (content suite)) with
      | .ok () => return .ok path
      | .error fault => return .error (.io ("writing " ++ path) fault.message)

end SuiteFile

/-- A suite that stands in a file, and what the file held before. -/
structure PlacedSuite where
  /-- The file. -/
  path : Path
  /-- What the file held; nothing when there was no file. -/
  before : Option Text.Bytes
deriving DecidableEq, Inhabited

namespace PlacedSuite

/-- Writes a suite into its file and remembers what the file held. -/
def place (directory : Path) (suite : TestSuite) :
    StateM Disk (Except ToolingError PlacedSuite) := do
  let before := (← Disk.read (SuiteFile.pathIn directory suite)).toOption
  match ← SuiteFile.write directory suite with
  | .error error => return .error error
  | .ok path => return .ok ⟨path, before⟩

/-- Puts back what the file held. A file that is to go and is gone already is
no failure. -/
def putBack (placed : PlacedSuite) : StateM Disk (Except FileFault Unit) := do
  match placed.before with
  | some bytes => Disk.write placed.path bytes
  | none =>
      match ← Disk.removeFile placed.path with
      | .error .notFound => return .ok ()
      | result => return result

/-- Puts back what the file held, with the file in the text of a failure. -/
def restore (placed : PlacedSuite) : StateM Disk (Except ToolingError Unit) := do
  match ← placed.putBack with
  | .ok () => return .ok ()
  | .error fault => return .error (.io ("restoring " ++ placed.path) fault.message)

end PlacedSuite

end TestAmplification
