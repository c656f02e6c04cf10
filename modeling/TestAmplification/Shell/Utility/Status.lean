import TestAmplification.Shell.Machine.Search
import TestAmplification.Shell.Utility.Tool

/-!
# What a path leads to

A path leads to a file, a directory or a pipe of the disk, or to one of the devices that a
machine always has. What stands at the path itself may be a link.
-/

set_option autoImplicit false

namespace TestAmplification.Shell

/-- What stands at a place. -/
inductive PathKind where
  | file
  | directory
  | link
  | pipe
  | device
deriving DecidableEq, Inhabited

/-- What is known about what a path leads to. -/
structure PathStatus where
  /-- Where it stands. -/
  place : Place
  /-- What it is. -/
  kind : PathKind
  /-- The number of bytes. -/
  size : Nat
  /-- The moment of the last change. -/
  changed : Int
  /-- Who may do what with it. -/
  mode : Nat
  /-- The number of names that it has. -/
  names : Nat := 1
  /-- The path that a link stands for. -/
  target : Path := ""
deriving DecidableEq, Inhabited

/-- The size of a directory. -/
def directorySize : Nat := 4096

/-- What is known about what stands at a place. -/
def statusAt (disk : Disk) (place : Place) (node : FileNode) : PathStatus :=
  let status (kind : PathKind) (size : Nat) : PathStatus :=
    { place, kind, size, changed := disk.changedAt place, mode := disk.modeOf place }
  match node with
  | .file bytes _ => { status .file bytes.size with names := (disk.namesOf place).length }
  | .directory =>
      { status .directory directorySize with
        names := 2 + ((disk.tree.namesIn place).filter fun name =>
          disk.tree.node? (place ++ [name]) == some .directory).length }
  | .link target => { status .link target.utf8ByteSize with target }
  | .pipe => status .pipe 0

/-- What is known about what stands at a place that was found on the disk, if anything. -/
def statusFound (disk : Disk) (found : Place × Option FileNode) : Except FileFault PathStatus :=
  match found with
  | (place, some node) => .ok (statusAt disk place node)
  | (place, none) =>
      if (deviceAt? place).isSome then
        .ok { place, kind := .device, size := 0, changed := disk.clock, mode := 0o666 }
      else .error .notFound

/-- What a path leads to from the directory of a disk. -/
def statusOfPath (disk : Disk) (path : Path) : Except FileFault PathStatus := do
  statusFound disk (← disk.tree.inspect disk.workingPlace path)

/-- What stands at a path itself. -/
def statusOfSelf (disk : Disk) (path : Path) : Except FileFault PathStatus := do
  statusFound disk (← disk.tree.inspectSelf disk.workingPlace path)

/-- The nanoseconds between two ticks of the clock that changes are compared by. -/
def tickLength : Nat := 4000000

namespace PathStatus

/-- The number of the tick in which the last change was made. What is changed within one tick
counts as changed at once. -/
def tick (status : PathStatus) : Int :=
  status.changed / tickLength

/-- Is it a directory? -/
def isDirectory (status : PathStatus) : Bool :=
  status.kind == .directory

/-- Is it a file? -/
def isFile (status : PathStatus) : Bool :=
  status.kind == .file

/-- Is it a link? -/
def isLink (status : PathStatus) : Bool :=
  status.kind == .link

/-- May it be run or entered? -/
def mayEnter (status : PathStatus) : Bool :=
  status.kind == .directory || Disk.modeRuns status.mode

end PathStatus

/-! ## What a process sees -/

/-- The disk as a process sees it, and what its streams lead to. -/
structure Surroundings where
  /-- The disk. -/
  disk : Disk
  /-- What the streams lead to. -/
  streams : List (Nat × PathStatus)

/-- What is known about what an opening leads to. -/
def statusOfTarget (disk : Disk) (target : Target) : PathStatus :=
  let status (kind : PathKind) : PathStatus :=
    { place := [], kind, size := 0, changed := disk.clock, mode := 0o600 }
  match target with
  | .file place | .directory place =>
      ((disk.tree.node? place).map (statusAt disk place)).getD (status .file)
  | .nothing | .zeros | .full | .noise => { status .device with mode := 0o666 }
  | .text _ | .outlet _ | .inlet _ | .channel _ | .record _ => status .pipe

/-- What the present process sees. -/
def Act.surroundings : Act Surroundings := do
  let disk ← Act.disk
  let machine ← get
  let process ← Act.self
  return {
    disk
    streams := process.streams.filterMap fun (stream, number) =>
      (machine.openings[number]?).map fun opening => (stream, statusOfTarget disk opening.target) }

/-- What a path leads to, be it the path of a stream. -/
def Surroundings.status (surroundings : Surroundings) (path : Row) : Option PathStatus :=
  let path := textOf path
  match Act.streamPath? path with
  | some stream => surroundings.streams.lookup stream
  | none => (statusOfPath surroundings.disk path).toOption

end TestAmplification.Shell
