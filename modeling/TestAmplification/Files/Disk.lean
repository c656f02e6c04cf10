import TestAmplification.Files.Tree

/-!
# A disk with a working directory

A disk is a file tree together with the directory that relative paths start
from and a clock. The clock moves on whenever a file is written, so that files
written later are newer.

What the tree does not say is kept in marks: who may do what with a file or a
directory, where that is not the usual, and when a directory was changed. Several
places may be names of one file; what is written under one of them is there under
the others as well.

Places are reached by paths that are texts. What there is at other paths is kept
by their bytes; nobody changes it.

Files belong to the user who works on the disk. A file is read or written only if
its mode says that its owner may, unless the user may do everything. Directories
are taken to be open to their user: whatever their modes, they are passed through
and changed.
-/

set_option autoImplicit false

namespace TestAmplification

/-- What is known about a place besides what stands there. -/
structure FileMark where
  /-- Who may do what, if that is not the usual. -/
  mode : Option Nat := none
  /-- When it was changed, for what is no file. -/
  changed : Option Int := none
deriving DecidableEq, Inhabited

/-- A file tree, a working directory and a clock. -/
structure Disk where
  /-- The directories and files. -/
  tree : FileTree
  /-- Where relative paths start. -/
  workingPlace : Place
  /-- The present moment, in nanoseconds. -/
  clock : Int
  /-- What else is known about places. -/
  marks : Table Place FileMark := ∅
  /-- The places that are names of one file, for each file with several. -/
  shared : List (List Place) := []
  /-- May the user do everything, whatever the modes of files are? -/
  superuser : Bool := true
  /-- What is found at paths that are no texts: the text of a file, or why there is none. -/
  unnamed : List (Text.Bytes × Except String String) := []
deriving Inhabited

/-- What somebody may do with the bytes of a file, or may not. -/
inductive FileRight where
  | read
  | write
deriving DecidableEq

/-- Does a mode give the right to the owner of a file? -/
def FileRight.isIn (mode : Nat) : FileRight → Bool
  | read => Nat.land mode 0o400 != 0
  | write => Nat.land mode 0o200 != 0

namespace Disk

/-! ## Places -/

/-- The places that are names of the file at a place, the place itself first. -/
def namesOf (disk : Disk) (place : Place) : List Place :=
  place :: ((disk.shared.find? (·.contains place)).getD []).filter (· != place)

/-- The mark of a place. -/
def markOf (disk : Disk) (place : Place) : FileMark :=
  (disk.marks.find? place).getD {}

/-- The mode of a place, where it is not the usual one. -/
def mode? (disk : Disk) (place : Place) : Option Nat :=
  (disk.markOf place).mode

/-- The disk with a change to the marks of the file or directory at a place. -/
def changeMark (disk : Disk) (place : Place) (change : FileMark → FileMark) : Disk :=
  { disk with
    marks := (disk.namesOf place).foldl
      (fun marks name => marks.insert name (change ((marks.find? name).getD {}))) disk.marks }

/-- The disk where a file holds the bytes since a moment, under all its names. -/
def store (disk : Disk) (place : Place) (bytes : ByteArray) (moment : Int) : Disk :=
  { disk with
    tree := (disk.namesOf place).foldl
      (fun tree name => tree.put name (.file bytes moment)) disk.tree }

/-- The disk where the directory of a place was changed now. -/
def stampParent (disk : Disk) (place : Place) : Disk :=
  disk.changeMark place.dropLast fun mark => { mark with changed := some disk.clock }

/-- The disk with something new at a place. -/
def create (disk : Disk) (place : Place) (node : FileNode) : Disk :=
  let disk := { disk with tree := disk.tree.put place node, clock := disk.clock + 1 }
  match node with
  | .file .. => disk.stampParent place
  | _ =>
      (disk.changeMark place fun mark => { mark with changed := some disk.clock }).stampParent place

/-- The marks and the shared names that are left when a place is gone with everything
below it. -/
def forget (disk : Disk) (place : Place) : Disk :=
  { disk with
    marks := disk.marks.filter fun other _ => !place.isPrefixOf other
    shared := (disk.shared.map (·.filter fun other => !place.isPrefixOf other)).filter
      fun names => names.length > 1 }

/-- The disk without what stands at a place and below it. -/
def erase (disk : Disk) (place : Place) : Disk :=
  let disk := { disk with
    tree := (disk.tree.eraseBelow place).erase place, clock := disk.clock + 1 }
  (disk.forget place).stampParent place

/-- The disk where what stood at a place, and everything below it, stands at another one.
What stood there is gone. -/
def move (disk : Disk) (source target : Place) : Disk :=
  match disk.tree.node? source with
  | none => disk
  | some node =>
      let goes (place : Place) : Place :=
        if source.isPrefixOf place then target ++ place.drop source.length else place
      let inside := disk.tree.below source
      let bare := ((((disk.tree.eraseBelow source).erase source).eraseBelow target).put target node)
      let free := disk.forget target
      let moved : Disk := { free with
        tree := inside.foldl (fun tree (way, node) => tree.put (target ++ way) node) bare
        marks := Table.ofList (free.marks.entries.map fun (place, mark) => (goes place, mark))
        shared := free.shared.map fun names => names.map goes
        clock := disk.clock + 1 }
      (moved.stampParent source).stampParent target

/-- The disk where the file at one place has another one as a further name. -/
def share (disk : Disk) (source target : Place) : Disk :=
  match disk.tree.node? source with
  | none => disk
  | some node =>
      let names := disk.namesOf source
      let disk := { disk with
        tree := disk.tree.put target node
        shared := (names ++ [target]) :: disk.shared.filter fun others => !others.contains source
        clock := disk.clock + 1 }
      let disk := disk.stampParent target
      match disk.marks.find? source with
      | none => disk
      | some mark => { disk with marks := disk.marks.insert target mark }

/-! ## Modes -/

/-- The mode that a new file usually has. -/
def plainMode : Nat := 0o644

/-- The mode that a new directory usually has. -/
def openMode : Nat := 0o755

/-- The mode of links. -/
def linkMode : Nat := 0o777

/-- May anybody run a file with the mode? -/
def modeRuns (mode : Nat) : Bool :=
  Nat.land mode 0o111 != 0

/-- Who may do what with what stands at a place. -/
def modeOf (disk : Disk) (place : Place) : Nat :=
  match disk.tree.node? place with
  | some .directory => (disk.mode? place).getD openMode
  | some (.link _) => linkMode
  | _ => (disk.mode? place).getD plainMode

/-- The disk where what stands at a place has a mode. -/
def setMode (disk : Disk) (place : Place) (mode : Nat) : Disk :=
  disk.changeMark place fun mark => { mark with mode := some mode }

/-- May the user do it with what stands at a place? -/
def allows (disk : Disk) (right : FileRight) (place : Place) : Bool :=
  disk.superuser ||
    match disk.tree.node? place with
    | some .directory => true
    | _ => right.isIn (disk.modeOf place)

/-- Does something stand at the path with which the user may not do it? -/
def refuses (disk : Disk) (right : FileRight) (path : Path) : Bool :=
  match disk.tree.inspect disk.workingPlace path with
  | .ok (place, some _) => !disk.allows right place
  | _ => false

/-- When what stands at a place was changed. -/
def changedAt (disk : Disk) (place : Place) : Int :=
  match disk.tree.node? place with
  | some (.file _ changed) => changed
  | _ => (disk.markOf place).changed.getD disk.clock

/-! ## Reading -/

/-- The bytes of a file. -/
def read (path : Path) : StateM Disk (Except FileFault Text.Bytes) := do
  let disk ← get
  if disk.refuses .read path then return .error .permissionDenied
  return disk.tree.read disk.workingPlace path

/-- The text of a file; a file that holds no text is as good as unreadable. -/
def readText (path : Path) : StateM Disk (Except String String) := do
  match ← read path with
  | .error fault => return .error fault.message
  | .ok bytes =>
      match Text.decode? bytes with
      | some text => return .ok text
      | none => return .error "stream did not contain valid UTF-8"

/-- The text of a file at any path of the system. -/
def readTextAt : SystemPath → StateM Disk (Except String String)
  | .text path => readText path
  | .bytes raw => do
      return ((← get).unnamed.lookup raw).getD (.error FileFault.notFound.message)

/-! ## Writing -/

/-- Writes a file. -/
def write (path : Path) (bytes : Text.Bytes) : StateM Disk (Except FileFault Unit) := do
  let disk ← get
  match disk.tree.placeToWrite disk.workingPlace path with
  | .error fault => return .error fault
  | .ok place =>
      if disk.refuses .write path then return .error .permissionDenied
      match disk.tree.node? place with
      | none => set (disk.create place (.file bytes.toByteArray disk.clock))
      | some .pipe => return .ok ()
      | some _ => set { disk.store place bytes.toByteArray disk.clock with clock := disk.clock + 1 }
      return .ok ()

/-- Makes a directory and those above it that are missing. -/
def makeDirectories (path : Path) : StateM Disk (Except FileFault Unit) := do
  let disk ← get
  let (tree, result) := disk.tree.makeDirectories disk.workingPlace path
  set { disk with tree }
  return result

/-- Removes one file. -/
def removeFile (path : Path) : StateM Disk (Except FileFault Unit) := do
  let disk ← get
  match disk.tree.placeToRemove disk.workingPlace path with
  | .ok place =>
      set (disk.erase place)
      return .ok ()
  | .error fault => return .error fault

/-- Removes a directory with everything in it. -/
def removeTree (path : Path) : StateM Disk (Except FileFault Unit) := do
  let disk ← get
  let (tree, result) := disk.tree.removeTree disk.workingPlace path
  match disk.tree.treeToRemove? disk.workingPlace path with
  | some place => set { disk.forget place with tree }
  | none => set { disk with tree }
  return result

/-- Makes the directory of a file, then writes the file. -/
def writeInDirectory (path : Path) (bytes : Text.Bytes) : StateM Disk (Except FileFault Unit) := do
  match Path.parent? path with
  | none => write path bytes
  | some parent =>
      match ← makeDirectories parent with
      | .error fault => return .error fault
      | .ok () => write path bytes

/-- Sets the moment of the last change of what stands at a place. -/
def setMoment (disk : Disk) (place : Place) (moment : Int) : Disk :=
  match disk.tree.node? place with
  | some (.file bytes _) => disk.store place bytes moment
  | _ => disk.changeMark place fun mark => { mark with changed := some moment }

/-- Sets the moment of the last change of a file. -/
def setLastChange (path : Path) (moment : Int) : StateM Disk Unit := do
  let disk ← get
  match disk.tree.inspect disk.workingPlace path with
  | .ok (place, some _) => set (disk.setMoment place moment)
  | _ => return

/-- A disk that holds nothing but a working directory. -/
def fresh (workingPlace : Place) (clock : Int) : Disk :=
  let (tree, _) := FileTree.empty.makeDirectories [] ("/" ++ "/".intercalate workingPlace)
  { tree, workingPlace, clock }

/-! ## Questions -/

/-- Does the path lead to a file? -/
def isFile (disk : Disk) (path : Path) : Bool :=
  disk.tree.isFile disk.workingPlace path

/-- Does the path lead to a directory? -/
def isDirectory (disk : Disk) (path : Path) : Bool :=
  disk.tree.isDirectory disk.workingPlace path

/-- Does the path lead to anything? -/
def isThere (disk : Disk) (path : Path) : Bool :=
  disk.tree.isThere disk.workingPlace path

/-- Does a path of the system lead to anything? -/
def isThereAt (disk : Disk) : SystemPath → Bool
  | .text path => disk.isThere path
  | .bytes raw => (disk.unnamed.lookup raw).isSome

/-- The moment of the last change of the file at the path. -/
def lastChange? (disk : Disk) (path : Path) : Option Int :=
  disk.tree.lastChange? disk.workingPlace path

/-- The names in the directory at the path. -/
def namesIn? (disk : Disk) (path : Path) : Option (List String) :=
  match disk.tree.inspect disk.workingPlace path with
  | .ok (place, some .directory) => some (disk.tree.namesIn place)
  | _ => none

/-- Everything that somebody finds below a directory who looks through links, at most
through so many that lead into one another. What leads nowhere is not found. -/
def listingBelow (tree : FileTree) : Nat → Place → List (Place × FileNode)
  | 0, _ => []
  | links + 1, place =>
      (tree.below place).flatMap fun (way, node) =>
        match node with
        | .link _ =>
            match tree.walk (tree.leadsTo FileTree.mostLinks) true place way with
            | .ok goal =>
                match tree.node? goal with
                | some .directory =>
                    (way, .directory) :: (listingBelow tree links goal).map fun (rest, node) =>
                      (way ++ rest, node)
                | some node => [(way, node)]
                | none => []
            | .error _ => []
        | node => [(way, node)]

/-- The most links that lead into one another in a listing. -/
def listingLinks : Nat := 8

/-- Everything below the working directory. -/
def listing (disk : Disk) : List (Place × FileNode) :=
  listingBelow disk.tree listingLinks disk.workingPlace

end Disk

end TestAmplification
