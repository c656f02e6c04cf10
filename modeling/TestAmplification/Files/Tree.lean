import TestAmplification.Files.Path
import TestAmplification.Table
import TestAmplification.Text.Utf8

/-!
# File trees

A file tree gives every place a directory, a file with its bytes and the moment
of its last change, a link to another path, or a pipe with a name. A place is the
list of names on the way from the root, and the root is always a directory. Paths
are followed name by name: each name is looked up in an existing directory, `.`
stays there and `..` goes one directory up, and a path that ends in a slash must
lead to a directory. A link stands for the path that it holds, as seen from the
directory that the link is in; only so many links lead from one to another.

Some operations are about what a path leads to, through all links. Others are
about what stands at the path itself, be it a link: those that make or remove
something.

An operation that cannot do its work says why. Most leave the tree alone then;
the two that make or remove several places keep what they have done so far.
-/

set_option autoImplicit false

namespace TestAmplification

/-- Why an operation on files is refused. -/
inductive FileFault where
  | notFound
  | permissionDenied
  | alreadyExists
  | notADirectory
  | isADirectory
  | invalidArgument
  | notEmpty
  | nameTooLong
  | tooManyLinks
  | argumentsTooLong
  | noProgram
  | inUse
  | noReader
  | nulInName
deriving DecidableEq, Inhabited

namespace FileFault

/-- The text of a fault without its number. -/
def reason : FileFault → String
  | notFound => "No such file or directory"
  | permissionDenied => "Permission denied"
  | alreadyExists => "File exists"
  | notADirectory => "Not a directory"
  | isADirectory => "Is a directory"
  | invalidArgument => "Invalid argument"
  | notEmpty => "Directory not empty"
  | nameTooLong => "File name too long"
  | tooManyLinks => "Too many levels of symbolic links"
  | argumentsTooLong => "Argument list too long"
  | noProgram => "Exec format error"
  | inUse => "Text file busy"
  | noReader => "No such device or address"
  | nulInName => "file name contained an unexpected NUL byte"

/-- The number of a fault, where it has one. -/
def number? : FileFault → Option Nat
  | notFound => some 2
  | permissionDenied => some 13
  | alreadyExists => some 17
  | notADirectory => some 20
  | isADirectory => some 21
  | invalidArgument => some 22
  | notEmpty => some 39
  | nameTooLong => some 36
  | tooManyLinks => some 40
  | argumentsTooLong => some 7
  | noProgram => some 8
  | inUse => some 26
  | noReader => some 6
  | nulInName => none

/-- The full text of a fault. -/
def message (fault : FileFault) : String :=
  match fault.number? with
  | some number => fault.reason ++ " (os error " ++ toString number ++ ")"
  | none => fault.reason

end FileFault

/-- A place in a file tree: the names on the way from the root. -/
abbrev Place := List String

/-- What stands at a place. -/
inductive FileNode where
  /-- A directory. -/
  | directory
  /-- A file with its bytes and the moment of its last change, in
  nanoseconds. -/
  | file (bytes : ByteArray) (changed : Int)
  /-- A link, which stands for a path. -/
  | link (target : Path)
  /-- A pipe with a name. -/
  | pipe
deriving BEq, Inhabited

/-- A tree of directories and files. -/
structure FileTree where
  /-- What stands at each place below the root. -/
  nodes : Table Place FileNode
deriving Inhabited

namespace FileTree

/-- The tree with nothing below its root. -/
def empty : FileTree := ⟨∅⟩

/-- The place that somebody is in whose directory was removed. Its last name is one
that no path can hold, so nobody else gets there. -/
def lostPlace (place : Place) : Place :=
  place.dropLast ++ [place.getLast?.getD "" ++ "\x00"]

/-- Has the directory at a place been removed while somebody was in it? -/
def isLost (place : Place) : Bool :=
  (place.getLast?.map fun name => name.toList.getLast? == some '\x00').getD false

/-- What stands at a place. A directory that was removed is an empty one for those who
are in it. -/
def node? (tree : FileTree) (place : Place) : Option FileNode :=
  if place.isEmpty || isLost place then some .directory else tree.nodes.find? place

/-- The tree with the given node at the place. -/
def put (tree : FileTree) (place : Place) (node : FileNode) : FileTree :=
  ⟨tree.nodes.insert place node⟩

/-- The tree without the place. -/
def erase (tree : FileTree) (place : Place) : FileTree :=
  ⟨tree.nodes.filter fun other _ => other != place⟩

/-- The tree without everything strictly below the place. -/
def eraseBelow (tree : FileTree) (place : Place) : FileTree :=
  ⟨tree.nodes.filter fun other _ => other == place || !place.isPrefixOf other⟩

/-- The nodes strictly below a place, by their way from there. -/
def below (tree : FileTree) (place : Place) : List (Place × FileNode) :=
  tree.nodes.entries.filterMap fun (other, node) =>
    if place.isPrefixOf other && other != place then some (other.drop place.length, node)
    else none

/-- The names in a directory. -/
def namesIn (tree : FileTree) (place : Place) : List String :=
  (tree.below place).filterMap fun (way, _) =>
    match way with
    | [name] => some name
    | _ => none

/-! ## Following paths -/

/-- The longest name, in bytes. -/
def longestName : Nat := 255

/-- The longest path, in bytes. -/
def longestPath : Nat := 4095

/-- The most links that lead from one to another. -/
def mostLinks : Nat := 40

/-- Goes one name further. -/
def enter (tree : FileTree) (here : Place) (name : String) : Except FileFault Place :=
  match tree.node? here with
  | none => .error .notFound
  | some .directory =>
      if name = "." then .ok here
      else if name = ".." then .ok here.dropLast
      else if isLost here then .error .notFound
      else if name.utf8ByteSize > longestName then .error .nameTooLong
      else .ok (here ++ [name])
  | some _ => .error .notADirectory

/-- Must the path lead to a directory, by the way it is written? -/
def namesDirectory (path : Path) : Bool :=
  match (Path.splitNames path.toList).getLast? with
  | some [] => true
  | some ['.'] => true
  | some ['.', '.'] => true
  | _ => false

/-- Where a path starts that is seen from a place. -/
def startOf (base : Place) (path : Path) : Place :=
  if Path.isAbsolute path then [] else base

/-- Goes further name by name. A jump says where a link leads that stands in a
directory; a link that is the last name is not followed unless that is wanted. -/
def walk (tree : FileTree) (jump : Place → Path → Except FileFault Place) (followsLast : Bool) :
    Place → List String → Except FileFault Place
  | here, [] => .ok here
  | here, name :: rest =>
      match tree.enter here name with
      | .error fault => .error fault
      | .ok next =>
          match tree.node? next with
          | some (.link target) =>
              if rest.isEmpty && !followsLast then .ok next
              else
                match jump here target with
                | .ok goal => walk tree jump followsLast goal rest
                | .error fault => .error fault
          | _ => walk tree jump followsLast next rest

/-- The place that the path of a link leads to from the directory of the link, through
at most so many further links. -/
def leadsTo (tree : FileTree) : Nat → Place → Path → Except FileFault Place
  | 0, _, _ => .error .tooManyLinks
  | links + 1, here, target =>
      tree.walk (tree.leadsTo links) true (startOf here target) (Path.names target)

/-- The place of a path as seen from a directory. The place itself may be empty, but
every directory on the way is there. -/
def locateWith (followsLast : Bool) (tree : FileTree) (base : Place) (path : Path) :
    Except FileFault Place :=
  if path.isEmpty then .error .notFound
  else if path.toList.contains '\x00' then .error .nulInName
  else if path.utf8ByteSize > longestPath then .error .nameTooLong
  else
    tree.walk (tree.leadsTo mostLinks) followsLast (startOf base path) (Path.names path)

/-- The place that a path leads to. -/
def locate (tree : FileTree) (base : Place) (path : Path) : Except FileFault Place :=
  tree.locateWith true base path

/-- The place of what stands at a path itself. A slash at the end of the path leads
through a link. -/
def locateSelf (tree : FileTree) (base : Place) (path : Path) : Except FileFault Place :=
  tree.locateWith (namesDirectory path) base path

/-- The place and what stands there, if anything; it must be a directory if the path is
written like one. -/
def checked (tree : FileTree) (path : Path) (place : Place) :
    Except FileFault (Place × Option FileNode) :=
  match tree.node? place with
  | some .directory => .ok (place, some .directory)
  | some node => if namesDirectory path then .error .notADirectory else .ok (place, some node)
  | none => .ok (place, none)

/-- The place that a path leads to and what stands there, if anything. -/
def inspect (tree : FileTree) (base : Place) (path : Path) :
    Except FileFault (Place × Option FileNode) := do
  tree.checked path (← tree.locate base path)

/-- The place of what stands at a path itself, and what that is, if anything. -/
def inspectSelf (tree : FileTree) (base : Place) (path : Path) :
    Except FileFault (Place × Option FileNode) := do
  tree.checked path (← tree.locateSelf base path)

/-! ## Questions -/

/-- Does the path lead to a file? -/
def isFile (tree : FileTree) (base : Place) (path : Path) : Bool :=
  match tree.inspect base path with
  | .ok (_, some (.file ..)) => true
  | _ => false

/-- Does the path lead to a directory? -/
def isDirectory (tree : FileTree) (base : Place) (path : Path) : Bool :=
  match tree.inspect base path with
  | .ok (_, some .directory) => true
  | _ => false

/-- Does the path lead to anything? -/
def isThere (tree : FileTree) (base : Place) (path : Path) : Bool :=
  match tree.inspect base path with
  | .ok (_, some _) => true
  | _ => false

/-- The bytes of the file at the path. -/
def read (tree : FileTree) (base : Place) (path : Path) : Except FileFault Text.Bytes := do
  match ← tree.inspect base path with
  | (_, some (.file bytes _)) => .ok bytes.data.toList
  | (_, some .directory) => .error .isADirectory
  | (_, some _) => .ok []
  | (_, none) => .error .notFound

/-- The moment of the last change of the file at the path. -/
def lastChange? (tree : FileTree) (base : Place) (path : Path) : Option Int :=
  match tree.inspect base path with
  | .ok (_, some (.file _ changed)) => some changed
  | _ => none

/-! ## Changes -/

/-- The place of the file that is written, new or in place of an old one. -/
def placeToWrite (tree : FileTree) (base : Place) (path : Path) : Except FileFault Place := do
  match ← tree.inspect base path with
  | (_, some .directory) => .error .isADirectory
  | (place, some _) => .ok place
  | (place, none) => if namesDirectory path then .error .isADirectory else .ok place

/-- Makes one directory. -/
def makeDirectory (tree : FileTree) (base : Place) (path : Path) :
    Except FileFault FileTree := do
  let place ← tree.locateWith false base path
  match tree.node? place with
  | some _ => .error .alreadyExists
  | none => .ok (tree.put place .directory)

/-- Makes a directory and those above it that are missing, at most as many as
given. An existing directory is as good as a new one, and so is the empty
path. Directories that were made on the way stay when a later one cannot be
made. -/
def makeDirectoriesUpTo (base : Place) :
    Nat → FileTree → Path → FileTree × Except FileFault Unit
  | 0, tree, _ => (tree, .error .nameTooLong)
  | limit + 1, tree, path =>
      if path.isEmpty then (tree, .ok ())
      else
        match tree.makeDirectory base path with
        | .ok made => (made, .ok ())
        | .error .notFound =>
            match Path.parent? path with
            | none => (tree, .error .notFound)
            | some parent =>
                match makeDirectoriesUpTo base limit tree parent with
                | (tree, .error fault) => (tree, .error fault)
                | (tree, .ok ()) =>
                    match tree.makeDirectory base path with
                    | .ok made => (made, .ok ())
                    | .error fault =>
                        (tree, if tree.isDirectory base path then .ok () else .error fault)
        | .error fault => (tree, if tree.isDirectory base path then .ok () else .error fault)

/-- Makes a directory and those above it that are missing. -/
def makeDirectories (tree : FileTree) (base : Place) (path : Path) :
    FileTree × Except FileFault Unit :=
  makeDirectoriesUpTo base (path.length + 1) tree path

/-- The place of what is removed as one file: a file, a link or a pipe. -/
def placeToRemove (tree : FileTree) (base : Place) (path : Path) : Except FileFault Place := do
  match ← tree.inspectSelf base path with
  | (_, some .directory) => .error .isADirectory
  | (place, some _) => .ok place
  | (_, none) => .error .notFound

/-- The place of an empty directory that is removed. A path that ends in a dot name is
refused. -/
def directoryToRemove (tree : FileTree) (base : Place) (path : Path) :
    Except FileFault Place := do
  match ← tree.inspectSelf base path with
  | (_, none) => .error .notFound
  | (place, some .directory) =>
      if (Path.names path).getLast? = some "." then .error .invalidArgument
      else if (Path.names path).getLast? = some ".." || !(tree.namesIn place).isEmpty then
        .error .notEmpty
      else .ok place
  | (_, some _) => .error .notADirectory

/-- Removes one file. -/
def removeFile (tree : FileTree) (base : Place) (path : Path) : Except FileFault FileTree := do
  return tree.erase (← tree.placeToRemove base path)

/-- Removes an empty directory. -/
def removeDirectory (tree : FileTree) (base : Place) (path : Path) :
    Except FileFault FileTree := do
  return tree.erase (← tree.directoryToRemove base path)

/-- Removes a directory with everything in it: first what is below it, then
the directory itself by its path. What is gone stays gone, also when the
directory itself cannot be removed. A link is removed alone. -/
def removeTree (tree : FileTree) (base : Place) (path : Path) :
    FileTree × Except FileFault Unit :=
  match tree.inspectSelf base path with
  | .error fault => (tree, .error fault)
  | .ok (_, none) => (tree, .error .notFound)
  | .ok (place, some (.link _)) => (tree.erase place, .ok ())
  | .ok (place, some .directory) =>
      let cleared := tree.eraseBelow place
      match cleared.removeDirectory base path with
      | .ok removed => (removed, .ok ())
      | .error fault => (cleared, .error fault)
  | .ok (_, some _) => (tree, .error .notADirectory)

/-- The place where something is removed together with a directory, or a link alone. -/
def treeToRemove? (tree : FileTree) (base : Place) (path : Path) : Option Place :=
  match tree.inspectSelf base path with
  | .ok (place, some .directory) => some place
  | .ok (place, some (.link _)) => some place
  | _ => none

end FileTree

end TestAmplification
