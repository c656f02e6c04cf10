import TestAmplification.Shell.Machine.Act
import TestAmplification.Shell.Machine.Programs

/-!
# Looking for programs

A file can be run if somebody may run it and it holds a program of the system or a script
whose first line asks for an interpreter. A name with a slash is the path of a program; any
other name is looked for in the directories of a list.
-/

set_option autoImplicit false

namespace TestAmplification.Shell

/-- The directories where programs are looked for if nothing else is said. -/
def standardSearch : Row :=
  rowOf "/usr/local/sbin:/usr/local/bin:/usr/sbin:/usr/bin:/sbin:/bin"

/-- What a file that can be run holds. -/
inductive Runnable where
  /-- The program of the system with a name. -/
  | program (name : String)
  /-- A script for an interpreter, perhaps with an argument for it. -/
  | script (interpreter : Row) (argument : Option Row)
  /-- Something else. -/
  | unknown
deriving DecidableEq, Inhabited

/-- The program, and perhaps an argument for it, that the first line of a script asks
for. -/
def interpreterOf? (script : Row) : Option (Row × Option Row) :=
  (Text.withoutStart? ['#', '!'] script).bind fun rest =>
    let line := rest.takeWhile (· != '\n')
    let isGap (character : Char) : Bool := character == ' ' || character == '\t'
    let trimmed := ((line.dropWhile isGap).reverse.dropWhile isGap).reverse
    let program := trimmed.takeWhile fun character => !isGap character
    let argument := (trimmed.drop program.length).dropWhile isGap
    if program.isEmpty then none
    else some (program, if argument.isEmpty then none else some argument)

/-- The number of bytes that are looked at for the first line of a script. -/
def firstLineSize : Nat := 255

/-- What a file holds. -/
def runnableIn (bytes : ByteArray) : Runnable :=
  match programIn? bytes with
  | some name => .program name
  | none =>
      match interpreterOf? (unpacked (bytes.extract 0 firstLineSize)) with
      | some (program, argument) => .script program argument
      | none => .unknown

/-- The most scripts that are read by one another. -/
def mostInterpreters : Nat := 5

/-- What the file at a path holds if it can be run, or why it cannot, where scripts are read
by at most so many others. -/
def runnableUpTo (disk : Disk) : Nat → Row → Except FileFault Runnable
  | 0, _ => .error .tooManyLinks
  | others + 1, path =>
      match disk.tree.inspect disk.workingPlace (textOf path) with
      | .error fault => .error fault
      | .ok (_, none) => .error .notFound
      | .ok (place, some (.file bytes _)) =>
          if !Disk.modeRuns (disk.modeOf place) then .error .permissionDenied
          else
            let found := runnableIn bytes
            match found with
            | .script interpreter _ =>
                match runnableUpTo disk others interpreter with
                | .ok .unknown => .ok .unknown
                | .ok _ => .ok found
                | .error fault => .error fault
            | found => .ok found
      | .ok (_, some _) => .error .permissionDenied

/-- What the file at a path holds if it can be run, or why it cannot. -/
def runnableAt (disk : Disk) (path : Row) : Except FileFault Runnable :=
  runnableUpTo disk mostInterpreters path

/-- Can the file at a path be run, or be read by a shell? -/
def isRunnable (disk : Disk) (path : Row) : Bool :=
  (runnableAt disk path).toOption.isSome

/-- The paths that a name may mean in a list of directories with colons between them. -/
def pathsIn (search name : Row) : List Row :=
  (cutAtEach ':' search).map fun directory =>
    if directory.isEmpty then name
    else if directory.getLast? == some '/' then directory ++ name
    else directory ++ '/' :: name

/-- The path of the program with a name, found in a list of directories with colons
between them. -/
def searchProgram (disk : Disk) (search name : Row) : Except FileFault Row :=
  if name.isEmpty then .error .notFound
  else if (cutAtEach '/' name).any (·.length > FileTree.longestName) then .error .nameTooLong
  else if name.contains '/' then
    match runnableAt disk name with
    | .ok _ => .ok name
    | .error fault => .error fault
  else
    let paths := pathsIn search name
    match paths.find? (isRunnable disk) with
    | some path => .ok path
    | none => .error (if paths.any fun path => disk.isThere (textOf path) then .permissionDenied else .notFound)

/-! ## Handing over arguments -/

/-- The most bytes of one argument or variable, with a byte that ends it. -/
def mostBytesOfText : Nat := 131072

/-- The most bytes of all arguments and variables. -/
def mostBytesOfTexts : Nat := 2097152 - 4096

/-- Are there too many bytes in the arguments and variables to be handed to a program? -/
def isTooMuch (arguments : List Row) (environment : List (String × Row)) : Bool :=
  let sizes := arguments.map (·.length + 1)
    ++ environment.map fun (name, value) => name.utf8ByteSize + value.length + 2
  sizes.any (· > mostBytesOfText) || (sizes.map (· + 8)).foldl (· + ·) 0 > mostBytesOfTexts

end TestAmplification.Shell
