import TestAmplification.Shell.Script.Builtin
import TestAmplification.Shell.Script.Extended.Assignments

/-!
# Builtins for the directory and the surroundings

Changing the directory in either dialect, and what the surroundings of a script are.
-/

set_option autoImplicit false

/-!
## Builtins for the directory and the surroundings

A shell is in a directory and remembers where it was before. It also knows which
rights new files do not get, and how much a program may use, which is as much as it
likes.
-/

namespace TestAmplification.Shell

open Session

/-! ### The directory -/

/-- The path of a place. -/
def pathOfPlace (place : Place) : Row :=
  rowOf ("/" ++ "/".intercalate place)

/-- The place of the directory at a path. -/
def directoryAt? (disk : Disk) (path : Row) : Option Place :=
  match disk.tree.inspect disk.workingPlace (textOf path) with
  | .ok (place, some .directory) => some place
  | _ => none

/-- The paths that a directory is looked for at: below those of a list, and as it
is. -/
def candidates (shell : ShellState) (path : Row) : List (Row × Bool) :=
  let first := (cutAtEach '/' path).head?.getD []
  if path.head? == some '/' || first = ['.'] || first = ['.', '.'] then []
  else
    let listed := ((shell.value? "CDPATH").map (cutAtEach ':')).getD []
    listed.map fun directory =>
      if directory.isEmpty then (path, false)
      else if shell.isExtended && directory.getLast? == some '/' then (directory ++ path, true)
      else (directory ++ '/' :: path, true)

/-- The names of a path from the root after names that lead there, where two dots lead back
as it is written. -/
def reachedNames (names : List Row) (path : Row) : List Row :=
  (cutAtEach '/' path).foldl (fun names name =>
    if name.isEmpty || name = ['.'] then names
    else if name = ['.', '.'] then names.dropLast
    else names ++ [name]) names

/-- Does the path start with just two slashes? -/
def startsTwice (path : Row) : Bool :=
  path.take 2 == ['/', '/'] && path[2]? != some '/'

/-- The path of a directory that is seen from another one, as it is written. -/
def reachedPath (directory path : Row) : Row :=
  let start := if path.head? == some '/' then [] else reachedNames [] directory
  let isTwice := startsTwice (if path.head? == some '/' then path else directory)
  (if isTwice then ['/', '/'] else ['/']) ++ joinWith ['/'] (reachedNames start path)

/-- Does the last of some options ask for places in place of paths? -/
def asksForPlace (options : List Char) : Bool :=
  options.getLast? == some 'P'

/-- The path of the place of the process. A place that is gone has none. -/
def ownPath : Session (Option Row) := do
  let place := (← Act.self).place
  if FileTree.isLost place then
    warn (rowOf "getcwd() failed: No such file or directory")
    return none
  else return some (pathOfPlace place)

/-- Notes the path of the directory. -/
def noteDirectory (path : Row) : Session Unit :=
  modify fun shell =>
    ({ shell with directory := path }.withValue "PWD" path).changeVariable "PWD" fun binding =>
      { binding with isExported := true }

/-- Goes to a directory. The answer says whether that can be done. -/
def enterDirectory (isPhysical : Bool) (path : Row) : Session Bool := do
  let before := (← get).directory
  let reached :=
    if isPhysical || before.isEmpty && path.head? != some '/' then none
    else some (reachedPath before path)
  match directoryAt? (← disk) (reached.getD path) with
  | none => return false
  | some place =>
      Act.changeSelf fun process => { process with place }
      modify fun shell =>
        (shell.withValue "OLDPWD" before).changeVariable "OLDPWD" fun binding =>
          { binding with isExported := true }
      match reached with
      | some path => noteDirectory path
      | none => noteDirectory ((← ownPath).getD [])
      return true

/-- Goes to another directory. -/
def changeDirectory : Builtin := fun arguments => do
  let (options, operands) ← plainOptions ['L', 'P'] arguments
  let shell ← get
  let (path, isShown) :=
    match operands with
    | [] => ((shell.value? "HOME").getD [], false)
    | ['-'] :: _ => ((shell.value? "OLDPWD").getD [], true)
    | path :: _ => (path, false)
  let disk ← disk
  let path := if path.isEmpty then ['.'] else path
  let (found, isListed) := ((candidates shell path).find? fun (path, _) =>
    (directoryAt? disk path).isSome).getD (path, false)
  if ← enterDirectory (asksForPlace options) found then
    finish 0
    if isShown || isListed then say ((← get).directory ++ ['\n'])
  else giveUp (rowOf "can't cd to " ++ path)

/-- Writes the path of the directory. -/
def sayDirectory : Builtin := fun arguments => do
  let (options, _) ← plainOptions ['L', 'P'] arguments
  finish 0
  if asksForPlace options then say ((← ownPath).getD [] ++ ['\n'])
  else say ((← get).directory ++ ['\n'])

/-! ### Rights of new files -/

/-- The letters of the rights that three bits stand for. -/
def rightsRow (bits : Nat) : Row :=
  [(4, 'r'), (2, 'w'), (1, 'x')].filterMap fun (bit, letter) =>
    if bits / bit % 2 = 1 then some letter else none

/-- The bits of rights by their letters, repeated for each of some classes. -/
def rightsOf (classes letters : Row) : Nat :=
  let bits := [(4, 'r'), (2, 'w'), (1, 'x')].foldl (fun bits (bit, letter) =>
    if letters.contains letter then bits + bit else bits) 0
  let has (letter : Char) : Bool :=
    classes.isEmpty || classes.contains 'a' || classes.contains letter
  (if has 'u' then bits * 64 else 0) + (if has 'g' then bits * 8 else 0)
    + (if has 'o' then bits else 0)

/-- The rights after a change that is written with letters. -/
def changedRights (rights : Nat) (change : Row) : Option Nat :=
  let classes := change.takeWhile ['u', 'g', 'o', 'a'].contains
  match change.drop classes.length with
  | sign :: letters =>
      if !letters.all ['r', 'w', 'x', 'X', 's', 't'].contains then none
      else
        let given := rightsOf classes letters
        let touched := rightsOf classes ['r', 'w', 'x']
        if sign = '+' then some (rights ||| given)
        else if sign = '-' then some (rights - (rights &&& given))
        else if sign = '=' then some ((rights - (rights &&& touched)) ||| given)
        else none
  | [] => none

/-- Says which rights new files get, or changes that. -/
def changeMask : Builtin := fun arguments => do
  let (options, operands) ← plainOptions ['S'] arguments
  let mask := (← Act.self).mask
  finish 0
  match operands with
  | [] =>
      if options.contains 'S' then
        let rights := 511 - mask
        say (rowOf "u=" ++ rightsRow (rights / 64 % 8) ++ rowOf ",g=" ++ rightsRow (rights / 8 % 8)
          ++ rowOf ",o=" ++ rightsRow (rights % 8) ++ ['\n'])
      else say (padZeros 4 (Nat.toDigits 8 mask) ++ ['\n'])
  | text :: _ =>
      if (text.head?.map Char.isDigit).getD false then
        if text.all fun digit => '0' ≤ digit && digit ≤ '7' then
          let number := text.foldl (fun number digit => number * 8 + Text.digitValue digit) 0
          Act.changeSelf fun process => { process with mask := number % 512 }
        else giveUp (rowOf "Illegal number: " ++ text)
      else
        match (cutAtEach ',' text).foldlM changedRights (511 - mask) with
        | some rights => Act.changeSelf fun process => { process with mask := 511 - rights }
        | none => giveUp (rowOf "Illegal mode: " ++ text)

/-! ### Limits -/

/-- Says how much a program may use, or takes note of a limit. -/
def changeLimit : Builtin := fun arguments => do
  let (_, operands) ← plainOptions "HSatfdscmlpnvwr".toList arguments
  finish 0
  match operands with
  | [] => say (rowOf "unlimited\n")
  | text :: _ =>
      if text != rowOf "unlimited" && !text.all Char.isDigit then giveUp (rowOf "bad number")

end TestAmplification.Shell

/-!
## Directories in the extended dialect

A script goes to directories and can put them aside on a stack. The directory where it is
counts as the one on top.
-/

namespace TestAmplification.Shell

open Session

/-! ### Going -/

/-- Why a directory cannot be entered. -/
def noDirectoryReason (disk : Disk) (path : Row) : String :=
  match disk.tree.inspect disk.workingPlace (textOf path) with
  | .error fault => fault.reason
  | .ok (_, none) => FileFault.notFound.reason
  | .ok (_, some _) => FileFault.notADirectory.reason

/-- Goes to a directory, or says why that cannot be done. -/
def goTo (isPhysical : Bool) (path : Row) : Session Unit := do
  if !(← enterDirectory isPhysical path) then
    remark (path ++ rowOf (": " ++ noDirectoryReason (← disk) path))
    leave .fault

/-- Goes to another directory. -/
def cdExtended : Builtin := fun arguments => do
  let use : BuiltinUse := { letters := "LPe@", usage := "cd [-L|[-P [-e]] [-@]] [dir]" }
  let (options, operands) ← use.takeLetters arguments
  let isPhysical := asksForPlace (options.filter ['L', 'P'].contains)
  let shell ← get
  let valueOf (name : String) : Session Row :=
    match shell.value? name with
    | some value => return value
    | none => do
        remark (rowOf (name ++ " not set"))
        leave .fault
  let (path, isShown) ←
    match operands with
    | [] => do pure (← valueOf "HOME", false)
    | [['-']] => do pure (← valueOf "OLDPWD", true)
    | [path] => pure (path, false)
    | _ => do
        remark (rowOf "too many arguments")
        leave .fault
  let disk ← disk
  let path := if path.isEmpty then ['.'] else path
  let (found, isListed) := ((candidates shell path).find? fun (path, _) =>
    (directoryAt? disk path).isSome).getD (path, false)
  finish 0
  goTo isPhysical found
  if isShown || isListed then say ((← get).directory ++ ['\n'])

/-- Writes the path of the directory. -/
def pwdExtended : Builtin := fun arguments => do
  let use : BuiltinUse := { letters := "LP", usage := "pwd [-LP]" }
  let (options, _) ← use.takeLetters arguments
  finish 0
  if asksForPlace options then say ((← ownPath).getD [] ++ ['\n'])
  else say ((← get).directory ++ ['\n'])

/-! ### The stack -/

/-- The directories on the stack. -/
def directoryStack (shell : ShellState) : List Row :=
  shell.directory :: shell.directories

/-- A directory as it is told: with a tilde for the home. -/
def toldDirectory (shell : ShellState) (path : Row) : Row :=
  match shell.value? "HOME" with
  | some home =>
      if !home.isEmpty && home.isPrefixOf path
          && (path.length = home.length || path[home.length]? == some '/') then
        '~' :: path.drop home.length
      else path
  | none => path

/-- The place on the stack that an argument with a sign denotes. -/
def stackPlace (argument : Row) : Session (Option Nat) := do
  let stack := directoryStack (← get)
  match argument with
  | sign :: digits =>
      match if sign = '+' || sign = '-' then Text.digits? digits else none with
      | none => return none
      | some number =>
          if number ≥ stack.length then
            if stack.length = 1 then remark (rowOf "directory stack empty")
            else remark (argument ++ rowOf ": directory stack index out of range")
            leave .fault
          return some (if sign = '+' then number else stack.length - 1 - number)
  | [] => return none

/-- Writes the directories on the stack. -/
def dirs : Builtin := fun arguments => do
  let use : BuiltinUse := { letters := "clpv0123456789", usage := "dirs [-clpv] [+N] [-N]" }
  let (options, operands) ← use.takeLetters arguments
  finish 0
  if options.contains 'c' then modify fun shell => { shell with directories := [] }
  else
    let shell ← get
    let shown (path : Row) : Row := if options.contains 'l' then path else toldDirectory shell path
    let stack := (directoryStack shell).map shown
    match operands with
    | argument :: _ =>
        match ← stackPlace argument with
        | some place => say ((stack[place]?).getD [] ++ ['\n'])
        | none => remark (argument ++ rowOf ": invalid number")
    | [] =>
        if options.contains 'v' then
          stack.zipIdx.forM fun (path, index) =>
            say (padLeft 2 (natRow index) ++ [' ', ' '] ++ path ++ ['\n'])
        else if options.contains 'p' then stack.forM fun path => say (path ++ ['\n'])
        else say (joinWith [' '] stack ++ ['\n'])

/-- Goes to the first directory of a stack, puts the others aside, and writes them all. -/
def settleStack (stack : List Row) (staysHere : Bool) : Session Unit := do
  match stack with
  | [] => return
  | top :: others =>
      if !staysHere then goTo false top
      modify fun shell => { shell with directories := others }
      dirs []

/-- Goes to a directory and puts the present one aside, or turns the stack. -/
def pushd : Builtin := fun arguments => do
  finish 0
  let staysHere := arguments.head? == some ['-', 'n']
  let operands := (if staysHere then arguments.drop 1 else arguments).dropWhile (· == ['-', '-'])
  let shell ← get
  let stack := directoryStack shell
  match operands with
  | [] =>
      match stack with
      | first :: second :: others => settleStack (second :: first :: others) staysHere
      | _ => remark (rowOf "no other directory")
  | argument :: _ =>
      match ← stackPlace argument with
      | some place => settleStack (stack.drop place ++ stack.take place) staysHere
      | none =>
          if staysHere then settleStack (shell.directory :: argument :: shell.directories) true
          else
            goTo false argument
            modify fun after => { after with directories := stack }
            dirs []

/-- Goes back to the directory that was put aside last, or drops one from the stack. -/
def popd : Builtin := fun arguments => do
  finish 0
  let staysHere := arguments.head? == some ['-', 'n']
  let operands := if staysHere then arguments.drop 1 else arguments
  let stack := directoryStack (← get)
  if stack.length = 1 then
    remark (rowOf "directory stack empty")
    leave .fault
  let place ←
    match operands with
    | [] => pure 0
    | argument :: _ =>
        match ← stackPlace argument with
        | some place => pure place
        | none => do
            complain (argument ++ rowOf ": invalid argument") 1
            giveUpUsage none "popd [-n] [+N | -N]"
  let left := stack.eraseIdx place
  if place = 0 && staysHere then settleStack (stack.take 1 ++ stack.drop 2) true
  else settleStack left (staysHere || place > 0)

/-! ### Rights of new files -/

/-- Says which rights new files get, or changes that. -/
def umaskExtended : Builtin := fun arguments => do
  let use : BuiltinUse := { letters := "pS", usage := "umask [-p] [-S] [mode]" }
  let (options, operands) ← use.takeLetters arguments
  let mask := (← Act.self).mask
  finish 0
  match operands with
  | [] =>
      let rights := 511 - mask
      let shown :=
        if options.contains 'S' then
          rowOf "u=" ++ rightsRow (rights / 64 % 8) ++ rowOf ",g=" ++ rightsRow (rights / 8 % 8)
            ++ rowOf ",o=" ++ rightsRow (rights % 8)
        else padZeros 4 (Nat.toDigits 8 mask)
      let start :=
        if !options.contains 'p' then ""
        else if options.contains 'S' then "umask -S "
        else "umask "
      say (rowOf start ++ shown ++ ['\n'])
  | text :: _ =>
      if (text.head?.map Char.isDigit).getD false then
        if text.all fun digit => '0' ≤ digit && digit ≤ '7' then
          let number := text.foldl (fun number digit => number * 8 + Text.digitValue digit) 0
          Act.changeSelf fun process => { process with mask := number % 512 }
        else remark (text ++ rowOf ": octal number out of range")
      else
        match (cutAtEach ',' text).foldlM changedRights (511 - mask) with
        | some rights => Act.changeSelf fun process => { process with mask := 511 - rights }
        | none =>
            let operator := (text.dropWhile ['u', 'g', 'o', 'a'].contains).take 1
            remark (['\x60'] ++ operator ++ rowOf "': invalid symbolic mode operator")

end TestAmplification.Shell
