import TestAmplification.Shell.Machine.Search
import TestAmplification.Shell.Script.Builtin
import TestAmplification.Shell.Script.Extended.Declaring
import TestAmplification.Shell.Script.Grammar
import TestAmplification.Shell.Utility.Status

/-!
# What names stand for

A name stands for a keyword, a function, a builtin or a program. Both dialects can be asked.
-/

set_option autoImplicit false

/-!
## What names stand for

Where a command starts, a name can be a word of the language, an alias, a function,
a builtin or a program. A program that was looked for and found is remembered.
-/

namespace TestAmplification.Shell

open Session

/-- The builtins that are not special. -/
def regularBuiltins : List String :=
  ["[", "alias", "bg", "cd", "chdir", "command", "echo", "false", "fg", "getopts", "hash", "jobs",
    "kill", "printf", "pwd", "read", "test", "true", "type", "ulimit", "umask", "unalias",
    "wait"]

/-- What a name stands for. -/
inductive Meaning where
  /-- A word of the language. -/
  | keyword
  /-- Another text. -/
  | replaced (text : Row)
  /-- A function. -/
  | function
  /-- A builtin. -/
  | builtin (isSpecial : Bool)
  /-- A program with a path, and whether it was found before. -/
  | program (path : Row) (isTracked : Bool)

/-- The list of directories where programs are looked for. -/
def ShellState.search (shell : ShellState) : Row :=
  (shell.value? "PATH").getD []

/-- What a name stands for, if it stands for anything. -/
def meaningOf? (shell : ShellState) (disk : Disk) (name : Row) : Option Meaning :=
  let text := textOf name
  if reservedWords.contains text then some .keyword
  else
    match shell.aliases.lookup text with
    | some text => some (.replaced text)
    | none =>
        if (shell.functions.lookup text).isSome then some .function
        else if specialBuiltins.contains text then some (.builtin true)
        else if regularBuiltins.contains text then some (.builtin false)
        else if name.contains '/' then
          if (statusOfPath disk text).isOk then some (.program name false) else none
        else
          match searchProgram disk shell.search name with
          | .ok path => some (.program path (shell.tracked.contains text))
          | .error _ => none

/-- A meaning in words. -/
def Meaning.describe : Meaning → Row
  | keyword => rowOf " is a shell keyword"
  | replaced text => rowOf " is an alias for " ++ text
  | function => rowOf " is a shell function"
  | builtin isSpecial =>
      rowOf (if isSpecial then " is a special shell builtin" else " is a shell builtin")
  | program path isTracked =>
      rowOf (if isTracked then " is a tracked alias for " else " is ") ++ path

/-- Tells what a name stands for, in words. -/
def describeName (name : Row) : Session Unit := do
  match meaningOf? (← get) (← disk) name with
  | some meaning => say (name ++ meaning.describe ++ ['\n'])
  | none =>
      say (name ++ rowOf ": not found\n")
      finish 127

/-- Tells what names stand for. -/
def describeNames : Builtin := fun names => do
  finish 0
  names.forM describeName

/-- Tells how a name is called. -/
def sayCall (name : Row) : Session Unit := do
  match meaningOf? (← get) (← disk) name with
  | some (.replaced text) => say (rowOf "alias " ++ assignmentRow (textOf name) text ++ ['\n'])
  | some (.program path _) => say (path ++ ['\n'])
  | some _ => say (name ++ ['\n'])
  | none => finish 127

/-- Remembers that a program was found. -/
def track (name : Row) : Session Unit := do
  let text := textOf name
  if !name.contains '/' && !(← get).tracked.contains text then
    modify fun shell => { shell with tracked := shell.tracked ++ [text] }

/-- Tells which programs are remembered, forgets them, or remembers more. -/
def trackNames : Builtin := fun arguments => do
  let (options, names) ← plainOptions ['r', 'v'] arguments
  finish 0
  if options.contains 'r' then modify fun shell => { shell with tracked := [] }
  else if names.isEmpty then
    let shell ← get
    let disk ← disk
    shell.tracked.forM fun name =>
      match searchProgram disk shell.search (rowOf name) with
      | .ok path => say (path ++ ['\n'])
      | .error _ => return
  else
    names.forM fun name => do
      match meaningOf? (← get) (← disk) name with
      | some (.program ..) => track name
      | some _ => return
      | none =>
          warn (name ++ rowOf ": not found")
          finish 1

end TestAmplification.Shell

/-!
## What names stand for in the extended dialect

Where a command starts, a name can be a word of the language, another text, a function, a
builtin or a program. Builtins tell which of these it is.
-/

namespace TestAmplification.Shell

open Session

/-- The builtins. -/
def extendedBuiltinNames : List String :=
  [".", ":", "[", "alias", "bg", "bind", "break", "builtin", "caller", "cd", "command", "compgen",
    "complete", "compopt", "continue", "declare", "dirs", "disown", "echo", "enable", "eval",
    "exec", "exit", "export", "false", "fc", "fg", "getopts", "hash", "help", "history", "jobs",
    "kill", "let", "local", "logout", "mapfile", "popd", "printf", "pushd", "pwd", "read",
    "readarray", "readonly", "return", "set", "shift", "shopt", "source", "suspend", "test",
    "times", "trap", "true", "type", "typeset", "ulimit", "umask", "unalias", "unset", "wait"]

/-- Is the name a word of the language? -/
def isExtendedKeyword (name : String) : Bool :=
  reservedWords.contains name || extendedReservedWords.contains name || name = "]]"

/-- The programs with a name in the directories of the search, in order. -/
def foundPrograms (shell : ShellState) (disk : Disk) (name : Row) : List Row :=
  (cutAtEach ':' shell.search).filterMap fun directory =>
    (searchProgram disk directory name).toOption

/-- All that a name stands for, what counts first. -/
def meaningsOf (shell : ShellState) (disk : Disk) (skipsFunctions : Bool) (name : Row) :
    List Meaning :=
  let text := textOf name
  let replaced :=
    if shell.isSet "expand_aliases" then ((shell.aliases.lookup text).map .replaced).toList else []
  let keyword := if isExtendedKeyword text then [.keyword] else []
  let function :=
    if (shell.functions.lookup text).isSome && !skipsFunctions then [.function] else []
  let builtin := if extendedBuiltinNames.contains text then [.builtin false] else []
  let programs : List Meaning :=
    if name.contains '/' then
      if isRunnable disk name then [.program name false] else []
    else (foundPrograms shell disk name).map (.program · (shell.tracked.contains text))
  replaced ++ keyword ++ function ++ builtin ++ programs

/-- A meaning in words. -/
def Meaning.sentence (name : Row) : Meaning → Row
  | keyword => name ++ rowOf " is a shell keyword"
  | replaced text => name ++ rowOf " is aliased to " ++ ['\x60'] ++ text ++ ['\'']
  | function => name ++ rowOf " is a function"
  | builtin _ => name ++ rowOf " is a shell builtin"
  | program path isTracked =>
      if isTracked then name ++ rowOf " is hashed (" ++ path ++ [')']
      else name ++ rowOf " is " ++ path

/-- The kind of a meaning. -/
def Meaning.kind : Meaning → String
  | keyword => "keyword"
  | replaced _ => "alias"
  | function => "function"
  | builtin _ => "builtin"
  | program .. => "file"

/-- The path of a program. -/
def Meaning.path? : Meaning → Option Row
  | program path _ => some path
  | _ => none

/-- Tells what names stand for. -/
def typeNames : Builtin := fun arguments => do
  let use : BuiltinUse := { letters := "afptP", usage := "type [-afptP] name [name ...]" }
  let (options, names) ← use.takeLetters arguments
  finish 0
  let has (letter : Char) : Bool := options.contains letter
  names.forM fun name => do
    let shell ← get
    let disk ← disk
    let all :=
      if has 'P' then
        if name.contains '/' then if isRunnable disk name then [.program name false] else []
        else (foundPrograms shell disk name).map (.program · false)
      else meaningsOf shell disk (has 'f') name
    let shown := if has 'a' then all.map fun meaning =>
        match meaning with
        | .program path _ => .program path false
        | meaning => meaning
      else all.take 1
    if shown.isEmpty then
      finish 1
      if !has 't' && !has 'p' && !has 'P' then remark (name ++ rowOf ": not found")
    else
      shown.forM fun meaning => do
        if has 't' then say (rowOf (meaning.kind ++ "\n"))
        else if has 'p' || has 'P' then
          match meaning.path? with
          | some path => say (path ++ ['\n'])
          | none => return
        else say (meaning.sentence name ++ ['\n'])

/-- Writes what a word stands for. -/
def sayExtendedAlias (name : String) (text : Row) : Session Unit :=
  say (rowOf ("alias " ++ name ++ "=") ++ betweenSingleQuotes text ++ ['\n'])

/-- Tells how names are called, or what they stand for. -/
def describeCall : Builtin := fun arguments => do
  let use : BuiltinUse := { letters := "pvV", usage := "command [-pVv] command [arg ...]" }
  let (options, names) ← use.takeLetters arguments
  finish (if names.isEmpty then 0 else 1)
  names.forM fun name => do
    match (meaningsOf (← get) (← disk) false name).head? with
    | none => if options.contains 'V' then warn (name ++ rowOf ": not found")
    | some meaning =>
        finish 0
        if options.contains 'V' then say (meaning.sentence name ++ ['\n'])
        else
          match meaning with
          | .replaced text => sayExtendedAlias (textOf name) text
          | .program path _ => say (path ++ ['\n'])
          | _ => say (name ++ ['\n'])

/-- Makes words stand for texts, or tells what they stand for. -/
def aliasExtended : Builtin := fun arguments => do
  let use : BuiltinUse := { letters := "p", usage := "alias [-p] [name[=value] ... ]" }
  let (options, operands) ← use.takeLetters arguments
  finish 0
  if operands.isEmpty || options.contains 'p' then
    let entries := (← get).aliases.mergeSort fun first second => decide (first.1 ≤ second.1)
    entries.forM fun (name, text) => sayExtendedAlias name text
  operands.forM fun argument => do
    let (name, text) := assignmentOf argument
    let name := textOf name
    match text, (← get).aliases.lookup name with
    | some text, _ =>
        modify fun shell => { shell with
          aliases := (name, text) :: shell.aliases.filter fun entry => entry.1 != name }
    | none, some text => sayExtendedAlias name text
    | none, none => remark (rowOf (name ++ ": not found"))

/-- Lets words stand for themselves again. -/
def unaliasExtended : Builtin := fun arguments => do
  let use : BuiltinUse := { letters := "a", usage := "unalias [-a] name [name ...]" }
  let (options, names) ← use.takeLetters arguments
  finish 0
  if options.contains 'a' then modify fun shell => { shell with aliases := [] }
  else if names.isEmpty then use.refuse
  else
    names.forM fun name => do
      if ((← get).aliases.lookup (textOf name)).isNone then remark (name ++ rowOf ": not found")
      modify fun shell => { shell with
        aliases := shell.aliases.filter fun entry => entry.1 != textOf name }

/-- The path of a program that is remembered. -/
def trackedPath? (shell : ShellState) (disk : Disk) (name : String) : Option Row :=
  if shell.tracked.contains name then
    (searchProgram disk shell.search (rowOf name)).toOption
  else none

/-- Tells which programs are remembered, forgets them, or remembers more. -/
def hashExtended : Builtin := fun arguments => do
  let use : BuiltinUse := {
    letters := "dlrt", valued := "p", usage := "hash [-lr] [-p pathname] [-dt] [name ...]" }
  let (options, names) ← use.take arguments
  let has (letter : Char) : Bool := options.any fun option => option.1 == letter
  finish 0
  if has 'r' then modify fun shell => { shell with tracked := [] }
  let shell ← get
  let disk ← disk
  if names.isEmpty then
    if !has 'r' then
      let known := shell.tracked.eraseDups.filterMap fun name =>
        (trackedPath? shell disk name).map (name, ·)
      if known.isEmpty then say (rowOf "hash: hash table empty\n")
      else
        if !has 'l' then say (rowOf "hits\tcommand\n")
        known.reverse.forM fun (name, path) =>
          if has 'l' then say (rowOf "builtin hash -p " ++ path ++ rowOf (" " ++ name ++ "\n"))
          else say (padLeft 4 (natRow (shell.tracked.count name)) ++ ['\t'] ++ path ++ ['\n'])
  else
    names.forM fun name => do
      let text := textOf name
      match trackedPath? shell disk text with
      | some path =>
          if has 't' then
            say ((if names.length > 1 then name ++ ['\t'] else []) ++ path ++ ['\n'])
          else if has 'd' then
            modify fun shell => { shell with tracked := shell.tracked.filter (· != text) }
      | none =>
          if has 't' || has 'd' then remark (name ++ rowOf ": not found")
          else if (searchProgram disk shell.search name).isOk then track name
          else if !extendedBuiltinNames.contains text then remark (name ++ rowOf ": not found")

end TestAmplification.Shell
