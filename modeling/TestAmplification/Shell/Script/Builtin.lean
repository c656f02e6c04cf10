import TestAmplification.Shell.Script.Expansion

/-!
# Builtins

A builtin is a command that the shell carries out by itself. Its options stand in
front of its operands, each a letter after a hyphen, and some take a value.
-/

set_option autoImplicit false

namespace TestAmplification.Shell

open Session

/-- A builtin with its arguments. -/
abbrev Builtin := List Row → Session Unit

/-- The options in front of the operands. The letters are those that there are,
each with the answer whether it takes a value. -/
def builtinOptions (letters : List (Char × Bool)) :
    Nat → List Row → Session (List (Char × Row) × List Row)
  | 0, arguments => return ([], arguments)
  | steps + 1, arguments => do
      match arguments with
      | ['-', '-'] :: rest => return ([], rest)
      | ('-' :: letter :: more) :: rest =>
          match letters.lookup letter with
          | none => giveUp (rowOf "Illegal option -" ++ [letter])
          | some true =>
              match more, rest with
              | [], [] => giveUp (rowOf "No arg for -" ++ [letter] ++ rowOf " option")
              | [], value :: rest =>
                  let (options, operands) ← builtinOptions letters steps rest
                  return ((letter, value) :: options, operands)
              | value, rest =>
                  let (options, operands) ← builtinOptions letters steps rest
                  return ((letter, value) :: options, operands)
          | some false =>
              let rest := if more.isEmpty then rest else ('-' :: more) :: rest
              let (options, operands) ← builtinOptions letters steps rest
              return ((letter, []) :: options, operands)
      | operands => return ([], operands)

/-- The options in front of the operands, none of which takes a value. -/
def plainOptions (letters : List Char) (arguments : List Row) :
    Session (List Char × List Row) := do
  let (options, operands) ←
    builtinOptions (letters.map (·, false)) (arguments.flatten.length + 1) arguments
  return (options.map Prod.fst, operands)

/-- A number that an argument denotes. -/
def numberArgument (argument : Row) : Session Nat := do
  match Text.digits? argument with
  | some number => return number
  | none => giveUp (rowOf "Illegal number: " ++ argument)

/-- The number that an argument denotes, if there is an argument. -/
def countArgument (default : Nat) (arguments : List Row) : Session Nat := do
  match arguments with
  | [] => return default
  | argument :: _ => numberArgument argument

/-- A row between single quotes, so that a shell reads it as one word. -/
def singleQuoted (row : Row) : Row :=
  let runs := row.splitBy fun first second => (first == '\'') == (second == '\'')
  if row.isEmpty then ['\'', '\'']
  else
    runs.flatMap fun run =>
      if run.head? == some '\'' then ['"'] ++ run ++ ['"'] else ['\''] ++ run ++ ['\'']

/-- A name and a value as an assignment. -/
def assignmentRow (name : String) (value : Row) : Row :=
  rowOf name ++ ['='] ++ singleQuoted value

/-- The name and the value of an argument that assigns. -/
def assignmentOf (argument : Row) : Row × Option Row :=
  match Text.cutFirst '=' argument with
  | some (name, value) => (name, some value)
  | none => (argument, none)

/-- A name that a variable can have. -/
def variableName (name : Row) : Session String := do
  if isName name then return String.ofList name
  else giveUp (name ++ rowOf ": bad variable name")

/-! ## Leaving -/

/-- Ends a script or a function with a status. -/
def leaveWith (leave : Leave) : Builtin := fun arguments => do
  let status ← countArgument (← get).status arguments
  finish (status % 256)
  Session.leave leave

/-- Leaves loops, at most as many as there are. -/
def leaveLoops (leave : Nat → Leave) : Builtin := fun arguments => do
  let count ← countArgument 1 arguments
  if count = 0 then giveUp (rowOf "Illegal number: 0")
  let loops := (← get).loops
  finish 0
  if loops > 0 then Session.leave (leave (min loops count))

/-! ## Aliases -/

/-- Writes an alias. -/
def sayAlias (name : String) (text : Row) : Session Unit :=
  say (assignmentRow name text ++ ['\n'])

/-- Makes words stand for texts, or tells what they stand for. -/
def aliasWords : Builtin := fun arguments => do
  finish 0
  if arguments.isEmpty then
    let entries := (← get).aliases.mergeSort fun first second => decide (first.1 ≤ second.1)
    entries.forM fun (name, text) => sayAlias name text
  arguments.forM fun argument => do
    let (name, text) := assignmentOf argument
    let name := textOf name
    match text, (← get).aliases.lookup name with
    | some text, _ =>
        modify fun shell => { shell with
          aliases := (name, text) :: shell.aliases.filter fun entry => entry.1 != name }
    | none, some text => sayAlias name text
    | none, none =>
        warnRow (rowOf ("alias: " ++ name ++ " not found\n"))
        finish 1

/-- Lets words stand for themselves again. -/
def unaliasWords : Builtin := fun arguments => do
  let (options, names) ← plainOptions ['a'] arguments
  finish 0
  if options.contains 'a' then modify fun shell => { shell with aliases := [] }
  else
    names.forM fun name => do
      let name := textOf name
      if ((← get).aliases.lookup name).isNone then
        warnRow (rowOf ("unalias: " ++ name ++ " not found\n"))
        finish 1
      modify fun shell => { shell with
        aliases := shell.aliases.filter fun entry => entry.1 != name }

end TestAmplification.Shell
