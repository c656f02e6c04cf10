import TestAmplification.Shell.Script.Builtin

/-!
# Builtins for variables and parameters

These builtins set, mark and forget variables, set options and positional
parameters, take options apart, and read lines of the input into variables.
-/

set_option autoImplicit false

namespace TestAmplification.Shell

open Session

/-! ## Marking -/

/-- Writes the variables that pass a test, each as a command that makes it. -/
def sayMarked (command : String) (passes : Variable → Bool) : Session Unit := do
  let entries := ((← get).bindings.filter fun entry => passes entry.2).mergeSort
    fun first second => decide (first.1 ≤ second.1)
  entries.forM fun (name, binding) =>
    say (rowOf (command ++ " ")
      ++ (match binding.value with
        | some value => assignmentRow name value
        | none => rowOf name) ++ ['\n'])

/-- Marks variables, and sets those that are assigned. -/
def markVariables (command : String) (passes : Variable → Bool) (mark : Variable → Variable) :
    Builtin := fun arguments => do
  let (options, names) ← plainOptions ['p'] arguments
  finish 0
  if options.contains 'p' || names.isEmpty then sayMarked command passes
  else
    names.forM fun argument => do
      let (name, value) := assignmentOf argument
      let name ← variableName name
      match value with
      | some value => assign name value
      | none => pure ()
      modify (·.changeVariable name mark)

/-- Lets programs see variables. -/
def exportVariables : Builtin :=
  markVariables "export" Variable.isExported fun binding => { binding with isExported := true }

/-- Keeps variables from changing. -/
def fixVariables : Builtin :=
  markVariables "readonly" Variable.isFixed fun binding => { binding with isFixed := true }

/-- Lets a function have variables of its own. -/
def localVariables : Builtin := fun arguments => do
  if (← get).scopes.isEmpty then giveUp (rowOf "not in a function")
  finish 0
  arguments.forM fun argument => do
    let (name, value) := assignmentOf argument
    let name ← variableName name
    modify (·.putAside name)
    match value with
    | some value => assign name value
    | none => return

/-- Forgets variables or functions. -/
def unset : Builtin := fun arguments => do
  let (options, names) ← plainOptions ['f', 'v'] arguments
  finish 0
  names.forM fun name => do
    if options.getLast? == some 'f' then
      modify fun shell => { shell with
        functions := shell.functions.filter fun entry => entry.1 != textOf name }
    else
      let name ← variableName name
      if (← get).isFixed name then giveUp (rowOf name ++ rowOf ": is read only")
      modify (·.withBinding name none)

/-! ## Options and parameters -/

/-- Writes all variables. -/
def sayVariables : Session Unit := do
  let entries := (← get).bindings.mergeSort fun first second => decide (first.1 ≤ second.1)
  entries.forM fun (name, binding) =>
    match binding.value with
    | some value => say (assignmentRow name value ++ ['\n'])
    | none => return

/-- Writes which options are on, as a table or as commands. -/
def sayOptions (asCommands : Bool) : Session Unit := do
  let shell ← get
  if !asCommands then say (rowOf "Current option settings\n")
  ShellState.optionNames.forM fun (letter, name) =>
    if asCommands then
      say (rowOf ((if shell.has letter then "set -o " else "set +o ") ++ name ++ "\n"))
    else
      say (padRight 16 (rowOf name) ++ rowOf (if shell.has letter then "on\n" else "off\n"))

/-- Turns an option on or off by its name. -/
def setNamedOption (on : Bool) (name : Row) : Session Unit := do
  match ShellState.optionNames.find? fun entry => rowOf entry.2 == name with
  | some (letter, _) => modify (·.withOption letter on)
  | none => giveUp (rowOf (if on then "Illegal option -o " else "Illegal option +o ") ++ name)

/-- Turns options on or off by their letters. -/
def setLetters (on : Bool) (letters : Row) : Session Unit :=
  letters.forM fun letter => do
    if ShellState.optionLetters.contains letter then modify (·.withOption letter on)
    else giveUp (rowOf "Illegal option " ++ [if on then '-' else '+', letter])

/-- Sets options, and positional parameters if there are any or if they are asked
for. -/
def setOptions : List Row → Session Unit
  | [] => return
  | ['-', '-'] :: rest => modify fun shell => { shell with positional := rest }
  | ['-', 'o'] :: [] => sayOptions false
  | ['+', 'o'] :: [] => sayOptions true
  | ['-', 'o'] :: name :: rest => do
      setNamedOption true name
      setOptions rest
  | ['+', 'o'] :: name :: rest => do
      setNamedOption false name
      setOptions rest
  | ['-'] :: rest => do
      modify fun shell => (shell.withOption 'x' false).withOption 'v' false
      if !rest.isEmpty then modify fun shell => { shell with positional := rest }
  | ('-' :: letters) :: rest => do
      if letters.getLast? == some 'o' then
        setLetters true letters.dropLast
        match rest with
        | [] => sayOptions false
        | name :: rest =>
            setNamedOption true name
            setOptions rest
      else
        setLetters true letters
        setOptions rest
  | ('+' :: letters) :: rest => do
      setLetters false letters
      setOptions rest
  | parameters => modify fun shell => { shell with positional := parameters }

/-- Sets options and positional parameters, or tells the variables. -/
def setAll : Builtin := fun arguments => do
  finish 0
  if arguments.isEmpty then sayVariables
  else setOptions arguments

/-- Drops positional parameters. -/
def shift : Builtin := fun arguments => do
  let count ← countArgument 1 arguments
  let shell ← get
  if count > shell.positional.length then giveUp (rowOf "can't shift that many")
  set { shell with positional := shell.positional.drop count, status := 0 }

/-! ## Taking options apart -/

/-- What comes next among options. -/
inductive NextOption where
  /-- Nothing; the number is that of the argument after the options. -/
  | finish (index : Nat)
  /-- A letter with its place: the number of the argument after it, and how many
  letters of its argument were taken. -/
  | letter (letter : Char) (index : Nat) (taken : Nat) (rest : Row)
deriving Inhabited

/-- The next option among arguments. -/
def nextOption (arguments : List Row) (index : Nat) (taken : Option Nat) : NextOption :=
  let within := (taken.bind fun taken =>
    arguments[index - 2]?.map fun argument => (taken, argument.drop taken)).filter
      fun part => index > 1 && !part.2.isEmpty
  match within with
  | some (taken, letter :: rest) => .letter letter index (taken + 1) rest
  | _ =>
      match arguments[index - 1]? with
      | some ['-', '-'] => .finish (index + 1)
      | some ('-' :: letter :: rest) => .letter letter (index + 1) 2 rest
      | _ => .finish index

/-- Remembers where the next option is looked for. -/
def rememberOption (name : String) (value : Row) (index : Nat) (taken : Option Nat) :
    Session Unit := do
  assign "OPTIND" (natRow index)
  modify fun shell => { shell with optionIndex := index, lettersTaken := taken }
  assign name value

/-- Takes the next option of the arguments, or of the positional parameters. A
list of letters says which ones there are, and those with a colon behind them take
a value. With a colon in front of the list faults are not told. -/
def takeOption : Builtin := fun arguments => do
  match arguments with
  | letters :: name :: operands =>
      let name ← variableName name
      let shell ← get
      let operands := if operands.isEmpty then shell.positional else operands
      let isQuiet := letters.head? == some ':'
      let known := if isQuiet then letters.drop 1 else letters
      finish 0
      match nextOption operands shell.optionIndex shell.lettersTaken with
      | .finish index =>
          rememberOption name ['?'] index none
          finish 1
      | .letter letter index taken rest =>
          let following := (known.dropWhile (· != letter)).drop 1
          let stays := if rest.isEmpty then none else some taken
          let fault (mark : Char) (message : String) : Session Unit := do
            if isQuiet then assign "OPTARG" [letter]
            else
              warnRow (rowOf message)
              modify (·.withBinding "OPTARG" none)
            rememberOption name [if isQuiet then mark else '?'] index stays
          if letter = ':' || !known.contains letter then
            fault '?' ("Illegal option -" ++ String.ofList [letter] ++ "\n")
          else if following.head? == some ':' then
            match rest, operands[index - 1]? with
            | [], none => fault ':' ("No arg for -" ++ String.ofList [letter] ++ " option\n")
            | [], some value =>
                assign "OPTARG" value
                rememberOption name [letter] (index + 1) none
            | value, _ =>
                assign "OPTARG" value
                rememberOption name [letter] index none
          else
            assign "OPTARG" []
            rememberOption name [letter] index stays
  | _ => giveUp (rowOf "Usage: getopts optstring var [arg...]")

/-! ## Reading lines -/

/-- The glyphs of a line so far, the last one first, with one more character. The flag says
whether the character is escaped. -/
def withCharacter (raw : Bool) (state : List Glyph × Bool) (character : Char) : List Glyph × Bool :=
  let (before, isEscaped) := state
  if isEscaped then ((character, true) :: before, false)
  else if character = '\\' && !raw then (before, true)
  else if character = '\x00' then state
  else ((character, false) :: before, false)

/-- The characters of a line, each with the answer whether it was escaped. A
backslash escapes the next character unless it stands for itself. -/
def readLineWith (stream : Nat) (raw : Bool) : Nat → List Glyph × Bool → Session (List Glyph × Bool)
  | 0, (before, _) => return (before.reverse, false)
  | steps + 1, state => do
      let piece ← Act.readTowardsLine stream
      if piece.isEmpty then return (state.1.reverse, false)
      let isEnd := piece.getLast? == some '\n'
      let (before, isEscaped) :=
        (if isEnd then piece.dropLast else piece).foldl (withCharacter raw) state
      if isEnd && !isEscaped then return (before.reverse, true)
      else readLineWith stream raw steps (before, isEscaped && !isEnd)

/-- Is the glyph a blank among the separators? -/
def isBlankSeparator (separators : List Char) (glyph : Glyph) : Bool :=
  !glyph.2 && separators.contains glyph.1 && [' ', '\t', '\n'].contains glyph.1

/-- Is the glyph a separator? -/
def isSeparator (separators : List Char) (glyph : Glyph) : Bool :=
  !glyph.2 && separators.contains glyph.1

/-- The first field of a line and what follows it and its separator. -/
def firstField (separators : List Char) (line : List Glyph) : List Glyph × List Glyph :=
  let field := line.takeWhile fun glyph => !isSeparator separators glyph
  let rest := line.drop field.length
  let afterBlanks := rest.dropWhile (isBlankSeparator separators)
  match afterBlanks with
  | glyph :: others =>
      if isSeparator separators glyph then
        (field, others.dropWhile (isBlankSeparator separators))
      else (field, afterBlanks)
  | [] => (field, [])

/-- The last field: the rest of a line without blanks at its end, and without a
separator there if it is the only one. -/
def lastField (separators : List Char) (line : List Glyph) : List Glyph :=
  let (field, rest) := firstField separators line
  if rest.isEmpty then field
  else (line.reverse.dropWhile (isBlankSeparator separators)).reverse

/-- Fills variables with the fields of a line; the last one gets the rest. -/
def fillVariables (separators : List Char) : List String → List Glyph → Session Unit
  | [], _ => return
  | [name], line => assign name ((lastField separators line).map Prod.fst)
  | name :: names, line => do
      let (field, rest) := firstField separators line
      assign name (field.map Prod.fst)
      fillVariables separators names rest

/-- Reads a line of the input into variables. -/
def readVariables : Builtin := fun arguments => do
  let (options, names) ← builtinOptions [('r', false), ('p', true)]
    (arguments.flatten.length + 1) arguments
  if names.isEmpty then giveUp (rowOf "arg count")
  let names ← names.mapM variableName
  let (line, isComplete) ← readLineWith 0 (options.any (·.1 == 'r')) Act.patience ([], false)
  let separators := (← get).separators
  finish (if isComplete then 0 else 1)
  fillVariables separators names (line.dropWhile (isBlankSeparator separators))

end TestAmplification.Shell
