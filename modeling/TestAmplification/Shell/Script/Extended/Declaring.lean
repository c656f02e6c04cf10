import TestAmplification.Shell.Script.Extended.Assignments

/-!
# Declaring variables and setting options in the extended dialect

Variables are declared with what they hold, and options are set by letters and by names.
-/

set_option autoImplicit false

/-!
## Declaring variables in the extended dialect

Builtins give variables marks and values: numbers only, lists, letters of one kind, names of
other variables, shown to programs, kept from changing. Inside a function a declared variable
is its own. The same builtins tell what variables are.
-/

namespace TestAmplification.Shell

open Session

/-! ### Arguments -/

/-- An argument of a builtin that declares variables. -/
inductive Declared where
  /-- A text. -/
  | text (row : Row)
  /-- An assignment that stands in the script. -/
  | given (given : Given)
deriving Inhabited

namespace Declared

/-- The argument as a text. -/
def row : Declared → Row
  | text row => row
  | given (.value name index adds value) =>
      rowOf name ++ ((index.map fun index => ['['] ++ index ++ [']']).getD [])
        ++ (if adds then ['+', '='] else ['=']) ++ value
  | given (.list name adds _) => rowOf name ++ (if adds then rowOf "+=()" else rowOf "=()")

/-- What the argument assigns, if it does. -/
def given? : Declared → Option Given
  | text row => Given.ofRow? row
  | given found => some found

/-- The name of the variable, if the argument has one. -/
def name? (declared : Declared) : Option String :=
  match declared.given? with
  | some found => some found.name
  | none =>
      let name := declared.row.takeWhile continuesName
      let rest := declared.row.drop name.length
      if isName name && (rest.isEmpty || (rest.head? == some '[' && rest.getLast? == some ']')) then
        some (String.ofList name)
      else none

/-- The arguments that a word stands for. -/
def ofWord (word : Word) : Session (List Declared) := do
  match assignment? .extended word with
  | some assignment => return [given (← Given.ofAssignment assignment)]
  | none => return (← fieldsOf [word]).map text

end Declared

/-! ### Telling -/

/-- The known variables in the order of their names. -/
def sortedBindings (shell : ShellState) : List (String × Variable) :=
  shell.bindings.mergeSort fun first second => decide (first.1 ≤ second.1)

/-- Writes the commands that make the variables that pass a test. -/
def sayDeclarations (passes : Variable → Bool) : Session Unit := do
  (sortedBindings (← get)).forM fun (name, binding) => do
    if passes binding then say (declarationRow name binding ++ ['\n'])

/-- Writes a variable as an assignment. -/
def sayAssignment (name : String) (binding : Variable) : Session Unit :=
  match binding.elements, binding.value with
  | some elements, _ => say (rowOf name ++ ['='] ++ elementsRow elements ++ ['\n'])
  | none, some value => say (rowOf name ++ ['='] ++ quotedAsNeeded value ++ ['\n'])
  | none, none => return

/-- Writes all variables as assignments. -/
def sayAssignments : Session Unit := do
  (sortedBindings (← get)).forM fun (name, binding) => sayAssignment name binding

/-- Has the variable all the marks? -/
def hasMarks (letters : List Char) (binding : Variable) : Bool :=
  letters.all (markLetters binding).contains

/-- Writes the command that makes a variable. -/
def sayDeclaration (name : Row) : Session Unit := do
  let shell ← get
  let text := textOf name
  match shell.binding? text with
  | some binding => say (declarationRow text binding ++ ['\n'])
  | none =>
      match ownValues? shell text with
      | some values => say (rowOf "declare -a " ++ name ++ ['='] ++ elementsRow (.ofList values) ++ ['\n'])
      | none => remark (name ++ rowOf ": not found")

/-! ### Marking -/

/-- The variable with marks on or off. -/
def Variable.withMarks (binding : Variable) (isOn : Bool) (letters : List Char) : Variable :=
  letters.foldl (fun binding letter =>
    match letter with
    | 'i' => { binding with isNumber := isOn }
    | 'x' => { binding with isExported := isOn }
    | 'l' => { binding with letters := if isOn then some .lowered else none }
    | 'u' => { binding with letters := if isOn then some .raised else none }
    | 'n' => { binding with isReference := isOn }
    | 'a' =>
        if isOn && binding.elements.isNone then
          { binding with elements := some (.ofList binding.value.toList), value := none }
        else binding
    | 'A' =>
        if isOn && binding.elements.isNone then
          { binding with
            elements := some (.keyed (binding.value.toList.map (['0'], ·))), value := none }
        else binding
    | _ => binding) binding

/-- Why a variable cannot have marks, if it cannot. -/
def refusedMarks? (binding : Variable) (on off : List Char) : Option String :=
  match binding.elements with
  | none => none
  | some elements =>
      if off.contains 'a' || off.contains 'A' then
        some ": cannot destroy array variables in this way"
      else if on.contains 'A' && !elements.isKeyed && elements.size > 0 then
        some ": cannot convert indexed to associative array"
      else if on.contains 'a' && elements.isKeyed then
        some ": cannot convert associative to indexed array"
      else none

/-- Gives the function under way a variable of its own. -/
def makeOwn (name : String) : Session Unit := do
  let shell ← get
  match shell.scopes with
  | scope :: _ =>
      if !(scope.map Prod.fst).contains name then
        let isExported := ((shell.binding? name).map Variable.isExported).getD false
        set ((shell.putAside name).withBinding name (some { isExported }))
  | [] => return

/-- Declares a variable with marks that are on or off, perhaps as one of the function under
way. -/
def declareOne (on off : List Char) (isOwn : Bool) (declared : Declared) : Session Unit := do
  match declared.name? with
  | none => remark (noIdentifier declared.row)
  | some name =>
      let isFixed := (← get).isFixed name
      if isFixed && (declared.given?.isSome || off.contains 'r' || isOwn) then
        remark (rowOf name ++ rowOf ": readonly variable")
      else
        if isOwn then makeOwn name
        let binding := ((← get).binding? name).getD {}
        match refusedMarks? binding on off with
        | some reason => remark (rowOf name ++ rowOf reason)
        | none =>
            let hasIndex := declared.given?.isNone && declared.row.contains '['
            let on := if hasIndex && !on.contains 'A' then 'a' :: on else on
            let early := on.filter fun letter => letter != 'n'
            modify (·.changeVariable name fun binding =>
              (binding.withMarks true early).withMarks false off)
            match declared.given? with
            | some given =>
                let given ← if on.contains 'a' || on.contains 'A' then given.readAsList else pure given
                given.store
            | none => pure ()
            modify (·.changeVariable name fun binding =>
              { binding.withMarks true (on.filter (· == 'n')) with
                isFixed := binding.isFixed || on.contains 'r' })

/-- The options in front of declared variables: marks that are on, marks that are off, and the
rest. Without an answer a letter is not known. -/
def takeMarks (known : List Char) : Nat → List Char → List Char → List Declared →
    Except (Row) (List Char × List Char × List Declared)
  | 0, on, off, rest => .ok (on, off, rest)
  | steps + 1, on, off, arguments =>
      match arguments with
      | .text ['-', '-'] :: rest => .ok (on, off, rest)
      | .text ('-' :: letter :: more) :: rest =>
          match (letter :: more).find? fun letter => !known.contains letter with
          | some letter => .error ['-', letter]
          | none => takeMarks known steps (on ++ letter :: more) off rest
      | .text ('+' :: letter :: more) :: rest =>
          match (letter :: more).find? fun letter => !known.contains letter with
          | some letter => .error ['+', letter]
          | none => takeMarks known steps on (off ++ letter :: more) rest
      | rest => .ok (on, off, rest)

/-- A builtin whose arguments may be assignments. -/
abbrev Declaration := List Declared → Session Unit

/-- Tells about functions. -/
def sayFunctions (namesOnly : Bool) (names : List Row) : Session Unit := do
  let functions := (← get).functions
  if names.isEmpty then
    (functions.mergeSort fun first second => decide (first.1 ≤ second.1)).forM fun (name, _) =>
      say (rowOf ("declare -f " ++ name ++ "\n"))
  else
    names.forM fun name => do
      if (functions.lookup (textOf name)).isSome then
        if namesOnly then say (name ++ ['\n'])
      else finish 1

/-- Declares variables, or tells what they are. The flag says whether they are always those of
a function. -/
def declareVariables (isLocal : Bool) (usage : String) : Declaration := fun arguments => do
  let shell ← get
  if isLocal && shell.scopes.isEmpty then
    remark (rowOf "can only be used in a function")
    leave .fault
  match takeMarks "aAfFgiIlnrtuxp".toList (arguments.length + 1) [] [] arguments with
  | .error option => giveUpUsage (some (option ++ rowOf ": invalid option")) usage
  | .ok (on, off, names) =>
      finish 0
      let marks := on.filter "aAilnrux".toList.contains
      let rows := names.map Declared.row
      if on.contains 'f' || on.contains 'F' then sayFunctions (on.contains 'F') rows
      else if names.isEmpty then
        if isLocal then
          match shell.scopes with
          | scope :: _ =>
              let names := (scope.map Prod.fst).mergeSort fun first second => decide (first ≤ second)
              names.forM fun name => sayDeclaration (rowOf name)
          | [] => return
        else if on.contains 'p' || !marks.isEmpty then sayDeclarations (hasMarks marks)
        else sayAssignments
      else if on.contains 'p' then rows.forM sayDeclaration
      else
        let isOwn := !shell.scopes.isEmpty && !on.contains 'g'
        names.forM (declareOne marks off isOwn)

/-- Gives variables a mark, or tells which have it. -/
def markDeclared (mark : Char) (usage : String) (letters : List Char) : Declaration := fun arguments => do
  match takeMarks letters (arguments.length + 1) [] [] arguments with
  | .error option => giveUpUsage (some (option ++ rowOf ": invalid option")) usage
  | .ok (on, _, names) =>
      finish 0
      if on.contains 'f' then
        names.forM fun declared => do
          if ((← get).functions.lookup (textOf declared.row)).isNone then
            remark (declared.row ++ rowOf ": not a function")
      else if names.isEmpty then sayDeclarations (hasMarks [mark])
      else
        let lists := on.filter ['a', 'A'].contains
        names.forM fun declared => do
          match declared.name? with
          | none => remark (noIdentifier declared.row)
          | some name =>
              if (← get).isFixed name && declared.given?.isSome then
                let builtin := (← get).builtin
                modify fun shell => { shell with builtin := none }
                remark (rowOf name ++ rowOf ": readonly variable")
                modify fun shell => { shell with builtin }
              else if mark = 'x' && on.contains 'n' then declareOne [] ['x'] false declared
              else declareOne (mark :: lists) [] false declared

/-- The builtins that declare variables. -/
def declarations : List (String × Declaration) :=
  let letters := "[-aAfFgiIlnrtux] [name[=value] ...] or "
  let usage (name : String) : String :=
    name ++ " " ++ letters ++ name ++ " -p [-aAfFilnrtux] [name ...]"
  [("declare", declareVariables false (usage "declare")),
    ("typeset", declareVariables false (usage "typeset")),
    ("local", declareVariables true "local [option] name[=value] ..."),
    ("export", markDeclared 'x' "export [-fn] [name[=value] ...] or export -p" ['f', 'n', 'p']),
    ("readonly", markDeclared 'r' "readonly [-aAf] [name[=value] ...] or readonly -p"
      ['a', 'A', 'f', 'p'])]

/-- Forgets variables, elements or functions. -/
def unsetExtended : Builtin := fun arguments => do
  let use : BuiltinUse := { letters := "fnv", usage := "unset [-f] [-v] [-n] [name ...]" }
  let (options, names) ← use.takeLetters arguments
  finish 0
  names.forM fun row => do
    let name := String.ofList (row.takeWhile continuesName)
    let index := row.drop name.length
    let shell ← get
    let isFunction := (shell.functions.lookup (textOf row)).isSome
    let target := if options.contains 'n' then name else shell.target name
    let forgetFunction : Session Unit :=
      modify fun shell => { shell with
        functions := shell.functions.filter fun entry => entry.1 != textOf row }
    if options.contains 'f' then forgetFunction
    else if shell.isFixed target then remark (row ++ rowOf ": cannot unset: readonly variable")
    else if index.isEmpty then
      if (shell.binding? target).isSome || !isFunction || options.contains 'v' then
        modify (·.withBinding target none)
      else forgetFunction
    else if isName name.toList && index.head? == some '[' then
      let key := (index.drop 1).dropLast
      if (key = ['@'] || key = ['*']) && !isKeyedList shell target then
        modify (·.changeElements target fun _ => .indexed [])
      else
        let place ← keyOfRow target key
        modify (·.changeElements target (·.erase place))

end TestAmplification.Shell

/-!
## Options in the extended dialect

A script sets options by letters and by names, and further options by names only. Both kinds
can be told as a table, or as the commands that set them.
-/

namespace TestAmplification.Shell

open Session

/-! ### Options -/

/-- The further options that are on at the start. -/
def firstSettings : List String :=
  ["interactive-comments", "checkwinsize", "cmdhist", "complete_fullquote", "extquote",
    "force_fignore", "globasciiranges", "globskipdots", "hostcomplete", "interactive_comments",
    "patsub_replacement", "progcomp", "promptvars", "sourcepath"]

/-- The shell with a further option on or off. -/
def ShellState.withSetting (shell : ShellState) (name : String) (isOn : Bool) : ShellState :=
  let others := shell.settings.filter (· != name)
  { shell with settings := if isOn then name :: others else others }

/-- Is the option on? It is given by its letter, if it has one, and its name. -/
def ShellState.hasOption (shell : ShellState) (option : Option Char × String) : Bool :=
  match option.1 with
  | some letter => shell.has letter
  | none => shell.isSet option.2

/-- The shell with an option on or off. -/
def ShellState.withNamed (shell : ShellState) (option : Option Char × String) (isOn : Bool) :
    ShellState :=
  match option.1 with
  | some letter => shell.withOption letter isOn
  | none => shell.withSetting option.2 isOn

/-- A line of a table of options. -/
def settingLine (name : String) (isOn : Bool) : Row :=
  padRight 15 (rowOf name) ++ ['\t'] ++ rowOf (if isOn then "on\n" else "off\n")

/-- The option with a name. -/
def namedOption? (name : Row) : Option (Option Char × String) :=
  ShellState.extendedOptions.find? fun option => rowOf option.2 == name

/-- Writes which options are on, as a table or as commands. -/
def sayExtendedOptions (asCommands : Bool) : Session Unit := do
  let shell ← get
  ShellState.extendedOptions.forM fun option => do
    let isOn := shell.hasOption option
    if asCommands then
      say (rowOf ((if isOn then "set -o " else "set +o ") ++ option.2 ++ "\n"))
    else say (settingLine option.2 isOn)

/-- Turns an option on or off by its name. -/
def setExtendedName (isOn : Bool) (name : Row) : Session Unit := do
  match namedOption? name with
  | some option => modify (·.withNamed option isOn)
  | none =>
      complain (name ++ rowOf ": invalid option name") 2
      leave .fault

/-- How options are set, in words. -/
def setUsage : String :=
  "set [-abefhkmnptuvxBCEHPT] [-o option-name] [--] [-] [arg ...]"

/-- Turns options on or off by their letters. -/
def setExtendedLetters (isOn : Bool) (letters : Row) : Session Unit :=
  letters.forM fun letter => do
    if "abefhkmnptuvxBCEHPT".toList.contains letter then modify (·.withOption letter isOn)
    else
      giveUpUsage (some ([if isOn then '-' else '+', letter] ++ rowOf ": invalid option")) setUsage

/-- Sets options, and positional parameters if there are any or if they are asked for. -/
def setExtendedOptions : List Row → Session Unit
  | [] => return
  | ['-', '-'] :: rest => modify fun shell => { shell with positional := rest }
  | ['-'] :: rest => do
      modify fun shell => (shell.withOption 'x' false).withOption 'v' false
      if !rest.isEmpty then modify fun shell => { shell with positional := rest }
  | (sign :: letter :: more) :: rest => do
      if sign = '-' || sign = '+' then
        let isOn := sign = '-'
        let letters := letter :: more
        setExtendedLetters isOn (letters.filter (· != 'o'))
        if letters.contains 'o' then
          match rest with
          | [] => sayExtendedOptions (!isOn)
          | name :: rest =>
              setExtendedName isOn name
              setExtendedOptions rest
        else setExtendedOptions rest
      else modify fun shell => { shell with positional := (sign :: letter :: more) :: rest }
  | parameters => modify fun shell => { shell with positional := parameters }

/-- Sets options and positional parameters, or tells the variables. -/
def setExtended : Builtin := fun arguments => do
  finish 0
  if arguments.isEmpty then sayAssignments
  else setExtendedOptions arguments

/-! ### Further options -/

/-- An option as it is told: by a line of a table, or by the command that sets it. -/
def settingRow (asCommand isNamed : Bool) (name : String) (isOn : Bool) : Row :=
  if asCommand then
    rowOf (if isNamed then (if isOn then "set -o " else "set +o ") ++ name ++ "\n"
      else (if isOn then "shopt -s " else "shopt -u ") ++ name ++ "\n")
  else settingLine name isOn

/-- Tells, sets or asks for further options, or for options with a name. -/
def shopt : Builtin := fun arguments => do
  let use : BuiltinUse := { letters := "pqsuo", usage := "shopt [-pqsu] [-o] [optname ...]" }
  let (options, names) ← use.takeLetters arguments
  finish 0
  let has (letter : Char) : Bool := options.contains letter
  if has 's' && has 'u' then
    remark (rowOf "cannot set and unset shell options simultaneously")
    leave .fault
  let known (shell : ShellState) : List (String × Bool) :=
    if has 'o' then ShellState.extendedOptions.map fun option => (option.2, shell.hasOption option)
    else ShellState.settingNames.map fun name => (name, shell.isSet name)
  if names.isEmpty then
    (known (← get)).forM fun (name, isOn) => do
      if !has 'q' && (!has 's' || isOn) && (!has 'u' || !isOn) then
        say (settingRow (has 'p') (has 'o') name isOn)
  else
    names.forM fun name => do
      match (known (← get)).find? fun entry => rowOf entry.1 == name with
      | none =>
          remark (name ++ rowOf (if has 'o' then ": invalid option name"
            else ": invalid shell option name"))
      | some (text, isOn) =>
          if has 's' || has 'u' then
            match if has 'o' then namedOption? name else none with
            | some option => modify (·.withNamed option (has 's'))
            | none => modify (·.withSetting text (has 's'))
          else
            if !isOn then finish 1
            if !has 'q' then say (settingRow (has 'p') (has 'o') text isOn)

end TestAmplification.Shell
