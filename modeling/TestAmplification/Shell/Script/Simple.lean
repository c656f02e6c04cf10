import TestAmplification.Shell.Script.Directory
import TestAmplification.Shell.Script.Extended.Conditions
import TestAmplification.Shell.Script.Extended.Declaring
import TestAmplification.Shell.Script.Extended.Leaving
import TestAmplification.Shell.Script.Names
import TestAmplification.Shell.Script.Extended.Reading
import TestAmplification.Shell.Script.Extended.Tasks
import TestAmplification.Shell.Script.Processes
import TestAmplification.Shell.Script.Expansion
import TestAmplification.Shell.Script.Writing

/-!
# Scripts and simple commands

A simple command assigns variables, or calls a function, a builtin or a program under
assignments and redirections of its own. Some builtins run scripts, so all of this is described
with the runner of commands as a parameter.
-/

set_option autoImplicit false

/-!
## Showing commands before they run

If that is wanted, a script shows its commands before they run, as they are when all words are
worked out. Compound commands are shown as they stand in the script.
-/

namespace TestAmplification.Shell

open Session

/-- What stands in front of a shown command. Its first character is repeated for scripts that are
texts inside of others. -/
def traceStart (shell : ShellState) : Row :=
  let start := (shell.value? "PS4").getD []
  if shell.isExtended then
    List.replicate shell.level (start.head?.getD '+') ++ start
  else start

/-- Shows a row. -/
def traceRow (opening : Option Nat) (row : Row) : Session Unit := do
  let shell ← get
  if shell.has 'x' then
    match opening with
    | none => return
    | some opening =>
        let _ ← Act.writeOpening opening (traceStart shell ++ row ++ ['\n'])

/-- A word of a command as it is shown. -/
def shownWord (shell : ShellState) (word : Row) : Row :=
  if !shell.isExtended then word
  else if word.isEmpty then ['\'', '\'']
  else Given.shownValue word

/-- Shows the words of a command. -/
def traceWords (opening : Option Nat) (words : List Row) : Session Unit := do
  let shell ← get
  if shell.has 'x' then traceRow opening (joinWith [' '] (words.map (shownWord shell)))

/-- Shows a row where messages about faults go. -/
def traceHere (row : Row) : Session Unit := do
  if (← get).has 'x' then traceRow (← Act.openingOf 2) row

/-- A parameter as it stands in a script. -/
def spelledSource : ParameterSource → Row
  | .named name => rowOf name
  | .element name _ => rowOf (name ++ "[0]")
  | .elements name isJoined => rowOf (name ++ if isJoined then "[*]" else "[@]")
  | .indirect source => '!' :: spelledSource source
  | .indices name isJoined => rowOf ("!" ++ name ++ if isJoined then "[*]" else "[@]")
  | .names start isJoined => rowOf ("!" ++ start ++ if isJoined then "*" else "@")

/-- A part of a word as it stands in a script, as far as it holds texts and parameters. The flag
says whether it is quoted. -/
def spelledPart : WordPart → Row × Bool
  | .text characters quoted => (characters, quoted)
  | .parameter (.named name) .value quoted => ('$' :: rowOf name, quoted)
  | .parameter source _ quoted => (['$', '\x7b'] ++ spelledSource source ++ ['\x7d'], quoted)
  | .output _ quoted => (rowOf "$(...)", quoted)
  | .arithmetic expression quoted =>
      (rowOf "$((" ++ spelledWord expression ++ rowOf "))", quoted)
  | .channel isRead _ => (rowOf (if isRead then "<(...)" else ">(...)"), false)
  | .elements words => (['('] ++ joinWith [' '] (words.map spelledWord) ++ [')'], false)

/-- A word as it stands in a script, where quotes are double ones. -/
def scriptWord (word : Word) : Row :=
  let pieces := (word.map spelledPart).splitBy fun first second => first.2 == second.2
  pieces.flatMap fun piece =>
    let row := (piece.map Prod.fst).flatten
    if piece.any Prod.snd then ['"'] ++ row ++ ['"'] else row

end TestAmplification.Shell

namespace TestAmplification.Shell

open Session

/-- A runner of commands. The flag says whether the command is the last thing that
the process does. -/
abbrev Runner := Bool → Command → Session Unit

/-! ## Scripts -/

/-- Takes a step of a line of a script. In the extended dialect a fault leaves the line only,
except in parts of a script. -/
def onward (step : Session Unit) : Session Unit := do
  let left ← catching step
  let shell ← get
  match left with
  | some .fault =>
      if shell.isExtended && !shell.isPart then
        set { shell with builtin := none, status := max 1 shell.status }
      else if shell.isExtended then leave .script
      else leave .fault
  | left => resuming left

/-- Shows lines of a script as they are read. -/
def showLines (row : Row) : Session Unit :=
  warnRow (if row.isEmpty || row.getLast? == some '\n' then row else row ++ ['\n'])

/-- Runs what is left of a script, line by line. Later lines see the aliases of those
before them. -/
def runLines (run : Runner) (isFinal : Bool) (label : Option Row) : Nat → Reading → Session Unit
  | 0, _ => return
  | steps + 1, reading => do
      let shell ← get
      let aliases :=
        if shell.isExtended && !shell.isSet "expand_aliases" then [] else shell.aliases
      match nextLine { reading with aliases, hasGroups := shell.isSet "extglob" } with
      | .finish => return
      | .broken refusal =>
          tellOpenTexts refusal.openTexts
          refuseScript label refusal
      | .commands commands isLast rest =>
          if shell.isExtended && shell.has 'v' then
            showLines (reading.rest.take (reading.rest.length - rest.rest.length))
          tellOpenTexts rest.openTexts
          let rest := { rest with openTexts := [] }
          if !shell.has 'n' then onward (run (isFinal && isLast) (.sequence commands))
          runLines run isFinal label steps rest

/-- Runs a script that starts at a line. The label says what it was read from, if that is no
file. -/
def runScript (run : Runner) (isFinal : Bool) (label : Option Row) (line : Nat) (script : Row) :
    Session Unit := do
  let dialect := (← get).dialect
  runLines run isFinal label (script.length + 2) { rest := script, present := script, line, dialect }

/-! ## Actions -/

/-- Runs an action under a label. What comes to pass in it counts as part of the command that it
comes before or after, and the status is afterwards what it was before, unless the action leaves
the script. -/
def runLabelled (run : Runner) (isObserved : Bool) (label : String) (line : Nat) (action : Row) :
    Session Unit := do
  let shell ← get
  set { shell with isObserved, level := shell.level + 1, isActing := true }
  let left ← catching (runScript run false (some (rowOf label)) line action)
  modify fun after => { after with
    status := if left.isNone then shell.status else after.status
    isObserved := shell.isObserved, level := shell.level, isActing := shell.isActing }
  resuming left

/-- Runs the action for an occasion, if there is one. -/
def actOn (run : Runner) (occasion : Nat) (label : String) : Session Unit := do
  let shell ← get
  match shell.traps.lookup occasion with
  | some action => if !action.isEmpty then runLabelled run true label shell.line action
  | none => return

/-- Takes note of the command that is about to run. In the extended dialect there may be an action
for that. -/
def beginCommand (run : Runner) (place : Stretch) : Session Unit := do
  let shell ← get
  if !shell.isExtended || shell.isActing then set { shell with line := place.line }
  else
    set { shell with line := place.line, place }
    if shell.scopes.isEmpty || shell.has 'T' then actOn run commandOccasion "debug trap"

/-- Takes a step that a caller waits for, at whose end there may be an action. An action of the
caller is put aside until then, unless it is to be passed on or the step sets another one. -/
def returning (run : Runner) (isPassedOn : Bool) (step : Session Unit) : Session Unit := do
  let shell ← get
  let outer := if isPassedOn || shell.has 'T' then none else shell.traps.lookup returnOccasion
  if outer.isSome then
    set { shell with traps := shell.traps.filter fun entry => entry.1 != returnOccasion }
  let left ← catching step
  match left with
  | none | some .function => actOn run returnOccasion "return trap"
  | some _ => pure ()
  match outer with
  | some action =>
      if ((← get).traps.lookup returnOccasion).isNone then
        modify fun shell => { shell with traps := (returnOccasion, action) :: shell.traps }
  | none => pure ()
  resuming left

/-! ## Builtins that run commands -/

/-- Runs texts as a script. -/
def evaluate (run : Runner) (isFinal : Bool) : Builtin := fun arguments => do
  let script := joinWith [' '] arguments
  if script.all isSpace then finish 0
  runScript run isFinal none (← get).line script

/-- Runs texts as a script in the extended dialect. -/
def evaluateExtended (run : Runner) (isFinal : Bool) : Builtin := fun arguments => do
  let use : BuiltinUse := { usage := "eval [arg ...]" }
  let (_, operands) ← use.take arguments
  let script := joinWith [' '] operands
  if script.all isSpace then finish 0
  let before ← get
  set { before with builtin := none, level := before.level + 1 }
  let left ← catching (runScript run isFinal (some (rowOf "eval")) before.line script)
  modify fun shell => { shell with level := before.level }
  resuming left

/-- The path of a script with a name. -/
def scriptPath (name : Row) : Session Row := do
  if name.contains '/' then return name
  let disk ← disk
  let directories := cutAtEach ':' (← get).search
  let paths := directories.map fun directory =>
    if directory.isEmpty then name else directory ++ '/' :: name
  match paths.find? fun path => disk.isFile (textOf path) && !name.isEmpty with
  | some path => return path
  | none =>
      if (← get).isExtended then return name
      complain (name ++ rowOf ": not found") 2
      leave .script

/-- Runs the script in a file in this shell. Leaving a function leaves the script. -/
def runFile (run : Runner) : Builtin := fun arguments => do
  match arguments with
  | [] => finish 0
  | name :: _ =>
      let path ← scriptPath name
      match ← Act.openPath .read (textOf path) with
      | .error fault => giveUp (rowOf "cannot open " ++ path ++ rowOf (": " ++ openReason "No such file" fault))
      | .ok opening =>
          let script ← Act.readOpening opening
          let before ← get
          modify fun shell => { shell with
            builtin := some path, isObserved := false, status := if script.all isSpace then 0 else shell.status }
          let left ← catching (runScript run false none 1 script)
          modify fun shell => { shell with
            builtin := before.builtin, line := before.line, isObserved := before.isObserved }
          match left with
          | some .function => return
          | left => resuming left

/-- Runs the script in a file in this shell, in the extended dialect. It may have parameters of
its own. -/
def runFileExtended (run : Runner) (called : String) : Builtin := fun arguments => do
  let use : BuiltinUse := { usage := called ++ " filename [arguments]" }
  let (_, operands) ← use.take arguments
  match operands with
  | [] => giveUpUsage (some (rowOf "filename argument required")) use.usage
  | name :: parameters =>
      let path ← scriptPath name
      if (directoryAt? (← disk) path).isSome then
        remark (path ++ rowOf ": is a directory")
        leave .fault
      match ← Act.openPath .read (textOf path) with
      | .error fault =>
          remarkPlainly (path ++ rowOf (": " ++ fault.reason))
          leave .fault
      | .ok opening =>
          let script ← Act.readOpening opening
          let before ← get
          set { before with
            builtin := none
            level := before.level + 1
            positional := if parameters.isEmpty then before.positional else parameters
            nestings := { name := rowOf "source", line := before.line, source := path }
              :: before.nestings
            status := if script.all isSpace then 0 else before.status }
          let left ← catching (returning run true (runScript run false none 1 script))
          modify fun shell => { shell with
            level := before.level, nestings := before.nestings, line := before.line
            positional := if parameters.isEmpty then shell.positional else before.positional }
          match left with
          | some .function => return
          | left => resuming left

/-- Goes on as a program. -/
def replaceShell : Builtin := fun arguments => do
  let (_, operands) ← plainOptions [] arguments
  match operands with
  | [] => finish 0
  | name :: _ =>
      let shell ← get
      match searchProgram (← disk) shell.search name with
      | .ok path =>
          if isTooMuch operands shell.environment then
            complain (tooMuchMessage operands) 126
            leave .script
          leave (.becomes path operands shell.environment)
      | .error fault =>
          complain (name ++ rowOf (": " ++ missingReason fault)) (statusOfMissing fault)
          leave .script

/-- Goes on as a program in the extended dialect, perhaps under another name or without
variables. -/
def replaceExtended : Builtin := fun arguments => do
  let use : BuiltinUse := {
    letters := "cl", valued := "a"
    usage := "exec [-cl] [-a name] [command [argument ...]] [redirection ...]" }
  let (options, operands) ← use.take arguments
  match operands with
  | [] => finish 0
  | name :: rest =>
      let shell ← get
      let has (letter : Char) : Bool := options.any fun option => option.1 == letter
      let refuse (label : Option Row) (message : Row) (status : Nat) : Session Unit := do
        let builtin := (← get).builtin
        modify fun shell => { shell with builtin := label }
        complain message status
        modify fun shell => { shell with builtin }
      match searchProgram (← disk) shell.search name with
      | .ok path =>
          let called := (optionValue? options 'a').getD name
          let called := if has 'l' then '-' :: called else called
          let environment := if has 'c' then [] else environmentFor shell true path
          let (program, arguments) := carrierFor shell (← disk) path (called :: rest)
          leave (.becomes program arguments environment)
      | .error fault =>
          let whole := if name.head? == some '/' then name else shell.directory ++ '/' :: name
          if !name.contains '/' then refuse (some (rowOf "exec")) (name ++ rowOf ": not found") 127
          else if fault = .notFound then
            refuse none (whole ++ rowOf (": " ++ fault.reason)) 127
          else
            let reason := if (directoryAt? (← disk) name).isSome then "Is a directory"
              else fault.reason
            refuse none (whole ++ rowOf (": " ++ reason)) 126
            refuse (some (rowOf "exec")) (whole ++ rowOf (": cannot execute: " ++ reason)) 126
          if !shell.isSet "execfail" then leave .script

/-- Tells how names are called, or what they stand for. -/
def describeCommand : Builtin := fun arguments => do
  let (options, operands) ← plainOptions ['p', 'v', 'V'] arguments
  finish 0
  match operands with
  | [] => return
  | name :: _ => if options.contains 'V' then describeName name else sayCall name

/-- Runs a builtin. What it has to write is written at its end. Only a special builtin
ends the script when it fails; in the extended dialect a fault that is not its own leaves the
line. -/
def runBuiltin (isSpecial : Bool) (name : Row) (builtin : Builtin) (arguments : List Row) :
    Session Unit := do
  let before ← get
  set { before with builtin := some name, unwritten := [] }
  let left ← catching (builtin arguments)
  let row := (← get).unwritten.reverse.flatten
  match ← Act.write 1 row with
  | .ok () => pure ()
  | .error fault =>
      if before.isExtended then
        modify fun shell => { shell with builtin := some name }
        complain (rowOf ("write error: " ++ fault.reason)) 1
      else
        modify fun shell => { shell with status := shell.status ||| 1 }
        warn (name ++ rowOf ": I/O error")
  let isOwn := (← get).builtin.isSome
  modify fun shell => { shell with builtin := before.builtin, unwritten := before.unwritten }
  match left with
  | some .fault => if isSpecial || (before.isExtended && !isOwn) then leave .fault
  | left => resuming left

/-- The builtins of the plain dialect, given how commands are run. -/
def builtins (run : Runner) (isFinal : Bool) : List (String × Builtin) :=
  [(":", fun _ => finish 0), ("true", fun _ => finish 0), ("false", fun _ => finish 1),
    ("echo", sayArguments), ("printf", sayFormatted), ("test", testTexts), ("[", testInBrackets),
    ("exit", leaveWith .script), ("return", leaveWith .function), ("break", leaveLoops .loops),
    ("continue", leaveLoops .round), ("eval", evaluate run isFinal), (".", runFile run),
    ("exec", replaceShell), ("command", describeCommand), ("export", exportVariables),
    ("readonly", fixVariables), ("local", localVariables), ("unset", unset), ("set", setAll),
    ("shift", shift), ("getopts", takeOption), ("read", readVariables), ("cd", changeDirectory),
    ("chdir", changeDirectory), ("pwd", sayDirectory), ("umask", changeMask),
    ("ulimit", changeLimit), ("alias", aliasWords), ("unalias", unaliasWords),
    ("type", describeNames), ("hash", trackNames), ("trap", trap), ("kill", kill),
    ("wait", waitForJobs), ("jobs", listJobs), ("fg", refuseJobs), ("bg", refuseJobs),
    ("times", sayTimes)]

/-- Writes the names of the builtins as commands. -/
def enableBuiltins : Builtin := fun arguments => do
  finish 0
  let names := arguments.filter fun argument => argument.head? != some '-'
  if names.isEmpty then
    extendedBuiltinNames.forM fun name => say (rowOf ("enable " ++ name ++ "\n"))
  else
    names.forM fun name => do
      if !extendedBuiltinNames.contains (textOf name) then
        remark (name ++ rowOf ": not a shell builtin")

/-- Says that there is no help. -/
def refuseHelp : Builtin := fun arguments => do
  finish 0
  match arguments with
  | [] => return
  | name :: _ =>
      remark (rowOf "no help topics match " ++ marked name ++ rowOf ".  Try \x60help help' or \x60man -k "
        ++ name ++ rowOf "' or \x60info " ++ name ++ rowOf "'.")

/-- The builtins of the extended dialect, given how commands are run. -/
def extendedBuiltins (run : Runner) (isFinal : Bool) : List (String × Builtin) :=
  [(":", fun _ => finish 0), ("true", fun _ => finish 0), ("false", fun _ => finish 1),
    ("echo", echoExtended), ("printf", printfExtended), ("test", testExtended),
    ("[", testExtendedInBrackets), ("exit", exitExtended), ("return", returnExtended),
    ("break", leaveExtended .loops), ("continue", leaveExtended .round),
    ("eval", evaluateExtended run isFinal), (".", runFileExtended run "."),
    ("source", runFileExtended run "source"), ("exec", replaceExtended),
    ("command", describeCall), ("unset", unsetExtended), ("set", setExtended), ("shopt", shopt),
    ("shift", shiftExtended), ("getopts", getoptsExtended), ("read", readExtended),
    ("mapfile", mapLines), ("readarray", mapLines), ("cd", cdExtended), ("pwd", pwdExtended),
    ("pushd", pushd), ("popd", popd), ("dirs", dirs), ("umask", umaskExtended),
    ("ulimit", ulimitExtended), ("alias", aliasExtended), ("unalias", unaliasExtended),
    ("type", typeNames), ("hash", hashExtended), ("trap", trapExtended), ("kill", killExtended),
    ("wait", waitExtended), ("jobs", jobsExtended), ("fg", refuseControl), ("bg", refuseControl),
    ("disown", disown), ("times", timesExtended), ("let", letValues), ("caller", caller),
    ("enable", enableBuiltins), ("help", refuseHelp), ("history", fun _ => finish 0),
    ("logout", fun _ => remark (rowOf "not login shell: use \x60exit'")),
    ("suspend", fun _ => remark (rowOf "cannot suspend: no job control")),
    ("bind", fun _ => complain (rowOf "warning: line editing not enabled") 0),
    ("complete", fun _ => finish 0), ("compgen", fun _ => finish 1),
    ("compopt", fun _ => remark (rowOf "not currently executing completion function")),
    ("fc", fun _ => finish 0)]

/-- Runs a builtin by its name. -/
def runNamedBuiltin (run : Runner) (isFinal : Bool) : Builtin := fun arguments => do
  match withoutEnd arguments with
  | [] => finish 0
  | name :: rest =>
      match declarations.lookup (textOf name), (extendedBuiltins run isFinal).lookup (textOf name) with
      | some declaration, _ =>
          modify fun shell => { shell with builtin := some name }
          declaration (rest.map .text)
      | none, some builtin =>
          modify fun shell => { shell with builtin := some name }
          builtin rest
      | none, none => remark (name ++ rowOf ": not a shell builtin")

/-! ## Calling -/

/-- Where what runs was read, as functions remember it. -/
def presentSource (shell : ShellState) : Row :=
  match shell.nestings with
  | { source, .. } :: _ => source
  | [] => rowOf "environment"

/-- Runs a function. -/
def runFunction (run : Runner) (name : Row) (body : Command) (arguments : List Row) :
    Session Unit := do
  let before ← get
  let nesting : Nesting := {
    name, line := before.line, source := (before.sources.lookup (textOf name)).getD [] }
  set { before with
    positional := arguments, scopes := [] :: before.scopes, loops := 0
    nestings := if before.isExtended then nesting :: before.nestings else before.nestings
    optionIndex := if before.isExtended then before.optionIndex else 1
    lettersTaken := if before.isExtended then before.lettersTaken else none }
  let left ← catching
    (if before.isExtended then returning run false (run false body) else run false body)
  modify fun shell => { shell.leaveScope with
    positional := before.positional, loops := before.loops, nestings := before.nestings
    optionIndex := if before.isExtended then shell.optionIndex else before.optionIndex
    lettersTaken := if before.isExtended then shell.lettersTaken else before.lettersTaken }
  match left with
  | some .function => return
  | left => resuming left

/-- How a command is called: its name and arguments, and what is passed over when
looking for it. -/
structure Calling where
  /-- The name and the arguments. -/
  fields : List Row
  /-- Are functions passed over? -/
  skipsFunctions : Bool := false
  /-- Are programs looked for in the standard directories only? -/
  isStandard : Bool := false

/-- The command behind `command`, in at most so many steps. -/
def callingOf (shell : ShellState) : Nat → Calling → Calling
  | 0, calling => calling
  | steps + 1, calling =>
      let isFunction := !calling.skipsFunctions && (shell.functions.lookup "command").isSome
      match calling.fields with
      | name :: ['-', '-'] :: rest =>
          if name = rowOf "command" && !isFunction && !rest.isEmpty then
            callingOf shell steps { calling with fields := rest, skipsFunctions := true }
          else calling
      | name :: ['-', 'p'] :: rest =>
          if name = rowOf "command" && !isFunction && !rest.isEmpty
              && (rest.head?.bind List.head?) != some '-' then
            callingOf shell steps
              { fields := rest, skipsFunctions := true, isStandard := true }
          else calling
      | name :: next :: rest =>
          if name = rowOf "command" && !isFunction && next.head? != some '-' then
            callingOf shell steps { calling with fields := next :: rest, skipsFunctions := true }
          else calling
      | _ => calling

/-- What a command name leads to. -/
inductive Callee where
  /-- A builtin, and whether its faults end the script. -/
  | builtin (isSpecial : Bool) (builtin : Builtin)
  /-- A builtin whose arguments may be assignments. -/
  | declaration (declaration : Declaration)
  /-- A function. -/
  | function (body : Command)
  /-- A program, yet to be found. -/
  | program

/-- What a calling leads to. In the plain dialect special builtins come before functions. -/
def Calling.callee (calling : Calling) (run : Runner) (isFinal : Bool) (shell : ShellState) : Callee :=
  let name := textOf (calling.fields.head?.getD [])
  let function := if calling.skipsFunctions then none else shell.functions.lookup name
  match shell.dialect with
  | .plain =>
      if specialBuiltins.contains name then
        match (builtins run isFinal).lookup name with
        | some builtin => .builtin (!calling.skipsFunctions) builtin
        | none => .program
      else
        match function, (builtins run isFinal).lookup name with
        | some body, _ => .function body
        | none, some builtin => .builtin false builtin
        | none, none => .program
  | .extended =>
      match function, declarations.lookup name with
      | some body, _ => .function body
      | none, some declaration => .declaration declaration
      | none, none =>
          if name = "builtin" then .builtin false (runNamedBuiltin run isFinal)
          else
            match (extendedBuiltins run isFinal).lookup name with
            | some builtin => .builtin false builtin
            | none => .program

/-- Is the command a declaration whose arguments may be assignments? -/
def declares (shell : ShellState) (words : List Word) : Bool :=
  match words.head?.bind bareText? with
  | some name =>
      shell.isExtended && declaringBuiltins.contains name && (shell.functions.lookup name).isNone
  | none => false

/-- Assigns in front of a command, or in place of one. The assignments to variables are shown to
programs if they are in front of one. The answer is how they are told. -/
def assignAll (opening : Option Nat) (isTemporary : Bool) :
    List Assignment → List Row → Session (List Row)
  | [], shown => return shown.reverse
  | assignment :: rest, shown => do
      match (← get).dialect, assignment with
      | .plain, .mk name _ _ word =>
          let value ← rowOfWord word
          assign name value
          if isTemporary then
            modify (·.changeVariable name fun binding => { binding with isExported := true })
          assignAll opening isTemporary rest ((rowOf name ++ '=' :: value) :: shown)
      | .extended, assignment =>
          let given ← Given.ofAssignment assignment
          let name := given.name
          if isTemporary && (← get).isFixed name then
            remark (rowOf name ++ rowOf ": readonly variable")
          else
            if (← get).has 'x' then traceRow opening given.shown
            given.store
            if isTemporary then
              modify (·.changeVariable name fun binding => { binding with isExported := true })
          assignAll opening isTemporary rest shown

/-- The names that are assigned to. -/
def assignedNames (assignments : List Assignment) : List String :=
  assignments.map fun (.mk name _ _ _) => name

/-- Takes a step that has variables of its own, which are as before afterwards. -/
def withOwn (names : List String) (step : Session Unit) : Session Unit := do
  if names.isEmpty then step
  else
    let before ← get
    let left ← catching step
    modify fun shell => names.eraseDups.foldl (fun shell name =>
      shell.withBinding name (before.binding? name)) shell
    resuming left

/-- The targets of redirections, unless one of them is no file. -/
def knownIfPossible (redirections : List Redirection) :
    Session (Option (List KnownRedirection)) :=
  tryCatch (some <$> knownRedirections redirections) fun left =>
    match left with
    | .redirection => return none
    | left => throw left

/-- The arguments of a command: as rows, and as they are declared if the command declares. -/
def argumentsOf (words : List Word) : Session (List Row × List Declared) := do
  if declares (← get) words then
    let first ← fieldsOf (words.take 1)
    let declared ← (words.drop 1).mapM Declared.ofWord
    return (first ++ declared.flatten.map Declared.row, declared.flatten)
  else
    let fields ← fieldsOf words
    return (fields, (fields.drop 1).map .text)

/-- Calls what a calling leads to. -/
def call (run : Runner) (isFinal : Bool) (calling : Calling) (callee : Callee)
    (declared : List Declared) : Session Unit := do
  match calling.fields with
  | [] => return
  | name :: arguments =>
      match callee with
      | .builtin isSpecial builtin => runBuiltin isSpecial name builtin arguments
      | .declaration declaration =>
          let declared := if declared.length = arguments.length then declared else arguments.map .text
          runBuiltin false name (fun _ => declaration declared) arguments
      | .function body => runFunction run name body arguments
      | .program =>
          if calling.isStandard then
            match searchProgram (← disk) standardSearch name with
            | .ok path => runProgram isFinal path (name :: arguments)
            | .error fault =>
                if (← get).isExtended then
                  let (message, status) := missingExtended (← get) (← disk) name fault
                  complain message status
                else complain (name ++ rowOf ": not found") 127
          else
            match ← findProgram name with
            | some path => runProgram isFinal path (name :: arguments)
            | none => return

/-- Runs a simple command. Assignments in front of a command hold for that command
only, unless it is a special builtin of the plain dialect. -/
def runSimple (run : Runner) (isFinal : Bool) (assignments : List Assignment)
    (words : List Word) (redirections : List Redirection) : Session Unit := do
  modify fun shell => { shell with substitutionStatus := 0 }
  let errors ← Act.openingOf 2
  let (fields, declared) ← argumentsOf words
  let isEarly := fields.isEmpty && (← get).isExtended
  if isEarly then
    let shown ← assignAll errors false assignments []
    finish (← get).substitutionStatus
    if !shown.isEmpty then traceWords errors shown
  match ← knownIfPossible redirections with
  | none => return
  | some known =>
  let shell ← get
  let calling := callingOf shell fields.length { fields }
  let callee := calling.callee run isFinal shell
  match calling.fields with
  | [] =>
      underRedirections known false (return) do
        if !isEarly then
          let shown ← assignAll errors false assignments []
          if !shown.isEmpty then traceWords errors shown
        finish (← get).substitutionStatus
      modify fun shell => { shell with lastArgument := [] }
  | name :: _ =>
      let isSpecial :=
        match callee with
        | .builtin isSpecial _ => isSpecial
        | _ => false
      let isExec := name = rowOf "exec"
      let failed : Session Unit := if isSpecial then leave .fault else return
      underRedirections known isExec failed do
        withOwn (if isSpecial then [] else assignedNames assignments) do
          let shown ← assignAll errors (!isSpecial) assignments []
          traceWords errors (shown ++ fields)
          call run (isFinal && (known.isEmpty || shell.isExtended)) calling callee declared
      modify fun shell => { shell with lastArgument := fields.getLast?.getD [] }

end TestAmplification.Shell
