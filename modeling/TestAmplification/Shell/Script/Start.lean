import TestAmplification.Shell.Script.Run

/-!
# The shell as a program

How a shell of either dialect starts: the variables that it knows, and where its script comes from.
-/

set_option autoImplicit false

/-!
## A shell of the extended dialect that starts

It knows more variables by itself than one of the plain dialect, and takes more options. What
it is said to run is an argument, a file, or its input.
-/

namespace TestAmplification.Shell

open Session

/-! ### The first state -/

/-- The version of the language, as a text. -/
def dialectVersion : String := "5.2.21(1)-release"

/-- The variables of a shell of the extended dialect that has just started. -/
def extendedBindings (environment : List (String × Row)) (directory : Row) (parent : Nat) :
    List (String × Variable) :=
  let given := environment.filter fun entry =>
    isName entry.1.toList
      && !(["IFS", "PWD", "OPTIND", "PPID", "SHLVL", "_", "BASHOPTS", "SHELLOPTS", "UID",
        "EUID"].contains entry.1)
  let level := (((environment.lookup "SHLVL").bind Text.digits?).getD 0) + 1
  let shown (name : String) (value : Row) : String × Variable :=
    (name, { value := some value, isExported := true })
  let plain (name value : String) : String × Variable := (name, { value := some (rowOf value) })
  let fixed (name value : String) : String × Variable :=
    (name, { value := some (rowOf value), isFixed := true, isNumber := true })
  let isGiven (name : String) : Bool := (given.lookup name).isSome
  let own : List (String × Variable) :=
    [plain "BASH" "/usr/bin/bash", plain "BASH_VERSION" dialectVersion, plain "HOSTTYPE" "x86_64",
      plain "IFS" " \t\n", plain "MACHTYPE" "x86_64-pc-linux-gnu", plain "OPTERR" "1",
      plain "OSTYPE" "linux-gnu", plain "PATH" (textOf standardSearch), plain "PS4" "+ ",
      plain "SHELL" "/bin/bash", plain "TERM" "dumb", plain "HOSTNAME" "localhost",
      fixed "UID" "0", fixed "EUID" "0", fixed "PPID" (textOf (natRow parent)),
      ("OPTIND", { value := some ['1'], isNumber := true }),
      ("OLDPWD", { isExported := true }),
      ("BASH_VERSINFO", {
        elements := some (.ofList (["5", "2", "21", "1", "release", "x86_64-pc-linux-gnu"].map rowOf))
        isFixed := true })]
  (given.map fun (name, value) => shown name value)
    ++ [shown "PWD" directory, shown "SHLVL" (natRow level)]
    ++ own.filter fun entry => !isGiven entry.1

/-- The state of a shell of the extended dialect that has just started. -/
def extendedStart (environment : List (String × Row)) (directory : Row) (parent : Nat) (name : Row) :
    ShellState where
  dialect := .extended
  bindings := extendedBindings environment directory parent
  name
  directory
  options := ['h', 'B']
  settings := firstSettings
  lastArgument := (environment.lookup "_").getD name

/-! ### Arguments -/

/-- Writes a message before there is a script. -/
def warnAtStart (message : Row) : Session Unit := do
  warnRow ((← get).name ++ rowOf ": " ++ message ++ ['\n'])

/-- How the shell is called. -/
def callUsage (name : Row) : Row :=
  rowOf "Usage:\t" ++ name ++ rowOf " [GNU long option] [option] ...\n\t" ++ name
    ++ rowOf (" [GNU long option] [option] script-file ...\nGNU long options:\n"
      ++ "\t--debug\n\t--debugger\n\t--dump-po-strings\n\t--dump-strings\n\t--help\n"
      ++ "\t--init-file\n\t--login\n\t--noediting\n\t--noprofile\n\t--norc\n\t--posix\n"
      ++ "\t--pretty-print\n\t--rcfile\n\t--restricted\n\t--verbose\n\t--version\n"
      ++ "Shell options:\n"
      ++ "\t-ilrsD or -c command or -O shopt_option\t\t(invocation only)\n"
      ++ "\t-abefhkmnptuvxBCEHPT or -o option\n")

/-- Refuses an argument of the shell. -/
def refuseCall {α : Type} (argument : Row) : Session α := do
  warnAtStart (argument ++ rowOf ": invalid option")
  warnRow (callUsage (← get).name)
  finish 2
  leave .script

/-- The long options without a value that change nothing for a script. -/
def silentOptions : List String :=
  ["--debug", "--login", "--noediting", "--noprofile", "--norc", "--restricted"]

/-- Takes a letter of an option of the shell. The flag says whether it is turned on. -/
def takeCallLetter (isOn : Bool) (letter : Char) : Session Unit := do
  if letter = 'c' || letter = 's' || "abefhkmnptuvxBCEHPT".toList.contains letter then
    modify (·.withOption letter isOn)
  else if ['i', 'l', 'r', 'D'].contains letter then return
  else refuseCall [if isOn then '-' else '+', letter]

/-- Turns a named option on or off. -/
def takeCallName (isOn isFurther : Bool) (name : Row) : Session Unit := do
  let refuse (reason : String) : Session Unit := do
    warnAtStart (name ++ rowOf reason)
    finish 2
    leave .script
  if isFurther then
    if ShellState.settingNames.contains (textOf name) then modify (·.withSetting (textOf name) isOn)
    else refuse ": invalid shell option name"
  else
    match namedOption? name with
    | some option => modify (·.withNamed option isOn)
    | none =>
        warnAtStart (rowOf "line 0: " ++ (← get).name ++ rowOf ": " ++ name ++ rowOf ": invalid option name")
        finish 2
        leave .script

/-- Takes the names that the letters of an option ask for: for the letter of options and for that
of further ones. -/
def takeCallNames (isOn : Bool) (arguments : List Row) : Row → Session (List Row)
  | [] => return arguments
  | letter :: letters => do
      if letter = 'o' || letter = 'O' then
        match arguments with
        | name :: rest =>
            takeCallName isOn (letter = 'O') name
            takeCallNames isOn rest letters
        | [] =>
            sayExtendedOptions (!isOn)
            takeCallNames isOn [] letters
      else
        takeCallLetter isOn letter
        takeCallNames isOn arguments letters

/-- Takes the options in front of the arguments of a shell, in at most so many steps. -/
def takeCallOptions : Nat → List Row → Session (List Row)
  | 0, arguments => return arguments
  | steps + 1, arguments => do
      match arguments with
      | ['-'] :: rest | ['-', '-'] :: rest => return rest
      | ('-' :: '-' :: name) :: rest =>
          let text := String.ofList ('-' :: '-' :: name)
          if silentOptions.contains text then takeCallOptions steps rest
          else if text = "--posix" then
            modify fun shell => (shell.withSetting "posix" true).withBinding "POSIXLY_CORRECT"
              (some { value := some ['y'] })
            takeCallOptions steps rest
          else if text = "--verbose" then
            modify (·.withOption 'v' true)
            takeCallOptions steps rest
          else if text = "--rcfile" || text = "--init-file" then takeCallOptions steps (rest.drop 1)
          else if text = "--version" then
            warnRow []
            let _ ← Act.write 1 (rowOf ("GNU bash, version " ++ dialectVersion
              ++ " (x86_64-pc-linux-gnu)\n"))
            finish 0
            leave .script
          else refuseCall (rowOf text)
      | (sign :: letter :: letters) :: rest =>
          if sign = '-' || sign = '+' then
            takeCallOptions steps (← takeCallNames (sign = '-') rest (letter :: letters))
          else return arguments
      | arguments => return arguments

/-- The script in a file that is named as an argument, or in the search path. -/
def namedScript (name : Row) : Session Row := do
  let disk ← disk
  let path ←
    if name.contains '/' || disk.isThere (textOf name) then pure name
    else scriptPath name
  if (directoryAt? disk path).isSome then
    warnRow (name ++ rowOf ": " ++ name ++ rowOf ": Is a directory\n")
    finish 126
    leave .script
  match ← Act.openPath .read (textOf path) with
  | .error fault =>
      warnAtStart (name ++ rowOf (": " ++ fault.reason))
      finish (if fault = .notFound then 127 else 126)
      leave .script
  | .ok opening => Act.readOpening opening

/-- Runs what the arguments of a shell ask for. -/
def runExtendedShell (arguments : List Row) : Session Unit := do
  let operands ← takeCallOptions (arguments.length + 1) arguments
  let begin (isFinal : Bool) (label : Option Row) (script : Row) (name : Option Row)
      (positional : List Row) : Session Unit := do
    modify fun shell => { shell with name := name.getD shell.name, positional }
    runScript run isFinal label 1 script
  if (← get).has 'c' then
    match operands with
    | [] =>
        warnAtStart (rowOf "-c: option requires an argument")
        finish 2
    | script :: rest =>
        modify fun shell => { shell with isArgument := true }
        modify (·.withBinding "BASH_EXECUTION_STRING" (some { value := some script }))
        begin true (some ['-', 'c']) script rest.head? (rest.drop 1)
  else
    match (← get).has 's', operands with
    | false, path :: rest =>
        let script ← namedScript path
        modify fun shell => { shell with
          nestings := [{ name := rowOf "main", line := 0, source := path }] }
        begin false none script (some path) rest
    | _, operands =>
        modify (·.withOption 's' true)
        begin false none ((← Act.readAll 0).toOption.getD []) none operands

end TestAmplification.Shell

/-!
## The shell as a program

The shell gets its script as an argument, in a file or as its input, after options like
those that a script can set. It knows the variables of its starter and shows them to
the programs that it runs.
-/

namespace TestAmplification.Shell

open Session

/-- The variables of a shell that has just started. -/
def firstBindings (environment : List (String × Row)) (directory : Row) (parent : Nat) :
    List (String × Variable) :=
  let given := environment.filter fun entry =>
    isName entry.1.toList && !(["IFS", "PWD", "OPTIND", "PPID"].contains entry.1)
  let own := [("IFS", [' ', '\t', '\n']), ("OPTIND", ['1']), ("PS1", ['#', ' ']), ("PS2", ['>', ' ']),
    ("PS4", ['+', ' ']), ("PATH", standardSearch), ("PPID", natRow parent)]
  let isGiven (name : String) : Bool := (given.lookup name).isSome
  given.map (fun (name, value) => (name, { value := some value, isExported := true }))
    ++ [("PWD", { value := some directory, isExported := true })]
    ++ (own.filter fun entry => !isGiven entry.1).map fun (name, value) =>
      (name, { value := some value })

/-- What the arguments of a shell say besides options. -/
structure ShellCall where
  /-- Is the script an argument? -/
  hasScript : Bool := false
  /-- The arguments behind the options. -/
  operands : List Row := []

/-- Takes the options in front of the arguments of a shell. -/
def takeShellOptions (call : ShellCall) : List Row → Session ShellCall
  | [] => return call
  | ['-'] :: rest | ['-', '-'] :: rest => return { call with operands := rest }
  | ('-' :: letters) :: rest => do
      setLetters true (letters.filter fun letter => letter != 'c' && letter != 'o')
      let call := { call with hasScript := call.hasScript || letters.contains 'c' }
      match letters.contains 'o', rest with
      | true, name :: rest =>
          setNamedOption true name
          takeShellOptions call rest
      | _, rest => takeShellOptions call rest
  | ('+' :: letters) :: rest => do
      setLetters false (letters.filter (· != 'o'))
      match letters.contains 'o', rest with
      | true, name :: rest =>
          setNamedOption false name
          takeShellOptions call rest
      | _, rest => takeShellOptions call rest
  | operands => return { call with operands }

/-- Runs what the arguments of a shell ask for. -/
def runShell (arguments : List Row) : Session Unit := do
  modify fun shell => { shell with line := 0 }
  let call ← takeShellOptions {} arguments
  let begin (script : Row) (isFinal : Bool) (name : Option Row) (positional : List Row) :
      Session Unit := do
    modify fun shell => { shell with line := 1, name := name.getD shell.name, positional }
    runScript run isFinal none 1 script
  if call.hasScript then
    match call.operands with
    | [] => giveUp (rowOf "-c requires an argument")
    | script :: rest => begin script true rest.head? (rest.drop 1)
  else
    match (← get).has 's', call.operands with
    | false, path :: rest =>
        match ← Act.openPath .read (textOf path) with
        | .error fault =>
            giveUp (rowOf "cannot open " ++ path ++ rowOf (": " ++ openReason "No such file" fault))
        | .ok opening => begin (← Act.readOpening opening) false (some path) rest
    | _, operands =>
        modify fun shell => shell.withOption 's' true
        begin ((← Act.readAll 0).toOption.getD []) false none operands

/-- The path of the directory that a shell starts in: the one that its starter knows it by,
or that of its place. -/
def firstDirectory (disk : Disk) (environment : List (String × Row)) (place : Place) : Row :=
  let known := (environment.lookup "PWD").getD []
  if known.head? == some '/' && directoryAt? disk known == some place then known
  else if FileTree.isLost place then []
  else pathOfPlace place

/-- A shell of a dialect as a program with arguments, which start with the name that it is called
by. -/
def performShell (dialect : Dialect) (arguments : List Row) (environment : List (String × Row)) :
    Act Departure := do
  let process ← Act.self
  let directory := firstDirectory (← Act.disk) environment process.place
  let name := arguments.head?.getD []
  let shell : ShellState :=
    match dialect with
    | .plain => {
        bindings := firstBindings environment directory process.parent
        name, directory, line := 0, number := process.number }
    | .extended => {
        extendedStart environment directory process.parent name with
        number := process.number, seed := process.number }
  performSession shell do
    if directory.isEmpty then let _ ← ownPath
    match dialect with
    | .plain => runShell (arguments.drop 1)
    | .extended => runExtendedShell (arguments.drop 1)

end TestAmplification.Shell
