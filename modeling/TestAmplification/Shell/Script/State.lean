import TestAmplification.Shell.Script.Elements
import TestAmplification.Shell.Script.Syntax
import TestAmplification.Tooling.Launch

/-!
# The state of a shell

A shell that runs a script has variables, positional parameters, functions and
options of its own. A variable may be known without having a value, may be shown
to programs, and may be kept from changing.

A function can have variables of its own: what they were before is put aside when
they come and put back when the function ends.

In the extended dialect a variable may hold a list, or stand for another one.
-/

set_option autoImplicit false

namespace TestAmplification.Shell

/-- A variable. -/
structure Variable where
  /-- The value, if there is one. -/
  value : Option Row := none
  /-- The elements, if it is a list. -/
  elements : Option Elements := none
  /-- Do programs get to see it? -/
  isExported : Bool := false
  /-- Is it kept from changing? -/
  isFixed : Bool := false
  /-- Are its values numbers? -/
  isNumber : Bool := false
  /-- How the letters of its values are changed. -/
  letters : Option LetterChange := none
  /-- Does its value name the variable that is meant? -/
  isReference : Bool := false
deriving DecidableEq, Inhabited

/-- The value of a variable; a list has that of its first element. -/
def Variable.row? (known : Variable) : Option Row :=
  match known.elements with
  | some elements => elements.first?
  | none => known.value

/-- The variable with a value; of a list the first element gets it. -/
def Variable.withRow (known : Variable) (row : Row) : Variable :=
  match known.elements with
  | some elements => { known with elements := some (elements.set (.number 0) row) }
  | none => { known with value := some row }

/-- A command in the background. -/
structure BackgroundJob where
  /-- Its number among the jobs. -/
  index : Nat
  /-- The processes of the command and how they ended, as far as that was noticed; the
  last one stands for the command. -/
  processes : List (Nat × Option ExitStatus)
  /-- Was it waited for? -/
  isWaited : Bool := false
  /-- Is it a job of the shell that this one was made from? -/
  isInherited : Bool := false
  /-- The command as it is told. -/
  text : Row := []
deriving Inhabited

namespace BackgroundJob

/-- The process that stands for the command. -/
def number (job : BackgroundJob) : Nat :=
  (job.processes.getLast?.map Prod.fst).getD 0

/-- The processes that have not ended as far as was noticed. -/
def unfinished (job : BackgroundJob) : List Nat :=
  (job.processes.filter fun process => process.2.isNone).map Prod.fst

/-- The processes whose ends the shell can wait for. -/
def awaited (job : BackgroundJob) : List Nat :=
  if job.isInherited then [] else job.unfinished

/-- How the command ended, if all its processes have. -/
def ending (job : BackgroundJob) : Option ExitStatus :=
  if job.unfinished.isEmpty then job.processes.getLast?.bind Prod.snd else none

/-- Can it be forgotten when room is needed? -/
def isSettled (job : BackgroundJob) : Bool :=
  job.isWaited && job.unfinished.isEmpty

end BackgroundJob

/-- A function or a script under way inside another one. -/
structure Nesting where
  /-- The name of the function, or of the kind of script. -/
  name : Row
  /-- The line where it is called. -/
  line : Nat
  /-- Where what runs was read. -/
  source : Row
deriving Inhabited

/-- Is it the script that everything else is inside of? Nothing calls it. -/
def Nesting.isOutermost (nesting : Nesting) : Bool :=
  nesting.line = 0

/-- The state of a shell. -/
structure ShellState where
  /-- The dialect of the scripts. -/
  dialect : Dialect := .plain
  /-- The names that are known as variables. -/
  bindings : List (String × Variable) := []
  /-- For every function under way, the variables of its own and what they were
  before. -/
  scopes : List (List (String × Option Variable)) := []
  /-- The positional parameters. -/
  positional : List Row := []
  /-- The name of the script. -/
  name : Row := ['s', 'h']
  /-- The functions. -/
  functions : List (String × Command) := []
  /-- Words that stand for texts where a command may start. -/
  aliases : List (String × Row) := []
  /-- The letters of the options that are on. -/
  options : List Char := []
  /-- The status of the last command. -/
  status : Nat := 0
  /-- The status of the last substitution. -/
  substitutionStatus : Nat := 0
  /-- The number of the process that the script started as. -/
  number : Nat := 1
  /-- The number of the last process in the background, if there is one. -/
  lastJob : Option Nat := none
  /-- What was left in the background, the last one at the end. -/
  jobs : List BackgroundJob := []
  /-- How jobs ended that are no longer listed, by their processes, in the extended dialect. -/
  pastEndings : List (Nat × ExitStatus) := []
  /-- What is done on a signal; zero stands for the end of the script. -/
  traps : List (Nat × Row) := []
  /-- Where the command stands that runs, or that an action is about. -/
  place : Stretch := {}
  /-- Does an action run? -/
  isActing : Bool := false
  /-- The line of the command that runs. -/
  line : Nat := 1
  /-- The number of loops under way. -/
  loops : Nat := 0
  /-- Is the outcome of the command looked at, so that failing is no reason to
  stop? -/
  isObserved : Bool := false
  /-- The builtin that runs, as it stands in messages. -/
  builtin : Option Row := none
  /-- The number of the argument where the next option is looked for. -/
  optionIndex : Nat := 1
  /-- How many letters of the argument before were taken as options, if it is not
  done. -/
  lettersTaken : Option Nat := none
  /-- The programs that were looked for and found. -/
  tracked : List String := []
  /-- The path of the directory, as it was reached; it is empty when nobody knows it. -/
  directory : Row := []
  /-- What the builtin that runs has to write, the last piece first. -/
  unwritten : List Row := []
  /-- The names of the further options that are on. -/
  settings : List String := []
  /-- The functions and scripts under way, the innermost first. -/
  nestings : List Nesting := []
  /-- Where the functions were read. -/
  sources : List (String × Row) := []
  /-- Does it run a part of another script? -/
  isPart : Bool := false
  /-- How many shells it is inside of. -/
  depth : Nat := 0
  /-- How many scripts it is inside of that were texts. -/
  level : Nat := 0
  /-- How the commands of the last pipeline ended. -/
  pipeStatuses : List Nat := []
  /-- The number that the next random one follows from. -/
  seed : Nat := 1
  /-- The last argument of the command before. -/
  lastArgument : Row := []
  /-- Is the script an argument of the shell? -/
  isArgument : Bool := false
  /-- Directories that are put aside. -/
  directories : List Row := []
  /-- The streams of pipes to commands that stand behind paths. -/
  channels : List Nat := []
deriving Inhabited

namespace ShellState

/-- Is the script written in the extended dialect? -/
def isExtended (shell : ShellState) : Bool :=
  shell.dialect == .extended

/-- Is the further option on? -/
def isSet (shell : ShellState) (setting : String) : Bool :=
  shell.settings.contains setting

/-! ## Options -/

/-- Is the option on? -/
def has (shell : ShellState) (option : Char) : Bool :=
  shell.options.contains option

/-- The shell with an option on or off. -/
def withOption (shell : ShellState) (option : Char) (on : Bool) : ShellState :=
  let others := shell.options.filter (· != option)
  { shell with options := if on then option :: others else others }

/-! ## Variables -/

/-- What is known about a variable. -/
def binding? (shell : ShellState) (name : String) : Option Variable :=
  shell.bindings.lookup name

/-- The name that a name stands for if it may stand for others, in at most so many
steps. -/
def targetUpTo (shell : ShellState) : Nat → String → String
  | 0, name => name
  | steps + 1, name =>
      match shell.binding? name with
      | some { isReference := true, value := some target, .. } =>
          targetUpTo shell steps (textOf target)
      | _ => name

/-- The name that a name stands for. -/
def target (shell : ShellState) (name : String) : String :=
  match shell.binding? name with
  | some { isReference := true, .. } => shell.targetUpTo 16 name
  | _ => name

/-- The value of a variable. -/
def value? (shell : ShellState) (name : String) : Option Row :=
  match shell.binding? name with
  | some { isReference := true, .. } =>
      (shell.binding? (shell.targetUpTo 16 name)).bind Variable.row?
  | binding => binding.bind Variable.row?

/-- The elements of a variable; a plain value is the only element. -/
def elements? (shell : ShellState) (name : String) : Option Elements :=
  (shell.binding? (shell.target name)).bind fun binding =>
    binding.elements.or (binding.value.map fun value => .ofList [value])

/-- Is the variable kept from changing? -/
def isFixed (shell : ShellState) (name : String) : Bool :=
  ((shell.binding? name).map Variable.isFixed).getD false

/-- The shell with a variable as given, or without it. -/
def withBinding (shell : ShellState) (name : String) (binding : Option Variable) : ShellState :=
  { shell with
    bindings := (binding.map (name, ·)).toList
      ++ shell.bindings.filter fun entry => entry.1 != name }

/-- The shell with a change to a variable. -/
def changeVariable (shell : ShellState) (name : String) (change : Variable → Variable) :
    ShellState :=
  shell.withBinding name (some (change ((shell.binding? name).getD {})))

/-- The shell with a variable set. With the option for that, programs get to see
every variable that is set. -/
def withValue (shell : ShellState) (name : String) (value : Row) : ShellState :=
  let shell :=
    if name = "OPTIND" then
      { shell with
        optionIndex := max 1 ((Text.digits? value).getD 1)
        lettersTaken := none }
    else shell
  shell.changeVariable (shell.target name) fun binding =>
    { binding.withRow value with isExported := binding.isExported || shell.has 'a' }

/-- The variables that programs get to see. -/
def environment (shell : ShellState) : List (String × Row) :=
  let shown := shell.bindings.filterMap fun (name, binding) =>
    if binding.isExported && binding.elements.isNone then binding.value.map (name, ·) else none
  if shell.isExtended then inTableOrder (fun entry => rowOf entry.1) shown else shown

/-- The characters that separate fields. -/
def separators (shell : ShellState) : List Char :=
  (shell.value? "IFS").getD [' ', '\t', '\n']

/-- The shell with a change to the elements of a list. -/
def changeElements (shell : ShellState) (name : String) (change : Elements → Elements) :
    ShellState :=
  shell.changeVariable (shell.target name) fun binding =>
    let elements := binding.elements.getD (.ofList binding.value.toList)
    { binding with elements := some (change elements), value := none }

/-- The shell with a variable put aside for the function under way. -/
def putAside (shell : ShellState) (name : String) : ShellState :=
  match shell.scopes with
  | [] => shell
  | scope :: others =>
      if (scope.map Prod.fst).contains name then shell
      else { shell with scopes := ((name, shell.binding? name) :: scope) :: others }

/-- The shell after a function: what it had of its own is as it was before. -/
def leaveScope (shell : ShellState) : ShellState :=
  match shell.scopes with
  | [] => shell
  | scope :: others =>
      scope.foldl (fun shell (name, binding) => shell.withBinding name binding)
        { shell with scopes := others }

/-! ## Parameters -/

/-- The options by their letters and names. -/
def optionNames : List (Char × String) :=
  [('e', "errexit"), ('f', "noglob"), ('I', "ignoreeof"), ('i', "interactive"),
    ('m', "monitor"), ('n', "noexec"), ('s', "stdin"), ('x', "xtrace"), ('v', "verbose"),
    ('V', "vi"), ('E', "emacs"), ('C', "noclobber"), ('a', "allexport"), ('b', "notify"),
    ('u', "nounset"), ('p', "privileged"), ('L', "nolog"), ('D', "debug")]

/-- The letters in the parameter of the options. -/
def optionLetters : List Char :=
  (optionNames.map Prod.fst).reverse.drop 2

/-- The options of the extended dialect by their letters, if they have any, and names. -/
def extendedOptions : List (Option Char × String) :=
  [('a', "allexport"), ('B', "braceexpand"), (none, "emacs"), ('e', "errexit"), ('E', "errtrace"),
    ('T', "functrace"), ('h', "hashall"), ('H', "histexpand"), (none, "history"),
    (none, "ignoreeof"), (none, "interactive-comments"), ('k', "keyword"), ('m', "monitor"),
    ('C', "noclobber"), ('n', "noexec"), ('f', "noglob"), (none, "nolog"), ('b', "notify"),
    ('u', "nounset"), ('t', "onecmd"), ('P', "physical"), (none, "pipefail"), (none, "posix"),
    ('p', "privileged"), ('v', "verbose"), (none, "vi"), ('x', "xtrace")]

/-- The names of the further options. -/
def settingNames : List String :=
  ["autocd", "assoc_expand_once", "cdable_vars", "cdspell", "checkhash", "checkjobs",
    "checkwinsize", "cmdhist", "compat31", "compat32", "compat40", "compat41", "compat42",
    "compat43", "compat44", "complete_fullquote", "direxpand", "dirspell", "dotglob", "execfail",
    "expand_aliases", "extdebug", "extglob", "extquote", "failglob", "force_fignore",
    "globasciiranges", "globskipdots", "globstar", "gnu_errfmt", "histappend", "histreedit",
    "histverify", "hostcomplete", "huponexit", "inherit_errexit", "interactive_comments",
    "lastpipe", "lithist", "localvar_inherit", "localvar_unset", "login_shell", "mailwarn",
    "no_empty_cmd_completion", "nocaseglob", "nocasematch", "noexpand_translation", "nullglob",
    "patsub_replacement", "progcomp", "progcomp_alias", "promptvars", "restricted_shell",
    "shift_verbose", "sourcepath", "varredir_close", "xpg_echo"]

/-- The letters in the parameter of the options in the extended dialect. -/
def extendedLetters : List Char :=
  "abefhkmnptuvxBCEHPTcs".toList

/-- The value of a parameter, if it has one. -/
def parameter? (shell : ShellState) (name : String) : Option Row :=
  match name with
  | "#" => some (natRow shell.positional.length)
  | "?" => some (natRow shell.status)
  | "$" => some (natRow shell.number)
  | "0" => some shell.name
  | "-" => some ((if shell.isExtended then extendedLetters else optionLetters).filter
      shell.options.contains)
  | "!" => shell.lastJob.map natRow
  | "@" | "*" =>
      let separator :=
        match shell.value? "IFS" with
        | some characters => characters.take 1
        | none => [' ']
      if shell.positional.isEmpty then none else some (joinWith separator shell.positional)
  | name =>
      match Text.digits? name.toList with
      | some number => if number = 0 then some shell.name else shell.positional[number - 1]?
      | none => shell.value? name

end ShellState

/-- What a new process is to do. -/
inductive Job where
  /-- To go on with a shell as it is, for the time of a command. -/
  | command (command : Command) (shell : ShellState)
  /-- To run the program at a path with arguments, which start with the name that it is
  called by, and the variables that it gets to see. -/
  | program (path : Row) (arguments : List Row) (environment : List (String × Row))
deriving Inhabited

end TestAmplification.Shell
