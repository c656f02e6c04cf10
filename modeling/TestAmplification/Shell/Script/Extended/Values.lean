import TestAmplification.Shell.Script.Extended.Reckoning
import TestAmplification.Shell.Script.Session
import TestAmplification.Shell.Script.Syntax

/-!
# Values in the extended dialect

Besides the variables of a script there are values that the shell itself keeps: where it
is, how commands ended, which functions are under way. Assignments keep to the marks of a
variable: its values may be numbers, or have only capital or only small letters.
-/

set_option autoImplicit false

namespace TestAmplification.Shell

open Session

/-! ## What the shell keeps -/

/-- The lists that the shell keeps. -/
def ownValues? (shell : ShellState) (name : String) : Option (List Row) :=
  match name with
  | "FUNCNAME" =>
      if shell.scopes.isEmpty then none else some (shell.nestings.map Nesting.name)
  | "BASH_SOURCE" => some (shell.nestings.map Nesting.source)
  | "BASH_LINENO" => some (shell.nestings.map fun nesting => natRow nesting.line)
  | "PIPESTATUS" => some (shell.pipeStatuses.map natRow)
  | "DIRSTACK" => some (shell.directory :: shell.directories)
  | "GROUPS" => some [['0']]
  | _ => none

/-- The number after a random one. -/
def nextSeed (seed : Nat) : Nat :=
  (seed * 1103515245 + 12345) % 2147483648

/-- The names of the options that are on. -/
def onOptions (shell : ShellState) : List Row :=
  ShellState.extendedOptions.filterMap fun (letter, name) =>
    if (letter.map shell.has).getD (shell.isSet name) then some (rowOf name) else none

/-- The texts that the shell keeps and that change by themselves. -/
def ownTexts : Session (List (String × Row)) := do
  let shell ← get
  let process ← Act.self
  let now ← Act.now
  modify fun shell => { shell with seed := nextSeed shell.seed }
  return [("LINENO", natRow shell.line), ("RANDOM", natRow (shell.seed / 65536 % 32768)),
    ("SRANDOM", natRow shell.seed), ("SECONDS", natRow (now / 1000000000)),
    ("BASHPID", natRow process.number), ("BASH_SUBSHELL", natRow shell.depth),
    ("_", shell.lastArgument), ("SHELLOPTS", joinWith [':'] (onOptions shell)),
    ("BASHOPTS", joinWith [':'] ((ShellState.settingNames.filter shell.isSet).map rowOf))]

/-- The value of a parameter, if it has one. -/
def parameterRow? (name : String) : Session (Option Row) := do
  let shell ← get
  match shell.parameter? name with
  | some row => return some row
  | none =>
      if !shell.isExtended || (shell.binding? name).isSome then return none
      match ownValues? shell name with
      | some values => return values.head?
      | none =>
          if name = "BASH_COMMAND" then return some shell.place.shown
          else if (name.toList.head?.map fun first => first.isUpper || first = '_').getD false then
            return (← ownTexts).lookup name
          else return none

/-- The elements of a list, or of what the shell keeps. -/
def elementsOf? (shell : ShellState) (name : String) : Option Elements :=
  (shell.elements? name).or
    (if (shell.binding? name).isSome then none else (ownValues? shell name).map .ofList)

/-- Is the variable a list with keys? -/
def isKeyedList (shell : ShellState) (name : String) : Bool :=
  ((shell.binding? (shell.target name)).bind fun binding =>
    binding.elements.map Elements.isKeyed).getD false

/-! ## Arithmetic -/

/-- What expressions find. -/
def holdingsOf (shell : ShellState) (own : List (String × Row)) : Holdings where
  text := fun name key =>
    match key with
    | some key => (elementsOf? shell name).bind (·.get? key)
    | none =>
        (shell.value? name).or
          (if (shell.binding? name).isSome then none
            else ((ownValues? shell name).bind List.head?).or (own.lookup name))
  isKeyed := isKeyedList shell
  nextNumber := fun name => ((elementsOf? shell name).map Elements.nextNumber).getD 0
  isStrict := shell.has 'u'

/-- Writes a message under a label, or under none, and leaves what is under way. -/
def giveUpUnder {α : Type} (label : Option Row) (message : Row) : Session α := do
  modify fun shell => { shell with builtin := label }
  complain message 1
  leave .fault

/-- Sets a variable or an element, unless the variable is kept from changing. -/
def assignElement (name : String) (key : Option ElementKey) (value : Row) : Session Unit := do
  let target := (← get).target name
  match key with
  | none => assign target value
  | some key =>
      if (← get).isFixed target then refuseFixed target
      modify (·.changeElements target (·.set key value))

/-- Leaves what is under way, and with it a script that is an argument. -/
def abandon {α : Type} : Session α := do
  let shell ← get
  set { shell with builtin := none }
  leave (if shell.isArgument then .script else .fault)

/-- The value of an expression, which may also set variables, or the message about its
fault. -/
def reckoned (expression : Row) : Session (Int ⊕ Row) := do
  let own ← ownTexts
  Act.workOn expression.length
  match Reckoning.evaluate (holdingsOf (← get) own) expression with
  | .ok (assigned, number) =>
      assigned.reverse.forM fun ((name, key), value) => assignElement name key value
      return .inl number
  | .error fault =>
      match fault.unset with
      | some name => endWith (rowOf (name ++ ": unbound variable"))
      | none =>
          return .inr (fault.expression ++ rowOf (": " ++ fault.reason ++ " (error token is \"")
            ++ fault.token ++ rowOf "\")")

/-- The value of an expression. A fault is told under a label and leaves what is under way. -/
def reckon (label : Option Row) (expression : Row) : Session Int := do
  match ← reckoned expression with
  | .inl number => return number
  | .inr message => giveUpUnder label message

/-- The value of an expression that is assigned or is an index. A fault leaves the script. -/
def reckonValue (expression : Row) : Session Int := do
  match ← reckoned expression with
  | .inl number => return number
  | .inr message =>
      complain message 1
      abandon

/-! ## Elements -/

/-- Where the element of a list stands that an index means. -/
def keyOfRow (name : String) (index : Row) : Session ElementKey := do
  let shell ← get
  if isKeyedList shell name then return .key index
  else if index = ['@'] || index = ['*'] then
    giveUpPlainly (rowOf name ++ ['['] ++ index ++ rowOf "]: bad array subscript")
  else
    let number ← reckonValue index
    let next := ((elementsOf? (← get) name).map Elements.nextNumber).getD 0
    let number := if number < 0 then number + next else number
    if number < 0 then
      giveUpPlainly (rowOf name ++ ['['] ++ index ++ rowOf "]: bad array subscript")
    return .number number.toNat

/-- A value with its letters changed. -/
def LetterChange.applied : LetterChange → Char → Char
  | raised, letter => letter.toUpper
  | lowered, letter => letter.toLower
  | swapped, letter => if letter.isUpper then letter.toLower else letter.toUpper

/-- Sets a variable or an element as the marks of the variable ask for. The value may be added
to what is there. -/
def store (name : String) (key : Option ElementKey) (adds : Bool) (value : Row) : Session Unit := do
  let shell ← get
  let target := shell.target name
  let binding := (shell.binding? target).getD {}
  let before :=
    match key with
    | some key => ((shell.elements? target).bind (·.get? key)).getD []
    | none => binding.row?.getD []
  if binding.isNumber then
    let number ← reckonValue value
    let first ← if adds then reckonValue before else pure 0
    assignElement target key (intRow (Arithmetic.wrap (first + number)))
  else
    let value := if adds then before ++ value else value
    assignElement target key
      (match binding.letters with
        | some change => value.map change.applied
        | none => value)

/-- Sets the elements of a list one after the other. Those without an index follow the one
before; in a list with keys they are keys and values in turn. -/
def storeEach (name : String) : Nat → List (Option (Row × Bool) × Row) → Session Unit
  | _, [] => return
  | next, (some (index, adds), value) :: rest => do
      let key ← keyOfRow name index
      store name (some key) adds value
      storeEach name (match key with
        | .number number => number + 1
        | .key _ => next) rest
  | next, (none, value) :: rest => do
      if isKeyedList (← get) name then
        match rest with
        | (none, second) :: rest =>
            store name (some (.key value)) false second
            storeEach name next rest
        | rest =>
            store name (some (.key value)) false []
            storeEach name next rest
      else
        store name (some (.number next)) false value
        storeEach name (next + 1) rest

/-- Makes a variable a list with the given entries, perhaps behind those that it has. -/
def storeList (name : String) (adds : Bool) (entries : List (Option (Row × Bool) × Row)) :
    Session Unit := do
  let shell ← get
  let target := shell.target name
  if shell.isFixed target then refuseFixed target
  if !adds then
    modify (·.changeElements target fun elements =>
      if elements.isKeyed then .keyed [] else .indexed [])
  else modify (·.changeElements target id)
  let next := (((← get).elements? target).map Elements.nextNumber).getD 0
  storeEach target next entries

end TestAmplification.Shell
