import TestAmplification.Shell.Utility.Quoting
import TestAmplification.Shell.Utility.Tool

/-!
# Options of utilities

An option is a letter behind a hyphen or a name behind two hyphens. Letters
without values may share a hyphen, and the beginning of a name does if only one
name begins like that. Options may stand between the operands unless the utility
wants them in front; a pair of hyphens ends them.
-/

set_option autoImplicit false

namespace TestAmplification.Shell

/-- Whether an option takes a value. -/
inductive ValueRule where
  /-- It takes none. -/
  | none
  /-- It takes one. -/
  | some
  /-- It takes one that stands directly behind it. -/
  | maybe
deriving DecidableEq, Inhabited

/-- An option that a utility knows: its letter, its name and whether it takes a
value. An option without a name of its own has an empty one. -/
structure KnownOption where
  /-- The letter that stands for the option. -/
  letter : Char
  /-- The name. -/
  name : String := ""
  /-- Whether it takes a value. -/
  value : ValueRule := .none
deriving Inhabited

/-- Options without values, by their letters. -/
def letterOptions (letters : String) : List KnownOption :=
  letters.toList.map ({ letter := · })

/-- Options with values, by their letters. -/
def valueOptions (letters : String) : List KnownOption :=
  letters.toList.map ({ letter := ·, value := .some })

/-- A name for the option with a letter. -/
def long (letter : Char) (name : String) (value : ValueRule := .none) : KnownOption :=
  { letter, name, value }

/-- Options and operands of a call. -/
structure Arguments where
  /-- The options with their values, the last one first. -/
  options : List (Char × Row) := []
  /-- The operands. -/
  operands : List Row := []
deriving Inhabited

namespace Arguments

/-- Is the option given? -/
def has (arguments : Arguments) (letter : Char) : Bool :=
  arguments.options.any (·.1 == letter)

/-- The value of the option, where the last one counts. -/
def value? (arguments : Arguments) (letter : Char) : Option Row :=
  arguments.options.lookup letter

/-- All values of the option, in order. -/
def values (arguments : Arguments) (letter : Char) : List Row :=
  (arguments.options.filterMap fun option =>
    if option.1 = letter then some option.2 else none).reverse

/-- The last given of some options. -/
def last? (arguments : Arguments) (letters : List Char) : Option Char :=
  (arguments.options.find? fun option => letters.contains option.1).map Prod.fst

/-- The arguments with a further option. -/
def add (arguments : Arguments) (letter : Char) (value : Row) : Arguments :=
  { arguments with options := (letter, value) :: arguments.options }

end Arguments

/-- The option with a name, or with the only name that begins like that. -/
def namedOption (known : List KnownOption) (name : Row) : Tool KnownOption := do
  let text := textOf name
  match known.find? fun option => option.name == text && !name.isEmpty with
  | some option => return option
  | none =>
      let candidates := known.filter fun option =>
        !option.name.isEmpty && name.isPrefixOf option.name.toList
      match candidates with
      | [] => Tool.usage (rowOf ("unrecognized option '--" ++ text ++ "'"))
      | [option] => return option
      | option :: others =>
          if others.all fun other => other.letter == option.letter then return option
          else
            Tool.usage (rowOf ("option '--" ++ text ++ "' is ambiguous; possibilities:")
              ++ candidates.flatMap fun option => rowOf (" '--" ++ option.name ++ "'"))

/-- Takes the options with a name at the start of the arguments. -/
def takeNamed (known : List KnownOption) (given : Row) (rest : List Row) :
    Tool (Char × Row × List Row) := do
  let (name, value?) :=
    match Text.cutFirst '=' given with
    | some (name, value) => (name, some value)
    | none => (given, none)
  let option ← namedOption known name
  let shown := "option '--" ++ option.name ++ "'"
  match option.value, value?, rest with
  | .none, some _, _ => Tool.usage (rowOf (shown ++ " doesn't allow an argument"))
  | .some, none, [] => Tool.usage (rowOf (shown ++ " requires an argument"))
  | .some, none, value :: rest => return (option.letter, value, rest)
  | _, value?, rest => return (option.letter, value?.getD [], rest)

/-- Takes the letters behind a hyphen. -/
def takeLetters (known : List KnownOption) :
    Row → List Row → Arguments → Tool (Arguments × List Row)
  | [], rest, arguments => return (arguments, rest)
  | letter :: letters, rest, arguments => do
      match known.find? fun option => option.letter == letter with
      | none => Tool.usage (rowOf "invalid option -- '" ++ [letter, '\''])
      | some option =>
          match option.value, letters, rest with
          | .none, letters, rest => takeLetters known letters rest (arguments.add letter [])
          | .maybe, letters, rest => return (arguments.add letter letters, rest)
          | .some, [], [] =>
              Tool.usage (rowOf "option requires an argument -- '" ++ [letter, '\''])
          | .some, [], value :: rest => return (arguments.add letter value, rest)
          | .some, letters, rest => return (arguments.add letter letters, rest)

/-- Takes options and operands apart, in at most so many steps. -/
def parseUpTo (known : List KnownOption) (inFront : Bool) :
    Nat → List Row → Arguments → Tool Arguments
  | 0, _, arguments => return arguments
  | _ + 1, [], arguments => return { arguments with operands := arguments.operands.reverse }
  | steps + 1, argument :: rest, arguments => do
      match argument with
      | ['-', '-'] =>
          return { arguments with operands := arguments.operands.reverse ++ rest }
      | '-' :: '-' :: name =>
          let (letter, value, rest) ← takeNamed known name rest
          parseUpTo known inFront steps rest (arguments.add letter value)
      | '-' :: letter :: letters =>
          let (arguments, rest) ← takeLetters known (letter :: letters) rest arguments
          parseUpTo known inFront steps rest arguments
      | operand =>
          if inFront then
            return { arguments with operands := arguments.operands.reverse ++ operand :: rest }
          else
            parseUpTo known inFront steps rest
              { arguments with operands := operand :: arguments.operands }

/-- Takes options and operands apart. -/
def parseArguments (known : List KnownOption) (arguments : List Row) : Tool Arguments :=
  parseUpTo known false (arguments.length + 1) arguments {}

/-- Takes the options in front of the operands. -/
def parseInFront (known : List KnownOption) (arguments : List Row) : Tool Arguments :=
  parseUpTo known true (arguments.length + 1) arguments {}

/-- The only operand, if there is one. -/
def singleOperand (operands : List Row) : Tool (Option Row) := do
  match operands with
  | [] => return none
  | [operand] => return some operand
  | _ :: extra :: _ => Tool.usage (rowOf "extra operand " ++ quotedText extra)

end TestAmplification.Shell
