import TestAmplification.Shell.Script.Extended.Assignments
import TestAmplification.Shell.Script.Variables

/-!
# Leaving, counting and taking options apart in the extended dialect

These builtins leave loops, functions and scripts, drop parameters, work out expressions, take
options apart, and tell where the script is.
-/

set_option autoImplicit false

namespace TestAmplification.Shell

open Session

/-! ## Leaving -/

/-- Ends the script since a builtin has too many arguments. -/
def refuseMany {α : Type} : Session α := do
  complain (rowOf "too many arguments") 1
  leave .script

/-- The arguments behind the sign that ends options. -/
def withoutEnd : List Row → List Row
  | ['-', '-'] :: rest => rest
  | arguments => arguments

/-- The status that arguments ask for. The answer says, too, whether they make sense. -/
def askedStatus (arguments : List Row) : Session (Nat × Bool) := do
  match withoutEnd arguments with
  | [] => return ((← get).status, true)
  | argument :: more =>
      match wholeNumber? argument with
      | none =>
          warn (argument ++ rowOf ": numeric argument required")
          return (2, false)
      | some number =>
          if !more.isEmpty then refuseMany
          return ((number % 256).toNat, true)

/-- Ends the script with a status. -/
def exitExtended : Builtin := fun arguments => do
  let (status, _) ← askedStatus arguments
  finish status
  leave .script

/-- Ends a function or a script in a file with a status. -/
def returnExtended : Builtin := fun arguments => do
  if (← get).nestings.all Nesting.isOutermost then
    complain (rowOf "can only \x60return' from a function or sourced script") 2
    leave .fault
  let (status, _) ← askedStatus arguments
  finish status
  leave .function

/-- Leaves loops, at most as many as there are. -/
def leaveExtended (way : Nat → Leave) : Builtin := fun arguments => do
  let loops := (← get).loops
  if loops = 0 then
    complain (rowOf "only meaningful in a \x60for', \x60while', or \x60until' loop") 0
  else
    match withoutEnd arguments with
    | [] =>
        finish 0
        leave (way 1)
    | argument :: more =>
        match wholeNumber? argument with
        | none =>
            complain (argument ++ rowOf ": numeric argument required") 128
            leave .script
        | some count =>
            if !more.isEmpty then refuseMany
            if count ≤ 0 then
              remark (argument ++ rowOf ": loop count out of range")
              leave (.loops loops)
            finish 0
            leave (way (min loops count.toNat))

/-- Drops positional parameters. -/
def shiftExtended : Builtin := fun arguments => do
  let shell ← get
  let size := shell.positional.length
  let drop (count : Nat) : Session Unit :=
    set { shell with positional := shell.positional.drop count, status := 0 }
  match withoutEnd arguments with
  | [] => if size = 0 then finish 1 else drop 1
  | argument :: more =>
      match wholeNumber? argument with
      | none => remark (argument ++ rowOf ": numeric argument required")
      | some count =>
          if !more.isEmpty then refuseMany
          if count < 0 then remark (argument ++ rowOf ": shift count out of range")
          else if count.toNat > size then
            if shell.isSet "shift_verbose" then
              remark (argument ++ rowOf ": shift count out of range")
            else finish 1
          else drop count.toNat

/-! ## Expressions -/

/-- Works out expressions. The last one says how that ends. -/
def letValues : Builtin := fun arguments => do
  match withoutEnd arguments with
  | [] => remark (rowOf "expression expected")
  | expressions =>
      let values ← expressions.mapM (reckon (some (rowOf "let")))
      finish (if values.getLast? == some 0 then 1 else 0)

/-! ## Taking options apart -/

/-- Takes the next option of the arguments, or of the positional parameters. -/
def getoptsExtended : Builtin := fun arguments => do
  match withoutEnd arguments with
  | letters :: target :: operands =>
      if !isName target then
        remark (noIdentifier target)
        leave .fault
      let name := String.ofList target
      let shell ← get
      let operands := if operands.isEmpty then shell.positional else operands
      let isQuiet := letters.head? == some ':'
      let isSilent := isQuiet || shell.value? "OPTERR" = some ['0']
      let known := if isQuiet then letters.drop 1 else letters
      finish 0
      match nextOption operands shell.optionIndex shell.lettersTaken with
      | .finish index =>
          rememberOption name ['?'] index none
          modify (·.withBinding "OPTARG" none)
          finish 1
      | .letter letter index taken rest =>
          let following := (known.dropWhile (· != letter)).drop 1
          let stays := if rest.isEmpty then none else some taken
          let fault (mark : Char) (message : String) : Session Unit := do
            if isQuiet then assign "OPTARG" [letter]
            else
              if !isSilent then
                warnRow ((← get).name ++ rowOf (": " ++ message ++ " -- ") ++ [letter, '\n'])
              modify (·.withBinding "OPTARG" none)
            rememberOption name [if isQuiet then mark else '?'] index stays
          if letter = ':' || !known.contains letter then fault '?' "illegal option"
          else if following.head? == some ':' then
            match rest, operands[index - 1]? with
            | [], none => fault ':' "option requires an argument"
            | [], some value =>
                assign "OPTARG" value
                rememberOption name [letter] (index + 1) none
            | value, _ =>
                assign "OPTARG" value
                rememberOption name [letter] index none
          else
            modify (·.withBinding "OPTARG" none)
            rememberOption name [letter] index stays
  | _ => giveUpUsage none "getopts optstring name [arg ...]"

/-! ## Telling -/

/-- Tells where the function under way was called. -/
def caller : Builtin := fun arguments => do
  let nestings := (← get).nestings
  let sourceOf (index : Nat) : Row :=
    match nestings[index]? with
    | some nesting => nesting.source
    | none => rowOf "NULL"
  match nestings, withoutEnd arguments with
  | [], _ => finish 1
  | first :: _, [] =>
      finish 0
      say (natRow first.line ++ [' '] ++ sourceOf 1 ++ ['\n'])
  | _, argument :: _ =>
      match Text.digits? argument with
      | none => giveUpUsage (some (argument ++ rowOf ": invalid number")) "caller [expr]"
      | some index =>
          match nestings[index]?, nestings[index + 1]? with
          | some here, some outer =>
              finish 0
              say (natRow here.line ++ [' '] ++ outer.name ++ [' '] ++ outer.source ++ ['\n'])
          | _, _ => finish 1

/-- Writes how much time was used. -/
def timesExtended : Builtin := fun _ => do
  finish 0
  say (rowOf "0m0.000s 0m0.000s\n0m0.000s 0m0.000s\n")

/-- Says how much a program may use, or takes note of a limit. -/
def ulimitExtended : Builtin := fun arguments => do
  let use : BuiltinUse := {
    letters := "SHabcdefiklmnpqrstuvxPRT", usage := "ulimit [-SHabcdefiklmnpqrstuvxPRT] [limit]" }
  let (options, operands) ← use.takeLetters arguments
  finish 0
  match operands with
  | [] =>
      let shown :=
        match (options.filter fun letter => letter != 'S' && letter != 'H').getLast? with
        | some 'c' => "0"
        | some 'n' => "1024"
        | some 's' => "8192"
        | some 'p' => "8"
        | _ => "unlimited"
      say (rowOf (shown ++ "\n"))
  | text :: _ =>
      if !(["unlimited", "hard", "soft"].contains (String.ofList text)) && !text.all Char.isDigit then
        remark (text ++ rowOf ": invalid number")

end TestAmplification.Shell
