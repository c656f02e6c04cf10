import TestAmplification.Text.Decimal
import TestAmplification.Text.Search

/-!
# Arithmetic in scripts

Expressions over whole numbers of 64 bits with the usual operators and levels.
A name stands for the number in the variable of that name, and an assignment
changes it. What a short-cut operator or a choice leaves out is read but not
worked out.
-/

set_option autoImplicit false

namespace TestAmplification.Shell

/-- Why an expression has no value. -/
inductive ArithmeticFault where
  /-- A division by zero. -/
  | divisionByZero
  /-- A value is missing. -/
  | noPrimary
  /-- Something follows after the expression. -/
  | noEnd
  /-- A variable holds no number. -/
  | illegalNumber (text : List Char)
deriving DecidableEq, Inhabited

namespace Arithmetic

/-! ## Operators -/

/-- The number, cut to 64 bits. -/
def wrap (number : Int) : Int :=
  (Int64.ofInt number).toInt

/-- One for a true statement and zero for a false one. -/
def truth (holds : Bool) : Int :=
  if holds then 1 else 0

/-- The operators by level, the loosest first; longer operators of a level come
before their beginnings. -/
def levels : List (List String) :=
  [["||"], ["&&"], ["|"], ["^"], ["&"], ["==", "!="], ["<=", ">=", "<", ">"], ["<<", ">>"],
    ["+", "-"], ["*", "/", "%"]]

/-- The operators that may stand in front of the sign of an assignment. -/
def updatingOperators : List String :=
  ["<<", ">>", "|", "^", "&", "+", "-", "*", "/", "%"]

/-- The value of two operands under an operator; there is none for a division by
zero. -/
def operate? (operator : String) (first second : Int) : Option Int :=
  let onBits (combine : Int64 → Int64 → Int64) : Int :=
    (combine (Int64.ofInt first) (Int64.ofInt second)).toInt
  match operator with
  | "||" => some (truth (first ≠ 0 || second ≠ 0))
  | "&&" => some (truth (first ≠ 0 && second ≠ 0))
  | "|" => some (onBits (· ||| ·))
  | "^" => some (onBits (· ^^^ ·))
  | "&" => some (onBits (· &&& ·))
  | "==" => some (truth (first = second))
  | "!=" => some (truth (first ≠ second))
  | "<=" => some (truth (first ≤ second))
  | ">=" => some (truth (first ≥ second))
  | "<" => some (truth (first < second))
  | ">" => some (truth (first > second))
  | "<<" => some (onBits (· <<< ·))
  | ">>" => some (onBits (· >>> ·))
  | "+" => some (wrap (first + second))
  | "-" => some (wrap (first - second))
  | "*" => some (wrap (first * second))
  | "/" => if second = 0 then none else some (wrap (first.tdiv second))
  | "%" => if second = 0 then none else some (first.tmod second)
  | _ => none

/-- Does the first operand alone decide? -/
def decidesAlone (operator : String) (first : Int) : Bool :=
  (operator == "||" && first != 0) || (operator == "&&" && first == 0)

/-- The first of the operators that stands at the start of the characters, and
what follows it. An operator that goes on as another one is none. -/
def operatorAt? (operators : List String) (characters : List Char) :
    Option (String × List Char) :=
  operators.findSome? fun operator =>
    (Text.withoutStart? operator.toList characters).bind fun rest =>
      let goesOn :=
        match operator, rest with
        | "|", '|' :: _ | "&", '&' :: _ | "<", '<' :: _ | ">", '>' :: _ => true
        | "==", _ | "!=", _ | "<=", _ | ">=", _ => false
        | _, '=' :: '=' :: _ => false
        | _, '=' :: _ => true
        | _, _ => false
      if goesOn then none else some (operator, rest)

/-! ## Numbers -/

/-- The number that all characters together denote, at most the greatest of 64
bits; a leading zero makes it octal, and `0x` hexadecimal. -/
def literal? (characters : List Char) : Option Int :=
  let bounded (value : Nat) : Option Int := some (min value Text.greatestSigned64 : Nat)
  match characters with
  | '0' :: 'x' :: digits | '0' :: 'X' :: digits =>
      if digits.isEmpty || !digits.all fun digit => (Text.hexDigit? digit).isSome then none
      else bounded (Text.hexValue digits)
  | '0' :: digits =>
      if digits.all fun digit => '0' ≤ digit && digit ≤ '7' then
        bounded (digits.foldl (fun value digit => 8 * value + Text.digitValue digit) 0)
      else none
  | digits => (Text.digits? digits).bind bounded

/-- The number in a variable; nothing counts as zero. -/
def heldNumber (row : List Char) : Except ArithmeticFault Int :=
  let number :=
    match row.dropWhile Char.isWhitespace with
    | [] => some 0
    | '-' :: digits => (literal? digits).map (- ·)
    | '+' :: digits => literal? digits
    | digits => literal? digits
  match number with
  | some number => .ok number
  | none => .error (.illegalNumber row)

/-- The digits of a number at the start of the characters. -/
def takeLiteral (characters : List Char) : List Char :=
  match characters with
  | '0' :: mark :: rest =>
      let hex := rest.takeWhile fun digit => (Text.hexDigit? digit).isSome
      if (mark = 'x' || mark = 'X') && !hex.isEmpty then '0' :: mark :: hex
      else '0' :: (mark :: rest).takeWhile fun digit => '0' ≤ digit && digit ≤ '7'
  | characters => characters.takeWhile Char.isDigit

/-! ## Expressions -/

/-- An expression under way. -/
structure Reading where
  /-- The characters that are left. -/
  rest : List Char
  /-- The variables that were set, the last one first. -/
  assigned : List (String × Int) := []
  /-- Is the present part worked out? -/
  counts : Bool := true

/-- A step of reading an expression. -/
abbrev Reader (α : Type) := StateT Reading (Except ArithmeticFault) α

/-- Passes over blanks; the answer is what follows them. -/
def afterBlanks : Reader (List Char) := do
  let rest := (← get).rest.dropWhile Char.isWhitespace
  modify fun reading => { reading with rest }
  return rest

/-- Goes on with the given characters. -/
def goOnWith (rest : List Char) : Reader Unit :=
  modify fun reading => { reading with rest }

/-- Reads a part that is worked out only under a condition. -/
def provided {α : Type} (condition : Bool) (part : Reader α) : Reader α := do
  let before := (← get).counts
  modify fun reading => { reading with counts := before && condition }
  let result ← part
  modify fun reading => { reading with counts := before }
  return result

/-- The value of two operands, if it counts. -/
def combine (operator : String) (first second : Int) : Reader Int := do
  match operate? operator first second with
  | some value => return value
  | none => if (← get).counts then throw .divisionByZero else return 0

/-- Sets a variable, if that counts. -/
def assign (name : String) (value : Int) : Reader Int := do
  modify fun reading =>
    if reading.counts then { reading with assigned := (name, value) :: reading.assigned }
    else reading
  return value

/-- The number in a variable. -/
def variableValue (held : String → List Char) (name : String) : Reader Int := do
  match (← get).assigned.lookup name with
  | some value => return value
  | none => (heldNumber (held name) : Except ArithmeticFault Int)

/-- Reads a number, a name or an assignment, whose value is read by the given
reader. -/
def plain (held : String → List Char) (value : Reader Int) : Reader Int := do
  let characters ← afterBlanks
  let digits := takeLiteral characters
  match literal? digits, characters with
  | some number, _ =>
      goOnWith (characters.drop digits.length)
      return number
  | none, first :: _ =>
      if !(first.isAlpha || first == '_') then throw .noPrimary
      let name := characters.takeWhile fun character => character.isAlphanum || character == '_'
      goOnWith (characters.drop name.length)
      let name := String.ofList name
      match ← afterBlanks with
      | '=' :: '=' :: _ => variableValue held name
      | '=' :: rest =>
          goOnWith rest
          assign name (← value)
      | rest =>
          let update := updatingOperators.findSome? fun operator =>
            (Text.withoutStart? (operator ++ "=").toList rest).map (operator, ·)
          match update with
          | none => variableValue held name
          | some (operator, rest) =>
              let first ← variableValue held name
              goOnWith rest
              assign name (← combine operator first (← value))
  | none, [] => throw .noPrimary

/-- Reads an operand behind its signs; what stands in parentheses is read by the
given reader. -/
def operand (held : String → List Char) (inner : Reader Int) : Nat → Reader Int
  | 0 => throw .noPrimary
  | steps + 1 => do
      match ← afterBlanks with
      | '(' :: rest =>
          goOnWith rest
          let value ← inner
          match ← afterBlanks with
          | ')' :: rest =>
              goOnWith rest
              return value
          | _ => throw .noPrimary
      | '-' :: rest => goOnWith rest; return wrap (-(← operand held inner steps))
      | '+' :: rest => goOnWith rest; operand held inner steps
      | '!' :: rest => goOnWith rest; return truth ((← operand held inner steps) = 0)
      | '~' :: rest => goOnWith rest; return wrap (-(← operand held inner steps) - 1)
      | _ => plain held inner

/-- Continues a value with operators of one level. -/
def continued (operators : List String) (operand : Reader Int) : Nat → Int → Reader Int
  | 0, value => return value
  | steps + 1, value => do
      match operatorAt? operators (← afterBlanks) with
      | none => return value
      | some (operator, rest) =>
          goOnWith rest
          let second ← provided (!decidesAlone operator value) operand
          continued operators operand steps (← combine operator value second)

/-- Reads a value of the given levels over operands, each level with at most so many
operators. -/
def leveled (steps : Nat) (operand : Reader Int) : List (List String) → Reader Int
  | [] => operand
  | operators :: tighter => do
      let value ← leveled steps operand tighter
      continued operators (leveled steps operand tighter) steps value

/-- Reads an expression with at most so many steps on each level and so many others in one
another. A question mark chooses between two values. -/
def expression (held : String → List Char) (steps : Nat) : Nat → Reader Int
  | 0 => throw .noPrimary
  | depth + 1 => do
      let inner := expression held steps depth
      let condition ← leveled steps (operand held inner steps) levels
      match ← afterBlanks with
      | '?' :: rest =>
          goOnWith rest
          let yes ← provided (condition ≠ 0) inner
          match ← afterBlanks with
          | ':' :: rest =>
              goOnWith rest
              let no ← provided (condition = 0) inner
              return if condition ≠ 0 then yes else no
          | _ => throw .noPrimary
      | _ => return condition

/-- The value of an expression, and the variables that it sets, the last one
first. -/
def evaluate (held : String → List Char) (characters : List Char) :
    Except ArithmeticFault (List (String × Int) × Int) := do
  let steps := characters.length + 1
  let (value, reading) ← (expression held steps steps).run { rest := characters }
  if (reading.rest.dropWhile Char.isWhitespace).isEmpty then return (reading.assigned, value)
  else throw .noEnd

end Arithmetic

end TestAmplification.Shell
