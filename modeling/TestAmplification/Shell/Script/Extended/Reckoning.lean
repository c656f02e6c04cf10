import TestAmplification.Shell.Script.Arithmetic
import TestAmplification.Shell.Script.Elements

/-!
# Arithmetic in the extended dialect

Expressions over whole numbers of 64 bits, with powers, counting up and down, numbers to
other bases, and elements of lists. The text in a variable is an expression itself, whose
value is meant. What a short-cut operator or a choice leaves out is read but not worked
out.

A fault tells the expression, the reason, and what was left of the expression from the
last token on.
-/

set_option autoImplicit false

namespace TestAmplification.Shell

/-- Why an expression has no value. -/
structure ReckoningFault where
  /-- The expression. -/
  expression : Row
  /-- The reason. -/
  reason : String
  /-- What was left of the expression from the last token on. -/
  token : Row
  /-- The variable without a value that is to blame, if one is. -/
  unset : Option String := none
deriving Inhabited

/-- What an expression finds in variables. -/
structure Holdings where
  /-- The text of a variable or of an element. -/
  text : String → Option ElementKey → Option Row
  /-- Is the variable a list with keys? -/
  isKeyed : String → Bool
  /-- The first number behind the elements of a list. -/
  nextNumber : String → Nat
  /-- Must variables have a value? -/
  isStrict : Bool

namespace Reckoning

/-! ## Tokens -/

/-- A token of an expression. -/
inductive Token where
  /-- A number. -/
  | number (number : Int)
  /-- A variable, perhaps with the text of an index. -/
  | name (name : String) (index : Option Row)
  /-- An operator. -/
  | operator (operator : String)
  /-- The end. -/
  | finish
deriving DecidableEq, Inhabited

/-- An expression under way. -/
structure Reading where
  /-- The whole expression. -/
  text : Row
  /-- The characters after the present token. -/
  rest : Row
  /-- The characters from the present token on, or from the last one before the end. -/
  start : Row
  /-- The present token. -/
  token : Token := .finish
  /-- Is the present part worked out? -/
  counts : Bool := true
  /-- The variables and elements that were set, the last one first. -/
  assigned : List ((String × Option ElementKey) × Row) := []

/-- A step of working out an expression. -/
abbrev Step (α : Type) := StateT Reading (Except ReckoningFault) α

/-- Refuses an expression. -/
def refuse {α : Type} (reason : String) : Step α := do
  let reading ← get
  throw { expression := reading.text.dropWhile isSpace, reason, token := reading.start }

/-- The operators, where longer ones come before their beginnings. -/
def operators : List String :=
  ["<<=", ">>=", "||", "&&", "==", "!=", "<=", ">=", "<<", ">>", "**", "+=", "-=", "*=", "/=", "%=",
    "&=", "^=", "|=", "+", "-", "*", "/", "%", "=", "<", ">", "&", "|", "^", "!", "~", "(", ")", "?",
    ":", ","]

/-- The value of a digit to a base of at most 64. -/
def digitValue? (base : Nat) (digit : Char) : Option Nat :=
  let value? :=
    if digit.isDigit then some (Text.digitValue digit)
    else if digit.isLower then some (digit.toNat - 'a'.toNat + 10)
    else if digit.isUpper then
      some (digit.toNat - 'A'.toNat + (if base ≤ 36 then 10 else 36))
    else if digit = '@' then some 62
    else if digit = '_' then some 63
    else none
  value?.filter (· < base)

/-- The number that digits to a base denote. -/
def numberTo (base : Nat) (digits : Row) : Step Int := do
  match digits.mapM (digitValue? base) with
  | some values => return Arithmetic.wrap (values.foldl (fun sum digit => sum * base + digit) 0 : Nat)
  | none => refuse "value too great for base"

/-- The number that a text denotes: to the base before a number sign, or to a base that zeros
in front stand for. -/
def numberOf (text : Row) : Step Int := do
  match Text.cutFirst '#' text with
  | some (base, digits) =>
      let base ← numberTo 10 base
      if base < 2 || base > 64 then refuse "invalid arithmetic base"
      if digits.contains '#' then refuse "invalid number"
      if digits.isEmpty then refuse "invalid integer constant"
      numberTo base.toNat digits
  | none =>
      match text with
      | '0' :: 'x' :: digits | '0' :: 'X' :: digits => numberTo 16 digits
      | '0' :: digits => numberTo 8 digits
      | digits => numberTo 10 digits

/-- Cuts the text of an index from what follows its closing bracket, with so many open
brackets inside. -/
def cutIndex : Nat → Row → Option (Row × Row)
  | _, [] => none
  | depth, character :: rest =>
      if character = ']' && depth = 0 then some ([], rest)
      else
        let depth := if character = '[' then depth + 1 else if character = ']' then depth - 1 else depth
        (cutIndex depth rest).map fun (inner, after) => (character :: inner, after)

/-- Is the token an operator or nothing? -/
def leavesOperandOpen : Token → Bool
  | .operator operator => operator != ")"
  | .finish => true
  | _ => false

/-- The sign for counting that two equal signs are after a token. -/
def countingSign? (before : Token) (sign : Char) (rest : Row) : Option String :=
  let twice := if sign = '+' then "++" else "--"
  match before with
  | .name .. => some ("after" ++ twice)
  | _ =>
      match rest.dropWhile isSpace with
      | next :: _ => if next.isAlpha || next = '_' then some ("before" ++ twice) else none
      | [] => none

/-- Goes on to the next token. -/
def advance : Step Unit := do
  let reading ← get
  let start := reading.rest.dropWhile isSpace
  let goOn (token : Token) (rest : Row) : Step Unit := set { reading with token, rest, start }
  match start with
  | [] => set { reading with token := .finish, rest := [] }
  | first :: others =>
      if first.isDigit then
        let digits := start.takeWhile fun digit => digit.isAlphanum || ['#', '@', '_'].contains digit
        set { reading with start }
        let number ← numberOf digits
        goOn (.number number) (start.drop digits.length)
      else if first.isAlpha || first = '_' then
        let name := start.takeWhile fun character => character.isAlphanum || character = '_'
        match start.drop name.length with
        | '[' :: more =>
            match cutIndex 0 more with
            | some (index, rest) => goOn (.name (String.ofList name) (some index)) rest
            | none =>
                set { reading with start }
                refuse "bad array subscript"
        | rest => goOn (.name (String.ofList name) none) rest
      else
        let counting? :=
          if (first = '+' || first = '-') && others.head? == some first then
            countingSign? reading.token first (others.drop 1)
          else none
        match counting?, operators.find? fun operator => operator.toList.isPrefixOf start with
        | some sign, _ => goOn (.operator sign) (start.drop 2)
        | none, some operator => goOn (.operator operator) (start.drop operator.length)
        | none, none =>
            set { reading with start }
            if leavesOperandOpen reading.token then refuse "syntax error: operand expected"
            else refuse "syntax error: invalid arithmetic operator"

/-- Is the present token the given operator? -/
def isAt (operator : String) : Step Bool :=
  return (← get).token == .operator operator

/-! ## Variables -/

/-- Reads a part that is worked out only under a condition. -/
def provided {α : Type} (condition : Bool) (part : Step α) : Step α := do
  let before := (← get).counts
  modify fun reading => { reading with counts := before && condition }
  let result ← part
  modify fun reading => { reading with counts := before }
  return result

/-- Works out another expression, with the readers of expressions given. -/
def within (expression : Step Int) (text : Row) : Step Int := do
  let before ← get
  set { before with text, rest := text, start := [], token := .finish }
  advance
  if (← get).token == .finish then
    modify fun reading => { before with assigned := reading.assigned }
    return 0
  else
    let value ← expression
    if (← get).token != .finish then refuse "syntax error in expression"
    modify fun reading => { before with assigned := reading.assigned }
    return value

/-- Where the element of a list stands that the text of an index means. -/
def keyOf (holdings : Holdings) (expression : Step Int) (name : String) (index : Option Row) :
    Step (Option ElementKey) := do
  match index with
  | none => return none
  | some text =>
      if holdings.isKeyed name then return some (.key text)
      else
        let number ← within expression text
        let number := if number < 0 then number + holdings.nextNumber name else number
        if number < 0 then refuse "bad array subscript"
        return some (.number number.toNat)

/-- The number in a variable or an element, whose text is an expression. -/
def valueOf (holdings : Holdings) (expression : Step Int) (name : String) (key : Option ElementKey) :
    Step Int := do
  let reading ← get
  if !reading.counts then return 0
  match (reading.assigned.lookup (name, key)).or (holdings.text name key) with
  | some text => if text.isEmpty then return 0 else within expression text
  | none =>
      if holdings.isStrict then
        throw { expression := [], reason := "", token := [], unset := some name }
      return 0

/-- Sets a variable or an element, if that counts. -/
def assign (name : String) (key : Option ElementKey) (value : Int) : Step Int := do
  modify fun reading =>
    if reading.counts then
      { reading with assigned := ((name, key), intRow value) :: reading.assigned }
    else reading
  return value

/-! ## Expressions -/

/-- The operators by level, the loosest first. -/
def levels : List (List String) :=
  [["||"], ["&&"], ["|"], ["^"], ["&"], ["==", "!="], ["<=", ">=", "<", ">"], ["<<", ">>"],
    ["+", "-"], ["*", "/", "%"]]

/-- The operators that may stand in front of the sign of an assignment. -/
def updatingOperators : List String :=
  ["<<", ">>", "|", "^", "&", "+", "-", "*", "/", "%"]

/-- The value of two operands, if it counts. The second one comes with what was left of the
expression before it. -/
def combine (operator : String) (first second : Int) (before : Row) : Step Int := do
  match Arithmetic.operate? operator first second with
  | some value => return value
  | none =>
      if (← get).counts then
        modify fun reading => { reading with start := before.dropWhile isSpace }
        refuse "division by 0"
      return 0

/-- Reads a number, a variable, or what stands in parentheses. The readers of expressions and
of what stands in parentheses are given. -/
def primary (holdings : Holdings) (expression inner : Step Int) : Step Int := do
  match (← get).token with
  | .number number =>
      advance
      return number
  | .name name index =>
      advance
      let key ← keyOf holdings expression name index
      if ← isAt "after++" then
        let value ← valueOf holdings expression name key
        let _ ← assign name key (Arithmetic.wrap (value + 1))
        advance
        return value
      else if ← isAt "after--" then
        let value ← valueOf holdings expression name key
        let _ ← assign name key (Arithmetic.wrap (value - 1))
        advance
        return value
      else valueOf holdings expression name key
  | .operator "(" =>
      advance
      let value ← inner
      if !(← isAt ")") then refuse "missing \x60)'"
      advance
      return value
  | .operator "before++" | .operator "before--" =>
      let step : Int := if (← isAt "before++") then 1 else -1
      advance
      match (← get).token with
      | .name name index =>
          advance
          let key ← keyOf holdings expression name index
          assign name key (Arithmetic.wrap ((← valueOf holdings expression name key) + step))
      | _ => refuse "identifier expected after pre-increment or pre-decrement"
  | _ => refuse "syntax error: operand expected"

/-- Reads an operand behind at most so many signs. -/
def signed (primary : Step Int) : Nat → Step Int
  | 0 => refuse "expression recursion level exceeded"
  | steps + 1 => do
      match (← get).token with
      | .operator "-" => advance; return Arithmetic.wrap (-(← signed primary steps))
      | .operator "+" => advance; signed primary steps
      | .operator "!" => advance; return Arithmetic.truth ((← signed primary steps) = 0)
      | .operator "~" => advance; return Arithmetic.wrap (-(← signed primary steps) - 1)
      | _ => primary

/-- The power of a number, cut to 64 bits. -/
def power (base : Int) (exponent : Nat) : Int :=
  let base := Int64.ofInt base
  ((Nat.toDigits 2 exponent).foldl (fun result digit =>
    if digit = '1' then result * result * base else result * result) 1).toInt

/-- Reads an operand raised to at most so many powers, the last one first. -/
def powers (operand : Step Int) : Nat → Step Int
  | 0 => refuse "expression recursion level exceeded"
  | steps + 1 => do
      let base ← operand
      if ← isAt "**" then
        advance
        let exponent ← powers operand steps
        if exponent < 0 then refuse "exponent less than 0"
        return power base exponent.toNat
      else return base

/-- Continues a value with operators of one level. -/
def continued (operators : List String) (operand : Step Int) : Nat → Int → Step Int
  | 0, value => return value
  | steps + 1, value => do
      match (← get).token with
      | .operator operator =>
          if operators.contains operator then
            let before := (← get).rest
            advance
            let second ← provided (!Arithmetic.decidesAlone operator value) operand
            continued operators operand steps (← combine operator value second before)
          else return value
      | _ => return value

/-- Reads a value of the given levels over operands. -/
def leveled (steps : Nat) (operand : Step Int) : List (List String) → Step Int
  | [] => operand
  | operators :: tighter => do
      continued operators (leveled steps operand tighter) steps (← leveled steps operand tighter)

/-- Reads a value or a choice between two, where the second one is read by a given
reader. -/
def choice (value chosen other : Step Int) : Step Int := do
  let condition ← value
  if ← isAt "?" then
    advance
    if (← get).token == .finish || (← isAt ":") then refuse "expression expected"
    let yes ← provided (condition ≠ 0) chosen
    if !(← isAt ":") then refuse "\x60:' expected for conditional expression"
    advance
    if (← get).token == .finish then refuse "expression expected"
    let no ← provided (condition = 0) other
    return if condition ≠ 0 then yes else no
  else return condition

/-- The operator in front of the sign of an assignment; the sign alone has none. -/
def updating? (token : Token) : Option (Option String) :=
  match token with
  | .operator "=" => some none
  | .operator operator =>
      (updatingOperators.find? fun update => update ++ "=" == operator).map some
  | _ => none

/-- Reads an assignment or another value. The readers of expressions and of the assigned value
are given. -/
def assignment (holdings : Holdings) (expression value other : Step Int) : Step Int := do
  let before ← get
  let plain : Step Int := do
    set before
    let result ← other
    if (updating? (← get).token).isSome then refuse "attempted assignment to non-variable"
    return result
  match before.token with
  | .name name index =>
      advance
      match updating? (← get).token with
      | none => plain
      | some update =>
          advance
          let key ← keyOf holdings expression name index
          match update with
          | none => assign name key (← value)
          | some operator =>
              let first ← valueOf holdings expression name key
              let left := (← get).start
              assign name key (← combine operator first (← value) left)
  | _ => plain

/-- Reads values with commas between them; the last one counts. At most so many. -/
def sequence (value : Step Int) : Nat → Step Int
  | 0 => value
  | steps + 1 => do
      let result ← value
      if ← isAt "," then
        advance
        sequence value steps
      else return result

/-- Reads an assignment with at most so many steps on each level and so many others in one
another. -/
def assignmentUpTo (holdings : Holdings) (steps : Nat) : Nat → Step Int
  | 0 => refuse "expression recursion level exceeded"
  | depth + 1 =>
      let inner := assignmentUpTo holdings steps depth
      let expression := sequence inner steps
      let operand := powers (signed (primary holdings expression expression) steps) steps
      let value := leveled steps operand levels
      let chosen := choice value expression inner
      assignment holdings expression inner chosen

/-- The deepest nesting of expressions and variables. -/
def deepest : Nat := 200

/-- The value of an expression, and the variables and elements that it sets, the last one
first. -/
def evaluate (holdings : Holdings) (text : Row) :
    Except ReckoningFault (List ((String × Option ElementKey) × Row) × Int) := do
  let steps := text.length + 64
  let expression := sequence (assignmentUpTo holdings steps deepest) steps
  let (value, reading) ← (within expression text).run { text, rest := text, start := [] }
  return (reading.assigned, value)

/-- A place for plain variables only. -/
def plainHoldings (values : List (String × Row)) : Holdings where
  text := fun name key => if key.isNone then values.lookup name else none
  isKeyed := fun _ => false
  nextNumber := fun _ => 0
  isStrict := false

/-- The value of an expression over plain variables, if it has one. -/
def value? (values : List (String × Row)) (text : String) : Option Int :=
  (evaluate (plainHoldings values) text.toList).toOption.map Prod.snd

example : value? [] "-2 ** 2 + 16#ff % 10" = some 9 := by decide +kernel

example : value? [("x", "y + 1".toList), ("y", ['4'])] "x++ * 2 , x" = some 6 := by decide +kernel

example : value? [] "1 / 0" = none := by decide +kernel

end Reckoning

end TestAmplification.Shell
