import TestAmplification.Shell.Utility.Options
import TestAmplification.Shell.Utility.Regex

/-!
# Expressions of numbers and texts

An expression stands in arguments of its own: operators between operands, keywords in
front of them, and parentheses. The operators bind the tighter the later they stand
in the list of levels. A value is a text; where a number is asked for, it has to look
like one.

Whatever a side decides already makes the other side count no more, but it still has to
be an expression.
-/

set_option autoImplicit false

namespace TestAmplification.Shell

/-- Why an expression has no value. -/
inductive ExprFault where
  /-- It is none. -/
  | badSyntax (message : Row)
  /-- A number is asked for, and the text is none. -/
  | notWhole
  /-- Something is divided by zero. -/
  | zeroDivisor
  /-- A pattern is none. -/
  | badPattern (message : String)

/-- What is said about a fault. -/
def ExprFault.message : ExprFault → Row
  | badSyntax message => rowOf "syntax error: " ++ message
  | notWhole => rowOf "non-integer argument"
  | zeroDivisor => rowOf "division by zero"
  | badPattern message => rowOf message

namespace Expr

/-- Steps through the arguments, of which the present one has an index. -/
abbrev Reader := StateT Nat (Except ExprFault)

/-- The levels of operators, the loosest first. -/
def levels : List (List String) :=
  [["|"], ["&"], ["<", "<=", "=", "==", "!=", ">=", ">"], ["+", "-"], ["*", "/", "%"], [":"]]

/-- The whole number that a text looks like. -/
def whole? (text : Row) : Option Int :=
  if text.head? == some '+' then none else intOf? text

/-- The whole number that a value has to be. -/
def whole (value : Row) : Except ExprFault Int :=
  match whole? value with
  | some number => .ok number
  | none => .error .notWhole

/-- Does a value count as nothing? -/
def isNull (value : Row) : Bool :=
  let digits := if value.head? == some '-' then value.drop 1 else value
  value.isEmpty || (!digits.isEmpty && digits.all (· == '0'))

/-- The value of a truth. -/
def truth (holds : Bool) : Row :=
  if holds then ['1'] else ['0']

/-- What a pattern finds at the start of a text: its first group, or how long it is. -/
def matched (text pattern : Row) : Except ExprFault Row :=
  match Regex.parse { isExtended := false } pattern with
  | .error fault => .error (.badPattern fault.message)
  | .ok regex =>
      let subject : Subject := { characters := text.toArray }
      let found := regex.matchEnding subject (fun _ => true) 0
      if regex.groupCount > 0 then
        match found.bind fun found => found.groups.lookup 1 with
        | some (start, finish) => .ok ((text.drop start).take (finish - start))
        | none => .ok []
      else .ok (natRow ((found.map Regex.Found.finish).getD 0))

/-- The part of a text from a position on, with a length. -/
def part (text position length : Row) : Row :=
  match whole? position, whole? length with
  | some position, some length =>
      if position ≤ 0 || length ≤ 0 then []
      else (text.drop (position.toNat - 1)).take length.toNat
  | _, _ => []

/-- The value of an operator between two values. -/
def operate (operator : String) (first second : Row) : Except ExprFault Row :=
  let compare (holds : Ordering → Bool) : Except ExprFault Row :=
    .ok (truth (holds (match whole? first, whole? second with
      | some first, some second => Ord.compare first second
      | _, _ => compareOfLess first second)))
  match operator with
  | "|" => .ok (if !isNull first then first else if isNull second then ['0'] else second)
  | "&" => .ok (if isNull first || isNull second then ['0'] else first)
  | "<" => compare (· == .lt)
  | "<=" => compare (· != .gt)
  | "!=" => compare (· != .eq)
  | ">=" => compare (· != .lt)
  | ">" => compare (· == .gt)
  | "+" => return intRow ((← whole first) + (← whole second))
  | "-" => return intRow ((← whole first) - (← whole second))
  | "*" => return intRow ((← whole first) * (← whole second))
  | "/" => do
      let first ← whole first
      let second ← whole second
      if second = 0 then throw .zeroDivisor else return intRow (first.tdiv second)
  | "%" => do
      let first ← whole first
      let second ← whole second
      if second = 0 then throw .zeroDivisor else return intRow (first.tmod second)
  | ":" => matched first second
  | _ => compare (· == .eq)
where
  /-- How two texts are ordered. -/
  compareOfLess (first second : Row) : Ordering :=
    if first < second then .lt else if second < first then .gt else .eq

/-- The argument that must follow. -/
def needed (arguments : Array Row) : Reader Row := do
  let index ← get
  match arguments[index]? with
  | some argument =>
      set (index + 1)
      return argument
  | none =>
      throw (.badSyntax (rowOf "missing argument after "
        ++ quotedText ((arguments[index - 1]?).getD [])))

/-- Is the present argument the given one? Then it is passed. -/
def passes (arguments : Array Row) (wanted : Row) : Reader Bool := do
  let index ← get
  if arguments[index]? = some wanted then
    set (index + 1)
    return true
  else return false

mutual

/-- The value of operators of the given levels and tighter ones. It counts only if it
has to. -/
def levelValue (arguments : Array Row) (counts : Bool) : Nat → List (List String) → Reader Row
  | 0, _ => throw (.badSyntax [])
  | steps + 1, [] => primaryValue arguments counts steps
  | steps + 1, operators :: tighter => do
      let first ← levelValue arguments counts steps tighter
      operatorsValue arguments counts operators tighter steps first

/-- The value of the operators of one level behind a value. -/
def operatorsValue (arguments : Array Row) (counts : Bool) (operators : List String)
    (tighter : List (List String)) : Nat → Row → Reader Row
  | 0, _ => throw (.badSyntax [])
  | steps + 1, first => do
      let index ← get
      match (arguments[index]?).bind fun argument => operators.find? (rowOf · == argument) with
      | none => return first
      | some operator =>
          set (index + 1)
          let countsMore :=
            counts && (if operator = "|" then isNull first
              else if operator = "&" then !isNull first else true)
          let second ← levelValue arguments countsMore steps tighter
          let value ←
            if !counts then pure first
            else if operator = "|" && !isNull first then pure first
            else if operator = "&" && isNull first then pure ['0']
            else liftM (operate operator first second)
          operatorsValue arguments counts operators tighter steps value

/-- The value of an operand or of a keyword with its operands. -/
def primaryValue (arguments : Array Row) (counts : Bool) : Nat → Reader Row
  | 0 => throw (.badSyntax [])
  | steps + 1 => do
      let operand : Reader Row := primaryValue arguments counts steps
      if ← passes arguments ['+'] then needed arguments
      else if ← passes arguments "length".toList then
        return natRow (← operand).length
      else if ← passes arguments "match".toList then
        let text ← operand
        let pattern ← operand
        if counts then liftM (matched text pattern) else return text
      else if ← passes arguments "index".toList then
        let text ← operand
        let letters ← operand
        return natRow (((text.findIdx? letters.contains).map (· + 1)).getD 0)
      else if ← passes arguments "substr".toList then
        let text ← operand
        let position ← operand
        let length ← operand
        return part text position length
      else
        let argument ← needed arguments
        if argument = ['('] then
          let value ← levelValue arguments counts steps levels
          let index ← get
          match arguments[index]? with
          | some [')'] =>
              set (index + 1)
              return value
          | some other =>
              throw (.badSyntax (rowOf "expecting ')' instead of " ++ quotedText other))
          | none =>
              throw (.badSyntax (rowOf "expecting ')' after "
                ++ quotedText ((arguments[index - 1]?).getD [])))
        else if argument = [')'] then throw (.badSyntax (rowOf "unexpected ')'"))
        else return argument

end

/-- The value of an expression. -/
def value (arguments : List Row) : Except ExprFault Row := do
  let steps := 16 * arguments.length + 16
  let (value, index) ← (levelValue arguments.toArray true steps levels).run 0
  match arguments[index]? with
  | some extra => throw (.badSyntax (rowOf "unexpected argument " ++ quotedText extra))
  | none => return value

end Expr

open Tool in
/-- Writes the value of an expression. -/
def expr : Utility := fun given => withReader (fun call => { call with usageStatus := 2 }) do
  let arguments := if given.head? = some ['-', '-'] then given.drop 1 else given
  if arguments.isEmpty then usage (rowOf "missing operand")
  match Expr.value arguments with
  | .error fault => fail fault.message 2
  | .ok value =>
      putLine value
      return if Expr.isNull value then 1 else 0

end TestAmplification.Shell
