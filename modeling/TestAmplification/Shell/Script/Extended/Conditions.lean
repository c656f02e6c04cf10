import TestAmplification.Shell.Script.Builtin
import TestAmplification.Shell.Script.Extended.Assignments
import TestAmplification.Shell.Script.Grammar
import TestAmplification.Shell.Utility.Regex
import TestAmplification.Shell.Utility.Test

/-!
# Conditions in the extended dialect

A test is a row of texts, and how many there are says how they are read: up to four have
only one reading each, more are an expression with operators, signs and parentheses.

A condition between double brackets is read with the script. There the right side of a
comparison may be a pattern or a regular expression, and numbers are expressions.
-/

set_option autoImplicit false

namespace TestAmplification.Shell

open Session

/-! ## Operators -/

/-- Why a test has no value. -/
inductive ConditionFault where
  /-- An operator for one operand should stand there. -/
  | noUnary (text : Row)
  /-- An operator between two operands should stand there. -/
  | noBinary (text : Row)
  /-- A text is no number. -/
  | noNumber (text : Row)
  /-- Something should follow. -/
  | noArgument
  /-- A parenthesis is not closed; something else may stand there. -/
  | notClosed (found : Option Row)
  /-- There is more than a test. -/
  | tooMany
deriving DecidableEq, Inhabited

/-- The text of a fault. -/
def ConditionFault.message : ConditionFault → Row
  | noUnary text => text ++ rowOf ": unary operator expected"
  | noBinary text => text ++ rowOf ": binary operator expected"
  | noNumber text => text ++ rowOf ": integer expression expected"
  | noArgument => rowOf "argument expected"
  | notClosed none => rowOf "\x60)' expected"
  | notClosed (some found) => rowOf "\x60)' expected, found " ++ found
  | tooMany => rowOf "too many arguments"

/-- Is the text an operator in front of an operand? -/
def isUnaryOperator (text : Row) : Bool :=
  unaryOperators.contains (String.ofList text)

/-- Is the text an operator between operands? -/
def isBinaryOperator (text : Row) : Bool :=
  ["=", "==", "!=", "<", ">", "-eq", "-ne", "-lt", "-le", "-gt", "-ge", "-nt", "-ot",
    "-ef"].contains (String.ofList text)

/-- Is the option with a name on? -/
def isOptionOn (shell : ShellState) (name : Row) : Bool :=
  match ShellState.extendedOptions.find? fun entry => rowOf entry.2 == name with
  | some (some letter, _) => shell.has letter
  | some (none, name) => shell.isSet name
  | none => false

/-- Has the parameter, the element or the list that a text names a value? -/
def isNameSet (shell : ShellState) (text : Row) : Bool :=
  let name := text.takeWhile continuesName
  match text.drop name.length with
  | [] =>
      (shell.parameter? (String.ofList name)).isSome
        || ((ownValues? shell (String.ofList name)).map fun values => !values.isEmpty).getD false
  | '[' :: rest =>
      let index := rest.dropLast
      let elements := (elementsOf? shell (String.ofList name)).getD (.indexed [])
      if index = ['@'] || index = ['*'] then elements.size > 0
      else if elements.isKeyed then (elements.get? (.key index)).isSome
      else
        match intOf? index with
        | some number =>
            let place := if number < 0 then number + elements.nextNumber else number
            place ≥ 0 && (elements.get? (.number place.toNat)).isSome
        | none => false
  | _ => false

/-- The value of an operator in front of an operand. -/
def unaryHolds (shell : ShellState) (around : Surroundings) (operator operand : Row) : Bool :=
  match operator.getLast? with
  | some 'a' => (around.status operand).isSome
  | some 'o' => isOptionOn shell operand
  | some 'v' => isNameSet shell operand
  | some 'R' =>
      ((shell.binding? (textOf operand)).map fun binding =>
        binding.isReference && binding.value.isSome).getD false
  | some 't' | some 'N' => false
  | _ => (unaryValue around operator operand).toOption.getD false

/-- The number that a text denotes in a test. -/
def conditionNumber (text : Row) : Except ConditionFault Int :=
  match testNumber text with
  | .ok number => .ok number
  | .error _ => .error (.noNumber text)

/-- The value of an operator between two operands. -/
def binaryHolds (around : Surroundings) (first operator second : Row) : Except ConditionFault Bool :=
  let isOnNumbers := ["-eq", "-ne", "-lt", "-le", "-gt", "-ge"].contains (String.ofList operator)
  if isOnNumbers then do
    let first ← conditionNumber first
    let second ← conditionNumber second
    return (binaryValue around (intRow first) operator (intRow second)).toOption.getD false
  else
    .ok (match String.ofList operator with
      | "-nt" =>
          match around.status first, around.status second with
          | some _, none => true
          | _, _ => isNewer around first second
      | "-ot" =>
          match around.status first, around.status second with
          | none, some _ => true
          | _, _ => isNewer around second first
      | _ => (binaryValue around first operator second).toOption.getD false)

/-! ## Tests -/

/-- What a test is read with: its texts, and the values of operators. -/
structure TestReading where
  /-- The texts. -/
  texts : Array Row
  /-- The value of an operator in front of an operand. -/
  unary : Row → Row → Bool
  /-- The value of an operator between two operands. -/
  binary : Row → Row → Row → Except ConditionFault Bool

namespace TestReading

/-- Steps through a test: the index of the present text, and why the test has no value if it
has none. -/
abbrev Step := StateT Nat (Except ConditionFault)

/-- The text at an index. -/
def text (reading : TestReading) (index : Nat) : Row :=
  (reading.texts[index]?).getD []

/-- Is the given text at an index? -/
def isAt (reading : TestReading) (index : Nat) (text : String) : Bool :=
  reading.texts[index]? == some (rowOf text)

/-- The value of what begins at the present text. What stands in parentheses is read by the given
step. -/
def term (reading : TestReading) (inner : Step Bool) : Nat → Step Bool
  | 0 => throw .noArgument
  | steps + 1 => do
      let index ← get
      let size := reading.texts.size
      if index ≥ size then throw .noArgument
      else if reading.isAt index "!" then
        set (index + 1)
        return !(← term reading inner steps)
      else if reading.isAt index "(" then
        set (index + 1)
        let value ← inner
        let after ← get
        if after ≥ size then throw (.notClosed none)
        else if !reading.isAt after ")" then throw (.notClosed (some (reading.text after)))
        else
          set (after + 1)
          return value
      else if index + 3 ≤ size && isBinaryOperator (reading.text (index + 1)) then
        set (index + 3)
        reading.binary (reading.text index) (reading.text (index + 1)) (reading.text (index + 2))
      else if index + 2 ≤ size && isUnaryOperator (reading.text index) then
        set (index + 2)
        return reading.unary (reading.text index) (reading.text (index + 1))
      else
        set (index + 1)
        return !(reading.text index).isEmpty

/-- The value of operands with an operator between neighbours, at most so many. -/
def joined (reading : TestReading) (operator : String) (join : Bool → Bool → Bool)
    (operand : Step Bool) : Nat → Step Bool
  | 0 => operand
  | steps + 1 => do
      let value ← operand
      if reading.isAt (← get) operator then
        modify (· + 1)
        return join value (← joined reading operator join operand steps)
      else return value

/-- The value of an expression with parentheses nested at most so deeply. -/
def expression (reading : TestReading) : Nat → Step Bool
  | 0 => throw .noArgument
  | depth + 1 =>
      let steps := reading.texts.size + 1
      let term := reading.term (expression reading depth) steps
      reading.joined "-o" (· || ·) (reading.joined "-a" (· && ·) term steps) steps

/-- The value of two texts. -/
def pair (reading : TestReading) (start : Nat) : Except ConditionFault Bool :=
  let first := reading.text start
  let second := reading.text (start + 1)
  if first = ['!'] then .ok second.isEmpty
  else if isUnaryOperator first then .ok (reading.unary first second)
  else .error (.noUnary first)

/-- The value of three texts. -/
def triple (reading : TestReading) (start : Nat) : Except ConditionFault Bool :=
  let first := reading.text start
  let operator := reading.text (start + 1)
  let last := reading.text (start + 2)
  if isBinaryOperator operator then reading.binary first operator last
  else if operator = ['-', 'a'] then .ok (!first.isEmpty && !last.isEmpty)
  else if operator = ['-', 'o'] then .ok (!first.isEmpty || !last.isEmpty)
  else if first = ['!'] then (reading.pair (start + 1)).map (!·)
  else if first = ['('] && last = [')'] then .ok (!operator.isEmpty)
  else .error (.noBinary operator)

/-- The value of all texts. -/
def value (reading : TestReading) : Except ConditionFault Bool :=
  let whole : Except ConditionFault Bool := do
    let (value, index) ← (reading.expression (reading.texts.size + 1)).run 0
    if index < reading.texts.size then .error .tooMany else return value
  match reading.texts.size with
  | 0 => .ok false
  | 1 => .ok (!(reading.text 0).isEmpty)
  | 2 => reading.pair 0
  | 3 => reading.triple 0
  | 4 =>
      if reading.isAt 0 "!" then (reading.triple 1).map (!·)
      else if reading.isAt 0 "(" && reading.isAt 3 ")" then reading.pair 1
      else whole
  | _ => whole

end TestReading

/-- Tests files and texts in front of a closing text, if there is one. -/
def testInFrontOf (closing : Option Row) : Builtin := fun texts => do
  let shell ← get
  let around ← Act.surroundings
  let reading : TestReading :=
    { texts := texts.toArray, unary := unaryHolds shell around, binary := binaryHolds around }
  match reading.value with
  | .ok value => finish (if value then 0 else 1)
  | .error fault =>
      let fault := if fault = .notClosed none then .notClosed closing else fault
      complain fault.message 2
      leave .fault

/-- Tests files and texts. -/
def testExtended : Builtin :=
  testInFrontOf none

/-- Tests files and texts up to a closing bracket. -/
def testExtendedInBrackets : Builtin := fun texts => do
  if texts.getLast? = some [']'] then testInFrontOf (some [']']) texts.dropLast
  else
    complain (rowOf "missing \x60]'") 2
    leave .fault

/-! ## Conditions between double brackets -/

/-- The characters of a regular expression, where those that were quoted stand for
themselves. -/
def expressionRow (glyphs : List Glyph) : Row :=
  glyphs.flatMap fun (character, quoted) =>
    if quoted && "\\^$.[]|()*+?\x7b\x7d".toList.contains character then ['\\', character]
    else [character]

/-- Does a text hold a match of a regular expression? What the groups matched is kept. -/
def matchesExpression (text : Row) (glyphs : List Glyph) : Session Nat := do
  match Regex.parse { isExtended := true } (expressionRow glyphs) with
  | .error _ => return 2
  | .ok regex =>
      let characters := text.toArray
      let subject := { characters, foldsCase := (← get).isSet "nocasematch" : Subject }
      Act.workOn text.length
      match regex.search subject 0 with
      | none =>
          modify (·.withBinding "BASH_REMATCH" (some { elements := some (.indexed []) }))
          return 1
      | some found =>
          let part (start finish : Nat) : Row := (characters.extract start finish).toList
          let groups := (List.range regex.groupCount).map fun index =>
            ((found.groups.lookup (index + 1)).map fun (start, finish) => part start finish).getD []
          modify (·.withBinding "BASH_REMATCH"
            (some { elements := some (.ofList (part found.start found.finish :: groups)) }))
          return 0

/-- A text as it is shown before a condition is worked out. -/
def shownOperand (text : Row) : Row :=
  if text.isEmpty then ['\'', '\''] else text

/-- Compares two words. The answer is the status. -/
def compareWords (trace : Row → Session Unit) (first : Word) (operator : String) (second : Word) :
    Session Nat := do
  let shell ← get
  let left ← rowOfWord first
  let glyphs ← glyphsOf second
  let right := glyphs.map Prod.fst
  let shown := glyphs.flatMap fun (character, quoted) =>
    if quoted then ['\\', character] else [character]
  trace (shownOperand left ++ rowOf (" " ++ operator ++ " ")
    ++ if ["=", "==", "!=", "=~"].contains operator then shownOperand shown else shownOperand right)
  let status (isTrue : Bool) : Nat := if isTrue then 0 else 1
  let style : MatchStyle := { hasChoices := true, ignoresCase := shell.isSet "nocasematch" }
  match operator with
  | "=" | "==" => return status (style.accepts glyphs left)
  | "!=" => return status !(style.accepts glyphs left)
  | "=~" => matchesExpression left glyphs
  | _ =>
      if ["<", ">", "-nt", "-ot", "-ef"].contains operator then
        return status ((binaryHolds (← Act.surroundings) left (rowOf operator) right).toOption.getD false)
      else
        let first ← reckon (some (rowOf "[[")) left
        let second ← reckon (some (rowOf "[[")) right
        return status ((binaryHolds (← Act.surroundings) (intRow first) (rowOf operator)
          (intRow second)).toOption.getD false)

/-- The status of a condition: zero if it holds, one if not, two if it makes no sense. -/
def conditionStatus (trace : Row → Session Unit) : Condition → Session Nat
  | .word word => do
      let row ← rowOfWord word
      trace (rowOf "-n " ++ shownOperand row)
      return if row.isEmpty then 1 else 0
  | .unary operator word => do
      let row ← rowOfWord word
      trace (rowOf (operator ++ " ") ++ shownOperand row)
      return if unaryHolds (← get) (← Act.surroundings) (rowOf operator) row then 0 else 1
  | .binary first operator second => compareWords trace first operator second
  | .negation condition => do
      let status ← conditionStatus (fun row => trace (rowOf "! " ++ row)) condition
      return if status = 0 then 1 else 0
  | .both first second => do
      let status ← conditionStatus trace first
      if status = 0 then conditionStatus trace second else return status
  | .either first second => do
      let status ← conditionStatus trace first
      if status = 0 then return 0 else conditionStatus trace second

end TestAmplification.Shell
