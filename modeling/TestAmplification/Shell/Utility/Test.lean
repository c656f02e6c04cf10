import TestAmplification.Shell.Utility.Quoting
import TestAmplification.Shell.Utility.Status

/-!
# Testing files and texts

A test is an expression over texts: operators in front of an operand or between two
of them, joined by `-a`, `-o`, `!` and parentheses. What could be an operator counts
as an operand where nothing else makes sense.

A test that cannot be understood has no value. The shell and the program say so in
their own words.
-/

set_option autoImplicit false

namespace TestAmplification.Shell

/-! ## Operators -/

/-- What a text can be in a test. -/
inductive TestToken where
  /-- The end. -/
  | finish
  /-- An operand. -/
  | operand
  /-- An operator in front of an operand. -/
  | unary
  /-- An operator between two operands. -/
  | binary
  /-- The sign of a negation. -/
  | negation
  /-- The sign between tests that must both hold. -/
  | both
  /-- The sign between tests of which one must hold. -/
  | either
  /-- An opening parenthesis. -/
  | opening
  /-- A closing parenthesis. -/
  | closing
deriving DecidableEq, Inhabited

/-- Why a test has no value. -/
inductive TestFault where
  /-- Something stands where no operator may stand. -/
  | unexpected (text : Row)
  /-- The operand of an operator is missing. -/
  | noOperand (operator : Row)
  /-- A parenthesis is not closed. -/
  | notClosed
  /-- A text is no number. -/
  | badNumber (text : Row)
deriving DecidableEq, Inhabited

/-- What the shell says about a fault. -/
def TestFault.message : TestFault → Row
  | unexpected [] => rowOf "unexpected operator"
  | unexpected text => text ++ rowOf ": unexpected operator"
  | noOperand operator => operator ++ rowOf ": argument expected"
  | notClosed => rowOf "closing paren expected"
  | badNumber text => rowOf "Illegal number: " ++ text

/-- The kind of operator that a text is by itself. -/
def operatorKind? (text : Row) : Option TestToken :=
  let text := String.ofList text
  if ["-r", "-w", "-x", "-e", "-f", "-d", "-c", "-b", "-p", "-u", "-g", "-k", "-s", "-t", "-z",
      "-n", "-h", "-O", "-G", "-L", "-S"].contains text then some .unary
  else if ["=", "!=", "<", ">", "-eq", "-ne", "-ge", "-gt", "-le", "-lt", "-nt", "-ot",
      "-ef"].contains text then some .binary
  else if text = "!" then some .negation
  else if text = "-a" then some .both
  else if text = "-o" then some .either
  else if text = "(" then some .opening
  else if text = ")" then some .closing
  else none

/-- What the text at an index is, given those after it. -/
def tokenAt (texts : Array Row) (index : Nat) : TestToken :=
  match texts[index]? with
  | none => .finish
  | some text =>
      let following := texts[index + 1]?
      match operatorKind? text, following with
      | none, _ => .operand
      | some .unary, none | some .opening, none => .operand
      | some .unary, some next =>
          if texts[index + 2]?.isSome && operatorKind? next = some .binary then .operand
          else .unary
      | some token, _ => token

/-! ## Values -/

/-- The whole number that a text denotes. -/
def testNumber (text : Row) : Except TestFault Int :=
  let trimmed := ((text.dropWhile isSpace).reverse.dropWhile isSpace).reverse
  match intOf? trimmed with
  | some number =>
      if number.natAbs ≤ Text.greatestSigned64 then .ok number else .error (.badNumber text)
  | none => .error (.badNumber text)

/-- The value of an operator in front of an operand. -/
def unaryValue (around : Surroundings) (operator operand : Row) : Except TestFault Bool :=
  let status := around.status operand
  let passes (test : PathStatus → Bool) : Except TestFault Bool :=
    .ok ((status.map test).getD false)
  match operator.getLast? with
  | some 'z' => .ok operand.isEmpty
  | some 'n' => .ok !operand.isEmpty
  | some 't' => (testNumber operand).map fun _ => false
  | some 'f' => passes PathStatus.isFile
  | some 'd' => passes PathStatus.isDirectory
  | some 'c' => passes (·.kind == .device)
  | some 'p' => passes (·.kind == .pipe)
  | some 'L' | some 'h' =>
      .ok (((statusOfSelf around.disk (textOf operand)).toOption.map PathStatus.isLink).getD false)
  | some 'u' => passes fun status => Nat.land status.mode 0o4000 != 0
  | some 'g' => passes fun status => Nat.land status.mode 0o2000 != 0
  | some 'k' => passes fun status => Nat.land status.mode 0o1000 != 0
  | some 's' => passes fun status => status.size > 0
  | some 'x' => passes PathStatus.mayEnter
  | some 'e' | some 'r' | some 'w' | some 'O' | some 'G' => passes fun _ => true
  | _ => .ok false

/-- Was the first file changed after the second? -/
def isNewer (around : Surroundings) (first second : Row) : Bool :=
  match around.status first, around.status second with
  | some first, some second => first.tick > second.tick
  | _, _ => false

/-- Do two paths lead to the same file? -/
def isSamePlace (around : Surroundings) (first second : Row) : Bool :=
  match around.status first, around.status second with
  | some first, some second => (around.disk.namesOf first.place).contains second.place
  | _, _ => false

/-- The value of an operator between two operands. -/
def binaryValue (around : Surroundings) (first operator second : Row) : Except TestFault Bool :=
  let numbers (compare : Int → Int → Bool) : Except TestFault Bool := do
    return compare (← testNumber first) (← testNumber second)
  match String.ofList operator with
  | "!=" => .ok (first != second)
  | "<" => .ok (decide (first < second))
  | ">" => .ok (decide (second < first))
  | "-nt" => .ok (isNewer around first second)
  | "-ot" => .ok (isNewer around second first)
  | "-ef" => .ok (isSamePlace around first second)
  | "-eq" => numbers fun first second => first == second
  | "-ne" => numbers fun first second => first != second
  | "-lt" => numbers fun first second => first < second
  | "-le" => numbers fun first second => first ≤ second
  | "-gt" => numbers fun first second => first > second
  | "-ge" => numbers fun first second => first ≥ second
  | _ => .ok (first == second)

/-! ## Expressions -/

/-- Steps through a test: the index of the present text, and why the test has no
value if it has none. -/
abbrev TestReader := StateT Nat (Except TestFault)

/-- The value of what begins at the present text: an operator with its operands, an
operand, or something in parentheses. Alternatives are read by the given reader. -/
def primaryValue (around : Surroundings) (texts : Array Row) (alternatives : TestToken → TestReader Bool)
    (token : TestToken) : TestReader Bool := do
  let index ← get
  let text (index : Nat) : Row := (texts[index]?).getD []
  match token with
  | .finish => return false
  | .opening =>
      set (index + 1)
      let next := tokenAt texts (index + 1)
      if next = .closing then return false
      let value ← alternatives next
      let after := (← get) + 1
      set after
      if tokenAt texts after != .closing then throw .notClosed
      return value
  | .unary =>
      set (index + 1)
      if texts.size ≤ index + 1 then throw (.noOperand (text index))
      unaryValue around (text index) (text (index + 1))
  | _ =>
      if tokenAt texts (index + 1) = .binary then
        set (index + 2)
        if texts.size ≤ index + 2 then throw (.noOperand (text (index + 1)))
        binaryValue around (text index) (text (index + 1)) (text (index + 2))
      else return !(text index).isEmpty

/-- The value of what begins at the present text, after at most so many signs of
negation. -/
def negatedValue (texts : Array Row) (primary : TestToken → TestReader Bool) :
    Nat → TestToken → TestReader Bool
  | 0, _ => return false
  | steps + 1, token => do
      if token != .negation then primary token
      else
        let next := tokenAt texts ((← get) + 1)
        if next != .finish then modify (· + 1)
        return !(← negatedValue texts primary steps next)

/-- The value of tests with a sign between neighbours, at most so many. -/
def joinedValue (texts : Array Row) (sign : TestToken) (isEnough : Bool)
    (operand : TestToken → TestReader Bool) : Nat → Bool → TestToken → TestReader Bool
  | 0, value, _ => return value
  | steps + 1, value, token => do
      let found ← operand token
      let value := if found == isEnough then isEnough else value
      if tokenAt texts ((← get) + 1) = sign then
        modify (· + 2)
        joinedValue texts sign isEnough operand steps value (tokenAt texts (← get))
      else return value

/-- The value of tests of which one must hold, with parentheses nested at most so
deeply. -/
def alternativesValue (around : Surroundings) (texts : Array Row) : Nat → TestToken → TestReader Bool
  | 0, _ => return false
  | depth + 1, token =>
      let primary := primaryValue around texts (alternativesValue around texts depth)
      let negated := negatedValue texts primary (texts.size + 1)
      let conjunction := joinedValue texts .both false negated (texts.size + 1) true
      joinedValue texts .either true conjunction (texts.size + 1) false token

/-- The value of all texts from the given kind of the first one on. -/
def expressionValue (around : Surroundings) (texts : Array Row) (token : TestToken) :
    Except TestFault Bool := do
  let (value, index) ← (alternativesValue around texts (texts.size + 1) token).run 0
  if index + 1 < texts.size then throw (.unexpected ((texts[index]?).getD []))
  return value

/-- The value of a test with at most so many signs in front of it. Three or four
texts are first looked at for a sign or parentheses around the others; several signs
there count as one. -/
def testValue (around : Surroundings) (isNegated : Bool) : Nat → List Row → Except TestFault Bool
  | 0, _ => .ok false
  | steps + 1, texts =>
      let array := texts.toArray
      let value (token : TestToken) : Except TestFault Bool :=
        (expressionValue around array token).map (· != isNegated)
      let plain : Except TestFault Bool := value (tokenAt array 0)
      let outer : Except TestFault Bool :=
        if texts.head? = some ['('] && texts.getLast? = some [')'] then
          testValue around isNegated steps (texts.drop 1).dropLast
        else if texts.head? = some ['!'] then testValue around true steps (texts.drop 1)
        else plain
      match texts with
      | [] => .ok isNegated
      | [_, operator, _] =>
          if operatorKind? operator = some .binary then value .operand else outer
      | [_, _, _, _] => outer
      | _ => plain

/-- The value of a test. -/
def holds (around : Surroundings) (texts : List Row) : Except TestFault Bool :=
  testValue around false (texts.length + 1) texts

/-! ## Programs -/

/-- What the program says about a fault. -/
def programTestMessage (texts : List Row) : TestFault → Row
  | .badNumber text => rowOf "invalid integer " ++ quotedText text
  | _ =>
      match texts with
      | [first, second] =>
          if first.length = 2 && first.head? == some '-' && operatorKind? first != some .unary then
            quotedText first ++ rowOf ": unary operator expected"
          else rowOf "missing argument after " ++ quotedText second
      | [_, operator, _] => quotedText operator ++ rowOf ": binary operator expected"
      | _ => rowOf "extra argument " ++ quotedText ((texts.drop 3).head?.getD [])

/-- Tests files and texts. -/
def test : Utility := fun texts => do
  let texts := texts.map fun text => if text = ['=', '='] then ['='] else text
  match holds (← Act.surroundings) texts with
  | .ok value => return if value then 0 else 1
  | .error fault => Tool.fail (programTestMessage texts fault) 2

/-- Tests files and texts up to a closing bracket. -/
def bracketTest : Utility := fun texts => do
  if texts.getLast? = some [']'] then test texts.dropLast
  else Tool.fail (rowOf "missing ']'") 2

end TestAmplification.Shell
