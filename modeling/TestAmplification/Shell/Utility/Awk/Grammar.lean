import TestAmplification.Shell.Utility.Awk.Formats
import TestAmplification.Shell.Utility.Awk.Syntax

/-!
# Reading programs of `awk`

A program is read token by token. Expressions have levels: an operator of one level joins
expressions of the next one. Inside `print` a bare greater-than sign leads to a file, so it
compares only inside parentheses.

After a fault in a statement the reading goes on with the next one, so a program can have several
faults.

The readers of inner expressions and statements are parameters of those around them, and a
bound on the nesting closes the circle.
-/

set_option autoImplicit false

namespace TestAmplification.Shell.Awk

/-- What is left of a program, and where the reading stands in it. -/
structure Reading where
  /-- The tokens that are left. -/
  tokens : List Located
  /-- The number of parentheses that are open. -/
  parentheses : Nat := 0
  /-- The number of braces that are open. -/
  braces : Nat := 0
  /-- Does a greater-than sign lead to a file? -/
  inPrint : Bool := false
  /-- Does the word `in` belong to a loop? -/
  inLoopHead : Bool := false
  /-- The number of loops around. -/
  loops : Nat := 0
  /-- Are the statements those of a function? -/
  inFunction : Bool := false
  /-- May the record be left? -/
  hasRecord : Bool := false
  /-- The functions so far. -/
  functions : List String := []
  /-- The calls of functions so far, the last one first, with the number of arguments and the line
  of each. -/
  calls : List (String × Nat × Nat) := []
  /-- The names known so far, and whether they stand for arrays. -/
  kinds : List (String × Bool) :=
    [("ARGV", true), ("ENVIRON", true)]
      ++ ["NR", "FNR", "FS", "OFS", "RS", "ORS", "FILENAME", "ARGC", "SUBSEP", "RSTART", "RLENGTH",
        "CONVFMT", "OFMT"].map (·, false)
  /-- What is known of the parameters of a function. -/
  parameters : List (String × Option Bool) := []
  /-- The faults so far, the last one first. -/
  faults : List ProgramFault := []
deriving Inhabited

/-- Steps of reading a program. A fault comes with where it was found. -/
abbrev Parser := StateT Reading (Except (ProgramFault × Reading))

namespace Parser

/-- The next token, which stays. -/
def peek : Parser Located := do
  return (← get).tokens.head?.getD { token := .finish, line := 1, shown := [] }

/-- Passes over a token. -/
def skip : Parser Unit :=
  modify fun reading => { reading with tokens := reading.tokens.drop 1 }

/-- Fails. -/
def failWith {α : Type} (fault : ProgramFault) : Parser α := do
  throw (fault, ← get)

/-- Fails on a line. -/
def fault {α : Type} (line : Nat) (message : Row) : Parser α :=
  failWith ⟨some line, message⟩

/-- Notes a fault and goes on. -/
def note (line : Nat) (message : Row) : Parser Unit :=
  modify fun reading => { reading with faults := ⟨some line, message⟩ :: reading.faults }

/-- Notes that a name is used as an array, or as a variable. -/
def noteKind (name : String) (isArray : Bool) : Parser Unit := do
  let reading ← get
  let line := (← peek).line
  let complain (place : String) (wasArray : Bool) : Parser Unit :=
    note line (rowOf ("illegal reference to " ++ place ++ (if wasArray then "array " else "variable ")
      ++ name))
  match reading.parameters.lookup name with
  | some (some kind) => if kind != isArray then complain "local " kind
  | some none =>
      set { reading with
        parameters := reading.parameters.map fun entry =>
          if Prod.fst entry == name then (name, some isArray) else entry }
  | none =>
      match reading.kinds.lookup name with
      | some kind => if kind != isArray then complain "" kind
      | none => set { reading with kinds := (name, isArray) :: reading.kinds }

/-- Fails at the next token. -/
def refuse {α : Type} : Parser α := do
  let reading ← get
  let found ← peek
  match found.token with
  | .bad fault => failWith fault
  | .symbol ")" => if reading.parentheses = 0 then fault found.line (rowOf "extra ')'")
  | .symbol "\x7d" =>
      if reading.braces = 0 then
        match reading.tokens[1]? with
        | some { token := .newline, .. } | some { token := .finish, .. } =>
            note found.line (rowOf "extra '\x7d'")
            fault found.line (rowOf "syntax error at or near end of line")
        | _ => fault found.line (rowOf "extra '\x7d'")
  | _ => pure ()
  let isClosing := found.token matches .symbol ")"
  if reading.parentheses > (if isClosing then 1 else 0) then
    fault found.line (rowOf "missing ) near " ++ found.shown)
  else
    match found.token with
    | .finish =>
        if reading.braces > 0 then fault found.line (rowOf "missing \x7d near end of file")
        else fault found.line (rowOf "unexpected end of file")
    | _ => fault found.line (rowOf "syntax error at or near " ++ found.shown)

/-- Does the mark come next? -/
def sees (symbol : String) : Parser Bool := do
  match (← peek).token with
  | .symbol found => return found == symbol
  | _ => return false

/-- Does the word come next? -/
def seesWord (word : String) : Parser Bool := do
  match (← peek).token with
  | .keyword found => return found == word
  | _ => return false

/-- Passes over a mark if it comes next. -/
def accept (symbol : String) : Parser Bool := do
  if ← sees symbol then
    skip
    return true
  else return false

/-- Passes over a mark that has to come next. -/
def expect (symbol : String) : Parser Unit := do
  if !(← accept symbol) then refuse

/-- Passes over line ends, at most so many. -/
def skipLinesUpTo : Nat → Parser Unit
  | 0 => return
  | steps + 1 => do
      match (← peek).token with
      | .newline =>
          skip
          skipLinesUpTo steps
      | _ => return

/-- Passes over line ends. -/
def skipLines : Parser Unit := do
  skipLinesUpTo (← get).tokens.length

/-- Passes over line ends and semicolons, at most so many. -/
def skipEndsUpTo : Nat → Parser Unit
  | 0 => return
  | steps + 1 => do
      match (← peek).token with
      | .newline | .symbol ";" =>
          skip
          skipEndsUpTo steps
      | _ => return

/-- Passes over line ends and semicolons. -/
def skipEnds : Parser Unit := do
  skipEndsUpTo (← get).tokens.length

/-- Takes a step between parentheses. Inside, signs have their plain meaning. -/
def inParentheses {α : Type} (step : Parser α) : Parser α := do
  expect "("
  let before ← get
  set { before with parentheses := before.parentheses + 1, inPrint := false, inLoopHead := false }
  let result ← step
  expect ")"
  modify fun reading => { reading with
    parentheses := before.parentheses, inPrint := before.inPrint, inLoopHead := before.inLoopHead }
  return result

/-- A name that has to come next. -/
def takeName : Parser String := do
  match (← peek).token with
  | .name name _ =>
      skip
      return name
  | _ => refuse

/-! ## Expressions -/

/-- Expressions between commas, at most so many. -/
def listUpTo (inner : Parser Expression) : Nat → Parser (List Expression)
  | 0 => refuse
  | steps + 1 => do
      let first ← inner
      if ← accept "," then
        skipLines
        return first :: (← listUpTo inner steps)
      else return [first]

/-- Expressions between commas. -/
def list (inner : Parser Expression) : Parser (List Expression) := do
  listUpTo inner (← get).tokens.length

/-- Expressions between commas, or none, in parentheses. -/
def arguments (inner : Parser Expression) : Parser (List Expression) :=
  inParentheses do
    if ← sees ")" then return []
    list inner

/-- The operation of an assignment. -/
def assignmentOf? : Token → Option (Option Operation)
  | .symbol "=" => some none
  | .symbol "+=" => some (some .add)
  | .symbol "-=" => some (some .subtract)
  | .symbol "*=" => some (some .multiply)
  | .symbol "/=" => some (some .divide)
  | .symbol "%=" => some (some .remainder)
  | .symbol "^=" => some (some .power)
  | _ => none

/-- Can something be assigned to the expression? -/
def isTarget : Expression → Bool
  | .named _ | .element .. | .field _ => true
  | _ => false

/-- The steps up or down behind a target. -/
def withStepBehind (target : Expression) : Parser Expression := do
  if !isTarget target then return target
  if ← accept "++" then return .step true true target
  else if ← accept "--" then return .step false true target
  else return target

/-- An assignment to a target, if one follows. -/
def withAssignment (inner : Parser Expression) (target : Expression) : Parser Expression := do
  match assignmentOf? (← peek).token with
  | some operation =>
      if !isTarget target then return target
      skip
      return .assign operation target (← inner)
  | none => return target

/-- How many arguments a function takes: at least, and at most. -/
def argumentBounds : Builtin → Nat × Nat
  | .length | .srand | .flush => (0, 1)
  | .substr => (2, 3)
  | .index | .find | .atan2 => (2, 2)
  | .split | .sub | .gsub => (2, 3)
  | .sprintf => (1, 255)
  | .rand | .moment => (0, 0)
  | _ => (1, 1)

/-- The arguments of a function that changes one of them, which has to be something that can be
changed. -/
def changingArguments (inner : Parser Expression) : Parser (List Expression) :=
  inParentheses do
    let pattern ← inner
    expect ","
    let replacement ← inner
    if ← accept "," then
      match (← peek).token with
      | .name _ false | .symbol "$" => return [pattern, replacement, ← inner]
      | _ => refuse
    else return [pattern, replacement]

/-- The call of a function that every program has. -/
def builtinCall (inner : Parser Expression) (found : Located) (function : Builtin) :
    Parser Expression := do
  if ← sees "(" then
    let given ← if function = .sub || function = .gsub then changingArguments inner
      else arguments inner
    match function, (given[1]? : Option Expression) with
    | .split, some (.named name) => noteKind name true
    | _, _ => pure ()
    let (least, most) := argumentBounds function
    if given.length < least || given.length > most then
      fault found.line (rowOf "wrong number of arguments in call to " ++ found.shown)
    return .builtin function given
  else if function = .length then return .builtin .length []
  else refuse

/-- Takes a name with its subscripts, or a call. -/
def namedOperand (inner : Parser Expression) (name : String) (isCalled : Bool) :
    Parser Expression := do
  if isCalled then
    let given ← arguments inner
    let line := (← peek).line
    modify fun reading => { reading with calls := (name, given.length, line) :: reading.calls }
    return .call name given
  else if ← accept "[" then
    noteKind name true
    let before ← get
    set { before with inPrint := false, inLoopHead := false }
    let subscripts ← list inner
    expect "]"
    modify fun reading => { reading with
      inPrint := before.inPrint, inLoopHead := before.inLoopHead }
    return .element name subscripts
  else
    let reading ← get
    let isOpen :=
      match (reading.tokens.head?.map Located.token).getD .finish with
      | .symbol ")" | .symbol "," => true
      | .newline => decide (reading.parentheses > 0)
      | _ => false
    if !isOpen then noteKind name false
    return .named name

/-- The target that a line is read into, if there is one. -/
def lineTarget (operand : Parser Expression) : Parser (Option Expression) := do
  match (← peek).token with
  | .symbol "$" | .name _ false => return some (← operand)
  | _ => return none

/-- The name of an array. -/
def takeArray : Parser String := do
  let name ← takeName
  noteKind name true
  return name

/-- Is the list in parentheses the subscripts in front of an array? -/
def parenthesized (inner : Parser Expression) : Parser Expression := do
  let found ← inParentheses (list inner)
  match found with
  | [single] => return single
  | several =>
      if ← seesWord "in" then
        skip
        return .holds several (← takeArray)
      else refuse

/-- What a step in front of it changes. -/
def steppedOperand (operand : Parser Expression) : Parser Expression := do
  match (← peek).token with
  | .name _ false | .symbol "$" | .symbol "(" => operand
  | _ => refuse

/-- The target behind a dollar sign or a step, given how an operand is read. -/
def simpleOperand (inner : Parser Expression) : Nat → Parser Expression
  | 0 => refuse
  | steps + 1 => do
      let found ← peek
      match found.token with
      | .number value => skip; return .number value
      | .text row => skip; return .text row
      | .regex row =>
          skip
          match regexOf row with
          | .ok _ => return .regex row
          | .error message => fault found.line message
      | .name name isCalled => skip; namedOperand inner name isCalled
      | .builtin function => skip; builtinCall inner found function
      | .symbol "(" => parenthesized inner
      | .symbol "$" =>
          skip
          match ← simpleOperand inner steps with
          | .named "NF" => return .field (← withStepBehind (.named "NF"))
          | index => return .field index
      | .symbol "++" =>
          skip
          return .step true false (← steppedOperand (simpleOperand inner steps))
      | .symbol "--" =>
          skip
          return .step false false (← steppedOperand (simpleOperand inner steps))
      | .symbol "-" =>
          skip
          return .negative (← simpleOperand inner steps)
      | .keyword "getline" =>
          skip
          let target ← lineTarget (simpleOperand inner steps)
          if ← accept "<" then
            return .getline .file (← simpleOperand inner steps) target
          else return .getline .inputs (.text []) target
      | _ => refuse

/-- An operand with the steps, the assignment and the reading of lines behind it. -/
def operand (inner : Parser Expression) (steps : Nat) : Parser Expression := do
  let target ← withStepBehind (← simpleOperand inner steps)
  withAssignment inner target

/-- Signs in front of an expression, and powers behind it. -/
def signed (inner : Parser Expression) : Nat → Parser Expression
  | 0 => refuse
  | steps + 1 => do
      let found ← peek
      match found.token with
      | .symbol "-" => skip; return .negative (← signed inner steps)
      | .symbol "+" => skip; return .positive (← signed inner steps)
      | .symbol "!" => skip; return .negated (← signed inner steps)
      | _ =>
          let base ← operand inner steps
          if ← accept "^" then return .operate .power base (← signed inner steps)
          else return base

/-- Goes on with operators of one level. -/
def continued (next : Parser Expression) (operator : Token → Option (Expression → Expression → Expression)) :
    Nat → Expression → Parser Expression
  | 0, first => return first
  | steps + 1, first => do
      match operator (← peek).token with
      | none => return first
      | some join =>
          let mayBreak := (← sees "&&") || (← sees "||")
          skip
          if mayBreak then skipLines
          continued next operator steps (join first (← next))

/-- Expressions of the next level with operators of one level between them. -/
def leveled (next : Parser Expression)
    (operator : Token → Option (Expression → Expression → Expression)) : Parser Expression := do
  let first ← next
  continued next operator (← get).tokens.length first

/-- The lines that a command writes, read by what follows it. -/
def pipedUpTo (operand : Parser Expression) : Nat → Expression → Parser Expression
  | 0, command => return command
  | steps + 1, command => do
      match (← get).tokens with
      | { token := .symbol "|", .. } :: { token := .keyword "getline", .. } :: rest =>
          modify fun reading => { reading with tokens := rest }
          let target ← lineTarget operand
          pipedUpTo operand steps (.getline .command command target)
      | _ => return command

/-- Multiplications and divisions. -/
def product (inner : Parser Expression) : Parser Expression := do
  let steps := (← get).tokens.length + 1
  let piped : Parser Expression := do
    pipedUpTo (simpleOperand inner steps) steps (← signed inner steps)
  leveled piped fun
    | .symbol "*" => some (.operate .multiply)
    | .symbol "/" => some (.operate .divide)
    | .symbol "%" => some (.operate .remainder)
    | _ => none

/-- Sums and differences. -/
def sum (inner : Parser Expression) : Parser Expression :=
  leveled (product inner) fun
    | .symbol "+" => some (.operate .add)
    | .symbol "-" => some (.operate .subtract)
    | _ => none

/-- Can an expression begin with the token that is joined to the one before? -/
def startsOperand : Token → Bool
  | .number _ | .text _ | .regex _ | .name .. | .builtin _ => true
  | .symbol symbol => ["(", "$", "!", "-", "+", "++", "--"].contains symbol
  | _ => false

/-- Texts that follow one another. -/
def joinedUpTo (inner : Parser Expression) : Nat → Expression → Parser Expression
  | 0, first => return first
  | steps + 1, first => do
      if startsOperand (← peek).token then
        joinedUpTo inner steps (.joined first (← sum inner))
      else return first

/-- Texts that follow one another. -/
def concatenation (inner : Parser Expression) : Parser Expression := do
  let first ← sum inner
  joinedUpTo inner (← get).tokens.length first

/-- The relation that a sign stands for. -/
def relationOf? (inPrint : Bool) : Token → Option Relation
  | .symbol "<" => some .less
  | .symbol "<=" => some .atMost
  | .symbol "==" => some .equal
  | .symbol "!=" => some .different
  | .symbol ">" => if inPrint then none else some .greater
  | .symbol ">=" => some .atLeast
  | _ => none

/-- Comparisons. -/
def comparison (inner : Parser Expression) : Parser Expression := do
  let inPrint := (← get).inPrint
  leveled (concatenation inner) fun token => (relationOf? inPrint token).map .relate

/-- The occurrence of patterns. -/
def occurrence (inner : Parser Expression) : Parser Expression :=
  leveled (comparison inner) fun
    | .symbol "~" => some .occurs
    | .symbol "!~" => some fun text pattern => .negated (.occurs text pattern)
    | _ => none

/-- Whether arrays have elements, at most so many times. -/
def membersUpTo : Nat → Expression → Parser Expression
  | 0, first => return first
  | steps + 1, first => do
      if !(← get).inLoopHead && (← seesWord "in") then
        skip
        membersUpTo steps (.holds [first] (← takeArray))
      else return first

/-- Whether arrays have elements. -/
def membership (inner : Parser Expression) : Parser Expression := do
  let first ← occurrence inner
  membersUpTo (← get).tokens.length first

/-- Conditions that hold at once. -/
def conjunction (inner : Parser Expression) : Parser Expression :=
  leveled (membership inner) fun
    | .symbol "&&" => some .both
    | _ => none

/-- Conditions of which one holds. -/
def disjunction (inner : Parser Expression) : Parser Expression :=
  leveled (conjunction inner) fun
    | .symbol "||" => some .either
    | _ => none

/-- An expression with at most so many in one another. -/
def expressionUpTo : Nat → Parser Expression
  | 0 => refuse
  | depth + 1 => do
      let inner := expressionUpTo depth
      let condition ← disjunction inner
      if ← accept "?" then
        let yes ← inner
        expect ":"
        return .choice condition yes (← inner)
      else return condition

/-- The deepest nesting of expressions and statements. -/
def deepest : Nat := 1000

/-- An expression. -/
def expression : Parser Expression :=
  expressionUpTo deepest

/-! ## Statements -/

/-- Passes over the end of a statement. In front of a brace nothing has to stand. -/
def endStatement : Parser Unit := do
  match (← peek).token with
  | .newline | .symbol ";" => skip
  | .symbol "\x7d" => return
  | _ => refuse

/-- Where something is written, if that is said. -/
def sink : Parser (Option (SinkKind × Expression)) := do
  let kind :=
    match (← peek).token with
    | .symbol ">" => some SinkKind.file
    | .symbol ">>" => some .added
    | .symbol "|" => some .command
    | _ => none
  match kind with
  | none => return none
  | some kind =>
      skip
      modify fun reading => { reading with inPrint := false }
      return some (kind, ← expression)

/-- Does a statement that writes end here, or its list of values? -/
def endsValues : Token → Bool
  | .newline | .finish => true
  | .symbol symbol => [";", "\x7d", ">", ">>", "|"].contains symbol
  | _ => false

/-- Takes a step back if it fails or does not lead to the end of the values. -/
def trying (step : Parser (List Expression)) : Parser (Option (List Expression)) := fun reading =>
  match step reading with
  | .ok (found, after) =>
      if endsValues ((after.tokens.head?.map Located.token).getD .finish) then .ok (some found, after)
      else .ok (none, reading)
  | .error _ => .ok (none, reading)

/-- The values of a statement that writes. -/
def values : Parser (List Expression) := do
  modify fun reading => { reading with inPrint := true }
  if endsValues (← peek).token then return []
  else
    let inList ← if ← sees "(" then trying (arguments expression) else pure none
    match inList with
    | some found => return found
    | none => list expression

/-- A statement that writes. -/
def writing (make : List Expression → Option (SinkKind × Expression) → Statement) :
    Parser Statement := do
  let values ← values
  let sink ← sink
  modify fun reading => { reading with inPrint := false }
  endStatement
  return make values sink

/-- Takes a step inside one more loop. -/
def insideLoop (step : Parser Statement) : Parser Statement := do
  modify fun reading => { reading with loops := reading.loops + 1 }
  let body ← step
  modify fun reading => { reading with loops := reading.loops - 1 }
  return body

/-- An expression or nothing, up to a mark. -/
def optional (symbol : String) : Parser (Option Expression) := do
  if ← sees symbol then return none else return some (← expression)

/-- A statement without an end: an expression, or the deletion of something. -/
def simpleStatement : Parser Statement := do
  if ← seesWord "delete" then
    skip
    let name ← takeArray
    if ← accept "[" then
      let subscripts ← list expression
      expect "]"
      return .delete name (some subscripts)
    else return .delete name none
  else return .expression (← expression)

/-- A simple statement or nothing, up to a mark. -/
def optionalSimple (symbol : String) : Parser Statement := do
  if ← sees symbol then return .block [] else simpleStatement

/-- The body of a loop or a choice: nothing in front of a semicolon. -/
def body (statement : Parser Statement) : Parser Statement := do
  skipLines
  if ← accept ";" then return .block [] else statement

/-- A loop whose head stands in parentheses. -/
def forLoop (statement : Parser Statement) : Parser Statement := do
  match (← get).tokens with
  | { token := .symbol "(", .. } :: { token := .name name _, .. }
      :: { token := .keyword "in", .. } :: { token := .name array _, .. }
      :: { token := .symbol ")", .. } :: rest =>
      modify fun reading => { reading with tokens := rest }
      noteKind name false
      noteKind array true
      return .forEach name array (← insideLoop (body statement))
  | _ =>
      let (start, condition, step) ← inParentheses do
        let start ← optionalSimple ";"
        expect ";"
        skipLines
        let condition ← optional ";"
        expect ";"
        skipLines
        return (start, condition, ← optionalSimple ")")
      let repeated ← insideLoop (body statement)
      return .block [start, .loop false condition step repeated]

/-- A choice. The other branch may stand behind the end of the first. -/
def choice (statement : Parser Statement) : Parser Statement := do
  let condition ← inParentheses expression
  let yes ← body statement
  let before ← get
  skipLines
  if ← seesWord "else" then
    skip
    return .choice condition yes (← body statement)
  else
    set before
    return .choice condition yes (.block [])

/-- A loop whose condition comes last. -/
def doLoop (statement : Parser Statement) : Parser Statement := do
  let repeated ← insideLoop (body statement)
  skipLines
  if !(← seesWord "while") then refuse
  skip
  let condition ← inParentheses expression
  endStatement
  return .loop true (some condition) (.block []) repeated

/-- Is the token one that a statement ends at? -/
def endsStatement : Token → Bool
  | .newline | .symbol ";" | .symbol "\x7d" | .finish | .bad _ => true
  | _ => false

/-- A statement. After a fault the reading goes on behind the end of the statement. -/
def recovering (statement : Parser Statement) : Parser Statement := fun before =>
  match statement before with
  | .ok found => .ok found
  | .error (fault, found) =>
      match (found.tokens.head?.map Located.token).getD .finish with
      | .finish | .bad _ => .error (fault, found)
      | _ =>
          let (passed, rest) := found.tokens.span fun located => !endsStatement located.token
          let count (symbol : String) : Nat :=
            (passed.drop 1).countP fun located => located.token.isSymbol symbol
          let extra : List ProgramFault :=
            if count ")" > count "(" + found.parentheses then [⟨fault.line, rowOf "extra ')'"⟩] else []
          .ok (.block [], { before with tokens := rest, faults := extra ++ fault :: found.faults })

/-- Statements up to the brace that ends them, at most so many. -/
def statementsUpTo (statement : Parser Statement) : Nat → Parser (List Statement)
  | 0 => refuse
  | steps + 1 => do
      skipEnds
      if ← accept "\x7d" then return []
      let first ← recovering statement
      return first :: (← statementsUpTo statement steps)

/-- Statements in braces. -/
def block (statement : Parser Statement) : Parser Statement := do
  expect "\x7b"
  modify fun reading => { reading with braces := reading.braces + 1 }
  let statements ← statementsUpTo statement ((← get).tokens.length + 1)
  modify fun reading => { reading with braces := reading.braces - 1 }
  return .block statements

/-- A word that leaves something, which must be possible here. -/
def leaving (isPossible : Bool) (line : Nat) (message : String) (statement : Statement) :
    Parser Statement := do
  if !isPossible then fault line (rowOf message)
  endStatement
  return statement

/-- A statement that begins with a word of the language. -/
def wordStatement (statement : Parser Statement) (line : Nat) (word : String) :
    Parser Statement := do
  skip
  let reading ← get
  let value : Parser (Option Expression) := do
    match (← peek).token with
    | .newline | .symbol ";" | .symbol "\x7d" => return none
    | _ => return some (← expression)
  match word with
  | "if" => choice statement
  | "while" =>
      let condition ← inParentheses expression
      if ← accept ";" then return .loop false (some condition) (.block []) (.block [])
      return .loop false (some condition) (.block []) (← insideLoop (body statement))
  | "do" => doLoop statement
  | "for" => forLoop statement
  | "print" => writing .print
  | "printf" =>
      let found ← writing .printf
      match found with
      | .printf [] _ => fault line (rowOf "no arguments in call to printf")
      | found => return found
  | "break" => leaving (reading.loops > 0) line "break statement outside of loop" .leaveLoop
  | "continue" => leaving (reading.loops > 0) line "continue statement outside of loop" .leaveRound
  | "next" => leaving reading.hasRecord line "improper use of next" .next
  | "nextfile" => leaving reading.hasRecord line "improper use of nextfile" .nextInput
  | "exit" =>
      let status ← value
      endStatement
      return .exit status
  | "return" =>
      if !reading.inFunction then fault line (rowOf "return outside function body")
      let value ← value
      endStatement
      return .giveBack value
  | _ => refuse

/-- The words that a statement can begin with, if it is no expression. -/
def statementWords : List String :=
  ["if", "while", "do", "for", "print", "printf", "break", "continue", "next", "nextfile", "exit",
    "return"]

/-- A statement with at most so many in one another. -/
def statementUpTo : Nat → Parser Statement
  | 0 => refuse
  | depth + 1 => do
      let statement := statementUpTo depth
      let found ← peek
      match found.token with
      | .symbol "\x7b" => block statement
      | .symbol ";" =>
          skip
          return .block []
      | .keyword word =>
          if statementWords.contains word then wordStatement statement found.line word
          else
            let simple ← simpleStatement
            endStatement
            return simple
      | _ =>
          let simple ← simpleStatement
          endStatement
          return simple

/-- A statement. -/
def statement : Parser Statement :=
  statementUpTo deepest

/-! ## Programs -/

/-- The names of parameters between commas, at most so many. -/
def parametersUpTo : Nat → Parser (List String)
  | 0 => refuse
  | steps + 1 => do
      skipLines
      let name ← takeName
      if ← accept "," then return name :: (← parametersUpTo steps) else return [name]

/-- A function. -/
def function : Parser (String × Function) := do
  let found ← peek
  let name ← takeName
  let reading ← get
  if reading.functions.contains name then fault found.line (rowOf ("redefinition of " ++ name))
  if (reading.kinds.lookup name).isSome then
    note found.line (rowOf ("illegal reference to variable " ++ name))
  expect "("
  let parameters ← if ← sees ")" then pure [] else parametersUpTo (← get).tokens.length
  expect ")"
  if parameters.contains name then
    fault found.line (rowOf ("function parameter cannot be the function"))
  match parameters.find? fun parameter => parameters.count parameter > 1 with
  | some parameter => fault found.line (rowOf (parameter ++ " is duplicated in argument list"))
  | none => pure ()
  skipLines
  modify fun reading => { reading with
    inFunction := true, hasRecord := false, functions := name :: reading.functions
    parameters := parameters.map (·, none) }
  let body ← block statement
  modify fun reading => { reading with inFunction := false, parameters := [] }
  return (name, { parameters, body })

/-- The pattern of a rule. -/
def pattern : Parser Pattern := do
  match (← peek).token with
  | .keyword "BEGIN" => skip; return .first
  | .keyword "END" => skip; return .last
  | .symbol "\x7b" => return .condition none
  | _ =>
      let start ← expression
      if ← accept "," then
        skipLines
        return .range start (← expression)
      else return .condition (some start)

/-- A rule. -/
def rule : Parser Rule := do
  let pattern ← pattern
  let isPlain :=
    match pattern with
    | .first | .last => false
    | _ => true
  modify fun reading => { reading with hasRecord := isPlain }
  if ← sees "\x7b" then return { pattern, action := some (← block statement) }
  else if isPlain then
    match (← peek).token with
    | .newline | .symbol ";" | .finish => return { pattern, action := none }
    | _ => refuse
  else refuse

/-- Rules and functions up to the end, at most so many. -/
def rulesUpTo : Nat → Program → Parser Program
  | 0, program => return program
  | steps + 1, program => do
      skipLines
      match (← peek).token with
      | .finish => return program
      | .keyword "function" =>
          skip
          let found ← function
          let _ ← accept ";"
          rulesUpTo steps { program with functions := program.functions ++ [found] }
      | _ =>
          let found ← rule
          let _ ← accept ";"
          rulesUpTo steps { program with rules := program.rules ++ [found] }

/-- The faults of calls: of functions that do not exist, and with too many arguments. -/
def callFaults (last : Nat) (program : Program) (calls : List (String × Nat × Nat)) :
    List ProgramFault :=
  calls.filterMap fun (name, count, line) =>
    match program.functions.lookup name with
    | none => some ⟨some last, rowOf ("function " ++ name ++ " never defined")⟩
    | some function =>
        if count > function.parameters.length then
          some ⟨some line, rowOf ("too many arguments in call to " ++ name)⟩
        else none

end Parser

/-- Reads a program. -/
def parse (program : Row) : Except (List ProgramFault) Program :=
  let tokens := tokensOf program
  match (Parser.rulesUpTo (tokens.length + 1) {}).run { tokens } with
  | .error (fault, found) => .error (fault :: found.faults).reverse
  | .ok (program, found) =>
      let last := (tokens.getLast?.map Located.line).getD 1
      let faults := if found.faults.isEmpty then Parser.callFaults last program found.calls
        else found.faults.reverse
      if faults.isEmpty then .ok program else .error faults

end TestAmplification.Shell.Awk
