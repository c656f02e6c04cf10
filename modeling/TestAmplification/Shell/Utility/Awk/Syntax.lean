import TestAmplification.Shell.Row
import TestAmplification.Shell.Utility.Awk.Value

/-!
# Programs of `awk` and their tokens

A program as data, and the tokens that it is read from.
-/

set_option autoImplicit false

/-!
## Programs of `awk`

A program is a list of rules. A rule has a pattern that says which records it is meant
for, and statements for what is done with them. Functions are written beside the rules.
-/

namespace TestAmplification.Shell.Awk

/-- What is done with two numbers. -/
inductive Operation where
  | add
  | subtract
  | multiply
  | divide
  | remainder
  | power
deriving DecidableEq, Inhabited

/-- How two values are compared. -/
inductive Relation where
  | less
  | atMost
  | equal
  | different
  | greater
  | atLeast
deriving DecidableEq, Inhabited

/-- A function that every program has. -/
inductive Builtin where
  | length
  | substr
  | index
  | split
  | sub
  | gsub
  | find
  | sprintf
  | sin
  | cos
  | atan2
  | exp
  | log
  | sqrt
  | int
  | rand
  | srand
  | tolower
  | toupper
  | system
  | close
  | flush
  | moment
deriving DecidableEq, Inhabited

/-- Where a line is read from. -/
inductive LineSource where
  /-- The inputs of the program. -/
  | inputs
  /-- A file. -/
  | file
  /-- What a command writes. -/
  | command
deriving DecidableEq, Inhabited

/-- An expression. -/
inductive Expression where
  /-- A number. -/
  | number (value : Float)
  /-- A text. -/
  | text (row : Row)
  /-- A regular expression. -/
  | regex (row : Row)
  /-- A variable. -/
  | named (name : String)
  /-- An element of an array. -/
  | element (name : String) (subscripts : List Expression)
  /-- A field of the record. -/
  | field (index : Expression)
  /-- An assignment, perhaps with an operation. -/
  | assign (operation : Option Operation) (target value : Expression)
  /-- A step up or down, and whether the value is that before the step. -/
  | step (isUp isAfter : Bool) (target : Expression)
  /-- The number with the other sign. -/
  | negative (inner : Expression)
  /-- The number of a value. -/
  | positive (inner : Expression)
  /-- Whether a value is false. -/
  | negated (inner : Expression)
  /-- An operation on two numbers. -/
  | operate (operation : Operation) (first second : Expression)
  /-- A comparison. -/
  | relate (relation : Relation) (first second : Expression)
  /-- One text after the other. -/
  | joined (first second : Expression)
  /-- Whether both values are true. -/
  | both (first second : Expression)
  /-- Whether one of two values is true. -/
  | either (first second : Expression)
  /-- One of two values. -/
  | choice (condition yes no : Expression)
  /-- Whether a pattern occurs in a text. -/
  | occurs (text pattern : Expression)
  /-- Whether an array has an element. -/
  | holds (subscripts : List Expression) (name : String)
  /-- A call of a function of the program. -/
  | call (name : String) (arguments : List Expression)
  /-- A call of a function that every program has. -/
  | builtin (function : Builtin) (arguments : List Expression)
  /-- A line is read, into the record or into a target. -/
  | getline (source : LineSource) (path : Expression) (target : Option Expression)
deriving Inhabited

/-- Where something is written. -/
inductive SinkKind where
  /-- A file, from its start. -/
  | file
  /-- A file, at its end. -/
  | added
  /-- The input of a command. -/
  | command
deriving DecidableEq, Inhabited

/-- A statement. -/
inductive Statement where
  /-- An expression is worked out. -/
  | expression (expression : Expression)
  /-- Values are written. -/
  | print (arguments : List Expression) (sink : Option (SinkKind × Expression))
  /-- Values are written by a format. -/
  | printf (arguments : List Expression) (sink : Option (SinkKind × Expression))
  /-- One of two statements is run. -/
  | choice (condition : Expression) (yes no : Statement)
  /-- A statement is run as long as a condition holds, which may be looked at first or
  last. -/
  | loop (isAfter : Bool) (condition : Option Expression) (step body : Statement)
  /-- A statement is run for each subscript of an array. -/
  | forEach (name array : String) (body : Statement)
  /-- Statements are run one after the other. -/
  | block (statements : List Statement)
  /-- The loop is left. -/
  | leaveLoop
  /-- The round of the loop is left. -/
  | leaveRound
  /-- The record is left. -/
  | next
  /-- The input is left. -/
  | nextInput
  /-- The program ends. -/
  | exit (status : Option Expression)
  /-- The function is left with a value. -/
  | giveBack (value : Option Expression)
  /-- An element of an array, or all of them, are deleted. -/
  | delete (name : String) (subscripts : Option (List Expression))
deriving Inhabited

/-- Which records a rule is meant for. -/
inductive Pattern where
  /-- None: the rule comes first. -/
  | first
  /-- None: the rule comes last. -/
  | last
  /-- Those for which an expression is true, or all. -/
  | condition (expression : Option Expression)
  /-- Those from one for which an expression is true to one for which another is. -/
  | range (start finish : Expression)
deriving Inhabited

/-- A rule. -/
structure Rule where
  /-- Which records it is meant for. -/
  pattern : Pattern
  /-- What is done with them; if nothing is said, they are written. -/
  action : Option Statement
deriving Inhabited

/-- A function. -/
structure Function where
  /-- The names of its parameters. -/
  parameters : List String
  /-- What it does. -/
  body : Statement
deriving Inhabited

/-- A program. -/
structure Program where
  /-- The rules. -/
  rules : List Rule := []
  /-- The functions by their names. -/
  functions : List (String × Function) := []
deriving Inhabited

/-- Why a text is no program: what is wrong, and on which line. -/
structure ProgramFault where
  /-- The line, if it is told. -/
  line : Option Nat
  /-- What is wrong. -/
  message : Row
deriving Inhabited

/-- The fault as it is told. -/
def ProgramFault.row (fault : ProgramFault) : Row :=
  match fault.line with
  | some line => rowOf "line " ++ natRow line ++ rowOf ": " ++ fault.message
  | none => fault.message

end TestAmplification.Shell.Awk

/-!
## Tokens of `awk`

A program is cut into tokens. A slash begins a regular expression where an operand is
missing, and divides elsewhere. A line feed is a token of its own, and a backslash in
front of it makes it disappear.
-/

namespace TestAmplification.Shell.Awk

/-- A token. -/
inductive Token where
  /-- The end of a line. -/
  | newline
  /-- A number. -/
  | number (value : Float)
  /-- A text. -/
  | text (row : Row)
  /-- A regular expression. -/
  | regex (row : Row)
  /-- A name, and whether a parenthesis follows at once. -/
  | name (name : String) (isCalled : Bool)
  /-- A function that every program has. -/
  | builtin (function : Builtin)
  /-- A word of the language. -/
  | keyword (word : String)
  /-- An operator or a mark. -/
  | symbol (symbol : String)
  /-- The end of the program. -/
  | finish
  /-- Something that is no token. -/
  | bad (fault : ProgramFault)
deriving Inhabited

/-- A token with its line and the text that it is shown as. -/
structure Located where
  /-- The token. -/
  token : Token
  /-- Its line. -/
  line : Nat
  /-- The text that it is shown as. -/
  shown : Row
deriving Inhabited

/-- The words of the language. -/
def keywords : List String :=
  ["BEGIN", "END", "function", "if", "else", "while", "for", "do", "break", "continue", "next",
    "nextfile", "exit", "return", "delete", "in", "getline", "print", "printf"]

/-- The functions that every program has, by their names. -/
def builtins : List (String × Builtin) :=
  [("length", .length), ("substr", .substr), ("index", .index), ("split", .split), ("sub", .sub),
    ("gsub", .gsub), ("match", .find), ("sprintf", .sprintf), ("sin", .sin), ("cos", .cos),
    ("atan2", .atan2), ("exp", .exp), ("log", .log), ("sqrt", .sqrt), ("int", .int),
    ("rand", .rand), ("srand", .srand), ("tolower", .tolower), ("toupper", .toupper),
    ("system", .system), ("close", .close), ("fflush", .flush), ("systime", .moment)]

/-- The operators and marks, those with two characters first. -/
def symbols : List String :=
  ["+=", "-=", "*=", "/=", "%=", "^=", "==", "<=", ">=", "!=", "++", "--", "&&", "||", "!~", ">>",
    "\x7b", "\x7d", "(", ")", "[", "]", ";", ",", "+", "-", "*", "/", "%", "^", "!", "<", ">", "|",
    "?", ":", "~", "$", "="]

/-- May an operand end with the token, so that a slash divides behind it? -/
def Token.endsOperand : Token → Bool
  | .number _ | .text _ | .regex _ | .name .. | .builtin _ => true
  | .symbol found => [")", "]", "$", "++", "--"].contains found
  | _ => false

/-- Is the token the operator or mark? -/
def Token.isSymbol (symbol : String) : Token → Bool
  | .symbol found => found == symbol
  | _ => false

/-! ### Texts -/

/-- The characters of a text after its escapes. A backslash in front of another character
stays. -/
def unescapedText : Nat → Row → Row
  | 0, row => row
  | _ + 1, [] => []
  | steps + 1, '\\' :: letter :: rest =>
      let octal := ((letter :: rest).take 3).takeWhile isOctalDigit
      let hexadecimal := (rest.take 2).takeWhile fun digit => (Text.hexDigit? digit).isSome
      if letter = '"' || letter = '\\' then letter :: unescapedText steps rest
      else if letter = '\n' then unescapedText steps rest
      else if !octal.isEmpty then
        Char.ofNat (octalValue octal % 256)
          :: unescapedText steps ((letter :: rest).drop octal.length)
      else if letter = 'x' && !hexadecimal.isEmpty then
        Char.ofNat (Text.hexValue hexadecimal) :: unescapedText steps (rest.drop hexadecimal.length)
      else
        match letterEscape? letter with
        | some character => character :: unescapedText steps rest
        | none => '\\' :: letter :: unescapedText steps rest
  | steps + 1, character :: rest => character :: unescapedText steps rest

/-- The characters of a text after its escapes. -/
def unescapedRow (row : Row) : Row :=
  if row.contains '\\' then unescapedText (row.length + 1) row else row

/-- The characters up to the end of a text in quotes, and what follows it. -/
def takeQuoted : Row → Row → Option (Row × Row)
  | _, [] => none
  | taken, '\\' :: character :: rest => takeQuoted (character :: '\\' :: taken) rest
  | taken, '"' :: rest => some (taken.reverse, rest)
  | _, '\n' :: _ => none
  | taken, character :: rest => takeQuoted (character :: taken) rest

/-- The characters up to the slash that ends a regular expression, and what follows it. A slash in
brackets ends nothing. -/
def takeSlashed : Bool → Row → Row → Option (Row × Row)
  | _, _, [] => none
  | _, _, '\n' :: _ => none
  | inBrackets, taken, '\\' :: '/' :: rest => takeSlashed inBrackets ('/' :: taken) rest
  | inBrackets, taken, '\\' :: character :: rest =>
      takeSlashed inBrackets (character :: '\\' :: taken) rest
  | false, taken, '/' :: rest => some (taken.reverse, rest)
  | false, taken, '[' :: '^' :: ']' :: rest => takeSlashed true (']' :: '^' :: '[' :: taken) rest
  | false, taken, '[' :: ']' :: rest => takeSlashed true (']' :: '[' :: taken) rest
  | inBrackets, taken, character :: rest =>
      takeSlashed (if character = '[' then true else if character = ']' then false else inBrackets)
        (character :: taken) rest

/-! ### Cutting -/

/-- The greatest number. -/
def greatestNumber : Float := (floatOfDigits 1 0).scaleB 1023 * (2.0 - (floatOfDigits 1 0).scaleB (-52))

/-- The least number above zero that has all its digits. -/
def leastNumber : Float := (floatOfDigits 1 0).scaleB (-1022)

/-- Can the character stand in a name? -/
def isNameCharacter (character : Char) : Bool :=
  character.isAlphanum || character == '_'

/-- The first token, and what follows it. What stands in front of it tells what a slash
means. -/
def takeToken (line : Nat) (afterOperand : Bool) (row : Row) :
    Except ProgramFault (Token × Row × Row) :=
  let isNumber := (row.head?.map Char.isDigit).getD false
    || (row.head? == some '.' && (row[1]?.map Char.isDigit).getD false)
  let first := row.head?.getD ' '
  if isNumber then
    match takeDecimal? row with
    | some (value, rest) =>
        let digits := row.take (row.length - rest.length)
        if value > greatestNumber || (value < leastNumber && digits.any fun digit => '1' ≤ digit && digit ≤ '9') then
          .error ⟨some line, digits ++ rowOf " : decimal overflow"⟩
        else .ok (.number value, digits, rest)
    | none => .error ⟨some line, rowOf "syntax error"⟩
  else if first.isAlpha || first = '_' then
    let characters := row.takeWhile isNameCharacter
    let rest := row.drop characters.length
    let name := String.ofList characters
    let token :=
      match builtins.lookup name with
      | some function => Token.builtin function
      | none =>
          if keywords.contains name then .keyword name else .name name (rest.head? == some '(')
    .ok (token, characters, rest)
  else if first = '"' then
    match takeQuoted [] (row.drop 1) with
    | some (inner, rest) => .ok (.text (unescapedRow inner), inner, rest)
    | none =>
        .error ⟨some line, rowOf "runaway string constant \"" ++ ((row.drop 1).takeWhile (· != '\n')).take 10
          ++ rowOf " ..."⟩
  else if first = '/' && !afterOperand then
    match takeSlashed false [] (row.drop 1) with
    | some (inner, rest) => .ok (.regex inner, '/' :: inner ++ ['/'], rest)
    | none =>
        .error ⟨some line, rowOf "runaway regular expression /"
          ++ ((row.drop 1).takeWhile (· != '\n')).take 10 ++ rowOf " ..."⟩
  else
    match symbols.findSome? fun symbol =>
        (Text.withoutStart? symbol.toList row).map (symbol, ·) with
    | some (symbol, rest) => .ok (.symbol symbol, symbol.toList, rest)
    | none =>
        .error ⟨none, natRow line ++ rowOf ": unexpected character '" ++ [first, '\'']⟩

/-- The tokens of a program from a line on, in at most so many steps. Those before come last
first. Where there is no token, a bad one ends them. -/
def tokensUpTo : Nat → Nat → Bool → List Located → Row → List Located
  | 0, line, _, before, _ | _ + 1, line, _, before, [] =>
      (({ token := .finish, line, shown := rowOf "end of file" } : Located) :: before).reverse
  | steps + 1, line, afterOperand, before, character :: rest =>
      if character = '\n' then
        tokensUpTo steps (line + 1) false
          ({ token := .newline, line, shown := rowOf "end of line" } :: before) rest
      else if isSpace character then tokensUpTo steps line afterOperand before rest
      else if character = '#' then
        tokensUpTo steps line afterOperand before (rest.dropWhile (· != '\n'))
      else
        match character, rest with
        | '\\', '\n' :: rest => tokensUpTo steps (line + 1) afterOperand before rest
        | '\\', '\r' :: '\n' :: rest => tokensUpTo steps (line + 1) afterOperand before rest
        | _, _ =>
            match takeToken line afterOperand (character :: rest) with
            | .error fault => (({ token := .bad fault, line, shown := [] } : Located) :: before).reverse
            | .ok (token, shown, rest) =>
                tokensUpTo steps line token.endsOperand ({ token, line, shown } :: before) rest

/-- The tokens of a program. -/
def tokensOf (program : Row) : List Located :=
  tokensUpTo (program.length + 2) 1 false [] (program ++ ['\n'])

end TestAmplification.Shell.Awk
