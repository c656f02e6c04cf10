import TestAmplification.Shell.Script.Tokens

/-!
# Reading commands

A script is read line by line, where a compound command may go on over several
lines. Reserved words count only where a command may start, and only unquoted.

Every kind of command is read with the readers of the commands inside it as a
parameter, and a bound on the nesting closes the circle.

Where a script cannot be read further, the fault says what stands there, and
what should stand there if that is certain.

In the extended dialect there are also conditions between double brackets, expressions
between double parentheses, and loops that count.
-/

set_option autoImplicit false

namespace TestAmplification.Shell

open Reader

/-- The builtins whose faults end a script. -/
def specialBuiltins : List String :=
  [":", ".", "break", "continue", "eval", "exec", "exit", "export", "local", "readonly", "return",
    "set", "shift", "times", "trap", "unset"]

/-- The builtins whose arguments may be assignments in the extended dialect. -/
def declaringBuiltins : List String :=
  ["declare", "export", "local", "readonly", "typeset"]

/-- A word that starts with an unquoted text. -/
def wordWith (text : List Char) (rest : Word) : Word :=
  if text.isEmpty then rest else .text text false :: rest

/-- Cuts an index from what follows its closing bracket. -/
def cutIndex (word : Word) : Word × Option Word :=
  cutWord (fun (depth : Nat) character =>
    if character = '[' then some (depth + 1)
    else if character = ']' then if depth = 0 then none else some (depth - 1)
    else some depth) 0 word

/-- The assignment that a word is, if it is one. -/
def assignment? (dialect : Dialect) : Word → Option Assignment
  | .text characters false :: rest =>
      let name := characters.takeWhile continuesName
      let text := String.ofList name
      if !isName name then none
      else
        match dialect, characters.drop name.length with
        | _, '=' :: value => some (.mk text none false (wordWith value rest))
        | .extended, '+' :: '=' :: value => some (.mk text none true (wordWith value rest))
        | .extended, '[' :: more =>
            match cutIndex (.text more false :: rest) with
            | (index, some (.text ('=' :: value) false :: rest)) =>
                some (.mk text (some index) false (wordWith value rest))
            | (index, some (.text ('+' :: '=' :: value) false :: rest)) =>
                some (.mk text (some index) true (wordWith value rest))
            | _ => none
        | _, _ => none
  | _ => none

/-! ## Redirections -/

/-- What an operator does with a stream, and which stream that is by itself. -/
def redirectionKind? (operator : List Char) : Option (RedirectionKind × Nat) :=
  if operator = ['>'] then some (.write, 1)
  else if operator = ['>', '|'] then some (.overwrite, 1)
  else if operator = ['>', '>'] then some (.append, 1)
  else if operator = ['<'] then some (.read, 0)
  else if operator = ['<', '>'] then some (.update, 0)
  else if operator = ['>', '&'] then some (.duplicate, 1)
  else if operator = ['<', '&'] then some (.duplicate, 0)
  else if operator = ['<', '<', '<'] then some (.line, 0)
  else if operator = ['&', '>'] then some (.writeAll, 1)
  else if operator = ['&', '>', '>'] then some (.appendAll, 1)
  else none

/-- Takes a redirection, if one comes next. -/
def redirection (grammar : Grammar) : Reader (Option Redirection) := do
  let first ← token grammar
  let (stream, holder, next) ←
    match first with
    | .stream number => pure (some number, none, ← token grammar)
    | .freeStream name => pure (none, some name, ← token grammar)
    | _ => pure (none, none, first)
  let made (standard : Nat) (kind : RedirectionKind) (target : Word) : Redirection :=
    match holder with
    | some name => .free name kind target
    | none => .mk (stream.getD standard) kind target
  match next with
  | .document text => return some (made 0 .document text)
  | .operator operator =>
      match redirectionKind? operator with
      | some (kind, standard) =>
          match ← token grammar with
          | .word word => return some (made standard kind word)
          | other => unexpected other none
      | none =>
          giveBack next
          return none
  | _ =>
      giveBack next
      return none

/-- Takes redirections, at most so many; those before come last first. -/
def redirectionsUpTo (grammar : Grammar) :
    Nat → List Redirection → Reader (List Redirection)
  | 0, before => return before.reverse
  | steps + 1, before => do
      match ← redirection grammar with
      | some found => redirectionsUpTo grammar steps (found :: before)
      | none => return before.reverse

/-! ## Simple commands -/

/-- The pieces of a simple command, each kind with the last one first. -/
structure SimplePieces where
  /-- The assignments before the first word. -/
  assignments : List Assignment := []
  /-- The words. -/
  words : List Word := []
  /-- The redirections, wherever they stand. -/
  redirections : List Redirection := []

/-- The command that the pieces make. -/
def SimplePieces.command (pieces : SimplePieces) (place : Stretch) : Command :=
  .simple place pieces.assignments.reverse pieces.words.reverse pieces.redirections.reverse

/-- May the next word of a simple command assign a list? -/
def SimplePieces.mayAssign (pieces : SimplePieces) : Bool :=
  match pieces.words.getLast? with
  | none => true
  | some first => ((bareText? first).map declaringBuiltins.contains).getD false

/-- Does a compound command start with the token? -/
def startsCompound (token : Token) : Bool :=
  token.isOperator ['(']
    || (token.bareText?.map ["\x7b", "[[", "case", "for", "if", "select", "until",
      "while"].contains).getD false

/-- Takes the body of a function, which is a compound command in the extended dialect. -/
def functionBody (grammar : Grammar) : Reader Command := do
  skipLines grammar
  let next ← peekToken grammar
  if (← isExtended) && !startsCompound next then unexpected next none
  grammar.command

/-- Takes the rest of a function after the opening parenthesis. -/
def functionAfter (grammar : Grammar) (name : Option String) : Reader Command := do
  let closing ← token grammar
  if !closing.isOperator [')'] then
    unexpectedAs (if closing.bareText?.isSome then "word" else closing.describe) closing
      (some "\")\"")
  match name with
  | some name =>
      let isBad := !isName name.toList || specialBuiltins.contains name
      if isBad && !(← isExtended) then refuse .badFunctionName
      return .define name (← functionBody grammar)
  | none => refuse .badFunctionName

/-- Takes a function that is introduced by a word of its own. -/
def functionWithWord (grammar : Grammar) : Reader Command := do
  let token ← token grammar
  match token.bareText? with
  | some name =>
      if ← takesOperator grammar ['('] then operator grammar [')']
      return .define name (← functionBody grammar)
  | none => unexpected token none

/-- The line of a command whose first piece was taken: in the extended dialect that where the
piece ends, or that of the token behind it if the piece is a word, which may be the name of a
function. -/
def lineAfterFirst (grammar : Grammar) (line : Nat) (pieces : SimplePieces) : Reader Nat := do
  let count := pieces.assignments.length + pieces.words.length + pieces.redirections.length
  if count ≠ 1 || !(← isExtended) then return line
  if pieces.words.isEmpty then return (← get).line
  let next ← assigning pieces.mayAssign (peekToken grammar)
  let reading ← get
  match next with
  | .operator ['\n'] | .document _ => return line
  | _ => return reading.line

/-- Takes the pieces of a simple command, at most so many. -/
def simpleWith (grammar : Grammar) (place : Stretch) : Nat → SimplePieces → Reader Command
  | 0, pieces => return pieces.command place
  | steps + 1, pieces => do
      let place := { place with line := ← lineAfterFirst grammar place.line pieces }
      match ← assigning pieces.mayAssign (redirection grammar) with
      | some found =>
          simpleWith grammar place steps
            { pieces with redirections := found :: pieces.redirections }
      | none =>
          if pieces.words.isEmpty then replaceAliases grammar longestScript
          match ← token grammar with
          | .word word =>
              match pieces.words, assignment? (← get).dialect word with
              | [], some assignment =>
                  simpleWith grammar place steps
                    { pieces with assignments := assignment :: pieces.assignments }
              | _, _ => simpleWith grammar place steps { pieces with words := word :: pieces.words }
          | other =>
              match other.isOperator ['('], pieces with
              | true, ⟨[], [name], []⟩ => functionAfter grammar (bareText? name)
              | _, _ =>
                  giveBack other
                  return pieces.command { place with rest := (← get).tokenStart }

/-! ## Compound commands -/

/-- Takes the rest of a choice, with at most so many further conditions. -/
def choiceAfter (grammar : Grammar) : Nat → Reader Command
  | 0 => refuse .openBrace
  | steps + 1 => do
      let condition ← grammar.someList
      reserved grammar "then"
      let yes ← grammar.someList
      if ← takesReserved grammar "elif" then
        return .choice condition yes (← choiceAfter grammar steps)
      else if ← takesReserved grammar "else" then
        let no ← grammar.someList
        reserved grammar "fi"
        return .choice condition yes no
      else
        reserved grammar "fi"
        return .choice condition yes (.sequence [])

/-- Takes the rest of a loop. -/
def loopAfter (grammar : Grammar) (untilSuccess : Bool) : Reader Command := do
  let condition ← grammar.someList
  reserved grammar "do"
  let body ← grammar.someList
  reserved grammar "done"
  return .loop untilSuccess condition body

/-- Takes words, at most so many, and the token after them; those before come
last first. -/
def wordsUpTo (grammar : Grammar) : Nat → List Word → Reader (List Word × Token)
  | 0, before => return (before.reverse, .finish)
  | steps + 1, before => do
      match ← token grammar with
      | .word word => wordsUpTo grammar steps (word :: before)
      | other => return (before.reverse, other)

/-- Is the next token the given word with a meaning in the extended dialect? If so, it is
taken. -/
def takesExtendedWord (grammar : Grammar) (text : String) : Reader Bool := do
  if ← isExtended then takesReserved grammar text else return false

/-- Takes the body of a loop that goes through values, which may stand between braces in the
extended dialect. -/
def loopBody (grammar : Grammar) : Reader Command := do
  skipLines grammar
  if ← takesExtendedWord grammar "\x7b" then
    let body ← grammar.someList
    reserved grammar "\x7d"
    return body
  else
    reserved grammar "do"
    let body ← grammar.someList
    reserved grammar "done"
    return body

/-- The parts of a text between semicolons. -/
def cutAtSemicolons (word : Word) : List Word :=
  let step (_ : Unit) (character : Char) : Option Unit := if character = ';' then none else some ()
  match cutWord step () word with
  | (first, none) => [first]
  | (first, some rest) =>
      match cutWord step () rest with
      | (second, none) => [first, second]
      | (second, some third) => [first, second, third]

/-- Takes the expressions of a loop that counts, after the first of two parentheses. -/
def countingAfter (grammar : Grammar) (line : Nat) : Reader Command := do
  let text := (← get).rest
  let expressions ← enclosed do
    skip
    parts grammar longestScript (.arithmetic 0) {}
  let unquoted := expressions.map fun
    | .text characters _ => .text characters false
    | part => part
  match cutAtSemicolons unquoted with
  | [start, condition, step] =>
      let _ ← takesOperator grammar [';']
      return .counting line start condition step (← loopBody grammar)
  | _ =>
      let read := text.take (text.length - (← get).rest.length)
      refuse (.badCounting ('(' :: read))

/-- Takes the rest of a loop over fields. -/
def forEachAfter (grammar : Grammar) (line : Nat) : Reader Command := do
  let first ← token grammar
  let reading ← get
  if reading.dialect = .extended && first.isOperator ['('] && reading.rest.head? == some '(' then
    countingAfter grammar line
  else
    let name := first.bareText?.getD ""
    if first.isOperator ['\n'] then unexpected first none
    if !isName name.toList then refuse (.badLoopVariable (← spellingOf first))
    skipLines grammar
    let words ←
      if ← takesReserved grammar "in" then
        let (words, after) ← assigning false (wordsUpTo grammar longestScript [])
        if !(after.isOperator [';'] || after.isOperator ['\n']) then unexpected after none
        pure (some words)
      else
        let _ ← takesOperator grammar [';']
        pure none
    return .forEach line name words (← loopBody grammar)

/-- Takes a token as a pattern. Only in the plain dialect it need not be a word. -/
def patternOf (token : Token) : Reader Word := do
  match token with
  | .word word => return word
  | token => if ← isExtended then unexpected token none else return []

/-- Takes the patterns of a branch, at most so many, up to the closing
parenthesis; those before come last first. -/
def patternsUpTo (grammar : Grammar) : Nat → List Word → Reader (List Word)
  | 0, before => return before.reverse
  | steps + 1, before => do
      let pattern ← patternOf (← token grammar)
      let separator ← Shell.token grammar
      if separator.isOperator ['|'] then patternsUpTo grammar steps (pattern :: before)
      else if separator.isOperator [')'] then return (pattern :: before).reverse
      else
        unexpectedAs (if separator.bareText?.isSome then "word" else separator.describe) separator
          (some "\")\"")

/-- The end of a branch that a token is. -/
def branchEnd? (token : Token) : Option BranchEnd :=
  if token.isOperator [';', ';'] then some .finish
  else if token.isOperator [';', '&'] then some .runOn
  else if token.isOperator [';', ';', '&'] then some .matchOn
  else none

/-- Takes the branches of a choice by patterns, at most so many; those before come
last first. -/
def branchesUpTo (grammar : Grammar) :
    Nat → List (List Word × Command × BranchEnd) → Reader (List (List Word × Command × BranchEnd))
  | 0, before => return before.reverse
  | steps + 1, before => do
      skipLines grammar
      if ← takesReserved grammar "esac" then return before.reverse
      let _ ← takesOperator grammar ['(']
      let patterns ← patternsUpTo grammar longestScript []
      let body ← grammar.list
      let after ← token grammar
      if after.bareText? = some "esac" then return ((patterns, body, .finish) :: before).reverse
      else
        match branchEnd? after with
        | some ending => branchesUpTo grammar steps ((patterns, body, ending) :: before)
        | none => unexpected after (some "\";;\"")

/-- Takes the rest of a choice by patterns. -/
def caseAfter (grammar : Grammar) (line : Nat) : Reader Command := do
  match ← assigning false (token grammar) with
  | .word word =>
      skipLines grammar
      reserved grammar "in"
      return .caseOf line word (← branchesUpTo grammar longestScript [])
  | other => unexpected other (some "word")

/-! ## Conditions -/

/-- The operators in front of a word in a condition. -/
def unaryOperators : List String :=
  ["-a", "-b", "-c", "-d", "-e", "-f", "-g", "-h", "-k", "-n", "-o", "-p", "-r", "-s", "-t", "-u",
    "-v", "-w", "-x", "-z", "-G", "-L", "-N", "-O", "-R", "-S"]

/-- The operators between words in a condition. -/
def binaryOperators : List String :=
  ["=", "==", "!=", "=~", "-eq", "-ne", "-lt", "-le", "-gt", "-ge", "-nt", "-ot", "-ef"]

/-- The last word in a line. -/
def lastWordIn (line : List Char) : List Char :=
  let separates (character : Char) : Bool := [' ', '\t', ';', '|', '&'].contains character
  ((line.reverse.dropWhile separates).takeWhile fun character => !separates character).reverse

/-- Refuses a condition at a token. If the line ends there, its last word is to blame. -/
def refuseCondition {α : Type} (reason : Option String) (token : Token) : Reader α := do
  let reason := reason.map fun reason => reason.toList
  match token with
  | .finish => refuse (.openCondition false)
  | token =>
      if token.isOperator ['\n'] then
        let reading ← get
        refuseAt (reading.line - 1)
          (.badCondition reason (lastWordIn (reading.tokenLine.takeWhile (· != '\n'))))
      else refuse (.badCondition reason (← spellingOf token))

/-- Takes a word of a condition, after an operator of some kind. -/
def conditionWord (grammar : Grammar) (kind : String) : Reader Word := do
  let token ← token grammar
  match token with
  | .word word =>
      if token.bareText? = some "]]" then
        refuseCondition (some ("unexpected argument \x60]]' to conditional " ++ kind ++ " operator")) token
      else return word
  | token =>
      let spelling := String.ofList (← spellingOf token)
      refuseCondition (some ("unexpected argument \x60" ++ spelling ++ "' to conditional " ++ kind
        ++ " operator")) token

/-- Takes the right side of an operator between words. What is compared with may be a
pattern. -/
def rightSide (grammar : Grammar) (operator : String) : Reader Word := do
  let before := (← get).hasGroups
  if operator = "=~" then
    skipBlanks longestScript
    modify fun reading => { reading with tokenLine := reading.present, tokenStart := reading.rest }
    match ← parts grammar longestScript (.expression 0) {} with
    | [] => conditionWord grammar "binary"
    | word => return word
  else
    modify fun reading => { reading with hasGroups := before || ["=", "==", "!="].contains operator }
    let word ← conditionWord grammar "binary"
    modify fun reading => { reading with hasGroups := before }
    return word

/-- The operator between words that a token is. -/
def binaryOperator? (token : Token) : Option String :=
  match token with
  | .operator ['<'] => some "<"
  | .operator ['>'] => some ">"
  | token => token.bareText?.filter binaryOperators.contains

/-- Takes a condition that is a word, or compares a word. -/
def comparison (grammar : Grammar) (first : Word) : Reader Condition := do
  let next ← token grammar
  match binaryOperator? next, next with
  | some operator, _ => return .binary first operator (← rightSide grammar operator)
  | none, .word _ =>
      if next.bareText? = some "]]" then
        giveBack next
        return .word first
      else refuseCondition (some "conditional binary operator expected") next
  | none, token =>
      if [['&', '&'], ['|', '|'], [')']].any token.isOperator then
        giveBack next
        return .word first
      else
        refuseCondition (some ("unexpected token \x60" ++ String.ofList token.spelling
          ++ "', conditional binary operator expected")) token

/-- Takes a part of a condition after at most so many signs of negation. What stands in
parentheses is read by the given reader. -/
def conditionTerm (grammar : Grammar) (inner : Reader Condition) : Nat → Reader Condition
  | 0 => refuse (.openCondition true)
  | steps + 1 => do
      skipLines grammar
      let first ← token grammar
      match first, first.bareText? with
      | .operator ['('], _ =>
          let condition ← inner
          let closing ← token grammar
          if closing.isOperator [')'] then return condition
          else
            let spelling := String.ofList (← spellingOf closing)
            refuseCondition (some ("unexpected token \x60" ++ spelling ++ "', expected \x60)'")) closing
      | _, some "!" => return .negation (← conditionTerm grammar inner steps)
      | _, some "]]" => refuseCondition none first
      | .word word, some text =>
          if unaryOperators.contains text && (binaryOperator? (← peekToken grammar)).isNone then
            return .unary text (← conditionWord grammar "unary")
          else comparison grammar word
      | .word word, none => comparison grammar word
      | token, _ =>
          let spelling := String.ofList (← spellingOf token)
          refuseCondition (some ("unexpected token \x60" ++ spelling ++ "' in conditional command"))
            token

/-- Takes the conditions that are joined to a first one by an operator, at most so
many. -/
def joinedConditions (grammar : Grammar) (operator : List Char)
    (join : Condition → Condition → Condition) (operand : Reader Condition) :
    Nat → Condition → Reader Condition
  | 0, first => return first
  | steps + 1, first => do
      skipLines grammar
      if ← takesOperator grammar operator then
        joinedConditions grammar operator join operand steps (join first (← operand))
      else return first

/-- Takes a condition with at most so many parentheses in one another. -/
def conditionUpTo (grammar : Grammar) : Nat → Reader Condition
  | 0 => refuse (.openCondition true)
  | depth + 1 => do
      let term := conditionTerm grammar (conditionUpTo grammar depth) longestScript
      let both : Reader Condition := do
        joinedConditions grammar ['&', '&'] .both term longestScript (← term)
      joinedConditions grammar ['|', '|'] .either both longestScript (← both)

/-- Takes the rest of a condition after its opening brackets. -/
def conditionAfter (grammar : Grammar) (place : Stretch) : Reader Command := do
  let condition ← enclosed (assigning false (conditionUpTo grammar 500))
  let closing ← token grammar
  if closing.bareText? = some "]]" then
    return .condition { place with rest := (← get).rest } condition
  else
    let reason := "syntax error in conditional expression"
    match closing with
    | .finish => refuseAt place.line (.openCondition true)
    | .word _ => refuseCondition (some reason) closing
    | _ =>
        let spelling := String.ofList (← spellingOf closing)
        refuseCondition (some (reason ++ ": unexpected token \x60" ++ spelling ++ "'")) closing

/-! ## Calculations -/

/-- Takes an expression between double parentheses, after the first of them, or nothing when
it is none. -/
def calculationAfter? (place : Stretch) (grammar : Grammar) : Reader (Option Command) := do
  let reading ← get
  let reader : Reader Word := do
    skip
    enclosed (parts grammar longestScript (.arithmetic 0) {})
  match (StateT.run reader reading : Except Refusal (Word × Reading)) with
  | .ok (expression, after) =>
      set after
      return some (.calculation { place with rest := after.rest } expression)
  | .error refusal =>
      if refusal.fault = .looseParenthesis then return none else throw refusal

/-- Takes a command of the extended dialect that starts with a word of its own, if one
comes next. -/
def extendedCommand? (grammar : Grammar) (place : Stretch) (first : Token) :
    Reader (Option Command) := do
  let reading ← get
  if reading.dialect = .plain then return none
  else
    match first, first.bareText? with
    | .operator ['('], _ =>
        if reading.rest.head? == some '(' then calculationAfter? place grammar else return none
    | _, some "[[" => return some (← conditionAfter grammar place)
    | _, some "function" => return some (← functionWithWord grammar)
    | _, _ => return none

/-- Takes a command. -/
def commandWith (grammar : Grammar) : Reader Command := do
  replaceAliases grammar longestScript
  let first ← token grammar
  let { line, tokenStart, .. } ← get
  let place : Stretch := { line, start := tokenStart }
  let compound (body : Reader Command) : Reader Command := do
    let command ← body
    match ← redirectionsUpTo grammar longestScript [] with
    | [] => return command
    | redirections => return .redirected line command redirections
  match ← extendedCommand? grammar place first with
  | some (.define name body) => return .define name body
  | some command => compound (return command)
  | none =>
  match first, first.bareText? with
  | .operator ['('], _ =>
      compound do
        let body ← grammar.someList
        operator grammar [')']
        return .subshell body
  | _, some "\x7b" =>
      compound do
        let body ← grammar.someList
        reserved grammar "\x7d"
        return body
  | _, some "if" => compound (choiceAfter grammar longestScript)
  | _, some "while" => compound (loopAfter grammar false)
  | _, some "until" => compound (loopAfter grammar true)
  | _, some "for" => compound (forEachAfter grammar line)
  | _, some "case" => compound (caseAfter grammar line)
  | .word _, text =>
      if (text.map fun text => closingWords.contains text || text == "!").getD false then
        unexpected first none
      else
        giveBack first
        simpleWith grammar place longestScript {}
  | .stream _, _ | .freeStream _, _ | .document _, _ =>
      giveBack first
      simpleWith grammar place longestScript {}
  | .operator operator, _ =>
      if (redirectionKind? operator).isSome then
        giveBack first
        simpleWith grammar place longestScript {}
      else unexpected first none
  | .finish, _ => unexpected first none

/-! ## Pipelines and lists -/

/-- A command that also passes on what it says about faults. -/
def sayingAll (line : Nat) : Command → Command
  | .simple place assignments words redirections =>
      .simple place assignments words (redirections ++ [.mk 2 .duplicate [.text ['1'] false]])
  | .redirected line command redirections =>
      .redirected line command (redirections ++ [.mk 2 .duplicate [.text ['1'] false]])
  | command => .redirected line command [.mk 2 .duplicate [.text ['1'] false]]

/-- Takes the commands of a pipeline, at most so many; those before come last
first. -/
def pipelineUpTo (grammar : Grammar) : Nat → List Command → Reader (List Command)
  | 0, before => return before.reverse
  | steps + 1, before => do
      let command ← commandWith grammar
      if ← takesOperator grammar ['|'] then
        skipLines grammar
        pipelineUpTo grammar steps (command :: before)
      else if ← takesOperator grammar ['|', '&'] then
        let line := (← get).line
        skipLines grammar
        pipelineUpTo grammar steps (sayingAll line command :: before)
      else return (command :: before).reverse

/-- Takes a pipeline behind at most so many words that turn its result around or ask for its
time. -/
def pipelineAfter (grammar : Grammar) : Nat → Reader Command
  | 0 => refuse .openBrace
  | steps + 1 => do
      replaceAliases grammar longestScript
      let isExtended ← isExtended
      if ← takesReserved grammar "!" then
        let next ← peekToken grammar
        if isExtended && next.bareText? = some "!" then
          return .negated (← pipelineAfter grammar steps)
        else
          match ← pipelineUpTo grammar longestScript [] with
          | [command] => return .negated command
          | commands => return .negated (.pipeline commands)
      else if ← takesExtendedWord grammar "time" then
        let _ ← takesReserved grammar "-p"
        return .timed (← pipelineAfter grammar steps)
      else
        match ← pipelineUpTo grammar longestScript [] with
        | [command] => return command
        | commands => return .pipeline commands

/-- Takes a pipeline, possibly with its result turned around. -/
def pipelineWith (grammar : Grammar) : Reader Command :=
  pipelineAfter grammar longestScript

/-- Takes the pipelines that depend on the success of a command, at most so
many. -/
def conditionalAfter (grammar : Grammar) : Nat → Command → Reader Command
  | 0, first => return first
  | steps + 1, first => do
      if ← takesOperator grammar ['&', '&'] then
        skipLines grammar
        conditionalAfter grammar steps (.andThen first (← pipelineWith grammar))
      else if ← takesOperator grammar ['|', '|'] then
        skipLines grammar
        conditionalAfter grammar steps (.orElse first (← pipelineWith grammar))
      else return first

/-- Takes a pipeline and those that depend on its success. -/
def conditionalWith (grammar : Grammar) : Reader Command := do
  conditionalAfter grammar longestScript (← pipelineWith grammar)

/-- Can the token stand at the end of a list? -/
def endsList (token : Token) : Bool :=
  match token with
  | .finish => true
  | .operator operator =>
      operator == [')'] || [[';', ';'], [';', '&'], [';', ';', '&']].contains operator
  | token => (token.bareText?.map closingWords.contains).getD false

/-- Takes commands up to what cannot be part of their list, at most so many; those
before come last first. -/
def commandsUpTo (grammar : Grammar) (mayEnd : Bool) :
    Nat → List Command → Reader (List Command)
  | 0, before => return before.reverse
  | steps + 1, before => do
      skipLines grammar
      replaceAliases grammar longestScript
      let next ← peekToken grammar
      match next with
      | .finish => return before.reverse
      | _ =>
          if mayEnd && endsList next then return before.reverse
          let command ← conditionalWith grammar
          if ← takesOperator grammar ['&'] then
            commandsUpTo grammar true steps (.background command :: before)
          else if (← takesOperator grammar [';']) || (← takesOperator grammar ['\n']) then
            commandsUpTo grammar true steps (command :: before)
          else return (command :: before).reverse

/-- Takes commands up to the end of their line, at most so many; those before come
last first. -/
def lineUpTo (grammar : Grammar) : Nat → List Command → Reader (List Command)
  | 0, before => return before.reverse
  | steps + 1, before => do
      let next ← token grammar
      if next.isOperator ['\n'] then return before.reverse
      giveBack next
      match next with
      | .finish => return before.reverse
      | _ =>
          let command ← conditionalWith grammar
          if ← takesOperator grammar ['&'] then
            lineUpTo grammar steps (.background command :: before)
          else if ← takesOperator grammar [';'] then lineUpTo grammar steps (command :: before)
          else
            let after ← token grammar
            match after with
            | .finish =>
                giveBack after
                return (command :: before).reverse
            | _ =>
                if after.isOperator ['\n'] then return (command :: before).reverse
                else unexpected after none

/-! ## Scripts -/

/-- The readers for commands that are nested at most so deeply. -/
def grammarUpTo : Nat → Grammar
  | 0 => ⟨refuse .openBrace, refuse .openBrace, refuse .openBrace⟩
  | depth + 1 =>
      let inner := grammarUpTo depth
      { list := return .sequence (← commandsUpTo inner true longestScript [])
        someList := return .sequence (← commandsUpTo inner false longestScript [])
        command := commandWith inner }

/-- The deepest nesting of commands. -/
def deepestNesting : Nat := 500

/-- The readers for commands. -/
def scriptGrammar : Grammar := grammarUpTo deepestNesting

/-- What the next line of a script holds. -/
inductive ScriptLine where
  /-- Nothing, since the script is at its end. -/
  | finish
  /-- Commands, and whether they are the last ones. -/
  | commands (commands : List Command) (isLast : Bool) (rest : Reading)
  /-- Something that is no command. -/
  | broken (refusal : Refusal)

/-- Reads the next line of a script. -/
def nextLine (reading : Reading) : ScriptLine :=
  let reader : Reader (Option (List Command)) := do
    let first ← token scriptGrammar
    match first with
    | .finish => return none
    | _ =>
        giveBack first
        return some (← lineUpTo scriptGrammar longestScript [])
  match StateT.run reader reading with
  | .ok (none, _) => .finish
  | .ok (some commands, rest) =>
      .commands commands
        (rest.rest.isEmpty || (rest.held.map fun token =>
          match token with
          | .finish => true
          | _ => false).getD false) rest
  | .error refusal => .broken refusal

end TestAmplification.Shell
