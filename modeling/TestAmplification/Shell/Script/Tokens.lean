import TestAmplification.Shell.Script.Words

/-!
# Cutting a script into tokens

A script is cut into words and operators on demand, because what a word may stand
for depends on where it stands, and a word may hold a script of its own. One
token can be given back.

A text that a redirection takes from the script itself stands after the line of
the redirection. It is cut out there and becomes a token of its own.

The extended dialect has more operators and more words with a meaning of their own.
-/

set_option autoImplicit false

namespace TestAmplification.Shell

open Reader

/-- The words with a meaning of their own where a command may start. -/
def reservedWords : List String :=
  ["!", "case", "do", "done", "elif", "else", "esac", "fi", "for", "if", "in", "then", "until",
    "while", "\x7b", "\x7d"]

/-- The words that have a meaning of their own in the extended dialect only. -/
def extendedReservedWords : List String :=
  ["[[", "coproc", "function", "select", "time"]

/-- Words that end a list of commands where a command could start. -/
def closingWords : List String :=
  ["then", "else", "elif", "fi", "do", "done", "esac", "\x7d"]

/-- A text between double quotes. -/
def inQuotes (text : String) : String :=
  "\"" ++ text ++ "\""

namespace Token

/-- How a fault calls a token. -/
def describe : Token → String
  | operator ['\n'] => "newline"
  | operator characters =>
      if ['<', '>'].contains (characters.head?.getD ' ') then "redirection"
      else inQuotes (String.ofList characters)
  | word characters =>
      match bareText? characters with
      | some text => if reservedWords.contains text then inQuotes text else "word"
      | none => "word"
  | finish => "end of file"
  | _ => "redirection"

/-- Is the token the given operator? -/
def isOperator (characters : List Char) : Token → Bool
  | operator found => found == characters
  | _ => false

/-- The token as a bare text, if it is one. -/
def bareText? : Token → Option String
  | word found => Shell.bareText? found
  | _ => none

end Token

/-! ## Texts in the script -/

/-- Takes the lines up to one that is the given end. Leading tabs are dropped if
that is wanted. Those before come last first. The answer says whether the end was found. -/
def takeDocument (dropsTabs : Bool) (ending : List Char) :
    Nat → List (List Char) → List Char → List (List Char) × List Char × Bool
  | 0, before, characters => (before, characters, false)
  | _ + 1, before, [] => (before, [], false)
  | steps + 1, before, characters =>
      let line := characters.takeWhile (· != '\n')
      let rest := characters.drop line.length
      let text := if dropsTabs then line.dropWhile (· == '\t') else line
      if text = ending then (before, rest.drop 1, true)
      else takeDocument dropsTabs ending steps ((text ++ rest.take 1) :: before) (rest.drop 1)

/-- The characters of a word as they stand, and whether some were quoted. -/
def endingOf (word : Word) : List Char × Bool :=
  (word.flatMap fun part =>
    match part with
    | .text characters _ => characters
    | .parameter (.named name) _ _ => '$' :: name.toList
    | _ => [],
  word.any fun part =>
    match part with
    | .text _ quoted => quoted
    | _ => false)

/-- Takes the text of a redirection with the given end out of the script. In the extended
dialect a text that is cut off still ends with a line end. -/
def document (grammar : Grammar) (dropsTabs : Bool) (ending : Word) : Reader Word := do
  let (ending, quoted) := endingOf ending
  let reading ← get
  let line := reading.rest.takeWhile (· != '\n')
  let after := reading.rest.drop line.length
  let (lines, left, isClosed) := takeDocument dropsTabs ending after.length [] (after.drop 1)
  let isCut := reading.dialect = .extended && !isClosed
  let text := lines.reverse.flatten
  let text := if isCut && !text.isEmpty && text.getLast? != some '\n' then text ++ ['\n'] else text
  let taken := if isCut then lines.length else (after.drop 1).count '\n' - left.count '\n'
  set { reading with
    rest := line ++ (if after.isEmpty then [] else '\n' :: left)
    hidden := reading.hidden + taken
    openTexts :=
      if isCut then
        let start := reading.line + reading.hidden
        { start, line := start + lines.length, ending } :: reading.openTexts
      else reading.openTexts }
  if quoted then return [.text text true]
  else within text (parts grammar longestScript .document {})

/-! ## Tokens -/

/-- Passes over blanks, escaped line ends and a comment, at most so many. -/
def skipBlanks : Nat → Reader Unit
  | 0 => return
  | steps + 1 => do
      match (← get).rest with
      | ' ' :: _ | '\t' :: _ => skip; skipBlanks steps
      | '\\' :: '\n' :: _ => skip; skip; skipBlanks steps
      | '#' :: _ =>
          modify fun reading => { reading with rest := reading.rest.dropWhile (· != '\n') }
      | _ => return

/-- Takes the rest of an operator that may go on with one of the given
characters. -/
def operatorWith (first : Char) (following : List Char) : Reader Token := do
  skip
  match ← peekJoined with
  | some character =>
      if following.contains character then
        skip
        return .operator [first, character]
      else return .operator [first]
  | none => return .operator [first]

/-- The operators with several characters in the extended dialect; longer ones come before
their beginnings. -/
def extendedOperators : List String :=
  [";;&", ";;", ";&", "&>>", "&>", "&&", "|&", "||", ">>", ">&", ">|", "<<<", "<<", "<&", "<>"]

/-- Reads an operator of the extended dialect that starts with a character. -/
def extendedOperator (first : Char) : Reader Token := do
  let _ ← peekJoined
  let rest := (← get).rest
  match extendedOperators.find? fun operator => operator.toList.isPrefixOf rest with
  | some operator =>
      takeAll operator.toList
      return .operator operator.toList
  | none =>
      skip
      return .operator [first]

/-- Reads the text that a redirection takes from the script, after its operator. -/
def documentAfter (grammar : Grammar) : Reader Token := do
  let dropsTabs := (← peek) == some '-'
  if dropsTabs then skip
  skipBlanks longestScript
  match ← peek with
  | none =>
      if ← isExtended then refuse (.unexpected "newline" (some "newline".toList) none)
      else refuse (.unexpectedEnd none)
  | some character =>
      if endsWord character then
        skip
        let token := Token.operator [character]
        refuse (.unexpected token.describe (some token.spelling) none)
      else return .document (← document grammar dropsTabs (← openWord grammar))

/-- Reads a word, or the number of a stream in front of a redirection. -/
def wordToken (grammar : Grammar) : Reader Token := do
  let word ← openWord grammar
  let reading ← get
  match word, reading.rest with
  | [.text digits false], '<' :: _ | [.text digits false], '>' :: _ =>
      let mayBeLong := reading.dialect = .extended && digits.length ≤ 9
      let inner := (digits.drop 1).dropLast
      if digits.all Char.isDigit && (digits.length = 1 || mayBeLong) then
        return .stream (Text.digitsValue digits)
      else if reading.dialect = .extended && isName inner && digits = '\x7b' :: inner ++ ['\x7d'] then
        return .freeStream (String.ofList inner)
      else return .word word
  | _, _ => return .word word

/-- Takes the end of the script. In the extended dialect the last line ends before that, whether
a line end stands there or not. -/
def scriptEnd : Reader Token := do
  let reading ← get
  if reading.dialect = .extended && !reading.present.isEmpty then
    set { reading with present := [], line := reading.line + 1 + reading.hidden, hidden := 0 }
    return .operator ['\n']
  else return .finish

/-- Reads the next token. -/
def scanToken (grammar : Grammar) : Reader Token := do
  skipBlanks longestScript
  modify fun reading => { reading with tokenLine := reading.present, tokenStart := reading.rest }
  let isExtended ← isExtended
  if opensChannel (← get) then return .word (← openWord grammar)
  match ← peek with
  | none => scriptEnd
  | some '\n' => skip; return .operator ['\n']
  | some '&' => if isExtended then extendedOperator '&' else operatorWith '&' ['&']
  | some '|' => if isExtended then extendedOperator '|' else operatorWith '|' ['|']
  | some ';' => if isExtended then extendedOperator ';' else operatorWith ';' [';']
  | some '(' => skip; return .operator ['(']
  | some ')' => skip; return .operator [')']
  | some '>' => if isExtended then extendedOperator '>' else operatorWith '>' ['>', '&', '|']
  | some '<' =>
      match ← if isExtended then extendedOperator '<' else operatorWith '<' ['<', '&', '>'] with
      | .operator ['<', '<'] => documentAfter grammar
      | token => return token
  | some _ => wordToken grammar

/-- Takes the next token. -/
def token (grammar : Grammar) : Reader Token := do
  let reading ← get
  match reading.held with
  | some token =>
      set { reading with held := none }
      return token
  | none => scanToken grammar

/-- Gives a token back. -/
def giveBack (token : Token) : Reader Unit :=
  modify fun reading => { reading with held := some token }

/-- Takes a step where words may or may not assign lists. -/
def assigning {α : Type} (mayAssign : Bool) (reader : Reader α) : Reader α := do
  modify fun reading => { reading with mayAssign }
  let result ← reader
  modify fun reading => { reading with mayAssign := true }
  return result

/-- The next token, which stays in place. -/
def peekToken (grammar : Grammar) : Reader Token := do
  let token ← token grammar
  giveBack token
  return token

/-- How a token is spelled, if it is the last one that was read. -/
def spellingOf (token : Token) : Reader (List Char) := do
  match token with
  | .operator _ => return token.spelling
  | _ =>
      let reading ← get
      return reading.tokenStart.take (reading.tokenStart.length - reading.rest.length)

/-- Refuses a token that is described in its own way. -/
def unexpectedAs {α : Type} (description : String) (token : Token) (expected : Option String) :
    Reader α := do
  match token with
  | .finish => refuse (.unexpectedEnd expected)
  | _ =>
      let fault := .unexpected description (some (← spellingOf token)) expected
      if token.isOperator ['\n'] && (← isExtended) then refuseAt ((← get).line - 1) fault
      else refuse fault

/-- Refuses a token. -/
def unexpected {α : Type} (token : Token) (expected : Option String) : Reader α :=
  unexpectedAs token.describe token expected

/-- Takes an operator. -/
def operator (grammar : Grammar) (characters : List Char) : Reader Unit := do
  let token ← token grammar
  if !token.isOperator characters then
    unexpected token (some (inQuotes (String.ofList characters)))

/-- Is the next token the given operator? If so, it is taken. -/
def takesOperator (grammar : Grammar) (characters : List Char) : Reader Bool := do
  let token ← token grammar
  if token.isOperator characters then return true
  else
    giveBack token
    return false

/-- Takes a reserved word. -/
def reserved (grammar : Grammar) (text : String) : Reader Unit := do
  let token ← token grammar
  if token.bareText? ≠ some text then unexpected token (some (inQuotes text))

/-- Is the next token the given reserved word? If so, it is taken. -/
def takesReserved (grammar : Grammar) (text : String) : Reader Bool := do
  let token ← token grammar
  if token.bareText? = some text then return true
  else
    giveBack token
    return false

/-- Passes over line ends, at most so many. -/
def skipLinesUpTo (grammar : Grammar) : Nat → Reader Unit
  | 0 => return
  | steps + 1 => do
      if ← takesOperator grammar ['\n'] then skipLinesUpTo grammar steps

/-- Passes over line ends. -/
def skipLines (grammar : Grammar) : Reader Unit :=
  skipLinesUpTo grammar longestScript

/-- Puts a text in the place of the next word as long as the word stands for
one. A word does not count inside its own text. -/
def replaceAliases (grammar : Grammar) : Nat → Reader Unit
  | 0 => return
  | steps + 1 => do
      let token ← peekToken grammar
      let reading ← get
      match token.bareText? with
      | none => return
      | some name =>
          let left := reading.rest.length
          let isReplaced := reading.replaced.any fun (other, after) => other == name && after ≤ left
          match reading.aliases.lookup name with
          | some text =>
              if isReplaced then return
              set { reading with
                rest := text ++ reading.rest
                held := none
                replaced := (name, left) :: reading.replaced }
              replaceAliases grammar steps
          | none => return

end TestAmplification.Shell
