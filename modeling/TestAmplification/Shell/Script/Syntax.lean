

/-!
# Shell scripts

Scripts as data, and the text that tells a command.
-/

set_option autoImplicit false

/-!
## Shell scripts

A script is a tree of commands. A word is a sequence of parts, some of which
stand for themselves and some of which are replaced when the command runs. A
part remembers whether it was quoted, since only what was not quoted is split
into fields and matched against file names.

A script may stand inside a word, as a substitution, and words may stand inside
the braces of a parameter, so words and commands are defined together.

Scripts are written in one of two dialects. The plain one knows texts only; the
extended one adds lists, conditions between double brackets, loops that count, and
more ways to use a parameter.
-/

namespace TestAmplification.Shell

/-- The ways in which scripts are written. -/
inductive Dialect where
  /-- The plain language. -/
  | plain
  /-- The language with lists, conditions and more. -/
  | extended
deriving DecidableEq, Inhabited

/-- A stretch of a script. -/
structure Stretch where
  /-- Its line. -/
  line : Nat := 0
  /-- The characters from its start on. -/
  start : List Char := []
  /-- The characters behind it. -/
  rest : List Char := []
deriving Inhabited

/-- The characters of a stretch. -/
def Stretch.text (stretch : Stretch) : List Char :=
  stretch.start.take (stretch.start.length - stretch.rest.length)

/-! ### Words and commands -/

/-- What a redirection does with its stream. -/
inductive RedirectionKind where
  /-- Read from a file. -/
  | read
  /-- Write to a file from its start. -/
  | write
  /-- Write to a file from its start, even if files are to be kept. -/
  | overwrite
  /-- Write to a file at its end. -/
  | append
  /-- Read from a file and write to it. -/
  | update
  /-- Use another stream. -/
  | duplicate
  /-- Read from a text in the script itself. -/
  | document
  /-- Read from a word as a line. -/
  | line
  /-- Write what is said and what is said about faults to a file from its start. -/
  | writeAll
  /-- Write what is said and what is said about faults to a file at its end. -/
  | appendAll
deriving DecidableEq, Inhabited

/-- Which matches of a pattern in a value are replaced. -/
inductive MatchPlace where
  /-- The first one. -/
  | first
  /-- All of them. -/
  | every
  /-- One at the start of the value. -/
  | start
  /-- One at the end of the value. -/
  | finish
deriving DecidableEq, Inhabited

/-- How letters are changed. -/
inductive LetterChange where
  /-- To capital letters. -/
  | raised
  /-- To small letters. -/
  | lowered
  /-- Each to the other kind. -/
  | swapped
deriving DecidableEq, Inhabited

/-- How a branch of a choice by patterns ends. -/
inductive BranchEnd where
  /-- The choice is over. -/
  | finish
  /-- The next branch runs as well. -/
  | runOn
  /-- The patterns of the next branches are looked at. -/
  | matchOn
deriving DecidableEq, Inhabited

mutual

/-- What is done with the value of a parameter. -/
inductive ParameterUse where
  /-- The value itself. -/
  | value
  /-- The length of the value. -/
  | length
  /-- The value, or the word when there is none; with a colon, also when it is
  empty. -/
  | orWord (colon : Bool) (word : List WordPart)
  /-- As before, and the parameter is set to the word. -/
  | orAssign (colon : Bool) (word : List WordPart)
  /-- The word, unless there is no value; with a colon, also when it is
  empty. -/
  | wordIfSet (colon : Bool) (word : List WordPart)
  /-- The value; without one the script ends with the word as its message. -/
  | orFail (colon : Bool) (word : List WordPart)
  /-- The value without the shortest or longest match of a pattern at its
  start. -/
  | withoutStart (longest : Bool) (pattern : List WordPart)
  /-- The value without the shortest or longest match of a pattern at its
  end. -/
  | withoutEnd (longest : Bool) (pattern : List WordPart)
  /-- A part of the value: from a position on, perhaps only so many characters. -/
  | part (start : List WordPart) (length : Option (List WordPart))
  /-- The value with matches of a pattern replaced. -/
  | replaced (place : MatchPlace) (pattern replacement : List WordPart)
  /-- The value with the first letter or all letters changed that match a pattern. -/
  | recased (change : LetterChange) (everywhere : Bool) (pattern : List WordPart)
  /-- The value in the form that a letter stands for. -/
  | formed (letter : Char)
  /-- No use that exists; the text is what was read. -/
  | unknown (text : List Char)

/-- What a parameter refers to. -/
inductive ParameterSource where
  /-- A value by its name. -/
  | named (name : String)
  /-- An element of a list. -/
  | element (name : String) (index : List WordPart)
  /-- All elements of a list, perhaps joined to one text. -/
  | elements (name : String) (isJoined : Bool)
  /-- What the value of another one names. -/
  | indirect (source : ParameterSource)
  /-- The indices of a list, perhaps joined to one text. -/
  | indices (name : String) (isJoined : Bool)
  /-- The names of variables with a common start, perhaps joined to one text. -/
  | names (start : String) (isJoined : Bool)

/-- A part of a word. -/
inductive WordPart where
  /-- Characters that stand for themselves. -/
  | text (characters : List Char) (quoted : Bool)
  /-- The value of a parameter. -/
  | parameter (source : ParameterSource) (use : ParameterUse) (quoted : Bool)
  /-- The output of a command. -/
  | output (command : Command) (quoted : Bool)
  /-- The value of an arithmetic expression. -/
  | arithmetic (expression : List WordPart) (quoted : Bool)
  /-- The path of a pipe to a command, where its output is read or its input is
  written. -/
  | channel (isRead : Bool) (command : Command)
  /-- The elements of a list. -/
  | elements (words : List (List WordPart))

/-- A redirection: the number of the stream, what is done with it, and the
file, the other stream or the text. -/
inductive Redirection where
  | mk (stream : Nat) (kind : RedirectionKind) (target : List WordPart)
  /-- The stream is a free one, whose number a variable gets or has. -/
  | free (name : String) (kind : RedirectionKind) (target : List WordPart)

/-- An assignment to a variable or to an element of a list. The value may be added to what
is there. -/
inductive Assignment where
  | mk (name : String) (index : Option (List WordPart)) (adds : Bool) (value : List WordPart)

/-- A condition between double brackets. -/
inductive Condition where
  /-- A word that is not empty. -/
  | word (word : List WordPart)
  /-- An operator in front of a word. -/
  | unary (operator : String) (word : List WordPart)
  /-- An operator between words. -/
  | binary (first : List WordPart) (operator : String) (second : List WordPart)
  /-- A condition that does not hold. -/
  | negation (condition : Condition)
  /-- Two conditions that both hold. -/
  | both (first second : Condition)
  /-- Two conditions of which one holds. -/
  | either (first second : Condition)

/-- A command. -/
inductive Command where
  /-- Assignments, then a program or builtin with its arguments, and redirected
  streams, and where they stand. -/
  | simple (place : Stretch) (assignments : List Assignment)
      (words : List (List WordPart)) (redirections : List Redirection)
  /-- A compound command with redirected streams, and the line where it
  stands. -/
  | redirected (line : Nat) (command : Command) (redirections : List Redirection)
  /-- Commands that read what the one before writes. -/
  | pipeline (commands : List Command)
  /-- A command with its result turned around. -/
  | negated (command : Command)
  /-- The second command runs if the first succeeds. -/
  | andThen (first second : Command)
  /-- The second command runs if the first fails. -/
  | orElse (first second : Command)
  /-- Commands one after the other. -/
  | sequence (commands : List Command)
  /-- A command that nobody waits for. -/
  | background (command : Command)
  /-- A command in a shell of its own. -/
  | subshell (command : Command)
  /-- A choice. -/
  | choice (condition yes no : Command)
  /-- A loop that goes on while its condition succeeds, or until it does. -/
  | loop (untilSuccess : Bool) (condition body : Command)
  /-- A loop over fields; without words, over the positional parameters. -/
  | forEach (line : Nat) (name : String) (words : Option (List (List WordPart))) (body : Command)
  /-- A choice by patterns. -/
  | caseOf (line : Nat) (word : List WordPart)
      (branches : List (List (List WordPart) × Command × BranchEnd))
  /-- The definition of a function. -/
  | define (name : String) (body : Command)
  /-- A condition between double brackets. -/
  | condition (place : Stretch) (condition : Condition)
  /-- An expression between double parentheses. -/
  | calculation (place : Stretch) (expression : List WordPart)
  /-- A loop with expressions for its start, its condition and its steps. -/
  | counting (line : Nat) (start condition step : List WordPart) (body : Command)
  /-- A command whose time is told. -/
  | timed (command : Command)

end

instance : Inhabited Command := ⟨.sequence []⟩

instance : Inhabited WordPart := ⟨.text [] false⟩

/-- A word. -/
abbrev Word := List WordPart

/-- The characters of a word that is a bare, unquoted text. -/
def bareText? : Word → Option String
  | [.text characters false] => some (String.ofList characters)
  | _ => none

/-! ### Faults -/

/-- Why a text is no script. -/
inductive ScriptFault where
  /-- A quotation has no end, which would be the given mark. -/
  | openQuotation (mark : Char)
  /-- Parameter braces have no end. -/
  | openBrace
  /-- An arithmetic expression has no end. -/
  | openArithmetic
  /-- One parenthesis closes where two should. -/
  | looseParenthesis
  /-- A substitution between backquotes has no end. -/
  | openBackquote
  /-- A substitution or a list has no end. -/
  | openParenthesis
  /-- Something stands where it may not, possibly in the place of something
  else. It is described and, if it is a token, also spelled. -/
  | unexpected (found : String) (spelling : Option (List Char)) (expected : Option String)
  /-- The script ends too early. -/
  | unexpectedEnd (expected : Option String)
  /-- The variable of a loop is no name. -/
  | badLoopVariable (name : List Char)
  /-- What a function would be called is no name. -/
  | badFunctionName
  /-- A number of a stream is none. -/
  | badStreamNumber
  /-- A condition has no end, or not even a beginning. -/
  | openCondition (isBegun : Bool)
  /-- A condition is spoiled by what is spelled there, perhaps with a reason. -/
  | badCondition (reason : Option (List Char)) (spelling : List Char)
  /-- The expressions of a loop that counts are not three. -/
  | badCounting (text : List Char)
deriving DecidableEq, Inhabited

/-- The text of a fault in the plain dialect. -/
def ScriptFault.message (fault : ScriptFault) : String :=
  "Syntax error: " ++
    match fault with
    | .openQuotation _ => "Unterminated quoted string"
    | .openBrace => "Missing '\x7d'"
    | .openArithmetic | .looseParenthesis => "Missing '))'"
    | .openBackquote => "EOF in backquote substitution"
    | .openParenthesis => "end of file unexpected (expecting \")\")"
    | .unexpected found _ none => found ++ " unexpected"
    | .unexpected found _ (some expected) =>
        found ++ " unexpected (expecting " ++ expected ++ ")"
    | .unexpectedEnd none => "end of file unexpected"
    | .unexpectedEnd (some expected) => "end of file unexpected (expecting " ++ expected ++ ")"
    | .badLoopVariable _ => "Bad for loop variable"
    | .badFunctionName => "Bad function name"
    | .badStreamNumber => "Bad fd number"
    | .openCondition _ | .badCondition .. | .badCounting _ => "Bad condition"

end TestAmplification.Shell

/-!
## Commands as they are told

Where a command is told about, it stands as it was written, except that its words have single
blanks between them, and that redirections stand apart from what they lead to. What is quoted
or belongs to a substitution stays as it is.
-/

namespace TestAmplification.Shell

namespace Stretch

/-- What the next character is part of. -/
inductive Inside where
  /-- A command. -/
  | command
  /-- Single or double quotes, or backquotes. -/
  | quotes (mark : Char)
  /-- Something in parentheses or braces that belongs to a word, with so many of them inside. -/
  | substitution (depth : Nat)
deriving DecidableEq

/-- The told characters with a blank at their end, unless one is there. They come last first. -/
def withBlank : List Char → List Char
  | ' ' :: told => ' ' :: told
  | [] => []
  | told => ' ' :: told

/-- The told characters in front of a redirection, which may have the number of a stream in front
of it. They come last first. -/
def beforeRedirection (told : List Char) : List Char :=
  let digits := told.takeWhile Char.isDigit
  match told.drop digits.length with
  | ' ' :: _ | [] => told
  | _ => ' ' :: told

/-- What follows the opening of a redirection, with the characters told so far, which end with
the redirection's own: what it leads to stands apart, unless that is a stream. -/
def behindRedirection (told : List Char) : List Char → List Char
  | '<' :: _ | '>' :: _ | '&' :: _ | '|' :: _ => told
  | _ => withBlank told

/-- The characters as they are told, behind those before, which come last first. -/
def tell : Inside → List Char → List Char → List Char
  | _, told, [] => told
  | .quotes mark, told, '\\' :: next :: rest =>
      if mark = '\'' then tell (.quotes mark) ('\\' :: told) (next :: rest)
      else tell (.quotes mark) (next :: '\\' :: told) rest
  | .quotes mark, told, character :: rest =>
      tell (if character = mark then .command else .quotes mark) (character :: told) rest
  | .substitution depth, told, character :: rest =>
      let inside : Inside :=
        if ['(', '\x7b'].contains character then .substitution (depth + 1)
        else if [')', '\x7d'].contains character then
          if depth ≤ 1 then .command else .substitution (depth - 1)
        else .substitution depth
      tell inside (character :: told) rest
  | .command, told, '\\' :: next :: rest => tell .command (next :: '\\' :: told) rest
  | .command, told, '>' :: '|' :: rest =>
      tell .command (' ' :: '|' :: '>' :: beforeRedirection told) rest
  | .command, told, character :: rest =>
      let isOpening := rest.head? = some '(' || character = '$' && rest.head? = some '\x7b'
      if isOpening && ['$', '<', '>'].contains character then
        tell (.substitution 0) (character :: told) rest
      else if ['\'', '"', '\x60'].contains character then
        tell (.quotes character) (character :: told) rest
      else if character.isWhitespace then tell .command (withBlank told) rest
      else if character = '<' || character = '>' then
        let before := if told.head? = some character || told.head? = some '<' then told
          else beforeRedirection told
        tell .command (behindRedirection (character :: before) rest) rest
      else tell .command (character :: told) rest

/-- A stretch as it is told. -/
def shown (stretch : Stretch) : List Char :=
  ((tell .command [] stretch.text).dropWhile (· == ' ')).reverse

end Stretch

/-- A command as it is told in one line, as far as it is a simple one or made of such, inside of
at most so many others. -/
def Command.shownUpTo : Nat → Command → Option (List Char)
  | 0, _ => none
  | depth + 1, command =>
      let joined (mark : String) (commands : List Command) : Option (List Char) := do
        let parts ← commands.mapM (shownUpTo depth)
        return (parts.intersperse mark.toList).flatten
      match command with
      | .simple place .. | .condition place _ | .calculation place _ => some place.shown
      | .pipeline commands => joined " | " commands
      | .andThen first second => joined " && " [first, second]
      | .orElse first second => joined " || " [first, second]
      | .negated command => (shownUpTo depth command).map (['!', ' '] ++ ·)
      | .background command => (shownUpTo depth command).map (· ++ [' ', '&'])
      | .sequence commands =>
          (joined "; " commands).map fun inner => ['\x7b', ' '] ++ inner ++ [';', ' ', '\x7d']
      | .subshell (.sequence commands) =>
          (joined "; " commands).map fun inner => ['(', ' '] ++ inner ++ [' ', ')']
      | _ => none

/-- A command as it is told in one line, if it is a simple one or made of such. -/
def Command.shown (command : Command) : List Char :=
  (command.shownUpTo 50).getD []

end TestAmplification.Shell
