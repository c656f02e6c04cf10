import TestAmplification.Shell.Utility.Escape
import TestAmplification.Shell.Utility.Grep

/-!
# Scripts of `sed`

A script is a list of commands. A command has up to two addresses that say which lines
it is meant for, a letter that says what it does, and what it needs for that. Commands
in braces are meant for the same lines; the braces are kept as commands that know
where to go on.

A script is read character by character, and a fault tells how many of them were
read.
-/

set_option autoImplicit false

namespace TestAmplification.Shell.Sed

/-! ## Commands -/

/-- What is looked for in lines. -/
structure LineRegex where
  /-- The expression. -/
  regex : Regex
  /-- Does case not matter? -/
  foldsCase : Bool := false
  /-- Does every line feed end a line? -/
  hasLines : Bool := false
deriving Inhabited

/-- Which lines a command is meant for. -/
inductive Address where
  /-- The line with a number. -/
  | number (number : Nat)
  /-- Every so many lines from one on. -/
  | every (first step : Nat)
  /-- The last line. -/
  | last
  /-- The lines in which an expression occurs; without one, the expression that was
  used last. -/
  | regex (regex : Option LineRegex)
  /-- So many lines further. -/
  | further (count : Nat)
  /-- The next line with a number that is a multiple. -/
  | multiple (count : Nat)
deriving Inhabited

/-- What happens to the case of letters. -/
inductive CaseMark where
  /-- All are capital. -/
  | allUpper
  /-- All are small. -/
  | allLower
  /-- The next one is capital. -/
  | nextUpper
  /-- The next one is small. -/
  | nextLower
  /-- They stay as they are. -/
  | asIs
deriving DecidableEq, Inhabited

/-- A part of what takes the place of a match. -/
inductive ReplacementPart where
  /-- A text. -/
  | text (row : Row)
  /-- What a group matched; zero stands for the whole match. -/
  | group (number : Nat)
  /-- What happens to the letters that follow. -/
  | case (mark : CaseMark)
deriving DecidableEq, Inhabited

/-- How matches are replaced. -/
structure Substitution where
  /-- What is replaced; without an expression, what the last one matches. -/
  regex : Option LineRegex
  /-- What takes its place. -/
  replacement : List ReplacementPart
  /-- The number of the first match that is replaced. -/
  first : Nat := 1
  /-- Are the matches after it replaced as well? -/
  isGlobal : Bool := false
  /-- Is a line written in which something was replaced? -/
  writes : Bool := false
  /-- The file that such a line is written to. -/
  file : Option Row := none
deriving Inhabited

/-- What a command does. -/
inductive Action where
  /-- Commands follow that are meant for the same lines, up to an index. -/
  | open (finish : Nat)
  /-- They end. -/
  | close
  /-- A place to go to. -/
  | label (name : Row)
  /-- Goes on at a label, or at the end: always, if something was replaced, or if
  nothing was. -/
  | jump (condition : Char) (label : Row)
  /-- Writes a text after the line, before it, or in its place. -/
  | text (letter : Char) (row : Row)
  /-- Reads or writes a file. -/
  | file (letter : Char) (path : Row)
  /-- Replaces matches. -/
  | substitute (substitution : Substitution)
  /-- Replaces characters. -/
  | exchange (pairs : List (Char × Char))
  /-- What the letter alone says, with a number if one is given. -/
  | plain (letter : Char) (number : Option Nat)
deriving Inhabited

/-- A command. -/
structure Command where
  /-- The first address. -/
  first : Option Address := none
  /-- The second address. -/
  second : Option Address := none
  /-- Is the command meant for all other lines? -/
  isTurned : Bool := false
  /-- What it does. -/
  action : Action
deriving Inhabited

/-! ## Reading scripts -/

/-- A script under way. -/
structure Reading where
  /-- The characters that are left. -/
  rest : Row
  /-- The number of characters that were read. -/
  position : Nat := 0
  /-- The number of lines that were begun. -/
  line : Nat := 1
  /-- The commands so far. -/
  commands : Array Command := #[]
  /-- The indices of the braces that are open. -/
  blocks : List Nat := []
  /-- The command whose text is to go on in the next part of the script. -/
  unfinished : Option (Char × Row) := none
  /-- Are expressions extended? -/
  isExtended : Bool := false
deriving Inhabited

/-- Why a script cannot be read: the message, and whether the place is known. -/
structure Fault where
  /-- The message. -/
  message : Row
  /-- Is the place where reading stopped of any use? -/
  hasPlace : Bool := true
deriving Inhabited

/-- A reader of scripts. The state is kept in case of a fault. -/
abbrev Reader := ExceptT Fault (StateM Reading)

namespace Reader

/-- Gives up. -/
def refuse {α : Type} (message : String) : Reader α :=
  throw { message := rowOf message }

/-- The next character. -/
def next : Reader (Option Char) := do
  let reading ← get
  match reading.rest with
  | [] => return none
  | character :: rest =>
      set { reading with
        rest, position := reading.position + 1
        line := if character = '\n' then reading.line + 1 else reading.line }
      return some character

/-- Puts a character back. -/
def giveBack (character : Option Char) : Reader Unit :=
  match character with
  | none => return
  | some character =>
      modify fun reading => { reading with
        rest := character :: reading.rest, position := reading.position - 1
        line := if character = '\n' then reading.line - 1 else reading.line }

/-- The next character that passes a test, with those that do not passed over. -/
def nextAfter (isPassed : Char → Bool) : Reader (Option Char) := do
  let run := (← get).rest.takeWhile isPassed
  modify fun reading => { reading with
    rest := reading.rest.drop run.length, position := reading.position + run.length
    line := reading.line + run.count '\n' }
  next

/-- Is the character a blank within a line? -/
def isLineBlank (character : Char) : Bool :=
  isSpace character && character != '\n'

/-- The next character that is no blank. -/
def nextInk : Reader (Option Char) :=
  nextAfter isLineBlank

/-- The characters that pass a test. -/
def run (passes : Char → Bool) : Reader Row := do
  let taken := (← get).rest.takeWhile passes
  modify fun reading => { reading with
    rest := reading.rest.drop taken.length, position := reading.position + taken.length
    line := reading.line + taken.count '\n' }
  return taken

/-- The next character if it is the given one. -/
def runAtMostOne (character : Char) : Reader Row := do
  if (← get).rest.head? = some character then
    let _ ← next
    return [character]
  else return []

/-- A number that starts with a digit. -/
def numberFrom (digit : Char) : Reader Nat := do
  return Text.digitsValue (digit :: (← run Char.isDigit))

/-- Makes sure that a command is at its end. -/
def endCommand : Reader Unit := do
  let character ← nextInk
  match character with
  | some '\x7d' | some '#' => giveBack character
  | none | some '\n' | some ';' => return
  | some _ => refuse "extra characters after command"

/-- The name of a label. -/
def labelName : Reader Row := do
  giveBack (← nextInk)
  run fun character => !isSpace character && character != ';' && character != '\x7d'

/-- The name of a file: the rest of the line. -/
def fileName : Reader Row := do
  giveBack (← nextInk)
  let path ← run (· != '\n')
  if path.isEmpty then refuse "missing filename in r/R/w/W commands"
  return path

/-! ## Expressions and texts -/

/-- The number of characters of a class in brackets in front of a row, without the
bracket that opens it. -/
def classLength (mark : Char) : Row → Option Nat
  | first :: ']' :: rest =>
      if first = mark then some 2 else (classLength mark (']' :: rest)).map (· + 1)
  | _ :: rest => (classLength mark rest).map (· + 1)
  | [] => none

/-- Takes a set in brackets after the bracket that opens it, at most so many members;
those before come last first. -/
def bracket : Nat → Row → Reader (Option Row)
  | 0, _ => return none
  | steps + 1, before => do
      match ← next with
      | none => return none
      | some ']' => return some (']' :: before)
      | some '[' =>
          let rest := (← get).rest
          match rest with
          | mark :: inner =>
              if [':', '.', '='].contains mark then
                match classLength mark inner with
                | none =>
                    let _ ← run fun _ => true
                    return none
                | some length =>
                    let taken := rest.take (length + 1)
                    modify fun reading => { reading with
                      rest := reading.rest.drop (length + 1)
                      position := reading.position + length + 1 }
                    bracket steps (taken.reverse ++ '[' :: before)
              else bracket steps ('[' :: before)
          | [] => bracket steps ('[' :: before)
      | some '\\' =>
          match ← next with
          | some 'n' => bracket steps ('\n' :: before)
          | character =>
              giveBack character
              bracket steps ('\\' :: before)
      | some character => bracket steps (character :: before)

/-- Takes the characters up to a mark, at most so many; those before come last first.
Brackets in an expression may hold the mark. -/
def delimited (isExpression : Bool) (mark : Char) : Nat → Row → Reader (Option Row)
  | 0, _ => return none
  | steps + 1, before => do
      let character ← next
      match character with
      | none => return none
      | some '\n' =>
          giveBack character
          return none
      | some '\\' =>
          if mark = '\\' then return some before.reverse
          match ← next with
          | none => return none
          | some escaped =>
              if escaped = 'n' && isExpression then delimited isExpression mark steps ('\n' :: before)
              else if escaped = '\n' then
                delimited isExpression mark steps
                  (if isExpression then '\n' :: before else '\n' :: '\\' :: before)
              else if escaped = mark && (isExpression || escaped != '&') then
                delimited isExpression mark steps (escaped :: before)
              else delimited isExpression mark steps (escaped :: '\\' :: before)
      | some character =>
          if character = mark then return some before.reverse
          else if character = '[' && isExpression then
            let turned ← runAtMostOne '^'
            let closing ← runAtMostOne ']'
            match ← bracket steps (closing ++ turned ++ '[' :: before) with
            | none => return none
            | some before => delimited isExpression mark steps before
          else delimited isExpression mark steps (character :: before)

/-- More than the longest script has characters. -/
def longest : Nat := 100000000

/-- Takes the characters up to a mark. -/
def upTo (isExpression : Bool) (mark : Char) : Reader (Option Row) := do
  delimited isExpression mark ((← get).rest.length + 1) []

/-- The character that an escape with a number or a letter stands for, and what follows
it. -/
def numberedEscape? (row : Row) : Option (Char × Row) :=
  let taken (base : Nat) (most : Nat) (isDigit : Char → Bool) (rest : Row) : Option (Char × Row) :=
    let digits := (rest.take most).takeWhile isDigit
    if digits.isEmpty then none
    else
      let number := digits.foldl (fun number digit =>
        number * base + ((Text.hexDigit? digit).getD 0)) 0
      some (byteOf number, rest.drop digits.length)
  match row with
  | 'x' :: rest => taken 16 2 (fun digit => (Text.hexDigit? digit).isSome) rest
  | 'd' :: rest => taken 10 3 Char.isDigit rest
  | 'o' :: rest => taken 8 3 isOctalDigit rest
  | 'c' :: letter :: rest =>
      let number := letter.toUpper.toNat
      some (Char.ofNat (if number < 64 then number + 64 else number - 64), rest)
  | letter :: rest =>
      if ['a', 'f', 'v', 't', 'r'].contains letter then (letterEscape? letter).map (·, rest) else none
  | [] => none

/-- An expression with the escapes for characters replaced. -/
def plainExpression : Nat → Row → Row
  | 0, row => row
  | _ + 1, [] => []
  | steps + 1, '\\' :: rest =>
      match numberedEscape? rest with
      | some (character, rest) => character :: plainExpression steps rest
      | none =>
          match rest with
          | character :: rest => '\\' :: character :: plainExpression steps rest
          | [] => ['\\']
  | steps + 1, character :: rest => character :: plainExpression steps rest

/-- Reads an expression. -/
def lineRegex (row : Row) (foldsCase hasLines : Bool) : Reader (Option LineRegex) := do
  if row.isEmpty then
    if foldsCase || hasLines then refuse "cannot specify modifiers on empty regexp"
    return none
  else
    let isExtended := (← get).isExtended
    let row := plainExpression (row.length + 1) row
    match Regex.parse { isExtended, isLenient := false, refusesBareClass := true } row with
    | .ok regex => return some { regex, foldsCase, hasLines }
    | .error .bareClass => throw { message := rowOf RegexFault.bareClass.message, hasPlace := false }
    | .error fault => refuse fault.message

/-- The parts of what takes the place of a match, in at most so many steps. -/
def replacementParts : Nat → Row → List ReplacementPart
  | 0, _ => []
  | _ + 1, [] => []
  | steps + 1, '&' :: rest => .group 0 :: replacementParts steps rest
  | steps + 1, '\\' :: rest =>
      match numberedEscape? rest with
      | some (character, rest) => .text [character] :: replacementParts steps rest
      | none =>
          match rest with
          | [] => [.text ['\\']]
          | character :: rest =>
              let others := replacementParts steps rest
              if character.isDigit then .group (Text.digitValue character) :: others
              else
                match character with
                | 'U' => .case .allUpper :: others
                | 'L' => .case .allLower :: others
                | 'u' => .case .nextUpper :: others
                | 'l' => .case .nextLower :: others
                | 'E' => .case .asIs :: others
                | 'n' => .text ['\n'] :: others
                | character => .text [character] :: others
  | steps + 1, character :: rest =>
      match replacementParts steps rest with
      | .text row :: others => .text (character :: row) :: others
      | others => .text [character] :: others

/-- A text of a command with its escapes replaced, in at most so many steps. -/
def plainText : Nat → Row → Row
  | 0, row => row
  | _ + 1, [] => []
  | steps + 1, '\\' :: rest =>
      match numberedEscape? rest with
      | some (character, rest) => character :: plainText steps rest
      | none =>
          match rest with
          | 'n' :: rest => '\n' :: plainText steps rest
          | character :: rest => character :: plainText steps rest
          | [] => []
  | steps + 1, character :: rest => character :: plainText steps rest

/-- The characters up to a line feed that is not escaped, and whether there is
one. -/
def textLines : Nat → Row → Reader (Row × Bool)
  | 0, before => return (before.reverse, true)
  | steps + 1, before => do
      match ← next with
      | none => return (before.reverse, false)
      | some '\n' => return (before.reverse, true)
      | some '\\' =>
          match ← next with
          | none => return (before.reverse, false)
          | some character => textLines steps (character :: '\\' :: before)
      | some character => textLines steps (character :: before)

/-- Takes the text of a command. A text that ends with a backslash goes on in the next
part of the script. -/
def commandText (letter : Char) : Reader Row := do
  let first ← nextInk
  if first.isNone then refuse "expected \\ after \x60a', \x60c' or \x60i'"
  if first = some '\\' then
    let second ← next
    if second != some '\n' then giveBack second
  else giveBack first
  let reading ← get
  if first = some '\\' && reading.rest.isEmpty then
    modify fun reading => { reading with unfinished := some (letter, []) }
    return []
  let (row, _) ← textLines (reading.rest.length + 1) []
  return plainText (row.length + 1) row ++ ['\n']

/-! ## Parts of commands -/

/-- Takes an address that starts with a character, if one does. -/
def address? (first : Option Char) : Reader (Option Address) := do
  match first with
  | none => return none
  | some first =>
      if first = '/' || first = '\\' then
        let mark ← if first = '\\' then next else pure (some '/')
        match ← (mark.map fun mark => upTo true mark).getD (pure none) with
        | none => refuse "unterminated address regex"
        | some row =>
            let flags ← run fun character => isLineBlank character || character == 'I' || character == 'M'
            return some (.regex (← lineRegex row (flags.contains 'I') (flags.contains 'M')))
      else if first.isDigit then
        let number ← numberFrom first
        let mark ← nextInk
        if mark = some '~' then
          let step ← run Char.isDigit
          return some (if Text.digitsValue step = 0 then .number number
            else .every number (Text.digitsValue step))
        else
          giveBack mark
          return some (.number number)
      else if first = '+' || first = '~' then
        let count := Text.digitsValue (← run Char.isDigit)
        return some (if count = 0 then .number 0 else if first = '+' then .further count
          else .multiple count)
      else if first = '$' then return some .last
      else return none

/-- Takes the flags of a substitution, at most so many. -/
def substitutionFlags : Nat → Substitution → Bool → Bool → Option Nat →
    Reader (Substitution × Bool × Bool × Option Nat)
  | 0, substitution, foldsCase, hasLines, first =>
      return (substitution, foldsCase, hasLines, first)
  | steps + 1, substitution, foldsCase, hasLines, first => do
      let character ← next
      let again := substitutionFlags steps
      match character with
      | none | some '\n' | some ';' => return (substitution, foldsCase, hasLines, first)
      | some '\x7d' | some '#' =>
          giveBack character
          return (substitution, foldsCase, hasLines, first)
      | some ' ' => again substitution foldsCase hasLines first
      | some 'i' | some 'I' => again substitution true hasLines first
      | some 'm' | some 'M' => again substitution foldsCase true first
      | some 'e' => again substitution foldsCase hasLines first
      | some 'p' =>
          if substitution.writes then refuse "multiple \x60p' options to \x60s' command"
          again { substitution with writes := true } foldsCase hasLines first
      | some 'g' =>
          if substitution.isGlobal then refuse "multiple \x60g' options to \x60s' command"
          again { substitution with isGlobal := true } foldsCase hasLines first
      | some 'w' =>
          let path ← fileName
          return ({ substitution with file := some path }, foldsCase, hasLines, first)
      | some character =>
          if character.isDigit then
            if first.isSome then refuse "multiple number options to \x60s' command"
            let number ← numberFrom character
            if number = 0 then refuse "number option to \x60s' command may not be zero"
            again substitution foldsCase hasLines (some number)
          else refuse "unknown option to \x60s'"

/-- The greatest number of a group that a replacement uses. -/
def greatestGroup (parts : List ReplacementPart) : Nat :=
  parts.foldl (fun greatest part =>
    match part with
    | .group number => max greatest number
    | _ => greatest) 0

/-- Takes a substitution. -/
def substitution : Reader Action := do
  let unterminated {α : Type} : Reader α := refuse "unterminated \x60s' command"
  match ← next with
  | none => unterminated
  | some mark =>
      match ← upTo true mark with
      | none => unterminated
      | some row =>
          match ← upTo false mark with
          | none => unterminated
          | some replacement =>
              let parts := replacementParts (replacement.length + 1) replacement
              let (substitution, foldsCase, hasLines, first) ←
                substitutionFlags longest { regex := none, replacement := parts } false false none
              let regex ← lineRegex row foldsCase hasLines
              let greatest := greatestGroup parts
              if let some { regex, .. } := regex then
                if greatest > regex.groupCount then
                  throw { message := rowOf "invalid reference \\" ++ natRow greatest
                            ++ rowOf " on \x60s' command's RHS" }
              return .substitute { substitution with regex, first := first.getD 1 }

/-- The characters of a list, with their escapes replaced. -/
def listedCharacters : Row → Row
  | '\\' :: '\\' :: rest => '\\' :: listedCharacters rest
  | '\\' :: 'n' :: rest => '\n' :: listedCharacters rest
  | '\\' :: character :: rest =>
      (if ['a', 'f', 'v', 't', 'r'].contains character then (letterEscape? character).getD character
        else character) :: listedCharacters rest
  | character :: rest => character :: listedCharacters rest
  | [] => []

/-- Takes two lists of characters. -/
def exchange : Reader Action := do
  let unterminated {α : Type} : Reader α := refuse "unterminated \x60y' command"
  match ← next with
  | none => unterminated
  | some mark =>
      match ← upTo false mark with
      | none => unterminated
      | some first =>
          match ← upTo false mark with
          | none => unterminated
          | some second =>
              let first := listedCharacters first
              let second := listedCharacters second
              if first.length ≠ second.length then
                refuse "strings for \x60y' command are different lengths"
              endCommand
              return .exchange (first.zip second)

/-- Takes what a command does, given its letter and whether it has addresses. -/
def action (first second : Option Address) (letter : Option Char) : Reader (Option Action) := do
  match letter with
  | none => refuse "missing command"
  | some '#' =>
      if first.isSome then refuse "comments don't accept any addresses"
      let _ ← run (· != '\n')
      return none
  | some '\x7b' => return some (.open 0)
  | some '\x7d' =>
      if (← get).blocks.isEmpty then refuse "unexpected \x60\x7d'"
      if first.isSome then refuse "\x7d doesn't want any addresses"
      endCommand
      return some .close
  | some ':' =>
      if first.isSome then refuse ": doesn't want any addresses"
      let name ← labelName
      if name.isEmpty then refuse "\":\" lacks a label"
      return some (.label name)
  | some 's' => return some (← substitution)
  | some 'y' => return some (← exchange)
  | some 'v' =>
      let version ← labelName
      let number := Text.digitsValue (version.takeWhile Char.isDigit)
      if number > 4 then refuse "expected newer version of sed"
      return none
  | some letter =>
      if ['a', 'i', 'c'].contains letter then return some (.text letter (← commandText letter))
      else if ['b', 't', 'T'].contains letter then return some (.jump letter (← labelName))
      else if ['r', 'R', 'w', 'W'].contains letter then return some (.file letter (← fileName))
      else if ['q', 'Q', 'l', 'L'].contains letter then
        if second.isSome && (letter = 'q' || letter = 'Q') then refuse "command only uses one address"
        let digit ← nextInk
        match digit with
        | some character =>
            if character.isDigit then
              let number ← numberFrom character
              endCommand
              return some (.plain letter (some number))
            else
              giveBack digit
              endCommand
              return some (.plain letter none)
        | none => return some (.plain letter none)
      else if "=dDFgGhHnNpPzx".toList.contains letter then
        endCommand
        return some (.plain letter none)
      else throw { message := rowOf "unknown command: \x60" ++ [letter, '\''] }

/-- Takes a command, if there is one. -/
def command? : Reader (Option (Option Command)) := do
  let start ← nextAfter fun character => isSpace character || character == ';'
  if start.isNone then return none
  let first ← address? start
  match first with
  | some (.further _) | some (.multiple _) =>
      refuse "invalid usage of +N or ~N as first address"
  | _ => pure ()
  let mark ← if first.isSome then nextInk else pure start
  let (second, mark) ←
    if first.isSome && mark = some ',' then
      match ← address? (← nextInk) with
      | none => refuse "unexpected \x60,'"
      | second => pure (second, ← nextInk)
    else pure (none, mark)
  match first, second with
  | some (.number 0), some (.regex _) => pure ()
  | some (.number 0), _ => refuse "invalid usage of line address 0"
  | _, _ => pure ()
  let (isTurned, letter) ←
    if mark = some '!' then
      let after ← nextInk
      if after = some '!' then refuse "multiple \x60!'s"
      pure (true, after)
    else pure (false, mark)
  let action ← action first second letter
  return some (action.map fun action => { first, second, isTurned, action })

/-- Takes all commands, at most so many. -/
def commands : Nat → Reader Unit
  | 0 => return
  | steps + 1 => do
      match ← command? with
      | none => return
      | some none => commands steps
      | some (some command) =>
          let index := (← get).commands.size
          modify fun reading => { reading with commands := reading.commands.push command }
          match command.action with
          | .open _ => modify fun reading => { reading with blocks := index :: reading.blocks }
          | .close =>
              modify fun reading =>
                match reading.blocks with
                | [] => reading
                | block :: others =>
                    { reading with
                      blocks := others
                      commands := reading.commands.modify block fun command =>
                        { command with action := .open index } }
          | _ => pure ()
          commands steps

/-- Goes on with a text that the part of the script before has left open. -/
def finishText : Reader Unit := do
  match (← get).unfinished with
  | none => return
  | some (letter, before) =>
      let (row, _) ← textLines ((← get).rest.length + 1) []
      let text := before ++ plainText (row.length + 1) row ++ ['\n']
      modify fun reading => { reading with
        unfinished := none
        commands := reading.commands.modify (reading.commands.size - 1) fun command =>
          { command with action := .text letter text } }

/-- Reads a part of a script. -/
def part : Reader Unit := do
  finishText
  commands longest

end Reader

end TestAmplification.Shell.Sed
