import TestAmplification.Shell.Script.Syntax
import TestAmplification.Shell.Utility.Escape
import TestAmplification.Text.Search

/-!
# Reading words

A script is read from the front, character by character. What stands in a word
depends on what encloses it. In the open, a blank, a line end or an operator ends
the word. Between single quotes all characters stand for themselves. Between
double quotes a backslash escapes only what would otherwise be special there, and
parameters, substitutions and arithmetic are still replaced. Inside the braces of
a parameter blanks and operators belong to the word.

A substitution holds a script, and how scripts are read is a parameter here
(`Grammar`).

In the extended dialect a parameter may be an element of a list or stand for another
one, and there are more ways to use it. What follows the name up to the closing brace
is read as one word then and cut where the use asks for it.
-/

set_option autoImplicit false

namespace TestAmplification.Shell

/-- A token. -/
inductive Token where
  /-- A word. -/
  | word (word : Word)
  /-- The number of a stream directly before a redirection. -/
  | stream (number : Nat)
  /-- The name of a variable in braces directly before a redirection. -/
  | freeStream (name : String)
  /-- An operator; a line end counts as one. -/
  | operator (characters : List Char)
  /-- A redirection from a text in the script itself. -/
  | document (text : Word)
  /-- The end of the script. -/
  | finish
deriving Inhabited

/-- How an operator is spelled in messages. -/
def Token.spelling : Token → List Char
  | operator ['\n'] => "newline".toList
  | operator characters => characters
  | _ => []

/-- A text in the script that the end of the script has cut off. -/
structure OpenText where
  /-- The line that it starts behind. -/
  start : Nat
  /-- The last line of the script. -/
  line : Nat
  /-- The end that it should have. -/
  ending : List Char
deriving Inhabited

/-- A script under way. -/
structure Reading where
  /-- The characters that are left. -/
  rest : List Char
  /-- The dialect of the script. -/
  dialect : Dialect := .plain
  /-- The line of the next character. -/
  line : Nat := 1
  /-- The lines that were taken out after the present one. -/
  hidden : Nat := 0
  /-- A token that was read and not used. -/
  held : Option Token := none
  /-- Words that stand for texts where a command may start. -/
  aliases : List (String × List Char) := []
  /-- The words whose texts are being read, with the number of characters after
  each text. -/
  replaced : List (String × Nat) := []
  /-- The characters from the start of the present line on. -/
  present : List Char := []
  /-- The characters from the start of the line of the last token on. -/
  tokenLine : List Char := []
  /-- The characters from the last token on. -/
  tokenStart : List Char := []
  /-- May the next word assign a list? -/
  mayAssign : Bool := true
  /-- The line where what encloses the next character begins. -/
  opening : Nat := 1
  /-- May a pattern have choices in parentheses? -/
  hasGroups : Bool := false
  /-- The texts that were cut off, the last one first. -/
  openTexts : List OpenText := []
deriving Inhabited

/-- A script that cannot be read further. -/
structure Refusal where
  /-- The line where that is noticed. -/
  line : Nat
  /-- The text of that line. -/
  text : List Char
  /-- The reason. -/
  fault : ScriptFault
  /-- The line behind the last one that was read. -/
  ending : Nat := line
  /-- The texts that were cut off before, the last one first. -/
  openTexts : List OpenText := []
  /-- Is that inside a list that is assigned? -/
  isInList : Bool := false
deriving Inhabited

/-- A reader of scripts. A refusal says where and why. -/
abbrev Reader (α : Type) := StateT Reading (Except Refusal) α

/-- How the scripts in words, and the commands in commands, are read. -/
structure Grammar where
  /-- Reads commands up to what cannot be part of them. -/
  list : Reader Command
  /-- Reads a list of at least one command. -/
  someList : Reader Command
  /-- Reads one command. -/
  command : Reader Command

/-! ## Characters -/

/-- May a name start with the character? -/
def startsName (character : Char) : Bool :=
  character.isAlpha || character == '_'

/-- May a name go on with the character? -/
def continuesName (character : Char) : Bool :=
  character.isAlphanum || character == '_'

/-- Are the characters a name? -/
def isName (characters : List Char) : Bool :=
  (characters.head?.map startsName).getD false && characters.all continuesName

/-- Is the character a parameter by itself? -/
def isSpecialParameter (character : Char) : Bool :=
  character.isDigit || ['@', '*', '#', '?', '$', '!', '-'].contains character

/-- Does the character end a word? -/
def endsWord (character : Char) : Bool :=
  [' ', '\t', '\n', ';', '&', '|', '(', ')', '<', '>'].contains character

/-- More than the longest script has characters. -/
def longestScript : Nat := 100000000

namespace Reader

/-- Refuses to go on at a line. -/
def refuseAt {α : Type} (line : Nat) (fault : ScriptFault) : Reader α := do
  let reading ← get
  throw {
    line, fault, openTexts := reading.openTexts
    text := reading.tokenLine.takeWhile (· != '\n')
    ending := if reading.present.isEmpty then reading.line else reading.line + 1 }

/-- Refuses to go on. -/
def refuse {α : Type} (fault : ScriptFault) : Reader α := do
  refuseAt (← get).line fault

/-- Reads what is enclosed from here on. -/
def enclosed {α : Type} (reader : Reader α) : Reader α := do
  let before := (← get).opening
  modify fun reading => { reading with opening := reading.line }
  let result ← reader
  modify fun reading => { reading with opening := before }
  return result

/-- Reads what stands in a list that is assigned. -/
def inList {α : Type} (reader : Reader α) : Reader α := fun reading =>
  match reader reading with
  | .ok result => .ok result
  | .error refusal => .error { refusal with isInList := true }

/-- Refuses a script that ends inside of something. -/
def refuseOpen {α : Type} (fault : ScriptFault) : Reader α := do
  let reading ← get
  refuseAt (if reading.dialect = .extended then reading.opening else reading.line) fault

/-- Is the script written in the extended dialect? -/
def isExtended : Reader Bool :=
  return (← get).dialect == .extended

/-- The next character, which stays in place. -/
def peek : Reader (Option Char) :=
  return (← get).rest.head?

/-- Passes over the next character. -/
def skip : Reader Unit :=
  modify fun reading =>
    match reading.rest with
    | '\n' :: rest =>
        { reading with
          rest, present := rest, line := reading.line + 1 + reading.hidden, hidden := 0 }
    | _ :: rest => { reading with rest }
    | [] => reading

/-- Takes the next character. -/
def next : Reader (Option Char) := do
  let character ← peek
  skip
  return character

/-- Passes over line ends that are escaped, at most so many. -/
def skipJoins : Nat → Reader Unit
  | 0 => return
  | steps + 1 => do
      match (← get).rest with
      | '\\' :: '\n' :: _ => skip; skip; skipJoins steps
      | _ => return

/-- The next character after escaped line ends, which stays in place. -/
def peekJoined : Reader (Option Char) := do
  skipJoins longestScript
  peek

/-- Takes characters that pass the test, at most so many; those before come last
first. -/
def runUpTo (passes : Char → Bool) : Nat → List Char → Reader (List Char)
  | 0, before => return before.reverse
  | steps + 1, before => do
      match ← peekJoined with
      | some character =>
          if passes character then
            skip
            runUpTo passes steps (character :: before)
          else return before.reverse
      | none => return before.reverse

/-- Takes characters that pass the test. -/
def run (passes : Char → Bool) : Reader (List Char) :=
  runUpTo passes longestScript []

end Reader

open Reader

/-! ## Words under way -/

/-- A word under way. -/
structure WordDraft where
  /-- The parts that are complete, the last one first. -/
  parts : List WordPart := []
  /-- The text at the end, the last character first. -/
  text : List Char := []
  /-- Is that text quoted? -/
  isQuoted : Bool := false
  /-- Does the word have a text at its end, though perhaps an empty one? -/
  hasText : Bool := false

namespace WordDraft

/-- The word so far. -/
def word (draft : WordDraft) : Word :=
  (if draft.hasText then .text draft.text.reverse draft.isQuoted :: draft.parts
    else draft.parts).reverse

/-- The draft with a part at its end. -/
def addPart (draft : WordDraft) (part : WordPart) : WordDraft :=
  { parts := part :: draft.word.reverse }

/-- The draft with a text at its end. -/
def addText (draft : WordDraft) (quoted : Bool) (text : List Char) : WordDraft :=
  if draft.hasText && draft.isQuoted == quoted then
    { draft with text := text.reverse ++ draft.text }
  else { parts := draft.word.reverse, text := text.reverse, isQuoted := quoted, hasText := true }

/-- The draft with a word at its end. -/
def addWord (draft : WordDraft) (word : Word) : WordDraft :=
  word.foldl (fun draft part =>
    match part with
    | .text characters quoted => draft.addText quoted characters
    | part => draft.addPart part) draft

end WordDraft

/-- What encloses the characters of a word. -/
inductive Enclosure where
  /-- Nothing. -/
  | open
  /-- Double quotes. -/
  | quotes
  /-- The braces of a parameter. The flags say whether double quotes enclose the
  braces and whether further ones are open inside them. -/
  | braces (quoted : Bool) (inner : Bool)
  /-- The ends of a text in the script. -/
  | document
  /-- The parentheses of an arithmetic expression, with so many open ones
  inside. -/
  | arithmetic (depth : Nat)
  /-- The brackets of an index, with so many open ones inside. -/
  | index (depth : Nat)
  /-- The right side of a comparison with a regular expression, with so many open
  parentheses. -/
  | expression (depth : Nat)
  /-- The parentheses of a choice in a pattern, with so many open ones inside. -/
  | group (depth : Nat)
deriving DecidableEq, Inhabited

namespace Enclosure

/-- Are characters quoted there? -/
def isQuoted : Enclosure → Bool
  | .open | .index _ | .expression _ | .group _ => false
  | .braces quoted _ => quoted
  | _ => true

/-- What a missing end means. -/
def fault? : Enclosure → Option ScriptFault
  | .open | .document => none
  | .quotes => some (.openQuotation '"')
  | .braces quoted _ => some (if quoted then .openQuotation '\x7d' else .openBrace)
  | .arithmetic _ => some .openArithmetic
  | .index _ => some (.openQuotation ']')
  | .expression depth => if depth = 0 then none else some .openParenthesis
  | .group _ => some .openParenthesis

/-- Does a backslash escape the character there? -/
def escapes (enclosure : Enclosure) (character : Char) : Bool :=
  match enclosure with
  | .open | .index _ | .expression _ | .group _ | .braces false _ => true
  | .braces true _ => ['$', '\x60', '\\', '"', '\x7d'].contains character
  | .document => ['$', '\x60', '\\'].contains character
  | .quotes | .arithmetic _ => ['$', '\x60', '\\', '"'].contains character

end Enclosure

/-! ## Scripts in words -/

/-- Takes the script between backquotes, at most so many characters. A backslash
is dropped before what it escapes there. -/
def backquoted (quoted : Bool) : Nat → List Char → Reader (List Char)
  | 0, _ => refuseOpen .openBackquote
  | steps + 1, before => do
      match ← next with
      | none => refuseOpen .openBackquote
      | some '\x60' => return before.reverse
      | some '\\' =>
          match ← next with
          | none => refuseOpen .openBackquote
          | some '\n' => backquoted quoted steps before
          | some character =>
              if ['\\', '\x60', '$'].contains character || (quoted && character = '"') then
                backquoted quoted steps (character :: before)
              else backquoted quoted steps (character :: '\\' :: before)
      | some character => backquoted quoted steps (character :: before)

/-- Reads a text on its own, from the present line on. -/
def within {α : Type} (text : List Char) (reader : Reader α) : Reader α := do
  let reading ← get
  let (result, _) ← (StateT.run reader { reading with
    rest := text, held := none, hidden := 0, present := text, tokenLine := text } :
    Except Refusal (α × Reading))
  return result

/-! ## Parameters in braces -/

/-- The use of a parameter with a word that a mark stands for. -/
def useOfMark? (colon : Bool) (mark : Option Char) : Option (Word → ParameterUse) :=
  match mark with
  | some '-' => some (.orWord colon)
  | some '=' => some (.orAssign colon)
  | some '+' => some (.wordIfSet colon)
  | some '?' => some (.orFail colon)
  | _ => none

/-- Reads what follows the name of a parameter in braces up to the word of its
use. The answer makes the use out of that word and says whether the word is read
as if no quotes enclosed it; without an answer there is no word. -/
def useAfterName : Reader (Option ((Word → ParameterUse) × Bool)) := do
  let trimmed (use : Bool → Word → ParameterUse) (mark : Char) :
      Reader (Option ((Word → ParameterUse) × Bool)) := do
    skip
    if (← peekJoined) == some mark then
      skip
      return some (use true, true)
    else return some (use false, true)
  let unknown (_ : Word) : ParameterUse := .unknown []
  match ← peekJoined with
  | some '\x7d' => skip; return none
  | some '#' => trimmed .withoutStart '#'
  | some '%' => trimmed .withoutEnd '%'
  | some ':' =>
      skip
      let character ← peekJoined
      skip
      return some ((useOfMark? true character).getD unknown, false)
  | none => return some (unknown, false)
  | character =>
      skip
      return some ((useOfMark? false character).getD unknown, false)

/-- Reads the name of a parameter, if one comes next. -/
def parameterName : Reader (Option String) := do
  match ← peekJoined with
  | some character =>
      if startsName character then return some (String.ofList (← run continuesName))
      else if character.isDigit then return some (String.ofList (← run Char.isDigit))
      else if isSpecialParameter character then
        skip
        return some (String.ofList [character])
      else return none
  | none => return none

/-- Reads the name of a parameter in braces. The answer says, too, whether its
length is meant; without a name nothing is meant. -/
def nameInBraces : Reader (Option (String × Bool)) := do
  let named (length : Bool) : Reader (Option (String × Bool)) := do
    return (← parameterName).map (·, length)
  match ← peekJoined with
  | some '#' =>
      skip
      let second ← peekJoined
      if (second.map continuesName).getD false then named true
      else
        let special := (second.map isSpecialParameter).getD false
        match (← get).rest with
        | _ :: '\x7d' :: _ => if special then named true else return some ("#", false)
        | _ => return some ("#", false)
  | _ => named false

/-! ## Words that are cut -/

/-- Cuts a text before the first character where a step of looking for it gives no new
state. -/
def cutText {σ : Type} (step : σ → Char → Option σ) :
    σ → List Char → List Char × (σ ⊕ List Char)
  | state, [] => ([], .inl state)
  | state, character :: rest =>
      match step state character with
      | none => ([], .inr rest)
      | some state =>
          let (before, after) := cutText step state rest
          (character :: before, after)

/-- Cuts a word at an unquoted character in the same way. The character is in neither
part. -/
def cutWord {σ : Type} (step : σ → Char → Option σ) : σ → Word → Word × Option Word
  | _, [] => ([], none)
  | state, .text characters false :: rest =>
      match cutText step state characters with
      | (before, .inr after) => ([.text before false], some (.text after false :: rest))
      | (before, .inl state) =>
          let (others, after) := cutWord step state rest
          (.text before false :: others, after)
  | state, part :: rest =>
      let (others, after) := cutWord step state rest
      (part :: others, after)

/-- Cuts a pattern from its replacement. -/
def cutReplacement (word : Word) : Word × Word :=
  let (pattern, replacement) :=
    cutWord (fun (_ : Unit) character => if character = '/' then none else some ()) () word
  (pattern, replacement.getD [])

/-- Cuts a position from a length. A colon in parentheses or after a question mark does not
count. -/
def cutPart (word : Word) : Word × Option Word :=
  cutWord (fun (state : Nat × Nat) character =>
    let (depth, choices) := state
    if character = '(' then some (depth + 1, choices)
    else if character = ')' then some (depth - 1, choices)
    else if character = '?' then some (depth, choices + 1)
    else if character = ':' && depth = 0 then if choices = 0 then none else some (depth, choices - 1)
    else some state) (0, 0) word

/-! ## Parts of words -/

/-- Takes the given characters, which stand next. -/
def takeAll (taken : List Char) : Reader Unit :=
  taken.forM fun _ => skip

/-- Reads the characters up to a single quote. -/
def quotation : Reader (List Char) := do
  let reading ← get
  let inner := reading.rest.takeWhile (· != '\'')
  match reading.rest.drop inner.length with
  | _ :: rest =>
      let last := (inner.reverse.takeWhile (· != '\n')).length
      let present := if last = inner.length then reading.present
        else reading.rest.drop (inner.length - last)
      set { reading with rest, present, line := reading.line + inner.count '\n' }
      return inner
  | [] =>
      if reading.dialect = .extended then refuse (.openQuotation '\'')
      set { reading with rest := [], line := reading.line + inner.count '\n' }
      refuse (.openQuotation '\'')

/-- Reads the characters up to a single quote that is not escaped, at most so many; those
before come last first. -/
def escapedQuotation : Nat → List Char → Reader (List Char)
  | 0, _ => refuseOpen (.openQuotation '\'')
  | steps + 1, before => do
      match ← next with
      | none => refuseOpen (.openQuotation '\'')
      | some '\'' => return before.reverse
      | some '\\' =>
          match ← next with
          | none => refuseOpen (.openQuotation '\'')
          | some character => escapedQuotation steps (character :: '\\' :: before)
      | some character => escapedQuotation steps (character :: before)

/-- Reads a quotation with escapes after its dollar sign and its mark. -/
def escapedText : Reader (List Char) := do
  let inner ← enclosed (escapedQuotation longestScript [])
  let bytes := rowOf (String.ofList inner)
  return (unescapeKnown quotationRule (bytes.length + 1) bytes).takeWhile (· != '\x00')

/-- Does an index come next that may belong to an assignment? -/
def opensIndex (reading : Reading) (draft : WordDraft) (character : Char) : Bool :=
  reading.dialect = .extended && reading.mayAssign && character = '['
    && draft.parts.isEmpty && !draft.isQuoted && isName draft.text.reverse

/-- Is the text in front the start of an assignment? -/
def opensList (reading : Reading) (draft : WordDraft) (character : Char) : Bool :=
  reading.dialect = .extended && reading.mayAssign && character = '('
    && draft.parts.isEmpty && !draft.isQuoted
    && match draft.text with
      | '=' :: '+' :: name | '=' :: name => isName name.reverse
      | _ => false

/-- Does a choice in a pattern begin with the next two characters? -/
def opensGroup (reading : Reading) : Bool :=
  reading.hasGroups
    && match reading.rest with
      | mark :: '(' :: _ => ['?', '*', '+', '@', '!'].contains mark
      | _ => false

/-- Does a pipe to a command begin with the next two characters? -/
def opensChannel (reading : Reading) : Bool :=
  reading.dialect = .extended
    && match reading.rest with
      | '<' :: '(' :: _ | '>' :: '(' :: _ => true
      | _ => false

/-- Does the text in braces ask for the length of what follows, or for what the value
names? -/
def lengthOrIndirect (text : List Char) : Bool × Bool :=
  match text with
  | '#' :: second :: rest =>
      (startsName second || second.isDigit
        || (isSpecialParameter second && rest.head? == some '\x7d'), false)
  | '!' :: second :: _ =>
      (false, startsName second || second.isDigit || ['#', '?', '@', '*'].contains second)
  | _ => (false, false)

/-- What an element refers to whose index is the given word. -/
def elementSource (name : String) (index : Word) : ParameterSource :=
  match index with
  | [.text ['@'] false] => .elements name false
  | [.text ['*'] false] => .elements name true
  | _ => .element name index

/-- The source whose value names another one. Of a list its indices are meant. -/
def indirectSource : ParameterSource → ParameterSource
  | .elements name isJoined => .indices name isJoined
  | source => .indirect source

mutual

/-- Reads the commands of a substitution up to its closing parenthesis. -/
def substitution (grammar : Grammar) : Reader Command := do
  let before := (← get).mayAssign
  let command ← grammar.list
  let reading ← get
  match reading.held with
  | some (.operator [')']) =>
      set { reading with held := none, mayAssign := before }
      return command
  | some (.finish) | none =>
      if reading.dialect = .extended then
        refuseAt (if reading.present.isEmpty then reading.line else reading.line + 1)
          (.openQuotation ')')
      else refuse (.unexpectedEnd (some "\")\""))
  | some token =>
      if reading.dialect = .extended then refuse (.unexpected "" (some token.spelling) none)
      else refuse (.unexpectedEnd (some "\")\""))

/-- Reads what follows the name of a parameter in braces in the extended dialect, up to the
closing brace. Without an answer there is no such use. -/
def extendedUse (grammar : Grammar) : Nat → Bool → Reader (Option ParameterUse)
  | 0, _ => return none
  | steps + 1, quoted => do
      let word (quoted : Bool) : Reader Word := parts grammar steps (.braces quoted false) {}
      let closed (use : ParameterUse) : Reader (Option ParameterUse) := do
        if (← peekJoined) == some '\x7d' then
          skip
          return some use
        else return none
      let doubled (mark : Char) : Reader Bool := do
        skip
        if (← peekJoined) == some mark then
          skip
          return true
        else return false
      let recased (change : LetterChange) (mark : Char) : Reader (Option ParameterUse) := do
        let everywhere ← doubled mark
        return some (.recased change everywhere (← word false))
      match ← peekJoined with
      | some '\x7d' => closed .value
      | some '#' =>
          let longest ← doubled '#'
          return some (.withoutStart longest (← word false))
      | some '%' =>
          let longest ← doubled '%'
          return some (.withoutEnd longest (← word false))
      | some '/' =>
          skip
          let place ←
            match ← peekJoined with
            | some '/' => skip; pure MatchPlace.every
            | some '#' => skip; pure MatchPlace.start
            | some '%' => skip; pure MatchPlace.finish
            | _ => pure MatchPlace.first
          let (pattern, replacement) := cutReplacement (← word false)
          return some (.replaced place pattern replacement)
      | some '^' => recased .raised '^'
      | some ',' => recased .lowered ','
      | some '~' => recased .swapped '~'
      | some '@' =>
          skip
          match ← peekJoined with
          | some letter =>
              if ['Q', 'E', 'P', 'A', 'a', 'K', 'k', 'u', 'U', 'L'].contains letter then
                skip
                closed (.formed letter)
              else return none
          | none => return none
      | some ':' =>
          skip
          match useOfMark? true (← peekJoined) with
          | some use =>
              skip
              return some (use (← word quoted))
          | none =>
              let (start, length) := cutPart (← word false)
              return some (.part start length)
      | mark =>
          match useOfMark? false mark with
          | some use =>
              skip
              return some (use (← word quoted))
          | none => return none

/-- Reads a parameter in braces in the extended dialect. -/
def extendedParameter (grammar : Grammar) : Nat → Bool → Reader WordPart
  | 0, _ => refuse .openBrace
  | steps + 1, quoted => enclosed do
      let text := (← get).rest
      let (isLength, isIndirect) := lengthOrIndirect text
      if isLength || isIndirect then skip
      let name ← parameterName
      let source ←
        match name with
        | none => pure (ParameterSource.named "")
        | some name =>
            if isName name.toList && (← peekJoined) == some '[' then
              skip
              pure (elementSource name (← enclosed (parts grammar steps (.index 0) {})))
            else pure (ParameterSource.named name)
      let isStart :=
        match (← get).rest with
        | '*' :: '\x7d' :: _ | '@' :: '\x7d' :: _ => isIndirect
        | _ => false
      let use ←
        if name.isNone then pure none
        else if isStart then
          let isJoined := (← peek) == some '*'
          skip
          skip
          return .parameter (.names (name.getD "") isJoined) .value quoted
        else if isLength then
          if (← peekJoined) == some '\x7d' then
            skip
            pure (some ParameterUse.length)
          else pure none
        else extendedUse grammar steps quoted
      match use with
      | some use =>
          return .parameter (if isIndirect then indirectSource source else source) use quoted
      | none =>
          let _ ← parts grammar steps (.braces quoted false) {}
          let read := text.take (text.length - (← get).rest.length)
          return .parameter source (.unknown ('$' :: '\x7b' :: read)) quoted

/-- Reads a parameter in braces in the plain dialect. -/
def plainParameter (grammar : Grammar) : Nat → Bool → Reader WordPart
  | 0, _ => refuse .openBrace
  | steps + 1, quoted => do
      match ← nameInBraces with
      | some (name, true) =>
          if (← peekJoined) == some '\x7d' then
            skip
            return .parameter (.named name) .length quoted
          else
            let _ ← parts grammar steps (.braces quoted false) {}
            return .parameter (.named name) (.unknown []) quoted
      | some (name, false) =>
          match ← useAfterName with
          | none => return .parameter (.named name) .value quoted
          | some (use, trims) =>
              let inner ← parts grammar steps (.braces (quoted && !trims) false) {}
              return .parameter (.named name) (use inner) quoted
      | none =>
          let _ ← parts grammar steps (.braces quoted false) {}
          return .parameter (.named "") (.unknown []) quoted

/-- Reads an arithmetic expression, or a substitution that only looks like one in the
extended dialect, after the first of two parentheses. -/
def doubleParenthesis (grammar : Grammar) : Nat → Bool → Reader WordPart
  | 0, _ => refuse .openArithmetic
  | steps + 1, quoted => do
      let expression : Reader WordPart := do
        skip
        return .arithmetic (← enclosed (parts grammar steps (.arithmetic 0) {})) quoted
      let reading ← get
      if reading.dialect = .plain then expression
      else
        match (StateT.run expression reading : Except Refusal (WordPart × Reading)) with
        | .ok (part, after) =>
            set after
            return part
        | .error refusal =>
            if refusal.fault ≠ .looseParenthesis then throw refusal
            let other : Reader Command := enclosed (substitution grammar)
            match (StateT.run other reading : Except Refusal (Command × Reading)) with
            | .ok (command, after) =>
                set after
                return .output command quoted
            | .error refusal =>
                if refusal.fault = .openQuotation ')' then refuse .openArithmetic
                else throw refusal

/-- Reads a part after a dollar sign. -/
def dollarPart (grammar : Grammar) : Nat → Enclosure → Reader WordPart
  | 0, _ => refuse .openBrace
  | steps + 1, enclosure => do
      let quoted := enclosure.isQuoted
      match ← peekJoined with
      | some '(' =>
          skip
          if (← peekJoined) == some '(' then doubleParenthesis grammar steps quoted
          else return .output (← enclosed (substitution grammar)) quoted
      | some '\x7b' =>
          skip
          if ← isExtended then extendedParameter grammar steps quoted
          else plainParameter grammar steps quoted
      | some '[' =>
          if ← isExtended then
            skip
            return .arithmetic (← enclosed (parts grammar steps (.index 0) {})) quoted
          else return .text ['$'] quoted
      | some character =>
          if startsName character then
            return .parameter (.named (String.ofList (← run continuesName))) .value quoted
          else if isSpecialParameter character then
            skip
            return .parameter (.named (String.ofList [character])) .value quoted
          else return .text ['$'] quoted
      | none => return .text ['$'] quoted

/-- Reads the words of a list up to its closing parenthesis, at most so many; those before
come last first. -/
def listWords (grammar : Grammar) : Nat → List Word → Reader (List Word)
  | 0, before => return before.reverse
  | steps + 1, before => do
      match ← peek with
      | none => refuseOpen .openParenthesis
      | some ' ' | some '\t' | some '\n' =>
          skip
          listWords grammar steps before
      | some '#' =>
          modify fun reading => { reading with rest := reading.rest.dropWhile (· != '\n') }
          listWords grammar steps before
      | some ')' =>
          skip
          return before.reverse
      | some character =>
          if endsWord character && !opensChannel (← get) then
            refuse (.unexpected "" (some [character]) none)
          else
            let draft : WordDraft ←
              if character = '[' then
                skip
                let index ← enclosed (parts grammar steps (.index 0) {})
                pure ((((({} : WordDraft)).addText false ['[']).addWord index).addText false [']'])
              else pure {}
            let word ← parts grammar steps .open draft
            listWords grammar steps (word :: before)

/-- Reads the parts of a word up to the end of what encloses it. -/
def parts (grammar : Grammar) : Nat → Enclosure → WordDraft → Reader Word
  | 0, _, _ => refuse .openBrace
  | steps + 1, enclosure, draft => do
      match ← peek with
      | none =>
          match enclosure.fault? with
          | some fault => refuseOpen fault
          | none => return draft.word
      | some '\\' =>
          skip
          match ← next with
          | none => parts grammar steps enclosure (draft.addText enclosure.isQuoted ['\\'])
          | some '\n' => parts grammar steps enclosure draft
          | some character =>
              parts grammar steps enclosure (draft.addText true
                (if enclosure.escapes character then [character] else ['\\', character]))
      | some '$' =>
          skip
          match ← isExtended, enclosure.isQuoted, ← peek with
          | true, false, some '\'' =>
              skip
              parts grammar steps enclosure (draft.addText true (← escapedText))
          | true, false, some '"' => parts grammar steps enclosure draft
          | _, _, _ =>
              let part ← dollarPart grammar steps enclosure
              parts grammar steps enclosure (draft.addWord [part])
      | some '\x60' =>
          skip
          let script ← enclosed (backquoted enclosure.isQuoted longestScript [])
          let command ← within script do
            let command ← grammar.list
            match (← get).held with
            | some .finish => return command
            | token => refuse (.unexpected "\")\"" (token.map Token.spelling) none)
          parts grammar steps enclosure (draft.addPart (.output command enclosure.isQuoted))
      | some character =>
          let plain : Reader Word := do
            skip
            parts grammar steps enclosure (draft.addText enclosure.isQuoted [character])
          let reading ← get
          match enclosure, character with
          | .open, '\'' | .braces false _, '\'' | .index _, '\'' | .expression _, '\''
          | .group _, '\'' =>
              skip
              let inner ← quotation
              parts grammar steps enclosure (draft.addText true inner)
          | .open, '"' | .braces false _, '"' | .index _, '"' | .expression _, '"'
          | .group _, '"' =>
              let inner ← enclosed do
                skip
                parts grammar steps .quotes {}
              parts grammar steps enclosure
                (if inner.isEmpty then draft.addText true [] else draft.addWord inner)
          | .open, _ =>
              if opensChannel reading then
                skip
                skip
                let command ← enclosed (substitution grammar)
                parts grammar steps enclosure (draft.addPart (.channel (character == '<') command))
              else if opensIndex reading draft character then
                skip
                let index ← enclosed (parts grammar steps (.index 0) {})
                parts grammar steps enclosure
                  (((draft.addText false ['[']).addWord index).addText false [']'])
              else if opensList reading draft character then
                skip
                let words ← enclosed (inList (listWords grammar steps []))
                parts grammar steps enclosure (draft.addPart (.elements words))
              else if opensGroup reading then
                skip
                skip
                let inner ← enclosed (parts grammar steps (.group 0) {})
                parts grammar steps enclosure
                  (((draft.addText false [character, '(']).addWord inner).addText false [')'])
              else if endsWord character then return draft.word
              else plain
          | .quotes, '"' => skip; return draft.word
          | .braces true inner, '"' =>
              skip
              parts grammar steps (.braces true !inner) draft
          | .braces _ false, '\x7d' => skip; return draft.word
          | .arithmetic depth, '(' =>
              skip
              parts grammar steps (.arithmetic (depth + 1)) (draft.addText true ['('])
          | .arithmetic (depth + 1), ')' =>
              skip
              parts grammar steps (.arithmetic depth) (draft.addText true [')'])
          | .arithmetic 0, ')' =>
              skip
              if (← peekJoined) == some ')' then
                skip
                return draft.word
              else if reading.dialect = .extended then refuse .looseParenthesis
              else parts grammar steps enclosure (draft.addText true [')'])
          | .index depth, '[' =>
              skip
              parts grammar steps (.index (depth + 1)) (draft.addText false ['['])
          | .index (depth + 1), ']' =>
              skip
              parts grammar steps (.index depth) (draft.addText false [']'])
          | .index 0, ']' => skip; return draft.word
          | .group depth, '(' =>
              skip
              parts grammar steps (.group (depth + 1)) (draft.addText false ['('])
          | .group (depth + 1), ')' =>
              skip
              parts grammar steps (.group depth) (draft.addText false [')'])
          | .group 0, ')' => skip; return draft.word
          | .expression depth, '(' =>
              enclosed do
                skip
                parts grammar steps (.expression (depth + 1)) (draft.addText false ['('])
          | .expression (depth + 1), ')' =>
              skip
              parts grammar steps (.expression depth) (draft.addText false [')'])
          | .expression 0, '|' => plain
          | .expression 0, _ => if endsWord character then return draft.word else plain
          | _, _ => plain

end

/-- Reads a word. -/
def openWord (grammar : Grammar) : Reader Word :=
  parts grammar longestScript .open {}

end TestAmplification.Shell
