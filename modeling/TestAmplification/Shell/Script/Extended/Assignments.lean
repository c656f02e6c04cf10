import TestAmplification.Shell.Script.Builtin
import TestAmplification.Shell.Script.Grammar
import TestAmplification.Shell.Script.Session
import TestAmplification.Shell.Script.Words

/-!
# Arguments, refusals and assignments in the extended dialect

What builtins of the extended dialect share: how they take their options apart, how it is told that
a script cannot be read further, and what an assignment does.
-/

set_option autoImplicit false

/-!
## Arguments of builtins in the extended dialect

A builtin knows the letters of its options. A letter that it does not know, or one without the
value that it needs, is answered by how the builtin is used.
-/

namespace TestAmplification.Shell

open Session

/-- How a builtin is used. -/
structure BuiltinUse where
  /-- The letters of the options without a value. -/
  letters : String := ""
  /-- The letters of the options with a value. -/
  valued : String := ""
  /-- How it is used, in words. -/
  usage : String

namespace BuiltinUse

/-- Takes the options in front of the operands, in at most so many steps. -/
def takeUpTo (use : BuiltinUse) : Nat → List Row → Session (List (Char × Row) × List Row)
  | 0, arguments => return ([], arguments)
  | steps + 1, arguments => do
      match arguments with
      | ['-', '-'] :: rest => return ([], rest)
      | ('-' :: letter :: more) :: rest =>
          if use.valued.contains letter then
            match more, rest with
            | [], [] =>
                giveUpUsage (some (['-', letter] ++ rowOf ": option requires an argument")) use.usage
            | [], value :: rest =>
                let (options, operands) ← takeUpTo use steps rest
                return ((letter, value) :: options, operands)
            | value, rest =>
                let (options, operands) ← takeUpTo use steps rest
                return ((letter, value) :: options, operands)
          else if use.letters.contains letter then
            let rest := if more.isEmpty then rest else ('-' :: more) :: rest
            let (options, operands) ← takeUpTo use steps rest
            return ((letter, []) :: options, operands)
          else giveUpUsage (some (['-', letter] ++ rowOf ": invalid option")) use.usage
      | operands => return ([], operands)

/-- Takes the options in front of the operands. -/
def take (use : BuiltinUse) (arguments : List Row) : Session (List (Char × Row) × List Row) :=
  use.takeUpTo (arguments.flatten.length + 1) arguments

/-- Takes options without values. -/
def takeLetters (use : BuiltinUse) (arguments : List Row) : Session (List Char × List Row) := do
  let (options, operands) ← use.take arguments
  return (options.map Prod.fst, operands)

/-- Refuses a call without what it needs. -/
def refuse {α : Type} (use : BuiltinUse) : Session α :=
  giveUpUsage none use.usage

end BuiltinUse

/-- A text that is no name of a variable, as a message has it. -/
def noIdentifier (text : Row) : Row :=
  ['\x60'] ++ text ++ rowOf "': not a valid identifier"

/-- The value of an option, the last one if it is given several times. -/
def optionValue? (options : List (Char × Row)) (letter : Char) : Option Row :=
  options.reverse.lookup letter

/-- Writes a message and takes note that something has failed. -/
def remark (message : Row) : Session Unit :=
  complain message 1

/-- Writes a message that is not about the builtin that runs, and takes note that something has
failed. -/
def remarkPlainly (message : Row) : Session Unit := do
  let builtin := (← get).builtin
  modify fun shell => { shell with builtin := none }
  remark message
  modify fun shell => { shell with builtin }

/-- A count that an argument denotes, if it denotes one. -/
def wholeNumber? (text : Row) : Option Int :=
  intOf? ((text.dropWhile isSpace).reverse.dropWhile isSpace).reverse

end TestAmplification.Shell

/-!
## Scripts that cannot be read

The plain dialect says in one line why a script cannot be read further, and the script ends.
The extended dialect names what the script was read from, often shows the line, and leaves
the rest of the script aside.
-/

namespace TestAmplification.Shell

open Session

/-- A text between the marks that messages put around it. -/
def marked (text : Row) : Row :=
  ['\x60'] ++ text ++ ['\'']

/-- What is said about a script that cannot be read further, each with its line. -/
def Refusal.messages (refusal : Refusal) : List (Nat × Row) :=
  let line := refusal.line
  let shown : Nat × Row := (line, marked refusal.text)
  let openUntil (mark : Char) : List (Nat × Row) :=
    [(line, rowOf "unexpected EOF while looking for matching " ++ marked [mark])]
  let finished : Nat × Row := (refusal.ending, rowOf "syntax error: unexpected end of file")
  match refusal.fault with
  | .openQuotation mark => openUntil mark
  | .openBrace => openUntil '\x7d'
  | .openArithmetic | .looseParenthesis | .openParenthesis => openUntil ')'
  | .openBackquote => openUntil '\x60'
  | .unexpected _ spelling _ =>
      [(line, rowOf "syntax error near unexpected token " ++ marked (spelling.getD [])), shown]
  | .unexpectedEnd _ => [finished]
  | .badLoopVariable name => [(line, marked name ++ rowOf ": not a valid identifier")]
  | .badFunctionName => [(line, rowOf "syntax error: bad function name")]
  | .badStreamNumber => [(line, rowOf "syntax error: bad file descriptor")]
  | .openCondition true => [(line, rowOf "unexpected EOF while looking for \x60]]'"), finished]
  | .openCondition false =>
      [(refusal.ending, rowOf "unexpected token \x60EOF' in conditional command"), finished]
  | .badCondition reason spelling =>
      (reason.map fun reason => (line, reason)).toList
        ++ [(line, rowOf "syntax error near " ++ marked spelling), shown]
  | .badCounting text =>
      [(line, rowOf "syntax error: arithmetic expression required"),
        (line, rowOf "syntax error: " ++ marked text)]

/-- Tells about texts that the end of the script has cut off. -/
def tellOpenTexts (texts : List OpenText) : Session Unit :=
  texts.reverse.forM fun text => do
    warnRow (sourceName (← get) ++ rowOf ": line " ++ natRow text.line
      ++ rowOf ": warning: here-document at line " ++ natRow text.start
      ++ rowOf " delimited by end-of-file (wanted " ++ marked text.ending ++ rowOf ")\n")

/-- The status of a script that cannot be read further. -/
def Refusal.status (refusal : Refusal) : Nat :=
  match refusal.fault with
  | .badLoopVariable _ => 1
  | _ => if refusal.isInList then 1 else 2

/-- Gives up a script that cannot be read further. The label says what it was read from, if
that is no file. -/
def refuseScript (label : Option Row) (refusal : Refusal) : Session Unit := do
  let shell ← get
  match shell.dialect with
  | .plain =>
      set { shell with line := refusal.line }
      giveUp (rowOf refusal.fault.message)
  | .extended =>
      let isNamed := refusal.status = 2 || refusal.isInList
      let start := sourceName shell ++ rowOf ": "
        ++ ((if isNamed then label else none).map (· ++ rowOf ": ")).getD []
      let hasLine := label.isSome || !(shell.has 's' && shell.scopes.isEmpty)
      refusal.messages.forM fun (line, message) =>
        warnRow (start ++ (if hasLine then rowOf "line " ++ natRow line ++ rowOf ": " else [])
          ++ message ++ ['\n'])
      finish refusal.status

end TestAmplification.Shell

/-!
## Assignments in the extended dialect

A value is assigned to a variable, to an element of a list, or put behind what is there. A
list is assigned as a whole; its words may say where they belong.
-/

namespace TestAmplification.Shell

open Session

/-- An element of a list that is assigned: its place, if it says one, whether it is put behind
what is there, and its value. -/
abbrev ListEntry := Option (Row × Bool) × Row

/-- The elements that a word of a list stands for. -/
def entriesOfWord (word : Word) : Session (List ListEntry) := do
  let plain : Session (List ListEntry) := do return (← fieldsOf [word]).map (none, ·)
  let placed (index : Word) (adds : Bool) (value : Word) : Session (List ListEntry) := do
    let index ← rowOfWord index
    return [(some (index, adds), ← rowOfAssigned value)]
  match word with
  | .text ('[' :: more) false :: rest =>
      match cutIndex (.text more false :: rest) with
      | (index, some (.text ('=' :: value) false :: after)) =>
          placed index false (wordWith value after)
      | (index, some (.text ('+' :: '=' :: value) false :: after)) =>
          placed index true (wordWith value after)
      | _ => plain
  | _ => plain

/-- The elements that the words of a list stand for. -/
def entriesOf (words : List Word) : Session (List ListEntry) := do
  return (← words.mapM entriesOfWord).flatten

/-- What is assigned to a variable. -/
inductive Given where
  /-- A value, to an element if there is an index. -/
  | value (name : String) (index : Option Row) (adds : Bool) (value : Row)
  /-- A list. -/
  | list (name : String) (adds : Bool) (entries : List ListEntry)
deriving Inhabited

namespace Given

/-- The name of the variable. -/
def name : Given → String
  | value name .. => name
  | list name .. => name

/-- What an assignment of a script assigns. -/
def ofAssignment : Assignment → Session Given
  | .mk name index adds [.elements words] => do
      match index with
      | none => return list name adds (← entriesOf words)
      | some index =>
          let index ← rowOfWord index
          giveUpPlainly (rowOf name ++ ['['] ++ index ++ rowOf "]: cannot assign list to array member")
  | .mk name index adds word => do
      let index ← index.mapM rowOfWord
      return value name index adds (← rowOfAssigned word)

/-- What a text assigns, if it is an assignment. -/
def ofRow? (row : Row) : Option Given :=
  let name := row.takeWhile continuesName
  let assigned (index : Option Row) : Row → Option Given
    | '=' :: text => some (value (String.ofList name) index false text)
    | '+' :: '=' :: text => some (value (String.ofList name) index true text)
    | _ => none
  if !isName name then none
  else
    match row.drop name.length with
    | '[' :: rest =>
        match Text.cutFirst ']' rest with
        | some (index, after) => assigned (some index) after
        | none => none
    | rest => assigned none rest

/-- The value is a list if it is written like one. -/
def readAsList (given : Given) : Session Given := do
  match given with
  | value name none adds ('(' :: text) =>
      let reading : Reading := {
        rest := ['x', '=', '('] ++ text, dialect := .extended, hasGroups := (← get).isSet "extglob" }
      match nextLine reading with
      | .commands [.simple _ [.mk _ none _ [.elements words]] _ _] _ _ =>
          return list name adds (← entriesOf words)
      | _ => return given
  | given => return given

/-- Assigns. -/
def store : Given → Session Unit
  | value name none adds row => Shell.store name none adds row
  | value name (some index) adds row => do
      Shell.store name (some (← keyOfRow name index)) adds row
  | list name adds entries => storeList name adds entries

/-- A value as it is shown before a command runs. -/
def shownValue (row : Row) : Row :=
  if hasMeaning row then betweenSingleQuotes row
  else if row.all isPrinted then row
  else withEscapes row

/-- The assignment as it is shown before a command runs. -/
def shown : Given → Row
  | value name index adds row =>
      rowOf name ++ ((index.map fun index => ['['] ++ index ++ [']']).getD [])
        ++ (if adds then ['+', '='] else ['=']) ++ shownValue row
  | list name adds entries =>
      rowOf name ++ (if adds then rowOf "+=(" else rowOf "=(")
        ++ joinWith [' '] (entries.map fun (place, row) =>
          ((place.map fun (index, adds) =>
            ['['] ++ index ++ (if adds then rowOf "]+=" else rowOf "]=")).getD []) ++ shownValue row)
        ++ [')']

end Given

/-! ### Variables that builtins set -/

/-- A variable or an element that a builtin sets: its name and its index. -/
def targetOf? (row : Row) : Option (String × Option Row) :=
  let name := row.takeWhile continuesName
  if !isName name then none
  else
    match row.drop name.length with
    | [] => some (String.ofList name, none)
    | '[' :: rest =>
        if rest.getLast? == some ']' then some (String.ofList name, some rest.dropLast) else none
    | _ => none

/-- Leaves a builtin that would change what is kept from changing. -/
def refuseIfFixed (name : String) : Session Unit := do
  let shell ← get
  if shell.isFixed (shell.target name) then
    remarkPlainly (rowOf name ++ rowOf ": readonly variable")
    leave .fault

/-- Sets a variable or an element for a builtin. -/
def setFor (target : Row) (value : Row) : Session Unit := do
  match targetOf? target with
  | none =>
      remark (noIdentifier target)
      leave .fault
  | some (name, index) =>
      refuseIfFixed name
      store name (← index.mapM (keyOfRow name)) false value

end TestAmplification.Shell
