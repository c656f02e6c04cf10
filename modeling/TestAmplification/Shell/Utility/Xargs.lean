import TestAmplification.Shell.Utility.Launching
import TestAmplification.Shell.Utility.Passing

/-!
# The program `xargs`

`xargs` makes commands out of the items of its input, as many at a time as options and
the length of a command allow, and runs them one after the other.
-/

set_option autoImplicit false

namespace TestAmplification.Shell

open Tool

/-- An item of the input, and whether a line ends with it. -/
structure InputItem where
  /-- The text. -/
  row : Row
  /-- Does a line end with it? -/
  endsLine : Bool
deriving Inhabited

/-- Takes the items of an input apart, in at most so many steps. Blanks separate items
unless lines do; quotes and backslashes keep them. The present item comes with whether
it has begun, last character first. The second result names the quote that is not
closed, if there is one. -/
def inputItems (byLines : Bool) : Nat → Option Char → Option Row → Row →
    List InputItem × Option Char
  | 0, quote, _, _ => ([], quote)
  | _ + 1, quote, item, [] =>
      match quote, item with
      | some mark, _ => ([], some mark)
      | none, some row => ([⟨row.reverse, true⟩], none)
      | none, none => ([], none)
  | steps + 1, quote, item, character :: rest =>
      let longer (row : Row) : Option Row := some (row ++ item.getD [])
      let closing (isLineEnd : Bool) : List InputItem × Option Char :=
        let (others, fault) := inputItems byLines steps none none rest
        match item with
        | some row => (⟨row.reverse, isLineEnd⟩ :: others, fault)
        | none => (others, fault)
      match quote with
      | some mark =>
          if character = mark then inputItems byLines steps none (longer []) rest
          else if character = '\n' then ([], some mark)
          else inputItems byLines steps quote (longer [character]) rest
      | none =>
          if character = '\n' then closing true
          else if character = '\'' || character = '"' then
            inputItems byLines steps (some character) (longer []) rest
          else if character = '\\' then
            match rest with
            | next :: rest => inputItems byLines steps none (longer [next]) rest
            | [] => inputItems byLines steps none item []
          else if isSpace character then
            if byLines then inputItems byLines steps none (item.map (character :: ·)) rest
            else closing false
          else inputItems byLines steps none (longer [character]) rest

/-- How commands are made. -/
structure XargsPlan where
  /-- The command that items are added to. -/
  command : List Row
  /-- The text that an item stands for, if there is one. -/
  mark : Option Row := none
  /-- The most items of a command. -/
  items : Option Nat := none
  /-- The most lines of a command. -/
  lines : Option Nat := none
  /-- The most characters of a command. -/
  length : Nat := 131072
  /-- Are commands shown? -/
  isShown : Bool := false
  /-- Is a command run even if there are no items? -/
  runsEmpty : Bool := true

/-- The length of a command. -/
def commandLength (command : List Row) : Nat :=
  command.foldl (fun length word => length + word.length + 1) 0

/-- Takes the items of the next command. The numbers count the items and the lines so
far, and the characters of the command. -/
def takeItems (plan : XargsPlan) : Nat → Nat → Nat → List InputItem → List InputItem × List InputItem
  | _, _, _, [] => ([], [])
  | items, lines, length, item :: rest =>
      let length := length + item.row.length + 1
      let isFull := (plan.items.map fun most => decide (items ≥ most)).getD false
        || (plan.lines.map fun most => decide (lines ≥ most)).getD false
        || (decide (length > plan.length) && items > 0)
      if isFull then ([], item :: rest)
      else
        let (taken, left) :=
          takeItems plan (items + 1) (lines + if item.endsLine then 1 else 0) length rest
        (item :: taken, left)

/-- The commands for items, at most so many. -/
def commandsFor (plan : XargsPlan) : Nat → List InputItem → List (List Row)
  | 0, _ | _ + 1, [] => []
  | count + 1, item :: rest =>
      match plan.mark with
      | some mark =>
          let replaced (word : Row) : Row := joinWith item.row (cutAtText mark word)
          (plan.command.take 1 ++ (plan.command.drop 1).map replaced) :: commandsFor plan count rest
      | none =>
          let (taken, left) := takeItems plan 0 0 (commandLength plan.command) (item :: rest)
          (plan.command ++ taken.map InputItem.row) :: commandsFor plan count left

/-- Runs a command. The status says how `xargs` ends if it was the last one. -/
def runItems (plan : XargsPlan) (input : Option Nat) (command : List Row) : Tool Nat := do
  if plan.isShown then warnRow (joinWith [' '] (command.map quotedIfNeeded) ++ ['\n'])
  let environment := (← read).environment
  let name := command.head?.getD []
  match ← programFor environment command with
  | .error fault => fail (name ++ rowOf (": " ++ fault.reason)) (statusOfFault fault)
  | .ok path =>
      let child ← Act.start (.program path command environment) fun process =>
        match input with
        | some opening => process.withStream 0 (some opening)
        | none => process
      match ← Act.awaitEnding child with
      | .code 0 => return 0
      | .code 255 => fail (name ++ rowOf ": exited with status 255; aborting") 124
      | .code _ => return 123
      | .signal signal => fail (name ++ rowOf ": terminated by signal " ++ natRow signal) 125

/-- The number that an option asks for. -/
def xargsNumber (letter : Char) (least : Nat) (text : Row) : Tool Nat := do
  match intOf? text with
  | none =>
      Tool.warn (rowOf "invalid number \"" ++ text ++ rowOf "\" for -" ++ [letter] ++ rowOf " option")
      hint
  | some number =>
      if number < least then
        Tool.warn (rowOf "value " ++ text ++ rowOf " for -" ++ [letter] ++ rowOf " option should be >= "
          ++ natRow least)
        hint
      else return number.toNat

/-- The character that separates items. -/
def itemSeparator (text : Row) : Char :=
  match text with
  | ['\\', 'n'] => '\n'
  | ['\\', 't'] => '\t'
  | ['\\', '0'] => '\x00'
  | ['\\', '\\'] => '\\'
  | character :: _ => character
  | [] => '\x00'

/-- The items of an input between separators. -/
def separatedItems (separator : Char) (row : Row) : List InputItem :=
  let parts := cutAtEach separator row
  let parts := if parts.getLast? = some [] then parts.dropLast else parts
  parts.map fun part => ⟨part, true⟩

/-- Runs a command with the items of the input. -/
def xargs : Utility := fun given => do
  let arguments ← parseInFront
    [long '0' "null", long 'a' "arg-file" .some, long 'd' "delimiter" .some, long 'E' "" .some,
      long 'e' "eof" .maybe, long 'I' "" .some, long 'i' "replace" .maybe, long 'L' "" .some,
      long 'l' "max-lines" .maybe, long 'n' "max-args" .some, long 'o' "open-tty",
      long 'P' "max-procs" .some, long 'p' "interactive", long 'r' "no-run-if-empty",
      long 's' "max-chars" .some, long 't' "verbose", long 'x' "exit"] given
  let count (letter : Char) (least : Nat) : Tool (Option Nat) :=
    (arguments.value? letter).mapM (xargsNumber letter least)
  let most ← count 'n' 1
  let lines ← count 'L' 1
  let length ← count 's' 1
  let _ ← count 'P' 0
  let lastWay := arguments.last? ['I', 'i', 'L', 'l', 'n']
  let mark :=
    match lastWay with
    | some 'I' => arguments.value? 'I'
    | some 'i' => (arguments.value? 'i').map fun mark => if mark.isEmpty then rowOf "\x7b\x7d" else mark
    | _ => none
  let lines := if lastWay = some 'l' then
      some (((arguments.value? 'l').bind Text.digits?).getD 1)
    else if lastWay = some 'L' then lines else none
  let plan : XargsPlan := {
    command := if arguments.operands.isEmpty then [rowOf "echo"] else arguments.operands
    mark
    items := if lastWay = some 'n' then most else none
    lines
    length := length.getD 131072
    isShown := arguments.has 't'
    runsEmpty := !arguments.has 'r' }
  let (opening, stdin) ←
    match arguments.value? 'a' with
    | none =>
        let nothing ← Act.newOpening { target := .nothing, isRead := true }
        pure (['-'], some nothing)
    | some path => pure (path, none)
  match ← input opening with
  | .error fault =>
      if opening = ['-'] then leave 0
      fail (rowOf "Cannot open input file " ++ quotedText opening ++ rowOf (": " ++ fault.reason)) 1
  | .ok row =>
      let separator := (if arguments.has '0' then some '\x00'
        else (arguments.value? 'd').map itemSeparator)
      let (items, fault) :=
        match separator with
        | some separator => (separatedItems separator row, none)
        | none =>
            (inputItems plan.mark.isSome (2 * row.length + 2) none none row)
      let stop := (arguments.value? 'E').or ((arguments.value? 'e').filter (!·.isEmpty))
      let items := items.takeWhile fun item => some item.row != stop || separator.isSome
      let commands :=
        if items.isEmpty then
          if plan.runsEmpty && plan.mark.isNone && fault.isNone then [plan.command] else []
        else commandsFor plan (items.length + 1) items
      let status ← worst (runItems plan stdin) commands
      match fault with
      | none => return status
      | some mark =>
          let kind := if mark = '"' then "double" else "single"
          fail (rowOf ("unmatched " ++ kind ++ " quote; by default quotes are special to xargs"
            ++ " unless you use the -0 option")) 1

end TestAmplification.Shell
