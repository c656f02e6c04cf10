import TestAmplification.Shell.Utility.Passing
import TestAmplification.Shell.Utility.Regex
import TestAmplification.Shell.Utility.Status

/-!
# Searching lines

`grep` writes the lines of its inputs in which one of some patterns occurs, or in which
none does. It can also count them, write only what matches, name the inputs, or show
the lines around those that it finds.

An input is read only as far as the answer needs. It succeeds when there is such a
line, and something that goes wrong matters more.
-/

set_option autoImplicit false

namespace TestAmplification.Shell

open Tool

/-! ## Patterns -/

/-- What is looked for in lines. -/
structure LinePattern where
  /-- The expressions of which one must match. -/
  regexes : List Regex
  /-- Does case not matter? -/
  foldsCase : Bool := false
  /-- Must the whole line match? -/
  isWhole : Bool := false
  /-- Must whole words match? -/
  isWord : Bool := false
  /-- Are lines wanted in which nothing matches? -/
  isTurned : Bool := false

namespace LinePattern

/-- A line as it is matched against. -/
def subject (pattern : LinePattern) (line : Row) : Subject :=
  { characters := line.toArray, foldsCase := pattern.foldsCase }

/-- The first match of an expression from a place on. -/
def searchOne (pattern : LinePattern) (subject : Subject) (place : Nat) (regex : Regex) :
    Option Regex.Found :=
  let mayStart (place : Nat) : Bool :=
    (!pattern.isWhole || place == 0) && (!pattern.isWord || !subject.isWordBefore place)
  let mayEnd (place : Nat) : Bool :=
    (!pattern.isWhole || place == subject.size) && (!pattern.isWord || !subject.isWordAt place)
  regex.searchWithin subject mayStart mayEnd (subject.size + 1 - place) place

/-- The first match from a place on: the one that starts first, and of those the
longest. -/
def search (pattern : LinePattern) (subject : Subject) (place : Nat) : Option Regex.Found :=
  (pattern.regexes.filterMap (pattern.searchOne subject place)).foldl (fun best found =>
    match best with
    | none => some found
    | some before =>
        if found.start < before.start
            || (found.start == before.start && before.finish < found.finish) then some found
        else best) none

/-- Does a line match? -/
def occursIn (pattern : LinePattern) (line : Row) : Bool :=
  let subject := pattern.subject line
  if pattern.isWhole || pattern.isWord then
    pattern.regexes.any fun regex => (pattern.searchOne subject 0 regex).isSome
  else pattern.regexes.any fun regex => regex.occursIn subject

/-- Is a line one of those that are wanted? -/
def accepts (pattern : LinePattern) (line : Row) : Bool :=
  pattern.occursIn line != pattern.isTurned

/-- The matches in a line that are not empty, at most so many. -/
def matchesUpTo (pattern : LinePattern) (subject : Subject) : Nat → Nat → List Regex.Found
  | 0, _ => []
  | steps + 1, place =>
      match pattern.search subject place with
      | none => []
      | some found =>
          if found.start = found.finish then matchesUpTo pattern subject steps (found.finish + 1)
          else found :: matchesUpTo pattern subject steps found.finish

/-- The matches in a line that are not empty. -/
def matchesIn (pattern : LinePattern) (line : Row) : List Regex.Found :=
  pattern.matchesUpTo (pattern.subject line) (line.length + 2) 0

end LinePattern

/-- The text that stands for itself, as an expression. -/
def literalRegex (row : Row) : Regex :=
  row.foldr (fun character rest =>
    match rest with
    | .empty => .single character
    | rest => .seq (.single character) rest) .empty

/-- How patterns are written. -/
inductive PatternSyntax where
  /-- As texts that stand for themselves. -/
  | literal
  /-- As basic expressions. -/
  | basic
  /-- As extended expressions. -/
  | extended
deriving DecidableEq, Inhabited

/-- The marks of repetition in an extended pattern that have nothing to repeat, in at
most so many steps. The flag says that there is nothing that could be repeated. -/
def idleMarks : Nat → Bool → Row → List Row
  | 0, _, _ | _ + 1, _, [] => []
  | steps + 1, _, '\\' :: escaped :: rest =>
      idleMarks steps (((Regex.escapedAtom? escaped).map Regex.isPlace).getD false) rest
  | steps + 1, isStart, character :: rest =>
      if isStart && ['*', '+', '?', '\x7b'].contains character then
        match Regex.takeMark { isExtended := true } (character :: rest) with
        | .ok (some (_, _, others)) =>
            (if character = '\x7b' then rowOf "\x7b...\x7d" else [character])
              :: idleMarks steps true others
        | _ => idleMarks steps false rest
      else if character = '[' then idleMarks steps false ((rest.drop 1).dropWhile (· != ']'))
      else idleMarks steps (['|', '(', '^', '$'].contains character) rest

/-- Reads a pattern. -/
def readPattern (way : PatternSyntax) (row : Row) : Tool Regex := do
  match way with
  | .literal => return literalRegex row
  | _ =>
      if way = .extended then
        (idleMarks (row.length + 1) true row).forM fun mark =>
          warn (rowOf "warning: " ++ mark ++ rowOf " at start of expression")
      match Regex.parse { isExtended := way = .extended, refusesBareClass := true } row with
      | .ok regex => return regex
      | .error fault =>
          let message :=
            if fault = .openBracket && row = ['['] && way = .basic then "Invalid regular expression"
            else fault.message
          fail (rowOf message) 2

/-! ## Plans -/

/-- How lines are searched and shown. -/
structure GrepPlan where
  /-- What is looked for. -/
  pattern : LinePattern
  /-- The most lines that are wanted. -/
  limit : Option Nat := none
  /-- The lines that are shown before those that are found. -/
  before : Nat := 0
  /-- The lines that are shown after those that are found. -/
  after : Nat := 0
  /-- What stands between groups of lines, if lines around others are shown. -/
  separator : Option Row := none
  /-- Are inputs named? -/
  isNamed : Bool := false
  /-- Are lines numbered? -/
  isNumbered : Bool := false
  /-- Are bytes numbered? -/
  hasOffsets : Bool := false
  /-- Is only written what matches? -/
  onlyMatches : Bool := false
  /-- Is nothing written? -/
  isQuiet : Bool := false
  /-- Are lines counted? -/
  counts : Bool := false
  /-- Are inputs listed with such a line, or without? -/
  lists : Option Bool := none
  /-- Are inputs that are no texts treated like others? -/
  isAnyText : Bool := false
  /-- Are inputs that are no texts passed over? -/
  skipsBinary : Bool := false
  /-- The character at the end of a line. -/
  ending : Char := '\n'
  /-- The character behind the name of an input, where no other stands. -/
  nameEnding : Option Char := none
  /-- Are parts of the output marked by colors? -/
  isColored : Bool := false

namespace GrepPlan

/-- A row in a color, if colors are wanted. -/
def colored (plan : GrepPlan) (color : String) (row : Row) : Row :=
  if plan.isColored then
    rowOf ("\x1b[" ++ color ++ "m\x1b[K") ++ row ++ rowOf "\x1b[m\x1b[K"
  else row

/-- What stands in front of a line: the name of the input and numbers. -/
def label (plan : GrepPlan) (name : Row) (mark : Char) (number offset : Nat) : Row :=
  let mark' (ending : Option Char) : Row :=
    match ending with
    | some character => [character]
    | none => plan.colored "36" [mark]
  (if plan.isNamed then plan.colored "35" name ++ mark' plan.nameEnding else [])
    ++ (if plan.isNumbered then plan.colored "32" (natRow number) ++ mark' none else [])
    ++ (if plan.hasOffsets then plan.colored "32" (natRow offset) ++ mark' none else [])

/-- A line with its matches marked. -/
def marked (plan : GrepPlan) (line : Row) : Row :=
  if !plan.isColored || plan.pattern.isTurned then line
  else
    let (row, place) := (plan.pattern.matchesIn line).foldl (fun (row, place) found =>
      (row ++ (line.drop place).take (found.start - place)
        ++ plan.colored "01;31" ((line.drop found.start).take (found.finish - found.start)),
        found.finish)) (([] : Row), 0)
    row ++ line.drop place

end GrepPlan

/-! ## One input -/

/-- A line that was not shown yet. -/
structure PassedLine where
  /-- Its number. -/
  number : Nat
  /-- The number of bytes before it. -/
  offset : Nat
  /-- Its characters. -/
  row : Row

/-- How far an input is searched. -/
structure GrepState where
  /-- The number of lines. -/
  lines : Nat := 0
  /-- The number of bytes in them. -/
  offset : Nat := 0
  /-- The number of lines that were found. -/
  found : Nat := 0
  /-- The last lines that were not shown, the last one first. -/
  passed : List PassedLine := []
  /-- The number of lines that are still to be shown. -/
  due : Nat := 0
  /-- The number of the last line that was shown. -/
  shown : Nat := 0
  /-- What is to be written, the last piece first. -/
  output : List Row := []
  /-- Is nothing more to be looked for? -/
  isDone : Bool := false

/-- Searches a line. -/
def GrepPlan.step (plan : GrepPlan) (name : Row) (isSilent : Bool) (state : GrepState) (line : Row) :
    GrepState :=
  let number := state.lines + 1
  let offset := state.offset
  let next := { state with lines := number, offset := offset + line.length + 1 }
  let isOver := (plan.limit.map fun limit => decide (state.found ≥ limit)).getD false
  if isOver then
    if state.due = 0 || plan.pattern.accepts line then { state with isDone := true }
    else
      { next with
        due := state.due - 1
        output := (plan.label name '-' number offset ++ line ++ [plan.ending]) :: state.output }
  else if !plan.pattern.accepts line then
    if isSilent then next
    else if state.due > 0 then
      { next with
        due := state.due - 1, shown := number
        output := (if plan.onlyMatches then [] else
          plan.label name '-' number offset ++ line ++ [plan.ending]) :: state.output }
    else { next with passed := (⟨number, offset, line⟩ :: state.passed).take plan.before }
  else
    let next := { next with found := state.found + 1 }
    if isSilent then
      { next with isDone := !plan.counts }
    else
      let first := ((state.passed.getLast?.map PassedLine.number).getD number)
      let gap : Row :=
        match plan.separator with
        | some row =>
            if state.shown > 0 && first > state.shown + 1 then plan.colored "36" row ++ ['\n'] else []
        | none => []
      let context := state.passed.reverse.map fun passed =>
        if plan.onlyMatches then []
        else plan.label name '-' passed.number passed.offset ++ passed.row ++ [plan.ending]
      let row :=
        if plan.onlyMatches then
          if plan.pattern.isTurned then []
          else
            (plan.pattern.matchesIn line).flatMap fun found =>
              plan.label name ':' number (offset + found.start)
                ++ plan.colored "01;31" ((line.drop found.start).take (found.finish - found.start))
                ++ [plan.ending]
        else plan.label name ':' number offset ++ plan.marked line ++ [plan.ending]
      { next with
        passed := [], due := plan.after, shown := number
        output := row :: context.reverse ++ gap :: state.output }

/-- Searches lines until nothing more is to be looked for. The answer says, too, which
lines are left. -/
def GrepPlan.steps (plan : GrepPlan) (name : Row) (isSilent : Bool) :
    GrepState → List Row → GrepState × List Row
  | state, [] => (state, [])
  | state, line :: rest =>
      let next := plan.step name isSilent state line
      if next.isDone then (next, if next.lines = state.lines then line :: rest else rest)
      else steps plan name isSilent next rest

/-- Searches what is left in an opening, piece by piece. The end of the piece before
is given, and whether the input is known to be no text. -/
def GrepPlan.searchPieces (plan : GrepPlan) (name : Row) (opening : Nat) :
    Nat → Row → Bool → GrepState → Tool (Except StreamFault (GrepState × Bool))
  | 0, _, isBinary, state => return .ok (state, isBinary)
  | fuel + 1, rest, isBinary, state => do
      match ← Act.readOnce Act.patience opening 32768 with
      | .error fault => return .error fault
      | .ok piece =>
          let isBinary := isBinary
            || (piece.contains '\x00' && !plan.isAnyText && plan.ending != '\x00')
          if isBinary && plan.skipsBinary then return .ok ({}, false)
          let isSilent := isBinary || plan.isQuiet || plan.lists.isSome || plan.counts
          let parts := cutAtEach plan.ending (rest ++ piece)
          let left := parts.getLast?.getD []
          let isEnd := piece.isEmpty
          let lines := if isEnd && !left.isEmpty then parts else parts.dropLast
          let (state, unused) := plan.steps name isSilent state lines
          put state.output.reverse.flatten
          let state := { state with output := [] }
          Act.work (lines.length * plan.pattern.regexes.length + rest.length)
          if state.isDone || isEnd then
            if !plan.isQuiet then
              let extra := if isEnd then (joinWith [plan.ending] unused).length
                else (unused.map fun line => line.length + 1).foldl (· + ·) left.length
              Act.stepBack opening extra
            return .ok (state, isBinary)
          else plan.searchPieces name opening fuel left isBinary state

/-- Searches an opening. The answer says whether a line was found. -/
def GrepPlan.searchOpening (plan : GrepPlan) (name : Row) (opening : Nat) :
    Tool (Except StreamFault Bool) := do
  if plan.limit = some 0 then return .ok false
  match ← keeping opening (plan.searchPieces name opening Act.patience [] false {}) with
  | .error fault => return .error fault
  | .ok (state, isBinary) =>
      let isFound := decide (state.found > 0)
      let ending := [plan.nameEnding.getD '\n']
      if plan.isQuiet then return .ok isFound
      else if plan.counts && plan.lists.isNone then
        put ((if plan.isNamed then
            plan.colored "35" name ++ [plan.nameEnding.getD ':'] else [])
          ++ natRow state.found ++ ['\n'])
      else if plan.lists = some isFound then put (plan.colored "35" name ++ ending)
      else if isBinary && isFound && plan.lists.isNone then
        warn (name ++ rowOf ": binary file matches")
      return .ok isFound

/-! ## All inputs -/

/-- How files and directories are chosen when directories are searched. -/
structure FileChoice where
  /-- Are directories searched? -/
  isDeep : Bool := false
  /-- Are links followed that are found in directories? -/
  followsLinks : Bool := false
  /-- Are directories passed over? -/
  skipsDirectories : Bool := false
  /-- The patterns of names of which files must match one. -/
  included : List Row := []
  /-- The patterns of names that files must not match. -/
  excluded : List Row := []
  /-- The patterns of names that directories must not match. -/
  excludedDirectories : List Row := []

/-- Does a name match one of some patterns? -/
def matchesName (patterns : List Row) (name : Row) : Bool :=
  patterns.any fun pattern => matchesPattern (patternOfRow pattern) name

/-- Is a file searched that has the name? -/
def FileChoice.holdsFile (choice : FileChoice) (name : Row) : Bool :=
  !matchesName choice.excluded name
    && (choice.included.isEmpty || matchesName choice.included name)

/-- The files in a directory and in those below it, with at most so many levels. A directory that
leads back to one of those above it comes with that answer. -/
def FileChoice.filesBelow (choice : FileChoice) (disk : Disk) :
    Nat → List Place → Row → List (Row × Bool)
  | 0, _, _ => []
  | levels + 1, above, path =>
      let names := (disk.namesIn? (if path.isEmpty then "." else textOf path)).getD []
      names.flatMap fun name =>
        let row := rowOf name
        let below := if path.isEmpty || path.getLast? == some '/' then path ++ row
          else path ++ '/' :: row
        let status := if choice.followsLinks then statusOfPath disk (textOf below)
          else statusOfSelf disk (textOf below)
        match status with
        | .error _ => if choice.holdsFile row then [(below, false)] else []
        | .ok status =>
            if status.isDirectory then
              if matchesName choice.excludedDirectories row then []
              else if above.contains status.place then [(below, true)]
              else filesBelow choice disk levels (status.place :: above) below
            else if status.isFile && choice.holdsFile row then [(below, false)]
            else []

/-- The deepest level of directories. -/
def mostLevels : Nat := 200

/-- The files in the directory at a path and in those below it. -/
def FileChoice.filesIn (choice : FileChoice) (disk : Disk) (path : Row) : List (Row × Bool) :=
  let status := statusOfPath disk (if path.isEmpty then "." else textOf path)
  choice.filesBelow disk mostLevels (status.toOption.map PathStatus.place).toList path

/-- What an argument stands for: files that are searched. -/
def FileChoice.filesOf (choice : FileChoice) (disk : Disk) (path : Row) : List (Row × Bool) :=
  if choice.isDeep && disk.isDirectory (textOf path) then choice.filesIn disk path
  else if (choice.excluded ++ choice.included).isEmpty || path = ['-'] || choice.holdsFile path then
    [(path, false)]
  else []

/-- A number of lines. -/
def lineCount (text : Row) : Tool Nat := do
  match Text.digits? text with
  | some number => return number
  | none => fail (text ++ rowOf ": invalid context length argument") 2

/-- The patterns that options and operands give, and the operands that are left. -/
def grepPatterns (arguments : Arguments) : Tool (List Row × List Row) := do
  let given := arguments.values 'e'
  let files ← (arguments.values 'f').mapM fun path => do
    match ← input path with
    | .ok row => return rowLines row
    | .error fault => fail (path ++ rowOf (": " ++ fault.reason)) 2
  let listed := given.flatMap (cutAtEach '\n') ++ files.flatten
  if arguments.has 'e' || arguments.has 'f' then return (listed, arguments.operands)
  else
    match arguments.operands with
    | [] =>
        warnRow (rowOf "Usage: grep [OPTION]... PATTERNS [FILE]...\n")
        hint
    | pattern :: rest => return (cutAtEach '\n' pattern, rest)

/-- The options of `grep`. -/
def grepOptions : List KnownOption :=
  letterOptions "EFGPiyvwxclLnhHoqsrRbazZITuU" ++ valueOptions "efmABCdD" ++
    [long 'E' "extended-regexp", long 'F' "fixed-strings", long 'G' "basic-regexp",
      long 'P' "perl-regexp", long 'e' "regexp" .some, long 'f' "file" .some,
      long 'i' "ignore-case", long 'j' "no-ignore-case", long 'v' "invert-match",
      long 'w' "word-regexp", long 'x' "line-regexp", long 'c' "count",
      long 'l' "files-with-matches", long 'L' "files-without-match", long 'n' "line-number",
      long 'h' "no-filename", long 'H' "with-filename", long 'o' "only-matching",
      long 'q' "quiet", long 'q' "silent", long 's' "no-messages", long 'r' "recursive",
      long 'R' "dereference-recursive", long 'b' "byte-offset", long 'a' "text",
      long 'z' "null-data", long 'Z' "null", long 'm' "max-count" .some,
      long 'A' "after-context" .some, long 'B' "before-context" .some, long 'C' "context" .some,
      long 'd' "directories" .some, long 'D' "devices" .some, long 'T' "initial-tab",
      long '1' "include" .some, long '2' "exclude" .some, long '3' "exclude-dir" .some,
      long '4' "label" .some, long '5' "group-separator" .some, long '6' "no-group-separator",
      long '7' "color" .maybe, long '7' "colour" .maybe, long '8' "line-buffered",
      long '9' "binary-files" .some, long 'U' "binary"]

/-- The arguments where a bare number behind a hyphen is a number of lines. -/
def withBareContext (arguments : List Row) : List Row :=
  arguments.flatMap fun argument =>
    match argument with
    | '-' :: digit :: rest =>
        if (digit :: rest).all Char.isDigit then [rowOf "-C", digit :: rest] else [argument]
    | _ => [argument]

/-- The way that patterns are written. -/
def patternSyntaxOf (arguments : Arguments) : Tool PatternSyntax := do
  let given := (arguments.options.map Prod.fst).filter ['E', 'F', 'G', 'P'].contains
  let name := (← read).name
  match given with
  | [] => return if name = "egrep" then .extended else if name = "fgrep" then .literal else .basic
  | letter :: others =>
      if others.any fun other => other != letter && (letter == 'P' || other == 'P') then
        fail (rowOf "conflicting matchers specified") 2
      return if letter = 'F' then .literal else if letter = 'G' then .basic else .extended

/-- The plan that options and patterns make. -/
def grepPlan (arguments : Arguments) (patterns paths : List Row) : Tool GrepPlan := do
  let has := arguments.has
  let way ← patternSyntaxOf arguments
  let regexes ← patterns.mapM (readPattern way)
  let limit ←
    match arguments.value? 'm' with
    | none => pure none
    | some text =>
        match intOf? text with
        | some number => pure (if number < 0 then none else some number.toNat)
        | none => fail (rowOf "invalid max count") 2
  let around ← (arguments.value? 'C').mapM lineCount
  let before ← (arguments.value? 'B').mapM lineCount
  let after ← (arguments.value? 'A').mapM lineCount
  let isDeep := has 'r' || has 'R'
  let disk ← disk
  let several := decide (paths.length > 1)
    || (isDeep && (paths.isEmpty || paths.any fun path => disk.isDirectory (textOf path)))
  let hasContext := around.isSome || before.isSome || after.isSome
  return {
    pattern := {
      regexes, foldsCase := arguments.last? ['i', 'y', 'j'] matches some 'i' | some 'y'
      isWhole := has 'x', isWord := has 'w', isTurned := has 'v' }
    limit
    before := (before.or around).getD 0, after := (after.or around).getD 0
    separator :=
      if !hasContext || has '6' then none else some ((arguments.value? '5').getD ['-', '-'])
    isNamed :=
      match arguments.last? ['h', 'H'] with
      | some letter => letter == 'H'
      | none => several
    isNumbered := has 'n', hasOffsets := has 'b', onlyMatches := has 'o', isQuiet := has 'q'
    counts := has 'c'
    lists := (arguments.last? ['l', 'L']).map (· == 'l')
    isAnyText := has 'a' || arguments.value? '9' == some (rowOf "text")
    skipsBinary := has 'I' || arguments.value? '9' == some (rowOf "without-match")
    ending := if has 'z' then '\x00' else '\n'
    nameEnding := if has 'Z' then some '\x00' else none
    isColored := arguments.value? '7' == some (rowOf "always") }

/-- Searches inputs one after the other, up to one that settles a quiet search. The
answer says whether a line was found and whether something went wrong. -/
def grepPaths (plan : GrepPlan) (choice : FileChoice) (isSilent : Bool) (label : Row) :
    List (Row × Bool) → Bool × Bool → Tool (Bool × Bool)
  | [], outcome => return outcome
  | (path, true) :: rest, (found, _) => do
      if !isSilent then warn (path ++ rowOf ": warning: recursive directory loop")
      grepPaths plan choice isSilent label rest (found, true)
  | (path, false) :: rest, (found, failed) => do
      let complain (fault : InputFault) : Tool Unit := do
        if !isSilent then
          let shown := if path = ['-'] then label else path
          warn (shown ++ rowOf (": " ++ fault.reason))
      match ← openInput path with
      | .error fault =>
          complain fault
          grepPaths plan choice isSilent label rest (found, true)
      | .ok opening =>
          let name := if path = ['-'] then label else path
          match ← plan.searchOpening name opening with
          | .ok more =>
              if more && plan.isQuiet then return (true, false)
              grepPaths plan choice isSilent label rest (found || more, failed)
          | .error fault =>
              if !choice.skipsDirectories then complain (.reading fault)
              grepPaths plan choice isSilent label rest (found, failed || !choice.skipsDirectories)

/-- Searches lines. -/
def grep : Utility := fun given => withReader (fun call => { call with usageStatus := 2 }) do
  let call ← read
  let known := grepOptions
  let arguments ←
    withReader (fun call => { call with
      hintStart := rowOf "Usage: grep [OPTION]... PATTERNS [FILE]...\n" })
      (parseArguments known (withBareContext given))
  let (patterns, paths) ← grepPatterns arguments
  let plan ← withReader (fun _ => { call with name := "grep" }) (grepPlan arguments patterns paths)
  let choice : FileChoice := {
    isDeep := arguments.has 'r' || arguments.has 'R' || arguments.value? 'd' == some (rowOf "recurse")
    followsLinks := arguments.has 'R'
    skipsDirectories := arguments.value? 'd' == some (rowOf "skip")
    included := arguments.values '1', excluded := arguments.values '2'
    excludedDirectories := arguments.values '3' }
  let disk ← disk
  let files :=
    if paths.isEmpty then if choice.isDeep then choice.filesIn disk [] else [(['-'], false)]
    else paths.flatMap (choice.filesOf disk)
  let label := (arguments.value? '4').getD (rowOf "(standard input)")
  let (found, failed) ← grepPaths plan choice (arguments.has 's') label files (false, false)
  return if failed then 2 else if found then 0 else 1

end TestAmplification.Shell
