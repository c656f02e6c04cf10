import TestAmplification.Shell.Utility.Sed.Script

/-!
# The program `sed`

How a script of `sed` edits lines, and the program that is given the script.
-/

set_option autoImplicit false

/-!
## Editing lines with `sed`

Every line of the input becomes the pattern, goes through the commands of a script and
is written at their end. A second text, the hold, stays from line to line.

Whether a line is the last one is known only after a look at what follows it, so the
input is read one line ahead. A last line without a line feed is written without one,
unless more is written after it.
-/

namespace TestAmplification.Shell.Sed

open Tool

/-! ### State -/

/-- Where something is written. -/
inductive Sink where
  /-- The standard output, or the file that is edited. -/
  | standard
  /-- The standard error. -/
  | errors
  /-- A file. -/
  | file (opening : Nat)
deriving DecidableEq, Inhabited

/-- A line: its characters, and whether it is ended. -/
structure Line where
  /-- The characters. -/
  row : Row := []
  /-- Does a line feed follow? -/
  isEnded : Bool := true
deriving Inhabited

/-- What is written after a line. -/
inductive Addition where
  /-- A text. -/
  | text (row : Row)
  /-- What a file holds. -/
  | file (path : Row)
deriving Inhabited

/-- How far a range of lines goes. -/
inductive Range where
  /-- It has not begun. -/
  | idle
  /-- It goes up to a line with a number. -/
  | upTo (number : Nat)
  /-- It goes up to a line that the second address is for. -/
  | untilMatch
deriving DecidableEq, Inhabited

/-- How a script is used. -/
structure Plan where
  /-- The commands. -/
  commands : Array Command
  /-- Are lines written only on demand? -/
  isQuiet : Bool := false
  /-- Is every file an input of its own? -/
  isSeparate : Bool := false
  /-- Are files edited, and what is added to the names of those that are kept? -/
  inPlace : Option Row := none
  /-- The character at the end of a line. -/
  ending : Char := '\n'
  /-- How long the lines are that `l` writes. -/
  width : Nat := 70
  /-- Is every line written at once? -/
  isUnbuffered : Bool := false
  /-- The files that lines are written to. -/
  sinks : List (Row × Sink) := []

/-- How far the editing came. -/
structure State where
  /-- The inputs that are still to be read. -/
  paths : List Row
  /-- The name of the present input. -/
  name : Row := ['-']
  /-- The present input. -/
  opening : Option Nat := none
  /-- What was read of it and not used. -/
  ahead : Row := []
  /-- Is it at its end? -/
  isDrained : Bool := false
  /-- The number of the line. -/
  number : Nat := 0
  /-- The pattern. -/
  pattern : Line := {}
  /-- The hold. -/
  hold : Line := {}
  /-- What is written after the line, the last addition first. -/
  additions : List Addition := []
  /-- Was something replaced since the line was read? -/
  hasReplaced : Bool := false
  /-- The expression that was used last. -/
  lastRegex : Option LineRegex := none
  /-- The ranges of the commands. -/
  ranges : Array Range
  /-- Where a line feed is missing. -/
  missing : List Sink := []
  /-- The files whose lines are read one by one, with what is left of them. -/
  readers : List (Row × List Row) := []
  /-- What is to be written to the standard output, the last piece first. -/
  output : List Row := []
  /-- The number of bytes in it. -/
  outputSize : Nat := 0
  /-- The status. -/
  status : Nat := 0
deriving Inhabited

/-- Steps of the editing. -/
abbrev Steps := StateT State Tool

/-! ### Writing -/

/-- Writes a row, after a line feed if one is missing. -/
def emit (plan : Plan) (sink : Sink) (row : Row) : Steps Unit := do
  let missing := (← get).missing
  let row := if missing.contains sink then plan.ending :: row else row
  modify fun state => { state with missing := missing.filter (· != sink) }
  match sink with
  | .standard => modify fun state => { state with
      output := row :: state.output, outputSize := state.outputSize + row.length }
  | .errors => warnRow row
  | .file opening =>
      let _ ← Act.writeOpening opening row

/-- Writes a line. -/
def emitLine (plan : Plan) (sink : Sink) (line : Line) : Steps Unit := do
  emit plan sink (line.row ++ if line.isEnded then [plan.ending] else [])
  if !line.isEnded then modify fun state => { state with missing := sink :: state.missing }

/-- The number of bytes that are written to the standard output at a time. -/
def blockSize : Nat := 4096

/-- Writes what is to be written to the standard output as far as that fills blocks, or all
of it. -/
def flush (plan : Plan) : Steps Unit := do
  let size := (← get).outputSize
  if plan.inPlace.isNone && (plan.isUnbuffered || size ≥ blockSize) then
    let row := (← get).output.reverse.flatten
    let written := if plan.isUnbuffered then size else size / blockSize * blockSize
    put (row.take written)
    modify fun state => { state with output := [row.drop written], outputSize := size - written }

/-- Writes what was added to a line. -/
def emitAdditions (plan : Plan) : Steps Unit := do
  let additions := (← get).additions.reverse
  modify fun state => { state with additions := [] }
  additions.forM fun
    | .text row => emit plan .standard row
    | .file path => do
        match ← Act.openPath .read (textOf path) with
        | .ok opening => emit plan .standard (← Act.readOpening opening)
        | .error _ => return

/-! ### Reading -/

/-- Ends the editing because something cannot be read. -/
def stopReading {α : Type} (name : Row) (fault : StreamFault) : Steps α := do
  put (← get).output.reverse.flatten
  fail (rowOf "read error on " ++ (if name = ['-'] then rowOf "stdin" else name)
    ++ rowOf (": " ++ fault.reason)) 4

/-- Reads until there is a whole line, or the input is at its end. -/
def fill (plan : Plan) : Nat → Steps Unit
  | 0 => return
  | steps + 1 => do
      let state ← get
      match state.opening with
      | none => return
      | some opening =>
          if state.isDrained || state.ahead.contains plan.ending then return
          Act.work state.ahead.length
          match ← Act.readOnce Act.patience opening 32768 with
          | .error fault => stopReading state.name fault
          | .ok [] => modify fun state => { state with isDrained := true }
          | .ok piece =>
              modify fun state => { state with ahead := state.ahead ++ piece }
              fill plan steps

/-- Goes on with the next input that can be read. The answer says whether there is
one. -/
def nextInput (plan : Plan) : List Row → Steps Bool
  | [] => do
      modify fun state => { state with paths := [], opening := none }
      return false
  | path :: rest => do
      let isFile := match statusOfPath (← disk) (textOf path) with
        | .ok status => status.isFile
        | .error _ => true
      if plan.inPlace.isSome && !isFile then
        warn (rowOf "couldn't edit " ++ path ++ rowOf ": not a regular file")
        modify fun state => { state with status := 4 }
        nextInput plan rest
      else
        match ← openInput path with
        | .ok opening =>
            modify fun state => { state with
              paths := rest, name := path, opening := some opening, ahead := [], isDrained := false
              number := if plan.isSeparate then 0 else state.number }
            Act.changeSelf fun process => { process with kept := [opening] ++ process.kept }
            return true
        | .error fault =>
            warn (rowOf "can't read " ++ path ++ rowOf (": " ++ fault.reason))
            modify fun state => { state with status := 2 }
            nextInput plan rest

/-- Puts a new file in the place of what stands at a path, with the mode of the file that the path
leads to. What was there can be kept under another path. -/
def replaceInPlace (name : Row) (bytes : ByteArray) (kept : Option Row) : Steps Unit := do
  let disk ← disk
  let mode := match statusOfPath disk (textOf name) with
    | .ok status => status.mode
    | .error _ => Disk.plainMode
  match disk.tree.locateWith false disk.workingPlace (textOf name) with
  | .error _ => return
  | .ok place =>
      match kept.map fun path => disk.tree.locateWith false disk.workingPlace (textOf path) with
      | some (.ok target) => Act.move place target
      | _ => Act.erase place
      Act.create place (.file bytes disk.clock) Act.fileMode
      Act.changeDisk fun disk => { disk.setMode place mode with clock := disk.clock + 1 }

/-- Ends the work on an input: a file that is edited gets its new text. -/
def finishInput (plan : Plan) : Steps Unit := do
  let state ← get
  match plan.inPlace, state.opening with
  | some suffix, some _ =>
      if !suffix.isEmpty then
        let base := (state.name.reverse.takeWhile (· != '/')).reverse
        let directory := state.name.take (state.name.length - base.length)
        let kept :=
          if suffix.contains '*' then
            suffix.flatMap fun character => if character = '*' then base else [character]
          else base ++ suffix
        let place := if kept.contains '/' then kept else directory ++ kept
        replaceInPlace state.name (packed state.output.reverse.flatten) (some place)
      else replaceInPlace state.name (packed state.output.reverse.flatten) none
      modify fun state => { state with output := [], outputSize := 0, missing := state.missing.filter (· != .standard) }
  | _, _ => return

/-- Takes the next line of the inputs, going through at most so many of them. -/
def takeLine (plan : Plan) : Nat → Steps (Option Line)
  | 0 => return none
  | inputs + 1 => do
      fill plan longestInput
      let state ← get
      if state.opening.isNone || (state.isDrained && state.ahead.isEmpty) then
        finishInput plan
        if ← nextInput plan state.paths then takeLine plan inputs else return none
      else
        let row := state.ahead.takeWhile (· != plan.ending)
        let rest := state.ahead.drop row.length
        set { state with ahead := rest.drop 1, number := state.number + 1 }
        return some { row, isEnded := !rest.isEmpty }
where
  /-- More than the pieces of the longest input. -/
  longestInput : Nat := 100000000

/-- Is there something in one of the inputs? -/
def holdsData (disk : Disk) (path : Row) : Bool :=
  path == ['-'] ||
    match disk.tree.read disk.workingPlace (textOf path) with
    | .ok bytes => !bytes.isEmpty
    | .error _ => false

/-- Is the present line the last one? -/
def isLast (plan : Plan) : Steps Bool := do
  fill plan 100000000
  let state ← get
  if !state.ahead.isEmpty then return false
  else if plan.isSeparate then return true
  else
    let disk ← disk
    return !(state.paths.any (holdsData disk))

/-- Is there no line after the present one? -/
def isAtEnd (plan : Plan) : Steps Bool := do
  if plan.isSeparate then
    fill plan 100000000
    let state ← get
    let disk ← disk
    return state.ahead.isEmpty && !(state.paths.any (holdsData disk))
  else isLast plan

/-- Reads the next line, whose number of inputs is bounded by those that are
left. -/
def readLine (plan : Plan) : Steps (Option Line) := do
  emitAdditions plan
  modify fun state => { state with hasReplaced := false }
  takeLine plan ((← get).paths.length + 2)

/-! ### Addresses -/

/-- The expression that is meant: the given one, or the one that was used last. -/
def usedRegex (regex : Option LineRegex) : Steps LineRegex := do
  match regex.or (← get).lastRegex with
  | some regex =>
      modify fun state => { state with lastRegex := some regex }
      return regex
  | none =>
      put (← get).output.reverse.flatten
      fail (rowOf "-e expression #1, char 0: no previous regular expression") 1

/-- A row as an expression is matched against it. -/
def LineRegex.subject (regex : LineRegex) (row : Row) : Subject :=
  { characters := row.toArray, foldsCase := regex.foldsCase, hasLines := regex.hasLines }

/-- Is an address for the present line? -/
def holdsHere (plan : Plan) (address : Address) : Steps Bool := do
  let state ← get
  match address with
  | .number number => return number == state.number
  | .every first step => return first ≤ state.number && (state.number - first) % step == 0
  | .last => isLast plan
  | .regex regex =>
      let regex ← usedRegex regex
      return regex.regex.occursIn (regex.subject state.pattern.row)
  | .further _ | .multiple _ => return false

/-- How a range that begins with the present line goes on. -/
def rangeAfter (number : Nat) : Address → Range
  | .number last => if last ≤ number then .idle else .upTo last
  | .further count => if count = 0 then .idle else .upTo (number + count)
  | .multiple count =>
      .upTo ((number / count + 1) * count)
  | _ => .untilMatch

/-- Is a command meant for the present line? Ranges begin and end here. -/
def isSelected (plan : Plan) (index : Nat) (command : Command) : Steps Bool := do
  let number := (← get).number
  let setRange (range : Range) : Steps Unit :=
    modify fun state => { state with ranges := state.ranges.set! index range }
  match command.first, command.second with
  | none, _ => return true
  | some first, none => holdsHere plan first
  | some first, some second =>
      match ((← get).ranges[index]?).getD .idle with
      | .idle =>
          if ← holdsHere plan first then
            setRange (rangeAfter number second)
            return true
          else return false
      | .upTo last =>
          if number ≥ last then setRange .idle
          if number ≤ last then return true
          else holdsHere plan first
      | .untilMatch =>
          if ← holdsHere plan second then setRange .idle
          return true

/-! ### Replacing -/

/-- What happens to the case of letters: to all that follow and to the next one. -/
structure CaseState where
  /-- What happens to all. -/
  all : CaseMark := .asIs
  /-- What happens to the next one. -/
  next : CaseMark := .asIs

/-- A row with its letters changed, and what happens to those after it. -/
def CaseState.change (state : CaseState) (row : Row) : Row × CaseState :=
  let whole :=
    match state.all with
    | .allUpper => row.map Char.toUpper
    | .allLower => row.map Char.toLower
    | _ => row
  match whole, state.next with
  | [], _ => ([], state)
  | first :: rest, .nextUpper => (first.toUpper :: rest, { state with next := .asIs })
  | first :: rest, .nextLower => (first.toLower :: rest, { state with next := .asIs })
  | whole, _ => (whole, state)

/-- What takes the place of a match. The row is that from a place on. -/
def replacementRow (parts : List ReplacementPart) (place : Nat) (row : Row) (found : Regex.Found)
    (state : CaseState) : Row × CaseState :=
  parts.foldl (fun (written, state) part =>
    let add (more : Row) : Row × CaseState :=
      let (more, state) := state.change more
      (written ++ more, state)
    match part with
    | .text row => add row
    | .group 0 => add ((row.drop (found.start - place)).take (found.finish - found.start))
    | .group number =>
        match found.groups.lookup number with
        | some (low, high) => add ((row.drop (low - place)).take (high - low))
        | none => (written, state)
    | .case .asIs => (written, {})
    | .case .nextUpper => (written, { state with next := .nextUpper })
    | .case .nextLower => (written, { state with next := .nextLower })
    | .case mark => (written, { state with all := mark })) ([], state)

/-- The row from a place on, with some matches replaced. -/
def replaceMatches (parts : List ReplacementPart) : Nat → Row → List Regex.Found → Row
  | _, row, [] => row
  | place, row, found :: others =>
      row.take (found.start - place) ++ (replacementRow parts place row found {}).1
        ++ replaceMatches parts found.finish (row.drop (found.finish - place)) others

/-- Replaces matches in the pattern. -/
def substitute (plan : Plan) (substitution : Substitution) : Steps Unit := do
  let regex ← usedRegex substitution.regex
  let row := (← get).pattern.row
  Act.workOn row.length
  let subject := regex.subject row
  let found :=
    if substitution.isGlobal then regex.regex.allMatches subject
    else regex.regex.matchesUpTo subject (2 * substitution.first + 2) 0 none
  let chosen := found.drop (substitution.first - 1)
  let chosen := if substitution.isGlobal then chosen else chosen.take 1
  if !chosen.isEmpty then
    let replaced := replaceMatches substitution.replacement 0 row chosen
    modify fun state => { state with
      pattern := { state.pattern with row := replaced }, hasReplaced := true }
    if substitution.writes then emitLine plan .standard (← get).pattern
    match substitution.file.bind fun path => plan.sinks.lookup path with
    | some sink => emitLine plan sink (← get).pattern
    | none => return

/-! ### Commands -/

/-- How the commands for a line end. -/
inductive CycleEnd where
  /-- With the last command. -/
  | finish
  /-- The line is dropped. -/
  | drop
  /-- The line is dropped up to a line feed, and the rest goes through the commands
  again. -/
  | again
  /-- The editing ends with a status; the line is written, or it is not. -/
  | quit (writes : Bool) (status : Nat)
deriving DecidableEq

/-- A character as `l` shows it. -/
def shownCharacter (character : Char) : Row :=
  if character = '\\' then ['\\', '\\']
  else if isPrinted character then [character]
  else if character = '\x00' then rowOf "\\000"
  else escapedByte character

/-- A line as `l` shows it, broken at a width. -/
def shownLine (width : Nat) (row : Row) : Row :=
  let (shown, _) := row.foldl (fun (shown, column) character =>
    let piece := shownCharacter character
    if width > 0 && column + piece.length > width - 1 then
      (piece.reverse ++ ['\n', '\\'] ++ shown, piece.length)
    else (piece.reverse ++ shown, column + piece.length)) (([] : Row), 0)
  shown.reverse ++ ['$', '\n']

/-- Takes the next of the lines of a file that are read one by one. -/
def takeFileLine (path : Row) : Steps (Option Row) := do
  let lines ←
    match (← get).readers.lookup path with
    | some lines => pure lines
    | none =>
        match ← Act.openPath .read (textOf path) with
        | .ok opening => pure (rowLines (← Act.readOpening opening))
        | .error _ => pure []
  modify fun state => { state with
    readers := (path, lines.drop 1) :: state.readers.filter fun entry => entry.1 != path }
  return lines.head?

/-- Takes a row as the pattern. -/
def setPattern (change : Line → Line) : Steps Unit :=
  modify fun state => { state with pattern := change state.pattern }

/-- What a plain command does. An answer says how the commands for the line end. -/
def plainCommand (plan : Plan) (letter : Char) (number : Option Nat) :
    Steps (Option CycleEnd) := do
  let state ← get
  match letter with
  | '=' => emit plan .standard (natRow state.number ++ ['\n'])
  | 'd' => return some .drop
  | 'D' => return some (if state.pattern.row.contains '\n' then .again else .drop)
  | 'F' => emit plan .standard (state.name ++ ['\n'])
  | 'g' => modify fun state => { state with pattern := state.hold }
  | 'G' =>
      setPattern fun line => { line with row := line.row ++ plan.ending :: state.hold.row }
  | 'h' => modify fun state => { state with hold := state.pattern }
  | 'H' =>
      modify fun state => { state with
        hold := { state.hold with row := state.hold.row ++ plan.ending :: state.pattern.row } }
  | 'x' => modify fun state => { state with pattern := state.hold, hold := state.pattern }
  | 'z' => setPattern fun line => { line with row := [] }
  | 'p' => emitLine plan .standard state.pattern
  | 'P' =>
      emit plan .standard (state.pattern.row.takeWhile (· != plan.ending) ++ [plan.ending])
  | 'l' | 'L' => emit plan .standard (shownLine (number.getD plan.width) state.pattern.row)
  | 'q' => return some (.quit true (number.getD 0))
  | 'Q' => return some (.quit false (number.getD 0))
  | 'n' =>
      if ← isAtEnd plan then return some (.quit true 0)
      if !plan.isQuiet then emitLine plan .standard state.pattern
      match ← readLine plan with
      | some line => setPattern fun _ => line
      | none => return some (.quit false 0)
  | 'N' =>
      if ← isAtEnd plan then return some (.quit true 0)
      match ← readLine plan with
      | some line =>
          setPattern fun before =>
            { line with row := before.row ++ plan.ending :: line.row }
      | none => return some (.quit false 0)
  | _ => pure ()
  return none

/-- The index of the command at a label. -/
def labelIndex? (plan : Plan) (name : Row) : Option Nat :=
  plan.commands.findIdx? fun command =>
    match command.action with
    | .label other => other == name
    | _ => false

/-- Runs the commands from an index on, at most so many. -/
def runFrom (plan : Plan) : Nat → Nat → Steps CycleEnd
  | 0, _ => return .finish
  | steps + 1, index => do
      match plan.commands[index]? with
      | none => return .finish
      | some command =>
          Act.work 30
          Act.workOn (← get).pattern.row.length
          let isMeant := (← isSelected plan index command) != command.isTurned
          if !isMeant then
            match command.action with
            | .open finish => runFrom plan steps (finish + 1)
            | _ => runFrom plan steps (index + 1)
          else
            match command.action with
            | .open _ | .close | .label _ => runFrom plan steps (index + 1)
            | .jump condition label =>
                let hasReplaced := (← get).hasReplaced
                let jumps := condition == 'b' || (condition == 't') == hasReplaced
                if condition ≠ 'b' then modify fun state => { state with hasReplaced := false }
                if !jumps then runFrom plan steps (index + 1)
                else if label.isEmpty then return .finish
                else
                  match labelIndex? plan label with
                  | some target => runFrom plan steps target
                  | none => return .finish
            | .text 'a' row =>
                modify fun state => { state with additions := .text row :: state.additions }
                runFrom plan steps (index + 1)
            | .text 'i' row =>
                emit plan .standard row
                runFrom plan steps (index + 1)
            | .text _ row =>
                let isInside := ((← get).ranges[index]?).getD .idle != .idle
                if command.second.isNone || command.isTurned || !isInside then
                  emit plan .standard row
                return .drop
            | .file 'r' path =>
                modify fun state => { state with additions := .file path :: state.additions }
                runFrom plan steps (index + 1)
            | .file 'R' path =>
                match ← takeFileLine path with
                | some row =>
                    modify fun state => { state with
                      additions := .text (row ++ [plan.ending]) :: state.additions }
                | none => pure ()
                runFrom plan steps (index + 1)
            | .file letter path =>
                let line := (← get).pattern
                let line := if letter = 'W' then
                    { row := line.row.takeWhile (· != plan.ending), isEnded := true }
                  else line
                match plan.sinks.lookup path with
                | some sink => emitLine plan sink line
                | none => pure ()
                runFrom plan steps (index + 1)
            | .substitute substitution =>
                substitute plan substitution
                runFrom plan steps (index + 1)
            | .exchange pairs =>
                setPattern fun line => { line with
                  row := line.row.map fun character => (pairs.lookup character).getD character }
                runFrom plan steps (index + 1)
            | .plain letter number =>
                match ← plainCommand plan letter number with
                | some ending => return ending
                | none => runFrom plan steps (index + 1)

/-- More commands than are ever run. -/
def mostCommands : Nat := 1000000000000

/-- Takes the pattern through all commands, and further lines after it, at most so
many. The answer is the status. -/
def cycles (plan : Plan) : Nat → Bool → Steps Nat
  | 0, _ => return 0
  | lines + 1, hasPattern => do
      let isThere ←
        if hasPattern then pure true
        else
          match ← readLine plan with
          | some line =>
              setPattern fun _ => line
              pure true
          | none => pure false
      if !isThere then
        emitAdditions plan
        return (← get).status
      let writePattern : Steps Unit := do
        if !plan.isQuiet then emitLine plan .standard (← get).pattern
      match ← runFrom plan mostCommands 0 with
      | .finish =>
          writePattern
          emitAdditions plan
          flush plan
          cycles plan lines false
      | .drop =>
          emitAdditions plan
          flush plan
          cycles plan lines false
      | .again =>
          emitAdditions plan
          setPattern fun line => { line with
            row := (line.row.dropWhile (· != plan.ending)).drop 1 }
          cycles plan lines true
      | .quit writes status =>
          if writes then writePattern
          emitAdditions plan
          let state ← get
          if plan.inPlace.isSome then
            let rest := state.ahead
            match state.opening with
            | some opening =>
                emit plan .standard (rest ++ (← Act.readOpening opening))
            | none => pure ()
            finishInput plan
          else
            match state.opening with
            | some opening => Act.stepBack opening state.ahead.length
            | none => pure ()
          return if status = 0 then state.status else status

end TestAmplification.Shell.Sed

/-!
## The program `sed`

`sed` takes its script from arguments and files, and edits its inputs or files in
their places.
-/

namespace TestAmplification.Shell

open Tool

/-- How `sed` is called. -/
def sedManual : Row :=
  rowOf "Usage: sed [OPTION]... \x7bscript-only-if-no-other-script\x7d [input-file]...\n"

/-- A part of a script: how faults in it are told, and its text. -/
inductive SedPart where
  /-- An argument with a number. -/
  | expression (number : Nat) (row : Row)
  /-- A file. -/
  | file (path : Row) (row : Row)

/-- The text of a part. -/
def SedPart.row : SedPart → Row
  | expression _ row | file _ row => row

/-- What stands in front of a fault in a part. -/
def SedPart.place (part : SedPart) (reading : Sed.Reading) : Row :=
  match part with
  | expression number _ =>
      rowOf "-e expression #" ++ natRow number ++ rowOf ", char " ++ natRow reading.position
  | file path _ => rowOf "file " ++ path ++ rowOf " line " ++ natRow reading.line

/-- Reads the parts of a script one after the other. -/
def readSedParts : List SedPart → Sed.Reading → Tool Sed.Reading
  | [], reading => return reading
  | part :: rest, reading => do
      let begun := { reading with rest := part.row, position := 0, line := 1 }
      match StateT.run (ExceptT.run Sed.Reader.part) begun with
      | (.ok (), reading) =>
          if rest.isEmpty && !reading.blocks.isEmpty then
            fail (part.place { reading with position := 0 } ++ rowOf ": unmatched \x60\x7b'") 1
          readSedParts rest reading
      | (.error fault, reading) =>
          if fault.hasPlace then fail (part.place reading ++ rowOf ": " ++ fault.message) 1
          else fail fault.message 4

/-- The text of a script in a file. -/
def sedFile (path : Row) : Tool Row := do
  match ← input path with
  | .ok row => return if row.getLast? == some '\n' then row.dropLast else row
  | .error fault => fail (rowOf "couldn't open file " ++ path ++ rowOf (": " ++ fault.reason)) 4

/-- The parts of a script that options give. -/
def sedParts (options : List (Char × Row)) : Tool (List SedPart) := do
  let given := options.filter fun option => option.1 == 'e' || option.1 == 'f'
  let (parts, _) ← given.foldlM (fun (parts, number) (letter, row) => do
    if letter = 'e' then return (parts ++ [SedPart.expression number row], number + 1)
    else return (parts ++ [SedPart.file row (← sedFile row)], number)) (([] : List SedPart), 1)
  return parts

/-- The files that a script writes to. -/
def sedSinks (commands : Array Sed.Command) : Tool (List (Row × Sed.Sink)) := do
  let paths := (commands.toList.filterMap fun command =>
    match command.action with
    | .file 'w' path | .file 'W' path => some path
    | .substitute { file, .. } => file
    | _ => none).eraseDups
  paths.mapM fun path => do
    if path = rowOf "/dev/stdout" then return (path, .standard)
    else if path = rowOf "/dev/stderr" then return (path, .errors)
    else
      match ← Act.openPath .write (textOf path) with
      | .ok opening =>
          Act.changeSelf fun process => { process with kept := opening :: process.kept }
          return (path, .file opening)
      | .error fault =>
          fail (rowOf "couldn't open file " ++ path ++ rowOf (": " ++ fault.reason)) 4

/-- The first label that a command goes on at and that is missing. -/
def missingLabel? (plan : Sed.Plan) : Option Row :=
  plan.commands.toList.findSome? fun command =>
    match command.action with
    | .jump _ label =>
        if label.isEmpty || (Sed.labelIndex? plan label).isSome then none else some label
    | _ => none

/-- More lines than any input has. -/
def mostSedLines : Nat := 1000000000000

/-- Edits lines. -/
def sed : Utility := fun given => withReader (fun call => { call with manual := some sedManual }) do
  let arguments ← parseArguments
    [long 'n' "quiet", long 'n' "silent", long 'e' "expression" .some, long 'f' "file" .some,
      long 'E' "regexp-extended", long 'r' "", long 'i' "in-place" .maybe, long 's' "separate",
      long 'z' "null-data", long 'u' "unbuffered", long 'l' "line-length" .some, long 'p' "posix",
      long 'd' "debug", long 'x' "sandbox"] given
  let has := arguments.has
  let parts ← sedParts arguments.options.reverse
  let (parts, paths) :=
    match parts, arguments.operands with
    | [], script :: rest => ([SedPart.expression 1 script], rest)
    | parts, paths => (parts, paths)
  if parts.isEmpty then hint
  let reading ← readSedParts parts { rest := [], isExtended := has 'E' || has 'r' }
  let startsQuiet := (parts.head?.map fun part => part.row == ['#', 'n']
    || (rowOf "#n\n").isPrefixOf part.row).getD false
  let commands := reading.commands
  let inPlace := arguments.value? 'i'
  let plan : Sed.Plan := {
    commands
    isQuiet := has 'n' || startsQuiet
    isSeparate := has 's' || inPlace.isSome
    inPlace
    ending := if has 'z' then '\x00' else '\n'
    isUnbuffered := has 'u'
    width := ((arguments.value? 'l').bind Text.digits?).getD 70
    sinks := ← sedSinks commands }
  match missingLabel? plan with
  | some label => fail (rowOf "can't find label for jump to \x60" ++ label ++ ['\'']) 4
  | none => pure ()
  let ranges := commands.map fun command =>
    match command.first with
    | some (.number 0) => Sed.Range.untilMatch
    | _ => .idle
  let (status, state) ← (Sed.cycles plan mostSedLines false).run
    { paths := namedInputs paths, ranges }
  put state.output.reverse.flatten
  return status

end TestAmplification.Shell
