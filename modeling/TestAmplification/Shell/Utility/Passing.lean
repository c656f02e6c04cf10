import TestAmplification.Shell.Utility.Decimal
import TestAmplification.Shell.Utility.Options

/-!
# Utilities that pass bytes on

Programs that pass on their inputs, or the end of them.
-/

set_option autoImplicit false

/-!
## Utilities that pass bytes on

`cat`, `tee` and `head` pass on what they read, whole or in part, and `tac` and `rev`
turn it around. They use the named files or, without any, their input.

`head` reads no further than it has to. What it has read of a file and not used is
there for the next reader; what it has read of a pipe is gone.
-/

namespace TestAmplification.Shell

open Tool

/-- Uses each input by its opening. An input that cannot be opened is told and
fails. -/
def overInputs (complaint : Row → InputFault → Row) (step : Row → Nat → Tool Nat)
    (paths : List Row) : Tool Nat :=
  worst (fun path => do
    match ← openInput path with
    | .error fault =>
        warn (complaint path fault)
        return 1
    | .ok opening => keeping opening (step path opening)) (namedInputs paths)

/-- Uses the text of each input. An input that cannot be used is told and
fails. -/
def overTexts (complaint : Row → InputFault → Row) (step : Row → Row → Tool Nat)
    (paths : List Row) : Tool Nat :=
  worst (fun path => do
    match ← input path with
    | .error fault =>
        warn (complaint path fault)
        return 1
    | .ok row => step path row) (namedInputs paths)

/-- Takes a step for the lines of an opening as they come, several whole lines at a time, and
hands a state on. The pieces that belong to the next step come last first. The answer is what
is left behind the last line, with the state. -/
def passLines {State : Type} (ending : Char) (step : State → Row → Tool State) :
    Nat → Nat → List Row → State → Tool (Except StreamFault (Row × State))
  | 0, _, rest, state => return .ok (rest.reverse.flatten, state)
  | steps + 1, opening, rest, state => do
      match ← Act.readOnce Act.patience opening Act.readingSize with
      | .error fault => return .error fault
      | .ok [] => return .ok (rest.reverse.flatten, state)
      | .ok piece =>
          let behind := piece.reverse.takeWhile (· != ending)
          let length := piece.length - behind.length
          if length = 0 then passLines ending step steps opening (piece :: rest) state
          else
            let state ← step state (piece.take length :: rest).reverse.flatten
            passLines ending step steps opening [behind.reverse] state

/-- Takes a step for the lines of each input as they come. An input that cannot be used is
told and fails. -/
def overLines (ending : Char) (complaint : Row → InputFault → Row) (step : Row → Tool Unit)
    (paths : List Row) : Tool Nat :=
  overInputs complaint (fun path opening => do
    match ← passLines ending (fun () row => step row) Act.patience opening [] () with
    | .error fault =>
        warn (complaint path (.reading fault))
        return 1
    | .ok (rest, ()) =>
        if !rest.isEmpty then step rest
        return 0) paths

/-- The usual complaint: the name of the input and the reason. -/
def plainComplaint (path : Row) (fault : InputFault) : Row :=
  quotedIfNeeded path ++ rowOf (": " ++ fault.reason)

/-- The complaint that tells an input that cannot be opened from one that cannot be
read. -/
def readingComplaint (path : Row) (fault : InputFault) : Row :=
  let shown := if path = ['-'] then rowOf "'standard input'" else quoted path
  match fault with
  | .opening fault => rowOf "cannot open " ++ quoted path ++ rowOf (" for reading: " ++ fault.reason)
  | .reading fault => rowOf "error reading " ++ shown ++ rowOf (": " ++ fault.reason)

/-! ### Copying -/

/-- How `cat` changes what it passes on. -/
structure CatStyle where
  /-- Are lines numbered? -/
  numbers : Bool := false
  /-- Are only lines numbered that are not empty? -/
  skipsEmpty : Bool := false
  /-- Do several empty lines become one? -/
  squeezes : Bool := false
  /-- Is the end of a line marked? -/
  showsEnds : Bool := false
  /-- Are tabs shown? -/
  showsTabs : Bool := false
  /-- Are bytes shown that are not printed? -/
  showsControls : Bool := false

/-- Does `cat` pass on all bytes as they are? -/
def CatStyle.isPlain (style : CatStyle) : Bool :=
  !(style.numbers || style.skipsEmpty || style.squeezes || style.showsEnds || style.showsTabs
    || style.showsControls)

/-- A byte as `cat` shows it. -/
def shownByte (style : CatStyle) (character : Char) : Row :=
  let low (number : Nat) : Row :=
    if number = 127 then ['^', '?']
    else if number < 32 then ['^', Char.ofNat (number + 64)]
    else [Char.ofNat number]
  let number := character.toNat
  if character = '\t' then if style.showsTabs then ['^', 'I'] else ['\t']
  else if !style.showsControls then [character]
  else if number < 128 then low number
  else ['M', '-'] ++ low (number - 128)

/-- How far `cat` has come. -/
structure CatCount where
  /-- The number of the last line that was numbered. -/
  number : Nat := 0
  /-- Was the last line empty? -/
  afterEmpty : Bool := false

/-- The lines of a row as `cat` shows them, the last one first, and how far it has come then. -/
def catLines (style : CatStyle) (count : CatCount) (lines : List Row) : CatCount × List Row :=
  lines.foldl (fun (count, shown) line =>
    if style.squeezes && count.afterEmpty && line.isEmpty then (count, shown)
    else
      let isNumbered := if style.skipsEmpty then !line.isEmpty else style.numbers
      let number := if isNumbered then count.number + 1 else count.number
      let label := if isNumbered then padLeft 6 (natRow number) ++ ['\t'] else []
      let ending := if style.showsEnds then ['$'] else []
      ({ number, afterEmpty := line.isEmpty },
        (label ++ line.flatMap (shownByte style) ++ ending) :: shown)) (count, [])

/-- A row as `cat` shows it, and how far it has come then. -/
def catRow (style : CatStyle) (count : CatCount) (row : Row) : CatCount × Row :=
  let (count, lines) := catLines style count (rowLines row)
  let shown := joinRows lines.reverse
  if endsLine row then (count, shown)
  else (count, if style.showsEnds then shown.dropLast.dropLast else shown.dropLast)

/-- Passes on what is left in an opening. -/
def passOn : Nat → Nat → Tool (Except StreamFault Unit)
  | 0, _ => return .ok ()
  | steps + 1, opening => do
      match ← Act.receive Act.patience opening Act.readingSize with
      | .error fault => return .error fault
      | .ok bytes =>
          if bytes.isEmpty then return .ok ()
          putBytes bytes
          passOn steps opening

/-- Does an opening lead to the file that is written? -/
def isOutputFile (opening : Nat) : Tool Bool := do
  let machine ← get
  match machine.openings[opening]?, machine.streamOf? (← Act.self) 1 with
  | some { target := .file first, position, .. }, some (_, { target := .file second, .. }) =>
      return first == second && decide (position < (machine.fileBytes first).size)
  | _, _ => return false

/-- Passes on all inputs, one after the other. -/
def cat : Utility := fun arguments => do
  let arguments ← parseArguments
    [long 'n' "number", long 'b' "number-nonblank", long 's' "squeeze-blank",
      long 'E' "show-ends", long 'T' "show-tabs", long 'v' "show-nonprinting",
      long 'A' "show-all", long 'e' "", long 't' "", long 'u' ""] arguments
  let has := arguments.has
  let style : CatStyle := {
    numbers := has 'n', skipsEmpty := has 'b', squeezes := has 's'
    showsEnds := has 'E' || has 'A' || has 'e'
    showsTabs := has 'T' || has 'A' || has 't'
    showsControls := has 'v' || has 'A' || has 'e' || has 't' }
  if (← Act.openingOf 1).isNone then fail (rowOf "standard output: Bad file descriptor") 1
  if style.isPlain then
    overInputs plainComplaint (fun path opening => do
      if ← isOutputFile opening then
        warn (quotedIfNeeded path ++ rowOf ": input file is output file")
        return 1
      match ← passOn Act.patience opening with
      | .ok () => return 0
      | .error fault =>
          warn (plainComplaint path (.reading fault))
          return 1) arguments.operands
  else
    let write (count : CatCount) (row : Row) : Tool CatCount := do
      let (count, shown) := catRow style count row
      put shown
      return count
    let (status, rest, count) ← (namedInputs arguments.operands).foldlM
      (fun (status, rest, count) path => do
        match ← openInput path with
        | .error fault =>
            warn (plainComplaint path fault)
            return (1, rest, count)
        | .ok opening =>
            match ← keeping opening (passLines '\n' write Act.patience opening [rest] count) with
            | .error fault =>
                warn (plainComplaint path (.reading fault))
                return (1, rest, count)
            | .ok (rest, count) => return (status, rest, count)) (0, [], ({} : CatCount))
    if !rest.isEmpty then
      let _ ← write count rest
    return status

/-- Passes on the input and writes it to the given openings as well. -/
def teeWith : Nat → List Nat → Tool Nat
  | 0, _ => return 0
  | steps + 1, openings => do
      let bytes := (← Act.receiveSome 0 Act.readingSize).toOption.getD ByteArray.empty
      if bytes.isEmpty then return 0
      putBytes bytes
      openings.forM fun opening => do
        let _ ← Act.send opening bytes
      teeWith steps openings

/-- Passes on the input and writes it to files as well. -/
def tee : Utility := fun arguments => do
  let arguments ← parseArguments [long 'a' "append", long 'i' "ignore-interrupts", long 'p' ""]
    arguments
  let mode : OpenMode := if arguments.has 'a' then .append else .write
  let opened ← arguments.operands.mapM fun path => do
    match ← Act.openPath mode (textOf path) with
    | .ok opening => return (some opening, 0)
    | .error fault =>
        warn (quotedIfNeeded path ++ rowOf (": " ++ fault.reason))
        return (none, 1)
  let openings := opened.filterMap Prod.fst
  openings.forM fun opening => Act.keep opening
  let status ← teeWith Act.patience openings
  return (opened.map Prod.snd).foldl max status

/-! ### Counts -/

/-- The factor that the letters behind a number stand for. -/
def sizeFactor? (suffix : Row) : Option Nat :=
  let power (base exponent : Nat) : Nat := (List.replicate exponent base).foldl (· * ·) 1
  let units := ['K', 'M', 'G', 'T', 'P', 'E']
  match suffix with
  | [] => some 1
  | ['b'] => some 512
  | ['k'] => some 1024
  | ['k', 'B'] => some 1000
  | [unit] => (units.findIdx? (· == unit)).map fun index => power 1024 (index + 1)
  | [unit, 'B'] => (units.findIdx? (· == unit)).map fun index => power 1000 (index + 1)
  | [unit, 'i', 'B'] => (units.findIdx? (· == unit)).map fun index => power 1024 (index + 1)
  | _ => none

/-- A count with an optional sign in front and a factor behind. -/
def countOf? (text : Row) : Option (Option Char × Nat) :=
  let (sign, rest) :=
    match text with
    | '+' :: rest => (some '+', rest)
    | '-' :: rest => (some '-', rest)
    | rest => (none, rest)
  let digits := rest.takeWhile Char.isDigit
  match Text.digits? digits, sizeFactor? (rest.drop digits.length) with
  | some number, some factor => some (sign, number * factor)
  | _, _ => none

/-- What a part of the input is counted in, and how much of it is meant. -/
structure Portion where
  /-- Are bytes counted, or lines? -/
  inBytes : Bool := false
  /-- The sign in front of the count. -/
  sign : Option Char := none
  /-- The count. -/
  count : Nat := 10
  /-- The character at the end of a line. -/
  ending : Char := '\n'

/-- The portion that options ask for. -/
def portionOf (arguments : Arguments) : Tool Portion := do
  let ending := if arguments.has 'z' then '\x00' else '\n'
  match arguments.last? ['n', 'c'] with
  | none => return { ending }
  | some letter =>
      let text := (arguments.value? letter).getD []
      match countOf? text with
      | some (sign, count) => return { inBytes := letter = 'c', sign, count, ending }
      | none =>
          fail (rowOf (if letter = 'c' then "invalid number of bytes: " else
            "invalid number of lines: ") ++ quotedText text) 1

/-- The arguments where a bare number behind a hyphen is the count of lines. -/
def withBareCount : List Row → List Row
  | ('-' :: digit :: more) :: rest =>
      if digit.isDigit then
        let digits := (digit :: more).takeWhile Char.isDigit
        let letters := (digit :: more).drop digits.length
        let option := if letters.contains 'c' then "-c" else "-n"
        rowOf option :: digits :: (letters.filter (['q', 'v'].contains ·)).map (['-', ·]) ++ rest
      else ('-' :: digit :: more) :: rest
  | arguments => arguments

/-- The number of bytes of the first so many lines. -/
def lengthOfLines (ending : Char) : Nat → Nat → Row → Nat
  | 0, length, _ => length
  | _ + 1, length, [] => length
  | count + 1, length, row =>
      let line := row.takeWhile (· != ending)
      lengthOfLines ending count (length + line.length + 1) (row.drop (line.length + 1))

/-- The number of bytes of all lines but the last so many. -/
def lengthOfOthers (portion : Portion) (row : Row) : Nat :=
  lengthOfLines portion.ending ((linesEndedBy portion.ending row).length - portion.count) 0 row

/-- Are the names of inputs shown? -/
def showsNames (arguments : Arguments) : Bool :=
  match arguments.last? ['q', 'v'] with
  | some letter => letter == 'v'
  | none => decide (arguments.operands.length > 1)

/-- Shows the name of an input; a line in between keeps it apart from what is already
written. -/
def putName (isFirst : Bool) (path : Row) : Tool Unit := do
  let name := if path = ['-'] then rowOf "standard input" else path
  put ((if isFirst then [] else ['\n']) ++ rowOf "==> " ++ name ++ rowOf " <==\n")

/-- Takes a step for each input; the names of inputs stand in front when there are
several. -/
def underNames (arguments : Arguments) (step : Nat → Tool (Except StreamFault Unit)) : Tool Nat := do
  let isShown := showsNames arguments
  let (status, _) ← (namedInputs arguments.operands).foldlM (fun (status, isFirst) path => do
    match ← openInput path with
    | .error fault =>
        warn (readingComplaint path fault)
        return (1, isFirst)
    | .ok opening =>
        if isShown then putName isFirst path
        match ← keeping opening (step opening) with
        | .ok () => return (status, false)
        | .error fault =>
            warn (readingComplaint path (.reading fault))
            return (1, false)) (0, true)
  return status

/-- Reads until there are enough lines, so many bytes at a time; the pieces so far
come last first. -/
def readLinesUpTo (ending : Char) : Nat → Nat → Nat → List Row → Tool (Except StreamFault Row)
  | 0, _, _, pieces => return .ok pieces.reverse.flatten
  | steps + 1, opening, count, pieces => do
      if count = 0 then return .ok pieces.reverse.flatten
      match ← Act.readOnce Act.patience opening 8192 with
      | .error fault => return .error fault
      | .ok [] => return .ok pieces.reverse.flatten
      | .ok piece =>
          readLinesUpTo ending steps opening (count - piece.count ending) (piece :: pieces)

/-- Passes on so many bytes if there are. -/
def passOnBytes : Nat → Nat → Nat → Tool (Except StreamFault Unit)
  | 0, _, _ => return .ok ()
  | steps + 1, opening, count => do
      if count = 0 then return .ok ()
      match ← Act.receive Act.patience opening (min count Act.readingSize) with
      | .error fault => return .error fault
      | .ok bytes =>
          if bytes.isEmpty then return .ok ()
          putBytes bytes
          passOnBytes steps opening (count - bytes.size)

/-- Where so many lines end that start at an index, or all bytes end if there are not so many
lines, with the number of lines that are missing then. At most so many bytes are looked at. -/
def endOfLines (bytes : ByteArray) (ending : UInt8) : Nat → Nat → Nat → Nat × Nat
  | 0, index, missing | _ + 1, index, missing@0 => (index, missing)
  | steps + 1, index, missing + 1 =>
      endOfLines bytes ending steps (index + 1)
        (if bytes.get! index = ending then missing else missing + 1)

/-- Passes on so many lines if there are. What was read of a file behind them is read once
more. -/
def passOnLines (ending : Char) : Nat → Nat → Nat → Tool (Except StreamFault Unit)
  | 0, _, _ => return .ok ()
  | steps + 1, opening, count => do
      if count = 0 then return .ok ()
      match ← Act.receive Act.patience opening 8192 with
      | .error fault => return .error fault
      | .ok bytes =>
          if bytes.isEmpty then return .ok ()
          Act.work (bytes.size / 8)
          let (index, missing) :=
            endOfLines bytes (UInt8.ofNat ending.toNat) bytes.size 0 count
          Act.stepBack opening (bytes.size - index)
          putBytes (bytes.extract 0 index)
          passOnLines ending steps opening missing

/-- Passes on all but the last so many bytes. -/
def passOnAllBut (opening count : Nat) : Tool (Except StreamFault Unit) := do
  match ← Act.receiveAll opening with
  | .error fault => return .error fault
  | .ok bytes =>
      putBytes (bytes.extract 0 (bytes.size - count))
      return .ok ()

/-- Writes the start of each input. -/
def head : Utility := fun arguments => do
  let arguments ← parseArguments
    [long 'n' "lines" .some, long 'c' "bytes" .some, long 'q' "quiet", long 'q' "silent",
      long 'v' "verbose", long 'z' "zero-terminated"] (withBareCount arguments)
  let portion ← portionOf arguments
  underNames arguments fun opening => do
    match portion.inBytes, portion.sign with
    | true, some '-' => passOnAllBut opening portion.count
    | true, _ => passOnBytes Act.patience opening portion.count
    | false, some '-' =>
        match ← Act.readWhole opening with
        | .error fault => return .error fault
        | .ok row =>
            put (row.take (lengthOfOthers portion row))
            return .ok ()
    | false, _ => passOnLines portion.ending Act.patience opening portion.count

/-! ### Turning around -/

/-- The records of a row, each with the separator at its end, or in front of it. -/
def records (separator : Row) (isInFront : Bool) (row : Row) : List Row :=
  let parts := cutAtText separator row
  if isInFront then
    match parts with
    | [] => []
    | first :: rest => first :: rest.map (separator ++ ·)
  else
    (parts.dropLast.map (· ++ separator)) ++ (parts.getLast?.filter fun part => !part.isEmpty).toList

/-- Writes the records of each input from the last to the first. -/
def tac : Utility := fun arguments => do
  let arguments ← parseArguments
    [long 's' "separator" .some, long 'b' "before", long 'r' "regex"] arguments
  let separator := (arguments.value? 's').getD ['\n']
  overTexts (fun path fault =>
      match fault with
      | .opening fault =>
          rowOf "failed to open " ++ quoted path ++ rowOf (" for reading: " ++ fault.reason)
      | .reading _ => quotedIfNeeded path ++ rowOf ": read error: Invalid argument")
    (fun _ row => do
      put (records separator (arguments.has 'b') row).reverse.flatten
      return 0) arguments.operands

/-- Writes the lines of each input with their characters turned around. -/
def rev : Utility := fun arguments => do
  let arguments ← parseArguments [] arguments
  overLines '\n' (fun path fault => rowOf "cannot open " ++ path ++ rowOf (": " ++ fault.reason))
    (fun row => do
      let turned := joinRows ((rowLines row).map List.reverse)
      put (if endsLine row then turned else turned.dropLast)) arguments.operands

end TestAmplification.Shell

/-!
## The end of inputs

`tail` passes on the end of its inputs. It can also stay and pass on what is added to
files later, until something ends it; then it looks for more after every pause.
-/

namespace TestAmplification.Shell

open Tool

/-- Where the last so many lines start that lie in front of an index. -/
def startOfLines (bytes : ByteArray) (ending : UInt8) : Nat → Nat → Nat
  | 0, _ => 0
  | index + 1, count =>
      if bytes.get! index = ending then
        if count = 0 then index + 1 else startOfLines bytes ending index (count - 1)
      else startOfLines bytes ending index count

/-- The end of what was read. -/
def endOf (portion : Portion) (bytes : ByteArray) : ByteArray :=
  let ending := UInt8.ofNat portion.ending.toNat
  let start :=
    match portion.inBytes, portion.sign with
    | true, some '+' => portion.count - 1
    | true, _ => bytes.size - portion.count
    | false, some '+' => (endOfLines bytes ending bytes.size 0 (portion.count - 1)).1
    | false, _ =>
        if portion.count = 0 || bytes.isEmpty then bytes.size
        else startOfLines bytes ending (bytes.size - 1) (portion.count - 1)
  bytes.extract start bytes.size

/-- How files are watched. -/
structure Watch where
  /-- The process at whose end the watch is over. -/
  process : Option Nat
  /-- Are the names of files shown? -/
  showsNames : Bool
  /-- Are files waited for that are not there yet? -/
  retries : Bool

/-- The nanoseconds between two looks. -/
def watchInterval : Nat := 50000000

/-- Is an opening the end of a pipe, to which nothing is added once it is read? -/
def isPipe (opening : Nat) : Tool Bool := do
  match (← get).openings[opening]? with
  | some { target := .outlet _, .. } | some { target := .channel _, .. } => return true
  | _ => return false

/-- Opens a file that is watched. -/
def openWatched? (path : Row) : Tool (Option Nat) := do
  if (← disk).isDirectory (textOf path) then
    warn (quotedIfNeeded path ++ rowOf ": cannot follow end of this type of file; giving up on this name")
    return none
  match ← openInput path with
  | .error _ => return none
  | .ok opening =>
      if ← isPipe opening then return none
      Act.changeSelf fun process => { process with kept := opening :: process.kept }
      return some opening

/-- Passes on what was added to files since the last look. The name of the file that was
written last is given, and the answer is the one afterwards with the files. -/
def passOnAdded (watch : Watch) (last : Row) (files : List (Row × Option Nat)) :
    Tool (Row × List (Row × Option Nat)) := do
  let (last, files) ← files.foldlM (fun (last, files) (path, opening) => do
    let opening ←
      if opening.isNone && (← disk).isThere (textOf path) then
        warn (quoted path ++ rowOf " has appeared;  following new file")
        openWatched? path
      else pure opening
    let added ← (opening.map Act.readOpening).getD (pure [])
    if added.isEmpty then return (last, (path, opening) :: files)
    if watch.showsNames && path != last then putName false path
    put added
    return (path, (path, opening) :: files)) (last, ([] : List (Row × Option Nat)))
  return (last, files.reverse)

/-- Watches files, looking for more at most so many times. -/
def watchFiles (watch : Watch) : Nat → Row → List (Row × Option Nat) → Tool Unit
  | 0, _, _ => return
  | looks + 1, last, files => do
      let isOver := (watch.process.map (← get).hasEnded).getD false
      let (last, files) ← passOnAdded watch last files
      if !isOver then
        Act.pause watchInterval
        watchFiles watch looks last files

/-- Stays with the inputs after their ends were written. The status so far is given. -/
def follow (watch : Watch) (paths : List Row) (status : Nat) : Tool Nat := do
  let files ← paths.mapM fun path => do
    let opening ← openWatched? path
    if let some opening := opening then
      let _ ← Act.readOpening opening
    return (path, opening)
  let kept := if watch.retries then files else files.filter fun file => file.2.isSome
  if kept.isEmpty then
    if status ≠ 0 then fail (rowOf "no files remaining") 1
    return status
  else
    watchFiles watch Act.patience (paths.getLast?.getD []) kept
    return status

/-- Writes the end of each input. -/
def tail : Utility := fun given => do
  let given :=
    match given with
    | ('+' :: digit :: more) :: rest =>
        if digit.isDigit then ['-', 'n'] :: ('+' :: digit :: more) :: rest else given
    | _ => withBareCount given
  let arguments ← parseArguments
    [long 'n' "lines" .some, long 'c' "bytes" .some, long 'q' "quiet", long 'q' "silent",
      long 'v' "verbose", long 'f' "follow" .maybe, long 'F' "", long 'R' "retry",
      long 's' "sleep-interval" .some, long 'P' "pid" .some, long 'z' "zero-terminated"]
    (given.map fun argument => if argument = ['-', 'f'] then rowOf "--follow" else argument)
  let portion ← portionOf arguments
  let follows := arguments.has 'f' || arguments.has 'F'
  if let some text := arguments.value? 's' then
    if (nanosecondsOf? text).isNone then
      fail (rowOf "invalid number of seconds: " ++ quotedText text) 1
  let process ← (arguments.value? 'P').mapM fun text => do
    match Text.digits? text with
    | some number => return number
    | none => fail (rowOf "invalid PID: " ++ quotedText text) 1
  if arguments.has 'R' && !follows then
    warn (rowOf "warning: --retry ignored; --retry is useful only when following")
  if process.isSome && !follows then
    warn (rowOf "warning: PID ignored; --pid=PID is useful only when following")
  let status ← underNames arguments fun opening => do
    match ← Act.receiveAll opening with
    | .error fault => return .error fault
    | .ok bytes =>
        Act.work (bytes.size / 8)
        putBytes (endOf portion bytes)
        return .ok ()
  if follows then
    follow {
      process, showsNames := showsNames arguments
      retries := arguments.has 'R' || arguments.has 'F' } (namedInputs arguments.operands) status
  else return status

end TestAmplification.Shell
