import TestAmplification.Shell.Utility.Passing
import TestAmplification.Shell.Utility.Regex

/-!
# Utilities for columns and counts

`cut` takes parts out of every line, `paste` puts lines side by side, `wc` counts
and `nl` numbers.

Which parts of a line are meant is written as a list of numbers and ranges. The
order of the list does not matter: what is taken stays in the order of the line.
-/

set_option autoImplicit false

namespace TestAmplification.Shell

open Tool

/-! ## Taking parts of lines -/

/-- A range of positions; without an end it goes on to the end of the line. -/
structure PositionRange where
  /-- The first position. -/
  low : Nat
  /-- The last position. -/
  high : Option Nat
deriving DecidableEq, Inhabited

/-- Is the position in the range? -/
def PositionRange.holds (range : PositionRange) (position : Nat) : Bool :=
  range.low ≤ position && (range.high.map fun high => decide (position ≤ high)).getD true

/-- Reads a range. The word is what positions are called in messages. -/
def readRange (isField : Bool) (text : Row) : Tool PositionRange := do
  let zero {α : Type} : Tool α :=
    usage (rowOf (if isField then "fields are numbered from 1"
      else "byte/character positions are numbered from 1"))
  let number (digits : Row) : Tool Nat := do
    match Text.digits? digits with
    | some number => return number
    | none =>
        usage (rowOf (if isField then "invalid field value '"
          else "invalid byte/character position '") ++ digits ++ ['\''])
  match text.splitBy fun first second => (first == '-') == (second == '-') with
  | [] => zero
  | [['-']] => usage (rowOf "invalid range with no endpoint: -")
  | [single] =>
      let position ← number single
      if position = 0 then zero
      return ⟨position, some position⟩
  | [['-'], high] => return ⟨1, some (← number high)⟩
  | [low, ['-']] =>
      let low ← number low
      if low = 0 then zero
      return ⟨low, none⟩
  | [low, ['-'], high] =>
      let low ← number low
      let high ← number high
      if low = 0 then zero
      if high < low then usage (rowOf "invalid decreasing range")
      return ⟨low, some high⟩
  | _ => usage (rowOf (if isField then "invalid field range" else "invalid byte or character range"))

/-- Reads a list of ranges between commas or blanks. -/
def readRanges (isField : Bool) (text : Row) : Tool (List PositionRange) :=
  (cutAtEach ',' (text.map fun character =>
    if character = ' ' || character = '\t' then ',' else character)).mapM (readRange isField)

/-- The items at chosen positions, and for each of them whether a new range begins
with it. -/
def chosenItems {α : Type} (isChosen startsRange : Nat → Bool) (items : List α) :
    List (α × Bool) :=
  (items.zipIdx 1).filterMap fun (item, position) =>
    if isChosen position then some (item, startsRange position) else none

/-- How `cut` cuts. -/
structure CutPlan where
  /-- Are fields taken, or bytes? -/
  isField : Bool
  /-- Is the position taken? -/
  isChosen : Nat → Bool
  /-- Does a range begin there that does not continue another? -/
  startsRange : Nat → Bool
  /-- What separates fields. -/
  delimiter : Char
  /-- What separates what is written. -/
  separator : Option Row
  /-- Are lines without a separator left out? -/
  onlyDelimited : Bool

/-- What is taken of a line, if it is not left out. -/
def CutPlan.line (plan : CutPlan) (line : Row) : Option Row :=
  if plan.isField then
    if !line.contains plan.delimiter then if plan.onlyDelimited then none else some line
    else
      let fields := chosenItems plan.isChosen plan.startsRange (cutAtEach plan.delimiter line)
      some (joinWith (plan.separator.getD [plan.delimiter]) (fields.map Prod.fst))
  else
    let bytes := chosenItems plan.isChosen plan.startsRange line
    match plan.separator with
    | none => some (bytes.map Prod.fst)
    | some separator =>
        some (bytes.zipIdx.flatMap fun ((byte, starts), index) =>
          if starts && index > 0 then separator ++ [byte] else [byte])

/-- Takes parts of the lines of each input. -/
def cut : Utility := fun arguments => do
  let arguments ← parseArguments
    [long 'b' "bytes" .some, long 'c' "characters" .some, long 'f' "fields" .some,
      long 'd' "delimiter" .some, long 's' "only-delimited", long 'C' "complement",
      long 'O' "output-delimiter" .some, long 'n' "", long 'z' "zero-terminated"] arguments
  let lists := arguments.options.filter fun option => ['b', 'c', 'f'].contains option.1
  match lists with
  | [] => usage (rowOf "you must specify a list of bytes, characters, or fields")
  | [(letter, text)] =>
      let isField := letter == 'f'
      let delimiter := (arguments.value? 'd').getD ['\t']
      if delimiter.length > 1 then usage (rowOf "the delimiter must be a single character")
      if !isField && arguments.has 'd' then
        usage (rowOf "an input delimiter may be specified only when operating on fields")
      if !isField && arguments.has 's' then
        usage (rowOf ("suppressing non-delimited lines makes sense\n"
          ++ "\tonly when operating on fields"))
      let ranges ← readRanges isField text
      let inverted := arguments.has 'C'
      let isChosen (position : Nat) : Bool := ranges.any (·.holds position) != inverted
      let plan : CutPlan := {
        isField, isChosen
        startsRange := fun position =>
          !isChosen (position - 1) || position == 1 || (!inverted
            && ranges.any (fun range => range.low == position)
            && !ranges.any fun range => range.holds (position - 1) && range.holds position)
        delimiter := delimiter.head?.getD '\x00'
        separator := arguments.value? 'O'
        onlyDelimited := arguments.has 's' }
      let ending := if arguments.has 'z' then '\x00' else '\n'
      overLines ending plainComplaint (fun row =>
        put (joinEnded ending ((linesEndedBy ending row).filterMap plan.line))) arguments.operands
  | _ => usage (rowOf "only one list may be specified")

/-! ## Side by side -/

/-- The separators that a list gives: nothing stands for no separator. -/
def listedSeparators : Row → List Row
  | '\\' :: letter :: rest =>
      (match letter with
        | 'n' => ['\n']
        | 't' => ['\t']
        | '0' => []
        | '\\' => ['\\']
        | letter => [letter]) :: listedSeparators rest
  | character :: rest => [character] :: listedSeparators rest
  | [] => []

/-- Items with separators that are used in turn. -/
def joinInTurn (separators : List Row) (items : List Row) : Row :=
  (items.zipIdx.flatMap fun (item, index) =>
    if index = 0 then item
    else (separators[(index - 1) % max 1 separators.length]?).getD [] ++ item)

/-- The lines of inputs side by side, at most so many. -/
def besideUpTo (separators : List Row) : Nat → List (List Row) → List Row
  | 0, _ => []
  | steps + 1, columns =>
      if columns.all List.isEmpty then []
      else
        joinInTurn separators (columns.map fun column => column.head?.getD [])
          :: besideUpTo separators steps (columns.map List.tail)

/-- Every so many items, from a first one on. -/
def everyFrom {α : Type} (start step : Nat) (items : List α) : List α :=
  items.zipIdx.filterMap fun (item, index) =>
    if index % max 1 step = start then some item else none

/-- Puts the lines of inputs side by side, or the lines of each input. Inputs that
are the standard input share its lines. -/
def paste : Utility := fun arguments => do
  let arguments ← parseArguments
    [long 'd' "delimiters" .some, long 's' "serial", long 'z' "zero-terminated"] arguments
  let ending := if arguments.has 'z' then '\x00' else '\n'
  let separators :=
    match arguments.value? 'd' with
    | some [] => [[]]
    | some list => listedSeparators list
    | none => [['\t']]
  let paths := namedInputs arguments.operands
  let standard ←
    if paths.contains ['-'] then
      match ← standardInput with
      | .ok row => pure (linesEndedBy ending row)
      | .error fault => fail (plainComplaint ['-'] fault) 1
    else pure []
  let shared := paths.count ['-']
  let readLines (index : Nat) (path : Row) : Tool (List Row × Nat) := do
    if path = ['-'] then
      if arguments.has 's' then
        return (if (paths.take index).contains ['-'] then [] else standard, 0)
      return (everyFrom ((paths.take index).count ['-']) shared standard, 0)
    match ← input path with
    | .ok row => return (linesEndedBy ending row, 0)
    | .error fault =>
        if arguments.has 's' then
          warn (plainComplaint path fault)
          return ([], 1)
        fail (plainComplaint path fault) 1
  let columns ← paths.zipIdx.mapM fun (path, index) => readLines index path
  let status := (columns.map Prod.snd).foldl max 0
  if arguments.has 's' then
    put (joinEnded ending ((columns.filter (·.2 == 0)).map fun column => joinInTurn separators column.1))
  else
    let lines := columns.map Prod.fst
    let longest := (lines.map List.length).foldl max 0
    put (joinEnded ending (besideUpTo separators (longest + 1) lines))
  return status

/-! ## Counting -/

/-- What was counted so far. -/
structure Tally where
  /-- The number of line ends. -/
  lines : Nat := 0
  /-- The number of words. -/
  words : Nat := 0
  /-- Is a word under way? -/
  inWord : Bool := false
  /-- The number of bytes. -/
  bytes : Nat := 0
  /-- The width of the widest line. -/
  widest : Nat := 0
  /-- The width of the line under way. -/
  column : Nat := 0

namespace Tally

/-- The number of line ends after those in some bytes. -/
def linesAfter (lines : Nat) (bytes : ByteArray) : Nat :=
  bytes.foldl (fun lines byte => if byte = 10 then lines + 1 else lines) lines

/-- Twice the number of words after those in some bytes, and one more if a word is under way. A
word has characters that are printed, and goes on to a blank. -/
def wordsAfter (words : Nat) (bytes : ByteArray) : Nat :=
  bytes.foldl (fun words byte =>
    if 32 < byte && byte < 127 then words / 2 * 2 + 1
    else if byte = 32 || 9 ≤ byte && byte ≤ 13 then words + words % 2
    else words) words

/-- The greatest width and the width of the line under way after some bytes. A tab goes on to the
next column that is a multiple of eight. -/
def widthsAfter (widths : Nat × Nat) (bytes : ByteArray) : Nat × Nat :=
  bytes.foldl (fun (widest, column) byte =>
    let column := if byte = 9 then column / 8 * 8 + 8
      else if 32 ≤ byte && byte < 127 then column + 1 else column
    (max widest column, if byte = 10 || byte = 12 || byte = 13 then 0 else column)) widths

/-- What was counted after some bytes. Only what the letters ask for is counted. -/
def after (flags : List Char) (tally : Tally) (bytes : ByteArray) : Tally :=
  let words :=
    if flags.contains 'w' then wordsAfter (2 * tally.words + if tally.inWord then 1 else 0) bytes
    else 0
  let widths :=
    if flags.contains 'L' then widthsAfter (tally.widest, tally.column) bytes else (0, 0)
  { lines := if flags.contains 'l' then linesAfter tally.lines bytes else 0
    words := words / 2
    inWord := words % 2 = 1
    bytes := tally.bytes + bytes.size
    widest := widths.1
    column := widths.2 }

/-- The counts that are wanted: lines, words, characters, bytes and the width of the widest
line. -/
def counts (flags : List Char) (tally : Tally) : List Nat :=
  [('l', tally.lines), ('w', tally.words + if tally.inWord then 1 else 0), ('m', tally.bytes),
    ('c', tally.bytes), ('L', tally.widest)].filterMap fun (letter, count) =>
      if flags.contains letter then some count else none

end Tally

/-- Counts what comes from an opening. -/
def tallyOf (flags : List Char) : Nat → Nat → Tally → Tool (Except StreamFault Tally)
  | 0, _, tally => return .ok tally
  | steps + 1, opening, tally => do
      match ← Act.receive Act.patience opening Act.readingSize with
      | .error fault => return .error fault
      | .ok bytes =>
          if bytes.isEmpty then return .ok tally
          if flags != ['c'] then Act.work (bytes.size / 8)
          tallyOf flags steps opening (tally.after flags bytes)

/-- The counts of several rows together. -/
def addCounts (flags : List Char) (first second : List Nat) : List Nat :=
  let isWidth (index : Nat) : Bool := flags.contains 'L' && index + 1 == first.length
  (first.zip second).zipIdx.map fun ((first, second), index) =>
    if isWidth index then max first second else first + second

/-- The size of a file that is read, if it is a file. -/
def sizeOfInput (path : Row) : Tool (Option (Option Nat)) := do
  match ← openInput path with
  | .error _ => return none
  | .ok opening =>
      let machine ← get
      match machine.openings[opening]?.map Opening.target with
      | some (.file place) => return some (some (machine.fileBytes place).size)
      | _ => return some none

/-- The width of the columns of counts: what the size of all files needs, and more
when there is an input whose size is not known. A single count has no columns. -/
def countWidth (isSingle : Bool) (paths : List Row) : Tool Nat := do
  if isSingle && paths.length = 1 then return 1
  let sizes := (← paths.mapM sizeOfInput).filterMap id
  let total := (sizes.filterMap id).foldl (· + ·) 0
  let least := if sizes.contains none then 7 else 1
  return max least (natRow total).length

/-- Counts lines, words and bytes of each input. -/
def wc : Utility := fun arguments => do
  let arguments ← parseArguments
    [long 'l' "lines", long 'w' "words", long 'c' "bytes", long 'm' "chars",
      long 'L' "max-line-length", long 'T' "total" .some] arguments
  let given := ['l', 'w', 'm', 'c', 'L'].filter arguments.has
  let flags := if given.isEmpty then ['l', 'w', 'c'] else given
  let paths := namedInputs arguments.operands
  let width ← countWidth (flags.length = 1) paths
  let total := (arguments.value? 'T').getD (rowOf "auto")
  let line (counts : List Nat) (name : Row) : Row :=
    joinWith [' '] (counts.map fun count => padLeft width (natRow count))
      ++ (if name.isEmpty then [] else ' ' :: name) ++ ['\n']
  let (status, counts) ← paths.foldlM (fun (status, sums) path => do
    if path.isEmpty then
      warn (rowOf "invalid zero-length file name")
      return (1, sums)
    let counted : Except InputFault (Except StreamFault Tally) ← do
      match ← openInput path with
      | .error fault => pure (.error fault)
      | .ok opening => pure (.ok (← keeping opening (tallyOf flags Act.patience opening {})))
    match counted with
    | .ok (.ok tally) =>
        let counts := tally.counts flags
        if total ≠ rowOf "only" then
          put (line counts (if arguments.operands.isEmpty then [] else path))
        return (status, addCounts flags sums counts)
    | .error fault =>
        warn (quotedIfNeeded path ++ rowOf (": " ++ fault.reason))
        return (1, sums)
    | .ok (.error fault) =>
        let shown := if path = ['-'] then rowOf "'standard input'" else quotedIfNeeded path
        warn (shown ++ rowOf (": " ++ fault.reason))
        put (line (Tally.counts flags {}) (if arguments.operands.isEmpty then [] else path))
        return (1, sums)) (0, Tally.counts flags {})
  if total = rowOf "only" then put (line counts [])
  else if total = rowOf "always" || (total = rowOf "auto" && paths.length > 1) then
    put (line counts (rowOf "total"))
  return status

/-! ## Numbering -/

/-- How lines are numbered. -/
structure Numbering where
  /-- Is the line numbered? -/
  isNumbered : Row → Bool
  /-- The first number. -/
  start : Int
  /-- The distance between numbers. -/
  step : Int
  /-- The width of the column of numbers. -/
  width : Nat
  /-- What stands between a number and its line. -/
  separator : Row
  /-- How a number fills its column. -/
  column : Nat → Row → Row

/-- The lines with numbers in front, from a number on, and the number after them. -/
def Numbering.lines (style : Numbering) (number : Int) (lines : List Row) : List Row × Int :=
  let (written, number) := lines.foldl (fun (written, number) line =>
    if style.isNumbered line then
      ((style.column style.width (intRow number) ++ style.separator ++ line) :: written,
        number + style.step)
    else ((List.replicate (style.width + style.separator.length) ' ' ++ line) :: written, number))
    (([] : List Row), number)
  (written.reverse, number)

/-- Numbers the lines of all inputs. -/
def nl : Utility := fun arguments => do
  let arguments ← parseArguments
    [long 'b' "body-numbering" .some, long 'w' "number-width" .some,
      long 's' "number-separator" .some, long 'v' "starting-line-number" .some,
      long 'i' "line-increment" .some, long 'n' "number-format" .some,
      long 'h' "header-numbering" .some, long 'f' "footer-numbering" .some,
      long 'd' "section-delimiter" .some, long 'l' "join-blank-lines" .some,
      long 'p' "no-renumber"] arguments
  let body := (arguments.value? 'b').getD ['t']
  let isNumbered : Row → Bool ←
    match body with
    | ['a'] => pure (fun (_ : Row) => true)
    | ['t'] => pure (fun (line : Row) => !line.isEmpty)
    | ['n'] => pure (fun (_ : Row) => false)
    | 'p' :: expression =>
        match Regex.parse { isExtended := false } expression with
        | .ok regex => pure fun line => regex.occursIn { characters := line.toArray }
        | .error fault => fail (rowOf fault.message) 1
    | other => usage (rowOf "invalid body numbering style: " ++ quotedText other)
  let number (letter : Char) (default : Int) (what : String) : Tool Int := do
    match arguments.value? letter with
    | none => return default
    | some text =>
        match intOf? text with
        | some number => return number
        | none => fail (rowOf ("invalid " ++ what ++ ": ") ++ quotedText text) 1
  let format := (arguments.value? 'n').getD (rowOf "rn")
  let style : Numbering := {
    isNumbered
    start := ← number 'v' 1 "starting line number"
    step := ← number 'i' 1 "line number increment"
    width := (← number 'w' 6 "line number field width").toNat
    separator := (arguments.value? 's').getD ['\t']
    column := if format = rowOf "ln" then padRight else if format = rowOf "rz" then padZeros
      else padLeft }
  let write (number : Int) (row : Row) : Tool Int := do
    let (lines, number) := style.lines number (rowLines row)
    put (joinRows lines)
    return number
  let (status, _) ← (namedInputs arguments.operands).foldlM (fun (status, number) path => do
    match ← openInput path with
    | .error fault =>
        warn (plainComplaint path fault)
        return (1, number)
    | .ok opening =>
        match ← keeping opening (passLines '\n' write Act.patience opening [] number) with
        | .error fault =>
            warn (plainComplaint path (.reading fault))
            return (1, number)
        | .ok (rest, number) => return (status, ← write number rest)) (0, style.start)
  return status

end TestAmplification.Shell
