import TestAmplification.Shell.Utility.Decimal
import TestAmplification.Shell.Utility.Passing

/-!
# Sorting lines

`sort` puts the lines of its inputs in order. Keys say which parts of a line count
and how they are compared. Lines whose keys are all equal are compared as a whole,
unless the order of the input is to be kept.

`uniq` tells runs of equal lines apart from lines that stand alone.
-/

set_option autoImplicit false

namespace TestAmplification.Shell

open Tool

/-! ## Comparing -/

/-- How rows of bytes are ordered. -/
def compareRows (first second : Row) : Ordering :=
  if first < second then .lt else if second < first then .gt else .eq

/-- Is the character a blank between fields? -/
def isFieldBlank (character : Char) : Bool :=
  character == ' ' || character == '\t' || character == '\n'

/-- The number in front of a row, where nothing counts as zero. -/
def leadingNumber (row : Row) : Fraction :=
  let row := row.dropWhile isFieldBlank
  let (isNegative, rest) :=
    match row with
    | '-' :: rest => (true, rest)
    | rest => (false, rest)
  let (digits, places, _) := Fraction.takeDigits Char.isDigit rest
  ({ isNegative, numerator := Text.digitsValue digits } : Fraction).scaled 10 (-(places : Int))

/-- Rank and number of a row as a number in any notation: what is none comes
first. -/
def compareGeneral (first second : Row) : Ordering :=
  let read (row : Row) : Option Fraction :=
    (Fraction.take? (row.dropWhile isSpace)).map Prod.fst
  match read first, read second with
  | none, none => .eq
  | none, some _ => .lt
  | some _, none => .gt
  | some first, some second => first.compare second

/-- The place of a size letter behind a number. -/
def sizeRank (row : Row) : Nat :=
  let rest := (row.dropWhile isFieldBlank).dropWhile (· == '-')
  let (_, _, rest) := Fraction.takeDigits Char.isDigit rest
  match rest with
  | letter :: _ =>
      if letter = 'k' then 1
      else ((['K', 'M', 'G', 'T', 'P', 'E', 'Z', 'Y'].findIdx? (· == letter)).map (· + 1)).getD 0
  | [] => 0

/-- How two numbers with size letters are ordered. -/
def compareSizes (first second : Row) : Ordering :=
  let (firstNumber, secondNumber) := (leadingNumber first, leadingNumber second)
  let sign (number : Fraction) : Int :=
    if number.isZero then 0 else if number.isNegative then -1 else 1
  let ranked (row : Row) (number : Fraction) : Int := sign number * (sizeRank row + 1)
  (compare (ranked first firstNumber) (ranked second secondNumber)).then
    (firstNumber.compare secondNumber)

/-- The number of the month that a row begins with; zero for none. -/
def monthOf (row : Row) : Nat :=
  let name := String.ofList (((row.dropWhile isFieldBlank).take 3).map Char.toUpper)
  ((["JAN", "FEB", "MAR", "APR", "MAY", "JUN", "JUL", "AUG", "SEP", "OCT", "NOV", "DEC"].findIdx?
    (· == name)).map (· + 1)).getD 0

/-- The rank of a character that is no digit in a version: a tilde comes before the
end, then letters, then all else. -/
def versionRank (character : Option Char) : Nat :=
  match character with
  | some '~' => 0
  | none => 1
  | some character =>
      if character.isDigit then 1
      else if character.isAlpha then character.toNat + 1
      else character.toNat + 257

/-- How two versions are ordered, in at most so many steps: texts and numbers by
turns. -/
def compareVersionsUpTo : Nat → Row → Row → Ordering
  | 0, _, _ => .eq
  | steps + 1, first, second =>
      if first.isEmpty && second.isEmpty then .eq
      else
        let firstText := first.takeWhile fun character => !character.isDigit
        let secondText := second.takeWhile fun character => !character.isDigit
        let length := max firstText.length secondText.length
        let byText := (List.range length).foldl (fun (order : Ordering) index =>
          order.then (compare (versionRank firstText[index]?) (versionRank secondText[index]?)))
          Ordering.eq
        let firstRest := first.drop firstText.length
        let secondRest := second.drop secondText.length
        let firstDigits := firstRest.takeWhile Char.isDigit
        let secondDigits := secondRest.takeWhile Char.isDigit
        (byText.then (compare (Text.digitsValue firstDigits) (Text.digitsValue secondDigits))).then
          (compareVersionsUpTo steps (firstRest.drop firstDigits.length)
            (secondRest.drop secondDigits.length))

/-- How two versions are ordered. -/
def compareVersions (first second : Row) : Ordering :=
  let isHidden (row : Row) : Bool := row.head? == some '.'
  ((compare (!first.isEmpty) (!second.isEmpty)).then
    (compare (!isHidden first) (!isHidden second))).then
    (compareVersionsUpTo (first.length + second.length + 1) first second)

/-! ## Keys -/

/-- A part of a line that counts for the order. -/
structure SortKey where
  /-- The number of fields before it. -/
  startField : Nat := 0
  /-- The number of characters before it in its first field. -/
  startOffset : Nat := 0
  /-- The number of fields before its last one, if it does not go to the end. -/
  endField : Option Nat := none
  /-- The number of characters of its last field, where zero stands for all. -/
  endLength : Nat := 0
  /-- Are blanks in front of its start passed over? -/
  skipsAtStart : Bool := false
  /-- Are blanks in front of its last field passed over? -/
  skipsAtEnd : Bool := false
  /-- The letters of the ways of comparing. -/
  ways : List Char := []
deriving Inhabited

/-- What is left of a line behind so many fields. -/
def dropFields (separator : Option Char) (isLast : Nat → Bool) : Nat → Row → Row
  | 0, row => row
  | count + 1, row =>
      if row.isEmpty then row
      else
        match separator with
        | some separator =>
            let rest := row.dropWhile (· != separator)
            dropFields (some separator) isLast count (if isLast count then rest else rest.drop 1)
        | none =>
            dropFields none isLast count
              ((row.dropWhile isFieldBlank).dropWhile fun character => !isFieldBlank character)

/-- The part of a line that is a key. -/
def SortKey.part (key : SortKey) (separator : Option Char) (line : Row) : Row :=
  let start := dropFields separator (fun _ => false) key.startField line
  let start := if key.skipsAtStart then start.dropWhile isFieldBlank else start
  let start := start.drop key.startOffset
  match key.endField with
  | none => start
  | some field =>
      let rest :=
        if key.endLength = 0 then dropFields separator (· == 0) (field + 1) line
        else
          let rest := dropFields separator (fun _ => false) field line
          let rest := if key.skipsAtEnd then rest.dropWhile isFieldBlank else rest
          rest.drop key.endLength
      start.take (start.length - rest.length)

/-- The characters of a key that count. -/
def countedCharacters (ways : List Char) (row : Row) : Row :=
  let row :=
    if ways.contains 'd' then
      row.filter fun character => character.isAlphanum || isFieldBlank character
    else if ways.contains 'i' then row.filter isPrinted
    else row
  if ways.contains 'f' then row.map Char.toUpper else row

/-- How two keys are ordered. -/
def compareKeys (ways : List Char) (first second : Row) : Ordering :=
  let order :=
    if ways.contains 'n' then (leadingNumber first).compare (leadingNumber second)
    else if ways.contains 'g' then compareGeneral first second
    else if ways.contains 'h' then compareSizes first second
    else if ways.contains 'M' then compare (monthOf first) (monthOf second)
    else if ways.contains 'V' then compareVersions first second
    else compareRows (countedCharacters ways first) (countedCharacters ways second)
  if ways.contains 'r' then order.swap else order

/-- How lines are sorted. -/
structure SortPlan where
  /-- The keys. -/
  keys : List SortKey
  /-- What separates fields; without it they are separated by blanks. -/
  separator : Option Char
  /-- Is the order turned around? -/
  isReversed : Bool
  /-- Does the order of the input count for equal keys? -/
  isStable : Bool
  /-- Is only one of several lines with equal keys kept? -/
  isUnique : Bool

/-- How two lines are ordered by their keys. -/
def SortPlan.compareByKeys (plan : SortPlan) (first second : Row) : Ordering :=
  plan.keys.foldl (fun order key =>
    if order = .eq then
      compareKeys key.ways (key.part plan.separator first) (key.part plan.separator second)
    else order) .eq

/-- How two lines are ordered. -/
def SortPlan.compare (plan : SortPlan) (first second : Row) : Ordering :=
  let whole := compareRows first second
  let whole := if plan.isReversed then whole.swap else whole
  if plan.keys.isEmpty then whole
  else
    match plan.compareByKeys first second with
    | .eq => if plan.isStable || plan.isUnique then .eq else whole
    | order => order

/-- Only the first of several lines in a row that are equal. -/
def SortPlan.withoutEqual (plan : SortPlan) (lines : List Row) : List Row :=
  (lines.foldl (fun (kept : List Row) line =>
    match kept.head? with
    | some last => if plan.compare last line = .eq then kept else line :: kept
    | none => [line]) []).reverse

/-- The lines in order. -/
def SortPlan.sorted (plan : SortPlan) (lines : List Row) : List Row :=
  let lines := lines.mergeSort fun first second => plan.compare first second != .gt
  if plan.isUnique then plan.withoutEqual lines else lines

/-- Lines in order that come from several inputs in order, at most so many. -/
def SortPlan.merged (plan : SortPlan) : Nat → List (List Row) → List Row
  | 0, _ => []
  | steps + 1, inputs =>
      let heads := inputs.zipIdx.filterMap fun (lines, index) =>
        lines.head?.map fun line => (line, index)
      match heads with
      | [] => []
      | first :: others =>
          let (line, index) := others.foldl (fun best other =>
            if plan.compare other.1 best.1 = .lt then other else best) first
          line :: plan.merged steps (inputs.modify index List.tail)

/-! ## Reading keys -/

/-- A number in front of a specification, and what follows it. -/
def takeCount (specification : Row) (about : String) (text : Row) : Tool (Nat × Row) := do
  let digits := text.takeWhile Char.isDigit
  match Text.digits? digits with
  | none => fail (rowOf (about ++ ": invalid count at start of ") ++ quotedText text) 2
  | some number =>
      if number = 0 && about ≠ "" then
        let reason := if about = "invalid number after '.'" then "character offset is zero"
          else "field number is zero"
        fail (rowOf (reason ++ ": invalid field specification ") ++ quotedText specification) 2
      return (number, text.drop digits.length)

/-- The letters of ways of comparing in front of a row. -/
def takeWays (row : Row) : Row × Row :=
  row.span fun letter => ['b', 'd', 'f', 'g', 'h', 'i', 'M', 'n', 'R', 'r', 'V'].contains letter

/-- Reads a key. -/
def readKey (specification : Row) : Tool SortKey := do
  let (field, rest) ← takeCount specification "invalid number at field start" specification
  let (offset, rest) ←
    match rest with
    | '.' :: rest => takeCount specification "invalid number after '.'" rest
    | rest => pure (1, rest)
  let (ways, rest) := takeWays rest
  let key : SortKey := {
    startField := field - 1, startOffset := offset - 1
    skipsAtStart := ways.contains 'b', ways := ways.filter (· != 'b') }
  let stray {α : Type} : Tool α :=
    fail (rowOf "stray character in field spec: invalid field specification "
      ++ quotedText specification) 2
  match rest with
  | [] => return key
  | ',' :: rest =>
      let (field, rest) ← takeCount specification "invalid number after ','" rest
      let (length, rest) ←
        match rest with
        | '.' :: rest =>
            let digits := rest.takeWhile Char.isDigit
            match Text.digits? digits with
            | some number => pure (number, rest.drop digits.length)
            | none => takeCount specification "invalid number after '.'" rest
        | rest => pure (0, rest)
      let (more, rest) := takeWays rest
      if !rest.isEmpty then stray
      return { key with
        endField := some (field - 1), endLength := length
        skipsAtEnd := more.contains 'b', ways := key.ways ++ more.filter (· != 'b') }
  | _ => stray

/-- Checks that ways of comparing go together. -/
def checkWays (ways : List Char) : Tool Unit := do
  let given := ['d', 'g', 'h', 'i', 'M', 'n', 'R', 'V'].filter ways.contains
  let numeric := given.filter (['g', 'h', 'M', 'n'].contains ·)
  let ordering := given.filter (['V', 'R', 'd', 'i'].contains ·)
  let clash := numeric.length > 1 || (numeric.length = 1 && !(ordering.filter (· != 'i')).isEmpty)
  if clash then
    let letters := (numeric ++ ordering).mergeSort fun first second => first.toNat ≤ second.toNat
    fail (rowOf "options '-" ++ letters ++ rowOf "' are incompatible") 2

/-- The character that separates fields. -/
def readSeparator (text : Row) : Tool Char := do
  match text with
  | [] => fail (rowOf "empty tab") 2
  | [character] => return character
  | ['\\', '0'] => return '\x00'
  | _ => fail (rowOf "multi-character tab " ++ quotedText text) 2

/-- Looks for the first line that is out of order. -/
def checkSorted (plan : SortPlan) (isQuiet : Bool) (path : Row) (lines : List Row) : Tool Nat := do
  let wrong := (lines.zip lines.tail).zipIdx.find? fun ((first, second), _) =>
    let order := plan.compare first second
    order == .gt || (plan.isUnique && order == .eq)
  match wrong with
  | none => return 0
  | some ((_, line), index) =>
      if !isQuiet then
        warn (path ++ [':'] ++ natRow (index + 2) ++ rowOf ": disorder: " ++ line)
      return 1

/-- The options of `sort`. -/
def sortOptions : List KnownOption :=
  letterOptions "bdfghiMnRrV" ++
    [long 'k' "key" .some, long 't' "field-separator" .some, long 'o' "output" .some,
      long 'u' "unique", long 's' "stable", long 'm' "merge", long 'c' "check" .maybe,
      long 'C' "", long 'z' "zero-terminated", long 'S' "buffer-size" .some,
      long 'T' "temporary-directory" .some, long 'P' "parallel" .some,
      long 'b' "ignore-leading-blanks", long 'd' "dictionary-order", long 'f' "ignore-case",
      long 'g' "general-numeric-sort", long 'h' "human-numeric-sort",
      long 'i' "ignore-nonprinting", long 'M' "month-sort", long 'n' "numeric-sort",
      long 'R' "random-sort", long 'O' "random-source" .some, long 'r' "reverse",
      long 'V' "version-sort"]

/-- What separates the lines of the inputs. -/
def linesBy (separator : Char) (row : Row) : List Row :=
  let parts := cutAtEach separator row
  if parts.getLast? = some [] then parts.dropLast else parts

/-- Puts the lines of all inputs in order. -/
def sort : Utility := fun given => withReader (fun call => { call with usageStatus := 2 }) do
  let given := given.flatMap fun argument =>
    match argument with
    | ['-', 'c'] => [rowOf "--check="]
    | argument => [argument]
  let arguments ← parseArguments sortOptions given
  let ways := (arguments.options.map Prod.fst).filter
    ['b', 'd', 'f', 'g', 'h', 'i', 'M', 'n', 'R', 'r', 'V'].contains
  let separator ← (arguments.value? 't').mapM readSeparator
  let keys ← (arguments.values 'k').mapM readKey
  let inherited (key : SortKey) : SortKey :=
    if key.ways.isEmpty && !key.skipsAtStart && !key.skipsAtEnd then
      { key with
        ways := ways.filter (· != 'b')
        skipsAtStart := ways.contains 'b', skipsAtEnd := ways.contains 'b' }
    else key
  let keys :=
    if keys.isEmpty && ways.any (· != 'r') then
      [{ ways := ways.filter (· != 'b'), skipsAtStart := ways.contains 'b' }]
    else keys.map inherited
  keys.forM fun key => checkWays key.ways
  let plan : SortPlan := {
    keys, separator, isReversed := arguments.has 'r'
    isStable := arguments.has 's', isUnique := arguments.has 'u' }
  let ending := if arguments.has 'z' then '\x00' else '\n'
  let read (path : Row) : Tool (List Row) := do
    match ← input path with
    | .ok row => return linesBy ending row
    | .error (.opening fault) =>
        fail (rowOf "cannot read: " ++ quotedIfNeeded path ++ rowOf (": " ++ fault.reason)) 2
    | .error (.reading fault) =>
        fail (rowOf "read failed: " ++ path ++ rowOf (": " ++ fault.reason)) 2
  let paths := namedInputs arguments.operands
  if arguments.has 'c' || arguments.has 'C' then
    match paths with
    | [path] =>
        let isQuiet := arguments.has 'C' ||
          (arguments.value? 'c').any fun value => value == rowOf "quiet" || value == rowOf "silent"
        return ← checkSorted plan isQuiet path (← read path)
    | _ => fail (rowOf "extra operand " ++ quotedText ((paths[1]?).getD [])
        ++ rowOf " not allowed with -c") 2
  let inputs ← paths.mapM read
  let lines :=
    if arguments.has 'm' then
      let merged := plan.merged (inputs.flatten.length + 1) inputs
      if plan.isUnique then plan.withoutEqual merged else merged
    else plan.sorted inputs.flatten
  let row := lines.flatMap fun line => line ++ [ending]
  match arguments.value? 'o' with
  | none =>
      put row
      return 0
  | some path =>
      match ← Act.openPath .write (textOf path) with
      | .ok opening =>
          let _ ← Act.writeOpening opening row
          return 0
      | .error fault =>
          fail (rowOf "open failed: " ++ quotedIfNeeded path ++ rowOf (": " ++ fault.reason)) 2

/-! ## Runs of equal lines -/

/-- How `uniq` compares lines. -/
structure UniqStyle where
  /-- The number of fields that do not count. -/
  fields : Nat
  /-- The number of characters after them that do not count. -/
  characters : Nat
  /-- The number of characters that count after those. -/
  width : Option Nat
  /-- Does case not matter? -/
  foldsCase : Bool

/-- The part of a line that counts. -/
def UniqStyle.part (style : UniqStyle) (line : Row) : Row :=
  let rest := (dropFields none (fun _ => false) style.fields line).drop style.characters
  let rest := match style.width with
    | some width => rest.take width
    | none => rest
  if style.foldsCase then rest.map Char.toUpper else rest

/-- Writes each run of equal lines once. -/
def uniq : Utility := fun given => do
  let given := match given with
    | ('-' :: digit :: more) :: rest =>
        if digit.isDigit then (rowOf "-f" ++ digit :: more) :: rest else given
    | _ => given
  let arguments ← parseArguments
    [long 'c' "count", long 'd' "repeated", long 'u' "unique", long 'D' "",
      long 'A' "all-repeated" .maybe, long 'i' "ignore-case", long 'f' "skip-fields" .some,
      long 's' "skip-chars" .some, long 'w' "check-chars" .some, long 'G' "group" .maybe,
      long 'z' "zero-terminated"] given
  let number (letter : Char) (what : String) : Tool (Option Nat) := do
    match arguments.value? letter with
    | none => return none
    | some text =>
        match Text.digits? text with
        | some number => return some number
        | none => fail (text ++ rowOf (": invalid number of " ++ what)) 1
  let fields ← number 'f' "fields to skip"
  let characters ← number 's' "bytes to skip"
  let width ← number 'w' "bytes to compare"
  let style : UniqStyle := {
    fields := fields.getD 0, characters := characters.getD 0, width
    foldsCase := arguments.has 'i' }
  let path ←
    match arguments.operands with
    | [] => pure ['-']
    | [path] | [path, _] => pure path
    | _ :: _ :: extra :: _ => usage (rowOf "extra operand " ++ quotedText extra)
  let row ←
    match ← input path with
    | .ok row => pure row
    | .error (.opening fault) => fail (quotedIfNeeded path ++ rowOf (": " ++ fault.reason)) 1
    | .error (.reading fault) =>
        fail (rowOf "error reading " ++ quoted path ++ rowOf (": " ++ fault.reason)) 1
  let runs := (rowLines row).splitBy fun first second => style.part first == style.part second
  let showsAll := arguments.has 'D' || arguments.has 'A'
  let kept := runs.filter fun run =>
    (!(arguments.has 'd' || showsAll) || run.length > 1)
      && (!arguments.has 'u' || run.length == 1)
  let written :=
    if arguments.has 'G' then List.intersperse [[]] kept |>.flatten
    else if showsAll then
      match arguments.value? 'A' with
      | some method =>
          if method = rowOf "separate" then (List.intersperse [[]] kept).flatten
          else if method = rowOf "prepend" then kept.flatMap ([] :: ·)
          else kept.flatten
      | none => kept.flatten
    else
      kept.map fun run =>
        (if arguments.has 'c' then padLeft 7 (natRow run.length) ++ [' '] else [])
          ++ run.head?.getD []
  match arguments.operands with
  | [_, target] =>
      match ← Act.openPath .write (textOf target) with
      | .ok opening =>
          let _ ← Act.writeOpening opening (joinRows written)
          return 0
      | .error fault => fail (quotedIfNeeded target ++ rowOf (": " ++ fault.reason)) 1
  | _ =>
      put (joinRows written)
      return 0

end TestAmplification.Shell
