import TestAmplification.Shell.Utility.Passing
import TestAmplification.Shell.Utility.Sort

/-!
# Comparing files

Two sorted files are compared line by line, joined by what their lines have in common,
or compared byte by byte. Pairs of words that say what comes before what are put into
an order.
-/

set_option autoImplicit false

namespace TestAmplification.Shell

open Tool

/-- The text of a file, or the end when there is none. -/
def neededInput (path : Row) (status : Nat) : Tool Row := do
  match ← input path with
  | .ok row => return row
  | .error fault => fail (plainComplaint path fault) status

/-- Two operands. -/
def pairOfOperands (operands : List Row) : Tool (Row × Row) := do
  match operands with
  | [] => usage (rowOf "missing operand")
  | [first] => usage (rowOf "missing operand after " ++ quotedText first)
  | [first, second] => return (first, second)
  | _ :: _ :: extra :: _ => usage (rowOf "extra operand " ++ quotedText extra)

/-! ## Order -/

/-- What is watched about the order of lines. -/
inductive OrderCheck where
  /-- Nothing. -/
  | off
  /-- It is told when lines have no counterpart. -/
  | lenient
  /-- It is told, and nothing goes on. -/
  | strict
deriving DecidableEq

/-- The check that options ask for. -/
def orderCheckOf (arguments : Arguments) : OrderCheck :=
  match arguments.last? ['k', 'K'] with
  | some 'k' => .strict
  | some _ => .off
  | none => .lenient

/-- How far a comparison of two files has come. -/
structure Comparing where
  /-- What is to be written, the last row first. -/
  output : List Row := []
  /-- Has a line without a counterpart come? -/
  hasSingles : Bool := false
  /-- Which files are known not to be in order. -/
  disordered : List Nat := []
  /-- How many lines only the first file has, only the second, and both. -/
  counts : Nat × Nat × Nat := (0, 0, 0)

/-- Steps of a comparison. -/
abbrev ComparingSteps := StateT Comparing Tool

/-- Writes something later. -/
def emitRow (row : Row) : ComparingSteps Unit :=
  modify fun state => { state with output := row :: state.output }

/-- Writes what is to be written. -/
def flushRows : ComparingSteps Unit := do
  put (← get).output.reverse.flatten
  modify fun state => { state with output := [] }

/-- Looks whether the next line of a file follows the present one. -/
def checkNext (check : OrderCheck) (file : Nat) (complaint : Row) (isLess : Row → Row → Bool)
    (line : Row) (rest : List Row) : ComparingSteps Unit := do
  let state ← get
  match rest with
  | next :: _ =>
      let isWatched := check = .strict || (check = .lenient && state.hasSingles)
      if isWatched && isLess next line && !state.disordered.contains file then
        flushRows
        warn complaint
        modify fun state => { state with disordered := file :: state.disordered }
        if check = .strict then liftM (leave (α := Unit) 1)
  | [] => return

/-! ## Common lines -/

/-- How common lines are shown. -/
structure CommPlan where
  /-- The columns that are shown. -/
  columns : List Nat
  /-- What stands between columns. -/
  separator : Row
  /-- What ends a line. -/
  ending : Row
  /-- How the order is watched. -/
  check : OrderCheck

/-- Shows a line in a column. -/
def CommPlan.emit (plan : CommPlan) (column : Nat) (line : Row) : ComparingSteps Unit := do
  if plan.columns.contains column then
    let before := (plan.columns.filter (· < column)).length
    emitRow ((List.replicate before plan.separator).flatten ++ line ++ plan.ending)

/-- Compares two lists of lines, in at most so many steps. -/
def CommPlan.compare (plan : CommPlan) : Nat → List Row → List Row → ComparingSteps Unit
  | 0, _, _ => return
  | steps + 1, first, second => do
      let isLess (first second : Row) : Bool := compareRows first second == .lt
      let check (file : Nat) (line : Row) (rest : List Row) : ComparingSteps Unit :=
        checkNext plan.check file (rowOf "file " ++ natRow file ++ rowOf " is not in sorted order")
          isLess line rest
      let count (change : Nat × Nat × Nat → Nat × Nat × Nat) : ComparingSteps Unit :=
        modify fun state => { state with counts := change state.counts }
      let order : Option Ordering :=
        match first, second with
        | [], [] => none
        | _ :: _, [] => some .lt
        | [], _ :: _ => some .gt
        | line :: _, other :: _ => some (compareRows line other)
      match order, first, second with
      | some .eq, line :: first, other :: second =>
          count fun (only, other, both) => (only, other, both + 1)
          plan.emit 3 line
          check 1 line first
          check 2 other second
          plan.compare steps first second
      | some .lt, line :: first, second =>
          count fun (only, other, both) => (only + 1, other, both)
          modify fun state => { state with hasSingles := true }
          plan.emit 1 line
          check 1 line first
          plan.compare steps first second
      | some .gt, first, line :: second =>
          count fun (only, other, both) => (only, other + 1, both)
          modify fun state => { state with hasSingles := true }
          plan.emit 2 line
          check 2 line second
          plan.compare steps first second
      | _, _, _ => return

/-- Shows which lines two sorted files have in common. -/
def comm : Utility := fun given => do
  let arguments ← parseArguments
    (letterOptions "123" ++ [long 'z' "zero-terminated", long 'k' "check-order",
      long 'K' "nocheck-order", long 'd' "output-delimiter" .some, long 't' "total"]) given
  let (firstPath, secondPath) ← pairOfOperands arguments.operands
  let first ← neededInput firstPath 1
  let second ← neededInput secondPath 1
  let separator : Char := if arguments.has 'z' then '\x00' else '\n'
  let delimiter := (arguments.value? 'd').getD ['\t']
  let plan : CommPlan := {
    columns := [1, 2, 3].filter fun column => !arguments.has (Nat.digitChar column)
    separator := if delimiter.isEmpty then ['\x00'] else delimiter
    ending := [separator]
    check := orderCheckOf arguments }
  let (_, state) ← (do
    plan.compare (first.length + second.length + 2) (linesBy separator first)
      (linesBy separator second)
    flushRows : ComparingSteps Unit).run {}
  if arguments.has 't' then
    let (only, other, both) := state.counts
    put (joinWith plan.separator [natRow only, natRow other, natRow both, rowOf "total"]
      ++ plan.ending)
  if state.disordered.isEmpty then return 0
  else fail (rowOf "input is not in sorted order") 1

/-! ## Joining -/

/-- A line in fields. -/
structure JoinLine where
  /-- The number of the line. -/
  number : Nat
  /-- The line. -/
  row : Row
  /-- The fields. -/
  fields : List Row
deriving Inhabited

/-- How lines are joined. -/
structure JoinPlan where
  /-- What separates fields; blanks do if nothing is given. -/
  separator : Option Char
  /-- The indices of the fields that are compared. -/
  keys : Nat × Nat
  /-- The files whose lines are shown even without counterparts. -/
  singles : List Nat
  /-- Are lines with counterparts shown? -/
  showsPairs : Bool
  /-- The fields that are shown: the number of the file, or zero for the compared
  field, and the index. -/
  shown : Option (List (Nat × Nat))
  /-- What stands for fields that are missing. -/
  missing : Row
  /-- Does case not matter? -/
  foldsCase : Bool
  /-- How the order is watched. -/
  check : OrderCheck
  /-- The names of the files. -/
  paths : Row × Row

/-- The lines of a file in fields. -/
def JoinPlan.lines (plan : JoinPlan) (row : Row) : List JoinLine :=
  (rowLines row).zipIdx.map fun (line, index) =>
    { number := index + 1
      row := line
      fields := match plan.separator with
        | some separator => cutAtEach separator line
        | none =>
            wordsOf line ++ (if (line.getLast?.map isSpace).getD false then [[]] else []) }

/-- The field that lines are compared by. -/
def JoinPlan.key (plan : JoinPlan) (file : Nat) (line : JoinLine) : Row :=
  let index := if file = 1 then plan.keys.1 else plan.keys.2
  let key := (line.fields[index]?).getD []
  if plan.foldsCase then key.map Char.toLower else key

/-- A line made of the fields of two others, of which one may be missing. -/
def JoinPlan.joined (plan : JoinPlan) (first second : Option JoinLine) : Row :=
  let field (line : Option JoinLine) (index : Nat) : Row :=
    match line.bind fun line => line.fields[index]? with
    | some field => if field.isEmpty then plan.missing else field
    | none => plan.missing
  let key :=
    match first, second with
    | some line, _ => field (some line) plan.keys.1
    | none, line => field line plan.keys.2
  let others (line : Option JoinLine) (key : Nat) : List Row :=
    match line with
    | none => []
    | some line =>
        (line.fields.zipIdx.filter fun entry => entry.2 != key).map fun entry =>
          if entry.1.isEmpty then plan.missing else entry.1
  let fields :=
    match plan.shown with
    | some shown =>
        shown.map fun (file, index) =>
          if file = 0 then key else field (if file = 1 then first else second) index
    | none => key :: others first plan.keys.1 ++ others second plan.keys.2
  joinWith [plan.separator.getD ' '] fields ++ ['\n']

/-- Joins two lists of lines, in at most so many steps. -/
def JoinPlan.join (plan : JoinPlan) : Nat → List JoinLine → List JoinLine → ComparingSteps Unit
  | 0, _, _ => return
  | steps + 1, first, second => do
      let check (file : Nat) (line : JoinLine) (rest : List JoinLine) : ComparingSteps Unit :=
        match rest with
        | next :: _ =>
            let path := if file = 1 then plan.paths.1 else plan.paths.2
            checkNext plan.check file
              (path ++ ':' :: natRow next.number ++ rowOf ": is not sorted: " ++ next.row)
              (fun first second => compareRows first second == .lt)
              (plan.key file line) [plan.key file next]
        | [] => return
      let single (file : Nat) (line : JoinLine) : ComparingSteps Unit := do
        modify fun state => { state with hasSingles := true }
        if plan.singles.contains file then
          emitRow (if file = 1 then plan.joined (some line) none else plan.joined none (some line))
      let order : Option Ordering :=
        match first, second with
        | [], [] => none
        | _ :: _, [] => some .lt
        | [], _ :: _ => some .gt
        | line :: _, other :: _ => some (compareRows (plan.key 1 line) (plan.key 2 other))
      match order, first, second with
      | some .eq, line :: restOfFirst, other :: restOfSecond =>
          let key := plan.key 1 line
          let alike := first.takeWhile fun line => plan.key 1 line == key
          let others := second.takeWhile fun line => plan.key 2 line == key
          if plan.showsPairs then
            alike.forM fun line => others.forM fun other =>
              emitRow (plan.joined (some line) (some other))
          let afterFirst := first.drop alike.length
          let afterSecond := second.drop others.length
          check 1 ((alike.getLast?).getD line) afterFirst
          check 2 ((others.getLast?).getD other) afterSecond
          if alike.isEmpty then plan.join steps restOfFirst restOfSecond
          else plan.join steps afterFirst afterSecond
      | some .lt, line :: first, second =>
          single 1 line
          check 1 line first
          plan.join steps first second
      | some .gt, first, line :: second =>
          single 2 line
          check 2 line second
          plan.join steps first second
      | _, _, _ => return

/-- The index of a field. -/
def fieldIndex (text : Row) : Tool Nat := do
  match Text.digits? text with
  | some (number + 1) => return number
  | _ => fail (rowOf "invalid field number: " ++ quotedText text) 1

/-- The fields that a list names. -/
def shownFields (text : Row) : Tool (List (Nat × Nat)) := do
  let parts := (cutAtEach ' ' (text.map fun character =>
    if character = ',' || character = '\t' then ' ' else character)).filter (!·.isEmpty)
  parts.mapM fun part => do
    match part with
    | ['0'] => return (0, 0)
    | '1' :: '.' :: digits => return (1, ← fieldIndex digits)
    | '2' :: '.' :: digits => return (2, ← fieldIndex digits)
    | _ => fail (rowOf "invalid file number in field spec: " ++ quotedText part) 1

/-- Joins the lines of two sorted files. -/
def join : Utility := fun given => do
  let arguments ← parseArguments
    (valueOptions "12jtaveo" ++ [long 'i' "ignore-case", long 'h' "header", long 'k' "check-order",
      long 'K' "nocheck-order", long 'z' "zero-terminated"]) given
  let keyOf (letter : Char) : Tool Nat := do
    match (arguments.value? letter).or (arguments.value? 'j') with
    | some text => fieldIndex text
    | none => return 0
  let keys := (← keyOf '1', ← keyOf '2')
  let fileOf (text : Row) : Tool Nat := do
    if text = ['1'] then return 1
    else if text = ['2'] then return 2
    else fail (rowOf "invalid field number: " ++ quotedText text) 1
  let extra ← (arguments.values 'a').mapM fileOf
  let only ← (arguments.values 'v').mapM fileOf
  let separator ←
    match arguments.value? 't' with
    | none => pure none
    | some [] => pure (some '\n')
    | some [character] => pure (some character)
    | some ['\\', '0'] => pure (some '\x00')
    | some text => fail (rowOf "multi-character tab " ++ quotedText text) 1
  let shown ←
    match arguments.value? 'o' with
    | none => pure none
    | some text => if text = rowOf "auto" then pure none else pure (some (← shownFields text))
  let (firstPath, secondPath) ← pairOfOperands arguments.operands
  let plan : JoinPlan := {
    separator, keys, singles := extra ++ only, showsPairs := only.isEmpty, shown
    missing := (arguments.value? 'e').getD []
    foldsCase := arguments.has 'i'
    check := orderCheckOf arguments
    paths := (firstPath, secondPath) }
  let first := plan.lines (← neededInput firstPath 1)
  let second := plan.lines (← neededInput secondPath 1)
  let (first, second) ←
    if arguments.has 'h' then do
      if !(first.isEmpty && second.isEmpty) then
        put (plan.joined first.head? second.head?)
      pure (first.drop 1, second.drop 1)
    else pure (first, second)
  let (_, state) ← (do
    plan.join (first.length + second.length + 2) first second
    flushRows : ComparingSteps Unit).run {}
  if state.disordered.isEmpty then return 0
  else fail (rowOf "input is not in sorted order") 1

/-! ## Bytes -/

/-- The bytes in which two rows differ, with their numbers. -/
def differingBytes : Nat → Row → Row → List (Nat × Char × Char)
  | number, first :: others, second :: rest =>
      if first = second then differingBytes (number + 1) others rest
      else (number, first, second) :: differingBytes (number + 1) others rest
  | _, _, _ => []

/-- A byte as a picture. -/
def pictured (character : Char) : Row :=
  let low (number : Nat) : Row :=
    if number < 32 then ['^', Char.ofNat (number + 64)]
    else if number = 127 then ['^', '?']
    else [Char.ofNat number]
  let number := character.toNat
  if number < 128 then low number else ['M', '-'] ++ low (number - 128)

/-- The octal digits of a byte. -/
def octalRow (character : Char) : Row :=
  Nat.toDigits 8 character.toNat

/-- Compares two files byte by byte. -/
def cmp : Utility := fun given => withReader (fun call => { call with
    usageStatus := 2, hintStart := rowOf "cmp: " }) do
  let arguments ← parseArguments
    [long 'b' "print-bytes", long 'i' "ignore-initial" .some, long 'l' "verbose",
      long 'n' "bytes" .some, long 's' "quiet", long 's' "silent"] given
  let skipOf (text : Row) : Tool Nat := do
    match (countOf? text).map Prod.snd with
    | some count => return count
    | none => usage (rowOf "invalid --ignore-initial value " ++ quotedText text)
  let (first, second, skips) ←
    match arguments.operands with
    | [] => usage (rowOf "missing operand after 'cmp'")
    | [first] => pure (first, ['-'], [])
    | first :: second :: skips => pure (first, second, ← (skips.take 2).mapM skipOf)
  if let some extra := arguments.operands[4]? then
    usage (rowOf "extra operand " ++ quotedText extra)
  let skip ←
    match arguments.value? 'i' with
    | none => pure ((skips[0]?).getD 0, (skips[1]?).getD 0)
    | some text =>
        match cutAtEach ':' text with
        | [first, second] => pure (← skipOf first, ← skipOf second)
        | _ => pure (← skipOf text, ← skipOf text)
  let isQuiet := arguments.has 's'
  let opened (path : Row) : Tool Row := do
    match ← input path with
    | .ok row => return row
    | .error fault =>
        if !isQuiet then warn (path ++ rowOf (": " ++ fault.reason))
        leave 2
  let whole := ((← opened first).drop skip.1, (← opened second).drop skip.2)
  let (row, other) :=
    match (arguments.value? 'n').bind countOf? with
    | some (_, count) => (whole.1.take count, whole.2.take count)
    | none => whole
  let differing := differingBytes 1 row other
  let endMessage : Tool Unit := do
    if row.length ≠ other.length then
      let (short, path) := if row.length < other.length then (row, first) else (other, second)
      if short.isEmpty then warn (rowOf "EOF on " ++ path ++ rowOf " which is empty")
      else
        let line :=
          if arguments.has 'l' then []
          else if endsLine short then rowOf ", line " ++ natRow (short.count '\n')
          else rowOf ", in line " ++ natRow (short.count '\n' + 1)
        warn (rowOf "EOF on " ++ path ++ rowOf " after byte " ++ natRow short.length ++ line)
  if isQuiet then return if row == other then 0 else 1
  else if arguments.has 'l' then
    let width := (natRow (max row.length other.length)).length
    put (joinRows (differing.map fun (number, first, second) =>
      let shown (character : Char) : Row :=
        padLeft 3 (octalRow character)
          ++ (if arguments.has 'b' then ' ' :: padRight 4 (pictured character) else [])
      let line := padLeft width (natRow number) ++ ' ' :: shown first ++ ' ' :: shown second
      (line.reverse.dropWhile (· == ' ')).reverse))
    endMessage
    return if row == other then 0 else 1
  else
    match differing.head? with
    | some (number, character, other) =>
        let line := ((row.take (number - 1)).count '\n') + 1
        let unit := if arguments.has 'b' then "byte " else "char "
        let bytes :=
          if arguments.has 'b' then
            rowOf " is " ++ padLeft 3 (octalRow character) ++ ' ' :: pictured character ++ ' '
              :: padLeft 3 (octalRow other) ++ ' ' :: pictured other
          else []
        putLine (first ++ ' ' :: second ++ rowOf (" differ: " ++ unit) ++ natRow number
          ++ rowOf ", line " ++ natRow line ++ bytes)
        return 1
    | none =>
        endMessage
        return if row == other then 0 else 1

/-! ## Orders from pairs -/

/-- Takes the words that nothing has to come before, in at most so many steps. The
pairs say what comes before what. -/
def orderedWords : Nat → List Row → List (Row × Row) → List Row × List Row
  | 0, words, _ => ([], words)
  | steps + 1, words, pairs =>
      let free := words.filter fun word => !pairs.any fun pair => pair.2 == word
      if free.isEmpty then ([], words)
      else
        let words := words.filter fun word => !free.contains word
        let pairs := pairs.filter fun pair => !free.contains pair.1
        let (ordered, left) := orderedWords steps words pairs
        (free ++ ordered, left)

/-- The pairs of a list. -/
def pairsOf : List Row → List (Row × Row)
  | first :: second :: rest => (first, second) :: pairsOf rest
  | _ => []

/-- Puts words into an order that pairs of them ask for. -/
def tsort : Utility := fun given => do
  let arguments ← parseArguments [] given
  let path := (← singleOperand arguments.operands).getD ['-']
  let words := wordsOf (← neededInput path 1)
  if words.length % 2 = 1 then
    fail (path ++ rowOf ": input contains an odd number of tokens") 1
  let pairs := pairsOf words
  let known := (words.eraseDups).mergeSort fun first second => compareRows first second != .gt
  let (ordered, left) := orderedWords (known.length + 1) known
    (pairs.filter fun pair => pair.1 != pair.2)
  put (joinRows ordered)
  if left.isEmpty then return 0
  else
    warn (path ++ rowOf ": input contains a loop:")
    left.forM warn
    put (joinRows left)
    return 1

end TestAmplification.Shell
