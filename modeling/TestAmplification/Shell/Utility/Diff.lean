import TestAmplification.Shell.Utility.Comparing
import TestAmplification.Shell.Utility.Files.Listing

/-!
# The program `diff`

`diff` tells how the lines of one file become those of another one: which runs of lines
are replaced by which others. As many lines as possible stay as they are. A run that
could lie further down just as well does.
-/

set_option autoImplicit false

namespace TestAmplification.Shell

open Tool

namespace Diff

/-- A run of lines that is replaced by another one. -/
structure Change where
  /-- The lines of the first file before the run. -/
  first : Nat
  /-- The length of the run in the first file. -/
  removed : Nat
  /-- The lines of the second file before the run. -/
  second : Nat
  /-- The length of the run in the second file. -/
  added : Nat
deriving DecidableEq, Inhabited

/-- The lines of a row, with their line feeds. -/
def lines (row : Row) : List Row :=
  records ['\n'] false row

/-- For a line and the lengths of the longest common parts of what follows it and the
ends of the other lines, the lengths with the line itself. -/
def extendLengths (line : Row) : List Row → List Nat → List Nat
  | [], lengths => lengths
  | other :: others, lengths =>
      let rest := extendLengths line others (lengths.drop 1)
      let here :=
        if line == other then ((lengths[1]?).getD 0) + 1
        else max (lengths.head?.getD 0) (rest.head?.getD 0)
      here :: rest

/-- The lengths of the longest common parts of the ends of two lists, one row for each
end of the first list. -/
def commonLengths (others : List Row) : List Row → List (List Nat)
  | [] => [List.replicate (others.length + 1) 0]
  | line :: rest =>
      let table := commonLengths others rest
      extendLengths line others (table.head?.getD []) :: table

/-- The changes that make one list of lines another one, from the given numbers of
lines on, along a table of common lengths. The present change comes with its lengths. -/
def follow : Nat → List (List Nat) → List Row → List Row → Change → List Change
  | 0, _, _, _, change => [change]
  | steps + 1, table, first, second, change =>
      let closed (others : List Change) : List Change :=
        if change.removed = 0 && change.added = 0 then others else change :: others
      match first, second with
      | line :: first', other :: second' =>
          if line == other then
            closed (follow steps ((table.drop 1).map (List.drop 1)) first' second'
              ⟨change.first + change.removed + 1, 0, change.second + change.added + 1, 0⟩)
          else
            let down := ((table[1]?).bind List.head?).getD 0
            let right := ((table.head?).bind fun row => row[1]?).getD 0
            if down ≥ right then
              follow steps (table.drop 1) first' second { change with removed := change.removed + 1 }
            else
              follow steps (table.map (List.drop 1)) first second'
                { change with added := change.added + 1 }
      | _, _ =>
          let change := { change with
            removed := change.removed + first.length, added := change.added + second.length }
          if change.removed = 0 && change.added = 0 then [] else [change]

/-- A run moved down as long as it makes no difference, but not beyond a line, in at
most so many steps. -/
def slide (first second : Array Row) (limit : Nat) : Nat → Change → Change
  | 0, change => change
  | steps + 1, change =>
      let moved := { change with first := change.first + 1, second := change.second + 1 }
      if change.first + change.removed ≥ limit then change
      else if change.added = 0
          && first[change.first]? == first[change.first + change.removed]? then
        slide first second limit steps moved
      else if change.removed = 0
          && second[change.second]? == second[change.second + change.added]? then
        slide first second limit steps moved
      else change

/-- Changes moved down as far as it makes no difference. -/
def slideAll (first second : Array Row) : List Change → List Change
  | [] => []
  | change :: rest =>
      let limit := (rest.head?.map fun next => next.first - 1).getD first.size
      slide first second limit first.size change :: slideAll first second rest

/-- The number of pairs of lines that are compared. -/
def comparedPairs (first second : List Row) : Nat :=
  let before := ((first.zip second).takeWhile fun (line, other) => line == other).length
  (first.length - before) * (second.length - before)

/-- The changes that make one list of lines another one. -/
def changes (first second : List Row) : List Change :=
  let before := ((first.zip second).takeWhile fun (line, other) => line == other).length
  let restOfFirst := first.drop before
  let restOfSecond := second.drop before
  let after := ((restOfFirst.reverse.zip restOfSecond.reverse).takeWhile
    fun (line, other) => line == other).length
  let middle := restOfFirst.take (restOfFirst.length - after)
  let otherMiddle := restOfSecond.take (restOfSecond.length - after)
  let found := follow (middle.length + otherMiddle.length + 1) (commonLengths otherMiddle middle)
    middle otherMiddle ⟨before, 0, before, 0⟩
  slideAll first.toArray second.toArray found

/-! ## Writing -/

/-- A line behind a mark. What does not end in a line feed is told. -/
def marked (mark : Row) (line : Row) : Row :=
  mark ++ (if line.getLast? == some '\n' then line
    else line ++ rowOf "\n\\ No newline at end of file\n")

/-- The lines of a run. -/
def run (lines : List Row) (start length : Nat) : List Row :=
  (lines.drop start).take length

/-- The numbers of the lines of a run, with a comma between the first and the last. -/
def runNumbers (start length : Nat) : Row :=
  if length = 0 then natRow start
  else if length = 1 then natRow (start + 1)
  else natRow (start + 1) ++ ',' :: natRow (start + length)

/-- Changes in the plain way. -/
def plain (first second : List Row) (changes : List Change) : Row :=
  changes.flatMap fun change =>
    let letter := if change.removed = 0 then 'a' else if change.added = 0 then 'd' else 'c'
    runNumbers change.first change.removed ++ letter :: runNumbers change.second change.added ++ ['\n']
      ++ (run first change.first change.removed).flatMap (marked ['<', ' '])
      ++ (if letter = 'c' then rowOf "---\n" else [])
      ++ (run second change.second change.added).flatMap (marked ['>', ' '])

/-- Changes in groups, where there are at most so many lines between neighbours. -/
def grouped (gap : Nat) (changes : List Change) : List (List Change) :=
  changes.splitBy fun change next => next.first - (change.first + change.removed) ≤ gap

/-- A group of changes with the lines around it: the number of lines before it and its
length, in both files. -/
def around (context : Nat) (first second : List Row) (group : List Change) :
    (Nat × Nat) × (Nat × Nat) :=
  let head := group.head?.getD default
  let last := group.getLast?.getD default
  let before := min context head.first
  let after := min context (first.length - (last.first + last.removed))
  let start := head.first - before
  let otherStart := head.second - min before head.second
  ((start, last.first + last.removed + after - start),
    (otherStart, min second.length (last.second + last.added + after) - otherStart))

/-- Numbers of lines in the unified way. -/
def unifiedNumbers (start length : Nat) : Row :=
  if length = 1 then natRow (start + 1)
  else natRow (if length = 0 then start else start + 1) ++ ',' :: natRow length

/-- Changes in the unified way. -/
def unified (context : Nat) (first second : List Row) (changes : List Change) : Row :=
  (grouped (2 * context) changes).flatMap fun group =>
    let ((start, length), (otherStart, otherLength)) := around context first second group
    let (body, position) := group.foldl (fun (body, position) change =>
      (body ++ (run first position (change.first - position)).flatMap (marked [' '])
        ++ (run first change.first change.removed).flatMap (marked ['-'])
        ++ (run second change.second change.added).flatMap (marked ['+']),
        change.first + change.removed)) ([], start)
    rowOf "@@ -" ++ unifiedNumbers start length ++ rowOf " +"
      ++ unifiedNumbers otherStart otherLength ++ rowOf " @@\n" ++ body
      ++ (run first position (start + length - position)).flatMap (marked [' '])

/-- One side of a group with the lines around it. -/
def contextSide (lines : List Row) (start length : Nat) (mark : Char)
    (runs : List (Nat × Nat × Bool)) : Row :=
  let (body, position) := runs.foldl (fun (body, position) (begins, count, isReplaced) =>
    (body ++ (run lines position (begins - position)).flatMap (marked [' ', ' '])
      ++ (run lines begins count).flatMap (marked [if isReplaced then '!' else mark, ' ']),
      begins + count)) ([], start)
  body ++ (run lines position (start + length - position)).flatMap (marked [' ', ' '])

/-- Changes with the lines around them. -/
def inContext (context : Nat) (first second : List Row) (changes : List Change) : Row :=
  (grouped (2 * context) changes).flatMap fun group =>
    let ((start, length), (otherStart, otherLength)) := around context first second group
    let numbers (start length : Nat) : Row :=
      if length ≤ 1 then natRow (start + length) else natRow (start + 1) ++ ',' :: natRow (start + length)
    let isReplaced (change : Change) : Bool := change.removed > 0 && change.added > 0
    let old :=
      if group.any fun change => change.removed > 0 then
        contextSide first start length '-'
          (group.map fun change => (change.first, change.removed, isReplaced change))
      else []
    let new :=
      if group.any fun change => change.added > 0 then
        contextSide second otherStart otherLength '+'
          (group.map fun change => (change.second, change.added, isReplaced change))
      else []
    rowOf "***************\n*** " ++ numbers start length ++ rowOf " ****\n" ++ old
      ++ rowOf "--- " ++ numbers otherStart otherLength ++ rowOf " ----\n" ++ new

/-! ## Files and directories -/

/-- A line as far as it counts. -/
def countedLine (arguments : Arguments) (line : Row) : Row :=
  let body := if line.getLast? == some '\n' then line.dropLast else line
  let ending := if line.getLast? == some '\n' then ['\n'] else []
  let body := if arguments.has 'i' then body.map Char.toLower else body
  if arguments.has 'w' then body.filter fun character => !isSpace character
  else if arguments.has 'b' then
    let trimmed := (body.reverse.dropWhile isSpace).reverse
    ((trimmed.splitBy fun first second => isSpace first == isSpace second).flatMap fun run =>
      if (run.head?.map isSpace).getD false then [' '] else run)
  else body ++ ending

/-- The number of lines around changes that options ask for. -/
def contextOf (arguments : Arguments) : Nat :=
  match arguments.last? ['u', 'U', 'c', 'C'] with
  | some letter => ((arguments.value? letter).bind Text.digits?).getD 3
  | none => 3

/-- The head lines about two files. -/
def headLines (arguments : Arguments) (marks : Row × Row) (disk : Disk) (paths : Row × Row) : Row :=
  let labels := arguments.values 'L'
  let head (index : Nat) (mark path : Row) : Row :=
    let name :=
      match labels[index]? with
      | some label => label
      | none =>
          let changed := ((statusOfPath disk (textOf path)).toOption.map PathStatus.changed).getD disk.clock
          path ++ '\t' :: formattedMoment changed (rowOf "%Y-%m-%d %H:%M:%S.%N %z")
    mark ++ ' ' :: name ++ ['\n']
  head 0 marks.1 paths.1 ++ head 1 marks.2 paths.2

/-- Tells how two texts differ. -/
def compareTexts (arguments : Arguments) (head : Row) (paths : Row × Row) (row other : Row) :
    Tool Nat := do
  if row == other then
    if arguments.has 's' then
      putLine (rowOf "Files " ++ paths.1 ++ rowOf " and " ++ paths.2 ++ rowOf " are identical")
    return 0
  let isBinary := (row ++ other).contains '\x00' && !arguments.has 'a'
  let first := lines row
  let second := lines other
  Act.work (2 * comparedPairs first second)
  let found := changes (first.map (countedLine arguments)) (second.map (countedLine arguments))
  let isBlank (change : Change) : Bool :=
    (run first change.first change.removed ++ run second change.second change.added).all (· == ['\n'])
  let found := if arguments.has 'B' then found.filter fun change => !isBlank change else found
  if found.isEmpty then return 0
  if arguments.has 'q' then
    putLine (rowOf "Files " ++ paths.1 ++ rowOf " and " ++ paths.2 ++ rowOf " differ")
    return 1
  if isBinary then
    putLine (rowOf "Binary files " ++ paths.1 ++ rowOf " and " ++ paths.2 ++ rowOf " differ")
    return 1
  put head
  let disk ← disk
  match arguments.last? ['u', 'U', 'c', 'C', 'n'] with
  | some 'u' | some 'U' =>
      put (headLines arguments (rowOf "---", rowOf "+++") disk paths)
      put (unified (contextOf arguments) first second found)
  | some 'c' | some 'C' =>
      put (headLines arguments (rowOf "***", rowOf "---") disk paths)
      put (inContext (contextOf arguments) first second found)
  | _ => put (plain first second found)
  return 1

/-- Tells how two files differ. -/
def compareFiles (arguments : Arguments) (head : Row) (paths : Row × Row) : Tool Nat := do
  let read (path : Row) : Tool (Option Row) := do
    match ← input path with
    | .ok row => return some row
    | .error fault =>
        if arguments.has 'N' && path != ['-'] then return some []
        warn (path ++ rowOf (": " ++ fault.reason))
        return none
  let row ← read paths.1
  let other ← read paths.2
  match row, other with
  | some row, some other => compareTexts arguments head paths row other
  | _, _ => return 2

/-- Tells how two directories differ, at most so many levels deep. -/
def compareDirectories (arguments : Arguments) (options : Row) : Nat → Row × Row → Tool Nat
  | 0, _ => return 2
  | levels + 1, (first, second) => do
      let disk ← disk
      let isHidden (name : Row) : Bool :=
        (arguments.values 'x').any fun pattern => matchesPattern (pattern.map (·, false)) name
      let namesOf (path : Row) : List Row :=
        (((disk.namesIn? (textOf path)).getD []).map rowOf).filter fun name => !isHidden name
      let names := ((namesOf first ++ namesOf second).eraseDups).mergeSort
        fun first second => compareRows first second != .gt
      worst (fun name => do
        let path := first ++ '/' :: name
        let other := second ++ '/' :: name
        let isThere (path : Row) : Bool := disk.isThere (textOf path)
        let only (directory : Row) : Tool Nat := do
          putLine (rowOf "Only in " ++ directory ++ rowOf ": " ++ name)
          return 1
        if !isThere other && !arguments.has 'N' then only first
        else if !isThere path && !arguments.has 'N' then only second
        else
          match disk.isDirectory (textOf path), disk.isDirectory (textOf other) with
          | true, true =>
              if arguments.has 'r' then compareDirectories arguments options levels (path, other)
              else
                putLine (rowOf "Common subdirectories: " ++ path ++ rowOf " and " ++ other)
                return 0
          | false, false =>
              compareFiles arguments
                (rowOf "diff" ++ options ++ ' ' :: path ++ ' ' :: other ++ ['\n']) (path, other)
          | isDirectory, _ =>
              let (kind, otherKind) :=
                if isDirectory then ("directory", "regular file") else ("regular file", "directory")
              putLine (rowOf "File " ++ path ++ rowOf (" is a " ++ kind ++ " while file ") ++ other
                ++ rowOf (" is a " ++ otherKind))
              return 1) names

end Diff

/-- Tells how files differ. -/
def diff : Utility := fun given => withReader (fun call => { call with
    usageStatus := 2, hintStart := rowOf "diff: " }) do
  let arguments ← parseArguments
    (letterOptions "qsruciwbBaNenytdlTEpZ" ++
    [long 'q' "brief", long 's' "report-identical-files", long 'r' "recursive", long 'u' "",
      long 'U' "unified" .some, long 'C' "context" .some, long 'i' "ignore-case",
      long 'w' "ignore-all-space", long 'b' "ignore-space-change", long 'B' "ignore-blank-lines",
      long 'a' "text", long 'N' "new-file", long 'L' "label" .some, long 'x' "exclude" .some,
      long 'W' "width" .some, long 'I' "ignore-matching-lines" .some, long '=' "normal",
      long '*' "color" .maybe, long 'Z' "strip-trailing-cr"]) given
  let (first, second) ←
    match arguments.operands with
    | [] => usage (rowOf "missing operand after 'diff'")
    | [first] => usage (rowOf "missing operand after " ++ quotedText first)
    | [first, second] => pure (first, second)
    | _ :: _ :: extra :: _ => usage (rowOf "extra operand " ++ quotedText extra)
  let disk ← disk
  let isDirectory (path : Row) : Bool := path != ['-'] && disk.isDirectory (textOf path)
  let options := (given.filter fun argument =>
    argument.head? == some '-' && argument.length > 1).flatMap fun argument => ' ' :: argument
  match isDirectory first, isDirectory second with
  | true, true => Diff.compareDirectories arguments options 200 (first, second)
  | true, false =>
      Diff.compareFiles arguments [] (first ++ '/' :: baseNameOf second, second)
  | false, true =>
      Diff.compareFiles arguments [] (first, second ++ '/' :: baseNameOf first)
  | false, false => Diff.compareFiles arguments [] (first, second)
where
  /-- The last name of a path. -/
  baseNameOf (path : Row) : Row := (path.reverse.takeWhile (· != '/')).reverse

end TestAmplification.Shell
