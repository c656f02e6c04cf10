import TestAmplification.Shell.Utility.Files.Making
import TestAmplification.Shell.Script.Pattern
import TestAmplification.Shell.Utility.Escape
import TestAmplification.Shell.Utility.Sort

/-!
# Listing files

A listing shows files and the names in directories in an order, one below the other or
in columns, with as much about each as is asked for.
-/

set_option autoImplicit false

namespace TestAmplification.Shell

open Tool

/-- An entry of a listing: the name that is shown, and what it leads to. -/
structure ListedEntry where
  /-- The name. -/
  name : Row
  /-- The path. -/
  path : Row
  /-- What the path leads to. -/
  status : PathStatus

/-- The letter for what something is, in front of its mode. -/
def PathKind.modeLetter : PathKind → Char
  | .directory => 'd'
  | .file => '-'
  | .link => 'l'
  | .pipe => 'p'
  | .device => 'c'

/-- The letter for what something is, by itself. -/
def PathKind.typeLetter : PathKind → Char
  | .file => 'f'
  | kind => kind.modeLetter

/-- The letters for what something is and who may do what with it. -/
def PathStatus.letters (status : PathStatus) : Row :=
  status.kind.modeLetter :: modeLetters status.mode

/-- A number that files share exactly when they are one file under several names. -/
def fileNumber (disk : Disk) (place : Place) : Nat :=
  let first := ((disk.shared.find? (·.contains place)).bind List.head?).getD place
  ("/".intercalate first).toList.foldl (fun number character => (number * 131 + character.toNat) % 9999991) 7 + 1000

/-- The mark behind the name of something in a listing. -/
def kindMark (arguments : Arguments) (status : PathStatus) : Row :=
  let style := arguments.value? ';'
  let isStyle (word : String) : Bool := style = some (rowOf word)
  let marksAll := arguments.has 'F' || isStyle "classify"
  let marksKinds := marksAll || arguments.has '!' || isStyle "file-type"
  match status.kind with
  | .directory => if marksKinds || arguments.has 'p' || isStyle "slash" then ['/'] else []
  | .file => if marksAll && Disk.modeRuns status.mode then ['*'] else []
  | .link => if marksKinds then ['@'] else []
  | .pipe => if marksKinds then ['|'] else []
  | .device => []

/-- A name as a listing shows it. -/
def shownName (arguments : Arguments) (entry : ListedEntry) : Row :=
  let name :=
    if arguments.has 'Q' then ['"'] ++ entry.name.flatMap (fun character =>
        if character = '"' || character = '\\' then ['\\', character] else [character]) ++ ['"']
    else entry.name
  name ++ kindMark arguments entry.status

/-- Blocks of 1024 bytes that something takes. -/
def blockCount (status : PathStatus) : Nat :=
  if status.kind = .link then 0 else (status.size + 4095) / 4096 * 4

/-- A size with a letter for its unit. -/
def shortSize (size : Nat) : Row :=
  let units := ['K', 'M', 'G', 'T']
  if size < 1024 then natRow size
  else
    let index := (Nat.log2 size / 10) - 1
    let unit := powerOf 1024 (index + 1)
    let tenths := (size * 10 + unit - 1) / unit
    (if tenths < 100 then natRow (tenths / 10) ++ ['.'] ++ natRow (tenths % 10)
      else natRow ((size + unit - 1) / unit)) ++ [(units[index]?).getD 'T']

/-- The fields of a long line about an entry. -/
def longFields (arguments : Arguments) (disk : Disk) (entry : ListedEntry) : List Row :=
  let has := arguments.has
  let status := entry.status
  let person := if has 'n' then ['0'] else rowOf "root"
  let moment := status.changed
  let style :=
    match arguments.value? '%' with
    | some ('+' :: format) => format
    | some style =>
        if style = rowOf "full-iso" then rowOf "%Y-%m-%d %H:%M:%S.%N %z"
        else if style = rowOf "long-iso" then rowOf "%Y-%m-%d %H:%M"
        else rowOf "%b %e %H:%M"
    | none =>
        if has '&' then rowOf "%Y-%m-%d %H:%M:%S.%N %z"
        else if disk.clock - moment > 15778476 * secondLength then rowOf "%b %e  %Y"
        else rowOf "%b %e %H:%M"
  [status.letters, natRow status.names]
    ++ (if has 'g' then [] else [person])
    ++ (if has 'o' || has 'G' then [] else [person])
    ++ [if has 'h' then shortSize status.size else natRow status.size]
    ++ [formattedMoment moment style]

/-- Fields below each other, filled up to common widths. The numbers stand on the
right. -/
def alignedFields (lines : List (List Row)) : List Row :=
  let widths := lines.foldl (fun widths fields =>
    fields.zipIdx.map fun (field, index) => max field.length ((widths[index]?).getD 0)) []
  lines.map fun fields =>
    joinWith [' '] (fields.zipIdx.map fun (field, index) =>
      let width := (widths[index]?).getD 0
      if (field.head?.map Char.isDigit).getD false then padLeft width field
      else if index + 1 = fields.length then field
      else padRight width field)

/-- Cells in columns, as many as there is room for. -/
def inColumns (isAcross : Bool) (width : Nat) (cells : List Row) : List Row :=
  let count := cells.length
  let arranged (columns : Nat) : List (List Row) :=
    let rows := (count + columns - 1) / max 1 columns
    (List.range rows).map fun row =>
      (List.range columns).filterMap fun column =>
        cells[if isAcross then row * columns + column else column * rows + row]?
  let widthsOf (lines : List (List Row)) : List Nat :=
    lines.foldl (fun widths cells =>
      (List.range (max widths.length cells.length)).map fun index =>
        max ((widths[index]?).getD 0) (((cells[index]?).map List.length).getD 0)) []
  let fits (columns : Nat) : Bool :=
    let widths := widthsOf (arranged columns)
    widths.foldl (· + ·) 0 + 2 * (widths.length - 1) < width
  let columns := ((List.range (count + 1)).reverse.find? fun columns => columns > 0 && fits columns)
    |>.getD 1
  let lines := arranged columns
  let widths := widthsOf lines
  lines.map fun line =>
    (line.zipIdx.map fun (cell, index) =>
      if index + 1 = line.length then cell else padRight ((widths[index]?).getD 0 + 2) cell).flatten

/-- The name of an entry as a long line shows it, with the path of a link. -/
def longName (arguments : Arguments) (disk : Disk) (entry : ListedEntry) : Row :=
  if entry.status.isLink then
    let mark := ((statusOfPath disk (textOf entry.path)).toOption.map (kindMark arguments)).getD []
    shownName {} entry ++ rowOf " -> " ++ rowOf entry.status.target ++ mark
  else shownName arguments entry

/-- Are entries listed in long lines? -/
def isLongListing (arguments : Arguments) : Bool :=
  match arguments.last? ['l', 'n', 'g', 'o', '&', '1', 'C', 'x', 'm'] with
  | none | some 'C' | some 'x' | some 'm' => false
  | some _ => ['l', 'n', 'g', 'o', '&'].any arguments.has

/-- The lines for entries. -/
def listedLines (arguments : Arguments) (disk : Disk) (entries : List ListedEntry) : List Row :=
  let names := entries.map fun entry =>
    if isLongListing arguments then longName arguments disk entry else shownName arguments entry
  let numbered (column : ListedEntry → Nat) (names : List Row) : List Row :=
    let counts := entries.map fun entry => natRow (column entry)
    let width := (counts.map List.length).foldl max 0
    (counts.zip names).map fun (count, name) => padLeft width count ++ ' ' :: name
  let lines :=
    if isLongListing arguments then
      ((alignedFields (entries.map (longFields arguments disk))).zip names).map fun (line, name) =>
        line ++ ' ' :: name
    else names
  let lines := if arguments.has 's' then numbered (blockCount ·.status) lines else lines
  let lines :=
    if arguments.has 'i' then numbered (fun entry => fileNumber disk entry.status.place) lines
    else lines
  match arguments.last? ['l', 'n', 'g', 'o', '&', '1', 'C', 'x', 'm'] with
  | some 'C' => inColumns false 80 lines
  | some 'x' => inColumns true 80 lines
  | some 'm' => if lines.isEmpty then [] else [joinWith [',', ' '] lines]
  | _ => lines

/-- Entries in the order that is asked for. -/
def orderedEntries (arguments : Arguments) (entries : List ListedEntry) : List ListedEntry :=
  let byName (first second : ListedEntry) : Ordering := compareRows first.name second.name
  let order : Char :=
    match arguments.value? '$' with
    | some word =>
        if word = rowOf "size" then 'S' else if word = rowOf "time" then 't'
        else if word = rowOf "none" then 'U' else if word = rowOf "extension" then 'X'
        else if word = rowOf "version" then 'v' else 'a'
    | none => (arguments.last? ['S', 't', 'U', 'X', 'v', 'f']).getD 'a'
  let ending (entry : ListedEntry) : Row :=
    if entry.name.contains '.' then (entry.name.reverse.takeWhile (· != '.')).reverse else []
  let compare (first second : ListedEntry) : Ordering :=
    match order with
    | 'S' => (Ord.compare second.status.size first.status.size).then (byName first second)
    | 't' => (Ord.compare second.status.tick first.status.tick).then (byName first second)
    | 'X' => (compareRows (ending first) (ending second)).then (byName first second)
    | 'v' => (compareVersions first.name second.name).then (byName first second)
    | _ => byName first second
  let sorted :=
    if order = 'U' || order = 'f' then entries
    else entries.mergeSort fun first second => compare first second != .gt
  let sorted := if arguments.has 'r' then sorted.reverse else sorted
  if arguments.has '<' then
    let (directories, others) := sorted.partition fun entry => entry.status.isDirectory
    directories ++ others
  else sorted

/-- The entries in a directory that are to be shown. -/
def entriesIn (arguments : Arguments) (disk : Disk) (path : Row) : List ListedEntry :=
  let isHidden (name : Row) : Bool :=
    (arguments.values 'I' ++ arguments.values 'Y').any fun pattern =>
      matchesPattern (pattern.map (·, false)) name
  let showsAll := arguments.has 'a' || arguments.has 'f'
  let names := ((disk.namesIn? (textOf path)).getD []).map rowOf
  let names := names.filter fun name =>
    (showsAll || arguments.has 'A' || name.head? != some '.') && !isHidden name
      && !(arguments.has 'B' && name.getLast? == some '~')
  let names := if showsAll then ['.'] :: ['.', '.'] :: names else names
  names.filterMap fun name =>
    let path := if path.getLast? == some '/' then path ++ name else path ++ '/' :: name
    let self := (statusOfSelf disk (textOf path)).toOption
    let status :=
      if arguments.has 'L' then (statusOfPath disk (textOf path)).toOption.or self else self
    status.map fun status => { name, path, status }

/-- The listings of a directory and, if wanted, of those in it, at most so many levels
deep. -/
def directoryListings (arguments : Arguments) (disk : Disk) : Nat → Row → List (Row × List Row)
  | 0, _ => []
  | levels + 1, path =>
      let entries := orderedEntries arguments (entriesIn arguments disk path)
      let total := (entries.map fun entry => blockCount entry.status).foldl (· + ·) 0
      let isLong := ['l', 'n', 'g', 'o', '&', 's'].any arguments.has
      let lines := (if isLong then [rowOf "total " ++ natRow total] else [])
        ++ listedLines arguments disk entries
      let inner :=
        if arguments.has 'R' then
          (entries.filter fun entry =>
            entry.status.isDirectory && !([['.'], ['.', '.']].contains entry.name)).flatMap
            fun entry => directoryListings arguments disk levels entry.path
        else []
      (path, lines) :: inner

/-- Lists files and directories. -/
def ls : Utility := fun given => withReader (fun call => { call with usageStatus := 2 }) do
  let arguments ← parseArguments
    (letterOptions "lgofmtuc1CxSUXvkLNqbi" ++
    [long 'a' "all", long 'A' "almost-all", long 'd' "directory", long 'R' "recursive",
      long 'r' "reverse", long 'F' "", long 'F' "classify" .maybe, long 'p' "", long 'h' "human-readable",
      long 's' "size", long 'n' "numeric-uid-gid", long 'G' "no-group", long 'B' "ignore-backups",
      long 'Q' "quote-name", long 'I' "ignore" .some, long 'H' "", long 'Y' "hide" .some, long 'w' "width" .some,
      long 'T' "tabsize" .some, long '*' "color" .maybe, long '%' "time-style" .some,
      long '&' "full-time", long '$' "sort" .some, long '<' "group-directories-first",
      long '!' "file-type", long ';' "indicator-style" .some, long '@' "format" .some,
      long ':' "time" .some]) given
  let disk ← disk
  let paths := if arguments.operands.isEmpty then [['.']] else arguments.operands
  let isPlain := !isLongListing arguments && !arguments.has 'd' && !arguments.has 'F'
  let statusOf (path : Row) : Except FileFault PathStatus :=
    let self := statusOfSelf disk (textOf path)
    match statusOfPath disk (textOf path) with
    | .ok status =>
        if arguments.has 'L' || arguments.has 'H' || isPlain && status.isDirectory then .ok status
        else self
    | .error fault => if arguments.has 'L' || arguments.has 'H' then .error fault else self
  let (entries, status) ← paths.foldlM (fun (entries, status) path => do
    match statusOf path with
    | .ok found => return (({ name := path, path, status := found } : ListedEntry) :: entries, status)
    | .error fault =>
        warnPath "cannot access " path fault
        return (entries, 2)) (([] : List ListedEntry), 0)
  let entries := orderedEntries arguments entries.reverse
  let (directories, files) := entries.partition fun entry =>
    entry.status.isDirectory && !arguments.has 'd'
  let listings := directories.flatMap fun entry =>
    directoryListings arguments disk 200 entry.path
  let showsNames := paths.length > 1 || arguments.has 'R'
  let shownFiles := joinRows (listedLines arguments disk files)
  let shown := listings.map fun (path, lines) =>
    (if showsNames then path ++ [':', '\n'] else []) ++ joinRows lines
  put (joinWith ['\n'] ((if files.isEmpty then [] else [shownFiles]) ++ shown))
  return status

/-! ## Details -/

/-- A detail of a file, named by a letter. -/
def detail? (disk : Disk) (path : Row) (status : PathStatus) (letter : Char) : Option Row :=
  let moment := status.changed
  let mode := status.mode
  let kindBits := match status.kind with
    | .directory => 0o040000
    | .file => 0o100000
    | .device => 0o020000
    | .link => 0o120000
    | .pipe => 0o010000
  let alwaysQuoted (row : Row) : Row :=
    let shown := quotedIfNeeded row
    if shown == row then quoted row else shown
  match letter with
  | 'n' => some path
  | 'N' =>
      some (alwaysQuoted path
        ++ (if status.isLink then rowOf " -> " ++ alwaysQuoted (rowOf status.target) else []))
  | 's' => some (natRow status.size)
  | 'a' => some (modeDigits mode)
  | 'A' => some status.letters
  | 'F' => some (rowOf status.inWords)
  | 'f' => some (Nat.toDigits 16 (kindBits + mode))
  | 'U' | 'G' => some (rowOf "root")
  | 'u' | 'g' | 't' | 'T' => some ['0']
  | 'h' => some (natRow status.names)
  | 'b' => some (natRow (2 * blockCount status))
  | 'B' => some (rowOf "512")
  | 'o' => some (rowOf "4096")
  | 'X' | 'Y' | 'Z' => some (intRow (moment.fdiv secondLength))
  | 'x' | 'y' | 'z' => some (formattedMoment moment (rowOf "%Y-%m-%d %H:%M:%S.%N %z"))
  | 'w' => some ['-']
  | 'W' => some ['0']
  | 'i' => some (natRow (fileNumber disk status.place))
  | 'd' | 'D' => some ['1']
  | 'm' => some ['/']
  | _ => none

/-- The details that a format asks for. -/
def formattedDetails (disk : Disk) (path : Row) (status : PathStatus) : Nat → Row → Row
  | 0, _ => []
  | _ + 1, [] => []
  | steps + 1, '%' :: rest =>
      let flags := rest.takeWhile fun flag => ['-', '0', '+', ' ', '#', '\''].contains flag
      let afterFlags := rest.drop flags.length
      let digits := afterFlags.takeWhile Char.isDigit
      let width := (Text.digits? digits).getD 0
      match afterFlags.drop digits.length with
      | [] => ['%']
      | '%' :: more => '%' :: formattedDetails disk path status steps more
      | letter :: more =>
          let shown := (detail? disk path status letter).getD ['?']
          let filled :=
            if flags.contains '-' then padRight width shown
            else if flags.contains '0' then padZeros width shown
            else padLeft width shown
          filled ++ formattedDetails disk path status steps more
  | steps + 1, character :: rest => character :: formattedDetails disk path status steps rest

/-- Shows details of files. -/
def stat : Utility := fun given => do
  let arguments ← parseArguments
    [long 'c' "format" .some, long 'p' "printf" .some, long 'L' "dereference", long 't' "terse",
      long 'f' "file-system"] given
  if arguments.operands.isEmpty then usage (rowOf "missing operand")
  let disk ← disk
  worst (fun path => do
    let found :=
      if arguments.has 'L' then statusOfPath disk (textOf path) else statusOfSelf disk (textOf path)
    match found with
    | .error fault =>
        if arguments.has 'f' then
          warnPath "cannot read file system information for " path fault
        else warnPath "cannot statx " path fault
        return 1
    | .ok status =>
        match arguments.last? ['c', 'p'] with
        | some 'c' =>
            let format := (arguments.value? 'c').getD []
            putLine (formattedDetails disk path status (format.length + 1) format)
        | some _ =>
            let rule : EscapeRule := { hasHexadecimal := true }
            let (format, _) := unescape rule ((arguments.value? 'p').getD [])
            put (formattedDetails disk path status (format.length + 1) format)
        | none =>
            let arrow := if status.isLink then " -> " ++ status.target else ""
            let format := rowOf ("  File: %n" ++ arrow ++ "\n  Size: %-10s\tBlocks: %-10b IO Block: %-6o %F\n"
              ++ "Device: 0,1\tInode: %-10i  Links: %h\n"
              ++ "Access: (%04a/%A)  Uid: (    0/    root)   Gid: (    0/    root)\n"
              ++ "Access: %x\nModify: %y\nChange: %z\n Birth: %w\n")
            put (formattedDetails disk path status (format.length + 1) format)
        return 0) arguments.operands

end TestAmplification.Shell
