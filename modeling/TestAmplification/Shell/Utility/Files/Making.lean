import TestAmplification.Shell.Utility.Calendar
import TestAmplification.Shell.Utility.Decimal
import TestAmplification.Shell.Utility.Files.Modes
import TestAmplification.Shell.Utility.Passing

/-!
# Making and removing files

Directories and files are made, stamped with a moment, cut to a size and removed.
What somebody has open goes on without the disk when it is removed.
-/

set_option autoImplicit false

namespace TestAmplification.Shell

open Tool

/-- Says why something cannot be done to a path. -/
def warnPath (deed : String) (path : Row) (fault : FileFault) : Tool Unit :=
  warn (rowOf deed ++ quoted path ++ rowOf (": " ++ fault.reason))

/-- Takes a step, or says why that cannot be done. -/
def attempting (complain : FileFault → Tool Unit) (step : Act (Except FileFault Unit)) :
    Tool Nat := do
  match ← step with
  | .ok () => return 0
  | .error fault =>
      complain fault
      return 1

/-! ## Directories -/

/-- The starts of a path that end before a slash, and the path. -/
def startsOf (path : Row) : List Row :=
  let bare := (path.reverse.dropWhile (· == '/')).reverse
  let inner := (List.range bare.length).filterMap fun index =>
    if index > 0 && bare[index]? == some '/' && bare[index - 1]? != some '/' then
      some (bare.take index)
    else none
  inner ++ [path]

/-- Makes a directory and those above it that are missing. -/
def makeWithStarts (tell : Row → Tool Unit) (mode : Option Nat) : List Row → Tool Nat
  | [] => return 0
  | path :: rest => do
      if (← disk).isDirectory (textOf path) then makeWithStarts tell mode rest
      else
        match ← Act.makeDirectory (textOf path) Act.directoryMode with
        | .ok () =>
            tell path
            if rest.isEmpty then mode.forM (setMode path)
            makeWithStarts tell mode rest
        | .error fault =>
            let fault := if fault = .alreadyExists && !rest.isEmpty then .notADirectory else fault
            warn (rowOf "cannot create directory " ++ quotedText path ++ rowOf (": " ++ fault.reason))
            return 1

/-- Makes directories. -/
def mkdir : Utility := fun given => do
  let arguments ← parseArguments
    [long 'p' "parents", long 'm' "mode" .some, long 'v' "verbose", long 'Z' "context" .maybe] given
  if arguments.operands.isEmpty then usage (rowOf "missing operand")
  let mode ← (arguments.value? 'm').mapM fun text => do
    if !isModeText text then fail (rowOf "invalid mode " ++ quotedText text) 1
    return (applyMode (← Act.self).mask true text Act.directoryMode).getD Disk.openMode
  let tell (path : Row) : Tool Unit := do
    if arguments.has 'v' then putLine (rowOf "mkdir: created directory " ++ quotedText path)
  worst (fun path => do
    if arguments.has 'p' && !path.isEmpty then makeWithStarts tell mode (startsOf path)
    else
      let status ← attempting
        (fun fault => warn (rowOf "cannot create directory " ++ quotedText path
          ++ rowOf (": " ++ fault.reason)))
        (Act.makeDirectory (textOf path) Act.directoryMode)
      if status = 0 then
        mode.forM (setMode path)
        tell path
      return status) arguments.operands

/-- Makes pipes with names. -/
def mkfifo : Utility := fun given => do
  let arguments ← parseArguments [long 'm' "mode" .some, long 'Z' "context" .maybe] given
  if arguments.operands.isEmpty then usage (rowOf "missing operand")
  let mode ← (arguments.value? 'm').mapM fun text => do
    if !isModeText text then fail (rowOf "invalid mode") 1
    return (applyMode (← Act.self).mask false text Act.fileMode).getD Act.fileMode
  worst (fun path => do
    let disk ← disk
    let complain (fault : FileFault) : Tool Nat := do
      warn (rowOf "cannot create fifo " ++ quoted path ++ rowOf (": " ++ fault.reason))
      return 1
    match disk.tree.inspectSelf disk.workingPlace (textOf path) with
    | .error fault => complain fault
    | .ok (_, some _) => complain .alreadyExists
    | .ok (place, none) =>
        Act.create place .pipe Act.fileMode
        mode.forM (setMode path)
        return 0) arguments.operands

/-- Removes empty directories, the innermost first. -/
def removeStarts (arguments : Arguments) : Bool → List Row → Tool Nat
  | _, [] => return 0
  | isFirst, path :: rest => do
      if arguments.has 'v' then putLine (rowOf "rmdir: removing directory, " ++ quoted path)
      match ← Act.removeDirectory (textOf path) with
      | .ok () => removeStarts arguments false rest
      | .error fault =>
          if fault = .notEmpty && arguments.has '?' then return 0
          warnPath (if isFirst then "failed to remove " else "failed to remove directory ") path fault
          return 1

/-- Removes empty directories. -/
def rmdir : Utility := fun given => do
  let arguments ← parseArguments
    [long 'p' "parents", long 'v' "verbose", long '?' "ignore-fail-on-non-empty"] given
  if arguments.operands.isEmpty then usage (rowOf "missing operand")
  worst (fun path =>
    let bare := (path.reverse.dropWhile (· == '/')).reverse
    removeStarts arguments true
      (if arguments.has 'p' && !bare.isEmpty then (startsOf bare).reverse
        else [if bare.isEmpty then path else bare])) arguments.operands

/-! ## Stamps and sizes -/

/-- Stamps a file with a moment, and makes the file where there is none. What stands at the
path itself is stamped if links are not to be followed. -/
def touchPath (creates isSelf : Bool) (moment : Option Int) (path : Row) : Tool Nat := do
  let disk ← disk
  let moment := moment.getD disk.clock
  let text := textOf path
  if (Act.deviceOf? text).isSome then return 0
  let found :=
    if isSelf then disk.tree.inspectSelf disk.workingPlace text
    else disk.tree.inspect disk.workingPlace text
  match found with
  | .ok (place, some _) =>
      Act.changeDisk fun disk => { disk.setMoment place moment with clock := disk.clock + 1 }
      return 0
  | .ok (place, none) =>
      if FileTree.namesDirectory text then
        if creates then warnPath "setting times of " path .notFound
        return if creates then 1 else 0
      if creates then
        Act.create place (.file ByteArray.empty moment) Act.fileMode
      return 0
  | .error fault =>
      if !creates && fault = .notFound then return 0
      let isFile := disk.isFile (textOf (path.reverse.dropWhile (· == '/')).reverse)
      warnPath (if fault = .notADirectory && isFile then "setting times of " else "cannot touch ")
        path fault
      return 1

/-- The moment that options name. -/
def momentOf (arguments : Arguments) : Tool (Option Int) := do
  let disk ← disk
  let now := disk.clock
  let reference ← (arguments.value? 'r').mapM fun path => do
    match statusOfPath disk (textOf path) with
    | .ok status => return status.changed
    | .error fault =>
        warnPath "failed to get attributes of " path fault
        leave 1
  match arguments.value? 'd', arguments.value? 't' with
  | some text, _ =>
      match readMoment? (reference.getD now) text with
      | some moment => return some moment
      | none => fail (rowOf "invalid date format " ++ quotedText text) 1
  | none, some text =>
      match readStamp? now text with
      | some moment => return some moment
      | none => fail (rowOf "invalid date format " ++ quotedText text) 1
  | none, none => return reference

/-- Stamps files. -/
def touch : Utility := fun given => do
  let arguments ← parseArguments
    [long 'a' "", long 'm' "", long 'c' "no-create", long 'd' "date" .some, long 'f' "",
      long 'h' "no-dereference", long 'r' "reference" .some, long 't' "" .some,
      long 'T' "time" .some] given
  let moment ← momentOf arguments
  if arguments.operands.isEmpty then usage (rowOf "missing file operand")
  worst (touchPath (!arguments.has 'c' && !arguments.has 'h') (arguments.has 'h') moment)
    arguments.operands

/-- Cuts files to a size. -/
def truncate : Utility := fun given => do
  let arguments ← parseArguments
    [long 's' "size" .some, long 'r' "reference" .some, long 'c' "no-create", long 'o' "io-blocks"]
    given
  let sizeAfter ← do
    match arguments.value? 's', arguments.value? 'r' with
    | none, none => usage (rowOf "you must specify either '--size' or '--reference'")
    | none, some path =>
        match statusOfPath (← disk) (textOf path) with
        | .ok status => pure fun (_ : Nat) => status.size
        | .error fault =>
            warnPath "cannot stat " path fault
            leave 1
    | some text, _ =>
        let (mark, rest) :=
          match text with
          | '<' :: rest => ('<', rest)
          | '>' :: rest => ('>', rest)
          | '/' :: rest => ('/', rest)
          | '%' :: rest => ('%', rest)
          | rest => (' ', rest)
        match countOf? rest with
        | none => fail (rowOf "Invalid number: " ++ quotedText text) 1
        | some (sign, count) =>
            pure fun size =>
              match mark, sign with
              | '<', _ => min size count
              | '>', _ => max size count
              | '/', _ => size / max 1 count * count
              | '%', _ => (size + max 1 count - 1) / max 1 count * count
              | _, some '+' => size + count
              | _, some _ => size - count
              | _, none => count
  if arguments.operands.isEmpty then usage (rowOf "missing file operand")
  worst (fun path => do
    let text := textOf path
    if arguments.has 'c' && !(← disk).isThere text then return 0
    match ← Act.openPath .append text with
    | .error fault =>
        warn (rowOf "cannot open " ++ quoted path ++ rowOf (" for writing: " ++ fault.reason))
        return 1
    | .ok _ =>
        let disk ← disk
        match disk.tree.inspect disk.workingPlace text with
        | .ok (place, some (.file bytes _)) =>
            let kept := bytes.extract 0 (sizeAfter bytes.size)
            let filled := kept ++ Machine.zeroBytes (sizeAfter bytes.size - kept.size)
            Act.changeDisk fun disk =>
              { disk.store place filled disk.clock with clock := disk.clock + 1 }
        | _ => pure ()
        return 0) arguments.operands

/-! ## Removing -/

/-- Asks whether to do something. -/
def agreesTo (question : Row) : Tool Bool := do
  warnRow (rowOf (← read).name ++ rowOf ": " ++ question ++ rowOf "? ")
  match ← openInput ['-'] with
  | .error _ => return false
  | .ok opening =>
      match ← readLinesUpTo '\n' Act.patience opening 1 [] with
      | .error _ => return false
      | .ok row =>
          let line := row.takeWhile (· != '\n')
          Act.stepBack opening (row.length - line.length - 1)
          return line.head? == some 'y' || line.head? == some 'Y'

/-- What something is, in words. -/
def PathStatus.inWords (status : PathStatus) : String :=
  match status.kind with
  | .directory => "directory"
  | .file => if status.size = 0 then "regular empty file" else "regular file"
  | .link => "symbolic link"
  | .pipe => "fifo"
  | .device => "character special file"

/-- What stands at a path, in words. -/
def kindInWords (disk : Disk) (path : Row) : String :=
  ((statusOfSelf disk (textOf path)).toOption.map PathStatus.inWords).getD "file"

/-- Removes what a path leads to, for directories with everything in them, at most so
many levels deep. -/
def removePath (arguments : Arguments) : Nat → Row → Tool Nat
  | 0, _ => return 1
  | levels + 1, path => do
      let disk ← disk
      let text := textOf path
      let asks := arguments.last? ['i', 'f'] = some 'i'
      let tell (deed : String) : Tool Unit := do
        if arguments.has 'v' then putLine (rowOf deed ++ quoted path)
      match disk.tree.inspectSelf disk.workingPlace text with
      | .ok (place, some .directory) =>
          let names := disk.tree.namesIn place
          if asks && !names.isEmpty then
            if !(← agreesTo (rowOf "descend into directory " ++ quoted path)) then return 0
          let start := if path.getLast? == some '/' then path else path ++ ['/']
          let status ← worst (fun name => removePath arguments levels (start ++ rowOf name)) names
          if asks then
            if !(← agreesTo (rowOf "remove directory " ++ quoted path)) then return status
          let removed ← attempting (warnPath "cannot remove " path) (Act.removeDirectory text)
          if removed = 0 then tell "removed directory "
          return max status removed
      | _ =>
          if asks then
            if !(← agreesTo (rowOf ("remove " ++ kindInWords disk path ++ " ") ++ quoted path)) then
              return 0
          let removed ← attempting (warnPath "cannot remove " path) (Act.removeFile text)
          if removed = 0 then tell "removed "
          return removed

/-- Does a path end in a dot name? -/
def endsInDots (path : Row) : Bool :=
  let bare := (path.reverse.dropWhile (· == '/')).reverse
  let name := (bare.reverse.takeWhile (· != '/')).reverse
  name == ['.'] || name == ['.', '.']

/-- Removes files and, if wanted, directories. -/
def rm : Utility := fun given => do
  let arguments ← parseArguments
    [long 'r' "recursive", long 'R' "", long 'f' "force", long 'i' "", long 'I' "",
      long '?' "interactive" .maybe, long 'd' "dir", long 'v' "verbose",
      long '=' "one-file-system", long '!' "no-preserve-root", long '/' "preserve-root" .maybe] given
  if arguments.operands.isEmpty then
    if arguments.has 'f' then leave 0
    usage (rowOf "missing operand")
  let isDeep := arguments.has 'r' || arguments.has 'R'
  let count := arguments.operands.length
  if arguments.last? ['I', 'f'] = some 'I' && (isDeep || count > 3) then
    let items := rowOf (if count = 1 then " argument" else " arguments")
    let question := rowOf "remove " ++ natRow count ++ items
      ++ rowOf (if isDeep then " recursively" else "")
    if !(← agreesTo question) then leave 0
  worst (fun path => do
    let disk ← disk
    let text := textOf path
    match disk.tree.inspectSelf disk.workingPlace text with
    | .error fault =>
        if arguments.has 'f' && (fault = .notFound || fault = .notADirectory) then return 0
        warnPath "cannot remove " path fault
        return 1
    | .ok (_, none) =>
        if arguments.has 'f' then return 0
        warnPath "cannot remove " path .notFound
        return 1
    | .ok (place, some .directory) =>
        if !isDeep && !arguments.has 'd' then
          warnPath "cannot remove " path .isADirectory
          return 1
        if endsInDots path then
          warn (rowOf "refusing to remove '.' or '..' directory: skipping " ++ quoted path)
          return 1
        if place.isEmpty && isDeep then
          warn (rowOf "it is dangerous to operate recursively on " ++ quoted path)
          warn (rowOf "use --no-preserve-root to override this failsafe")
          return 1
        if !isDeep && !(disk.tree.namesIn place).isEmpty then
          warnPath "cannot remove " path .notEmpty
          return 1
        removePath arguments 200 path
    | .ok (_, some _) => removePath arguments 200 path) arguments.operands

/-- Removes one file. -/
def unlink : Utility := fun given => do
  let arguments ← parseArguments [] given
  match ← singleOperand arguments.operands with
  | none => usage (rowOf "missing operand")
  | some path => attempting (warnPath "cannot unlink " path) (Act.removeFile (textOf path))

/-! ## Names that nobody uses -/

/-- A template with letters in place of the marks at its end. -/
def filledTemplate (number : Nat) (template : Row) : Row :=
  let letters := "abcdefghijklmnopqrstuvwxyz".toList
  let marks := (template.reverse.takeWhile (· == 'X')).length
  let filling := (List.range marks).map fun index =>
    (letters[(number / powerOf 26 index) % 26]?).getD 'a'
  template.take (template.length - marks) ++ filling

/-- Makes a file or directory under a name that nobody uses. -/
def mktemp : Utility := fun given => do
  let arguments ← parseArguments
    [long 'd' "directory", long 'u' "dry-run", long 'q' "quiet", long 'p' "" .some,
      long 'T' "tmpdir" .maybe, long 't' "", long 's' "suffix" .some] given
  if arguments.operands.length > 1 then usage (rowOf "too many templates")
  let template := arguments.operands.head?.getD (rowOf "tmp.XXXXXXXXXX")
  let suffix := (arguments.value? 's').getD []
  if (template.reverse.takeWhile (· == 'X')).length < 3 then
    fail (rowOf "too few X's in template " ++ quotedText template) 1
  let search := ((← read).environment.lookup "TMPDIR").getD (rowOf "/tmp")
  let directory : Option Row :=
    match (arguments.value? 'p').or (arguments.value? 'T') with
    | some directory => some (if directory.isEmpty then search else directory)
    | none => if arguments.operands.isEmpty || arguments.has 't' then some search else none
  let full := (directory.map (· ++ ['/'])).getD [] ++ template
  let disk ← disk
  let names := (List.range 1000).map fun number =>
    filledTemplate (number + disk.clock.toNat) full ++ suffix
  let path := (names.find? fun name => !disk.isThere (textOf name)).getD full
  let made ←
    if arguments.has 'u' then pure (.ok ())
    else if arguments.has 'd' then Act.makeDirectory (textOf path) 0o700
    else
      match disk.tree.inspect disk.workingPlace (textOf path) with
      | .ok (place, none) =>
          Act.create place (.file ByteArray.empty disk.clock) 0o600
          pure (.ok ())
      | .ok _ => pure (.error .alreadyExists)
      | .error fault => pure (.error fault)
  match made with
  | .ok () =>
      putLine path
      return 0
  | .error fault =>
      let kind := if arguments.has 'd' then "directory" else "file"
      fail (rowOf ("failed to create " ++ kind ++ " via template ") ++ quotedText full
        ++ rowOf (": " ++ fault.reason)) 1

/-- Waits until everything is on the disk, where it always is. -/
def sync : Utility := fun given => do
  let arguments ← parseArguments [long 'd' "data", long 'f' "file-system"] given
  worst (fun path => do
    match statusOfPath (← disk) (textOf path) with
    | .ok _ => return 0
    | .error fault =>
        warnPath "error opening " path fault
        return 1) arguments.operands

end TestAmplification.Shell
