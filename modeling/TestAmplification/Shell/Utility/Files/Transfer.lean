import TestAmplification.Shell.Utility.Files.Making
import TestAmplification.Shell.Utility.Paths

/-!
# Copying and moving files

Files and directories go to a target: into a directory under their own names, or to
a path that names what they become. What would be lost by that is asked for, kept
under another name, or left alone, as options say.
-/

set_option autoImplicit false

namespace TestAmplification.Shell

open Tool

/-- The last name of a path, without slashes behind it. -/
def lastName (path : Row) : Row :=
  let bare := (path.reverse.dropWhile (· == '/')).reverse
  (bare.reverse.takeWhile (· != '/')).reverse

/-- A name in a directory. -/
def inDirectory (directory name : Row) : Row :=
  if directory.getLast? == some '/' then directory ++ name else directory ++ '/' :: name

/-- The sources of a call, each with the path where it goes. -/
def transfers (arguments : Arguments) : Tool (List (Row × Row)) := do
  let disk ← disk
  let into (directory : Row) (sources : List Row) : List (Row × Row) :=
    sources.map fun source =>
      if arguments.has '^' then (source, inDirectory directory source)
      else
        let name := lastName source
        (source, if name = ['.'] || name = ['.', '.'] then inDirectory directory ['.']
          else inDirectory directory name)
  match arguments.value? 't', arguments.operands with
  | some _, [] => usage (rowOf "missing file operand")
  | none, [] => usage (rowOf "missing file operand")
  | some directory, sources =>
      match statusOfPath disk (textOf directory) with
      | .ok status =>
          if status.isDirectory then return into directory sources
          else
            fail (rowOf "target directory " ++ quoted directory ++ rowOf ": Not a directory") 1
      | .error fault =>
          fail (rowOf "target directory " ++ quoted directory ++ rowOf (": " ++ fault.reason)) 1
  | none, [source] => usage (rowOf "missing destination file operand after " ++ quotedText source)
  | none, operands =>
      let sources := operands.dropLast
      let target := operands.getLast?.getD []
      if arguments.has 'T' then
        match sources with
        | [source] => return [(source, target)]
        | _ => usage (rowOf "extra operand " ++ quotedText ((operands[2]?).getD []))
      else if disk.isDirectory (textOf target) then return into target sources
      else
        match sources with
        | [source] => return [(source, target)]
        | _ =>
            let fault :=
              match statusOfPath disk (textOf target) with
              | .ok _ => FileFault.notADirectory
              | .error fault => fault
            fail (rowOf "target " ++ quoted target ++ rowOf (": " ++ fault.reason)) 1

/-- May what is at a path be lost? The answer is no when options keep it. -/
def mayReplace (arguments : Arguments) (source target : Row) : Tool Bool := do
  let disk ← disk
  if !disk.isThere (textOf target) then return true
  if arguments.has 'u' then
    let changed (path : Row) : Int :=
      ((statusOfPath disk (textOf path)).toOption.map PathStatus.tick).getD 0
    if changed source ≤ changed target then return false
  match arguments.last? ['n', 'i', 'f'] with
  | some 'n' => return false
  | some 'i' => agreesTo (rowOf "overwrite " ++ quoted target)
  | _ => return true

/-- Keeps what is at a path under another name, if wanted. -/
def keepBackup (arguments : Arguments) (target : Row) : Tool Unit := do
  if arguments.has 'b' then
    let disk ← disk
    let suffix := (arguments.value? 'S').getD ['~']
    match disk.tree.inspectSelf disk.workingPlace (textOf target),
        disk.tree.locateSelf disk.workingPlace (textOf (target ++ suffix)) with
    | .ok (_, some .directory), _ => return
    | .ok (place, some _), .ok kept => Act.move place kept
    | _, _ => return

/-- Says that one path became another, if wanted. -/
def tellTransfer (arguments : Arguments) (verb : String) (source target : Row) : Tool Unit := do
  if arguments.has 'v' then putLine (rowOf verb ++ quoted source ++ rowOf " -> " ++ quoted target)

/-! ## Copying -/

/-- Are directories copied with everything in them? -/
def copiesDeeply (arguments : Arguments) : Bool :=
  arguments.has 'r' || arguments.has 'R' || arguments.has 'a'

/-- Does a copy keep the moment and the mode? -/
def keepsDetails (arguments : Arguments) : Bool :=
  arguments.has 'p' || arguments.has 'a'

/-- Is a link copied as what it leads to? On the way into directories that differs from what
the call names. -/
def followsLinks (arguments : Arguments) (isNamed : Bool) : Bool :=
  match arguments.last? ['L', 'P', 'H', 'd', 'a'] with
  | some 'L' => true
  | some 'H' => isNamed
  | some _ => false
  | none => !copiesDeeply arguments

/-- Gives a copy the moment and the mode of what was copied, as far as that is wanted. -/
def copyDetails (arguments : Arguments) (isNew : Bool) (status : PathStatus) (place : Place) :
    Tool Unit := do
  if keepsDetails arguments then
    Act.changeDisk fun disk => (disk.setMode place status.mode).setMoment place status.changed
  else if isNew then
    let mask := (← Act.self).mask
    Act.changeDisk fun disk =>
      disk.setMode place (Nat.land (Nat.land status.mode 0o777) (Nat.xor 0o7777 mask))

/-- Writes the copy of a file. -/
def writeCopy (arguments : Arguments) (source target : Row) (status : PathStatus) : Tool Nat := do
  let before ← disk
  let text := textOf target
  let isNew := !before.isThere text
  if isNew && FileTree.namesDirectory text then
    warnPath "cannot create regular file " target (if target.isEmpty then .notFound else .notADirectory)
    return 1
  let isLink := ((statusOfSelf before text).toOption.map PathStatus.isLink).getD false
  if isNew && isLink then
    warn (rowOf "not writing through dangling symlink " ++ quoted target)
    return 1
  match ← inputBytes source with
  | .error fault =>
      warn (rowOf "cannot open " ++ quoted source ++ rowOf (" for reading: " ++ fault.reason))
      return 1
  | .ok bytes =>
      match ← Act.openPath .write text with
      | .error fault =>
          warnPath "cannot create regular file " target fault
          return 1
      | .ok opening =>
          let _ ← Act.send opening bytes
          Act.letGo opening
          if let some (_, { target := .file place, .. }) :=
              ((← get).openings[opening]?).map (opening, ·) then
            copyDetails arguments isNew status place
          tellTransfer arguments "" source target
          return 0

/-- Is the place that of a directory that is copied into itself? -/
def isInside (disk : Disk) (source target : Row) : Bool :=
  match disk.tree.locateSelf disk.workingPlace (textOf source),
      disk.tree.locateSelf disk.workingPlace (textOf target) with
  | .ok source, .ok target => source.isPrefixOf target
  | _, _ => false

/-- Removes what stands at a path and is no directory, so that something else can stand
there. -/
def clearTarget (target : Row) : Tool Unit := do
  let _ ← Act.removeFile (textOf target)

/-- Makes a link or a pipe in place of what stands at a path. -/
def placeCopy (arguments : Arguments) (source target : Row) (node : FileNode) : Tool Nat := do
  let disk ← disk
  match disk.tree.locateSelf disk.workingPlace (textOf target) with
  | .error fault =>
      warnPath "cannot create symbolic link " target fault
      return 1
  | .ok place =>
      clearTarget target
      Act.create place node Act.fileMode
      tellTransfer arguments "" source target
      return 0

/-- Makes a link in place of a copy. -/
def linkCopy (arguments : Arguments) (source target : Row) (origin : Place) : Tool Nat := do
  let disk ← disk
  let isSoft := arguments.has 's'
  if isSoft && source.head? != some '/' && target.contains '/' then
    warn (quotedIfNeeded target ++ rowOf ": can make relative symbolic links only in current directory")
    return 1
  if arguments.has 'f' || arguments.has '!' then clearTarget target
  let cannot (fault : FileFault) : Tool Nat := do
    warn (rowOf (if isSoft then "cannot create symbolic link " else "cannot create hard link ")
      ++ quoted target ++ rowOf " to " ++ quoted source ++ rowOf (": " ++ fault.reason))
    return 1
  match (← Tool.disk).tree.inspectSelf disk.workingPlace (textOf target) with
  | .error fault => cannot fault
  | .ok (_, some _) => cannot .alreadyExists
  | .ok (place, none) =>
      if isSoft then Act.create place (.link (textOf source)) 0o777
      else Act.changeDisk fun disk => disk.share origin place
      tellTransfer arguments "" source target
      return 0

/-- Copies what a path leads to, for directories with everything in them, at most so
many levels deep. The top is what the call named. -/
def copyPath (arguments : Arguments) (top : Row × Row) : Nat → Row → Row → Tool Nat
  | 0, _, _ => return 1
  | levels + 1, source, target => do
      let disk ← disk
      let isDeep := copiesDeeply arguments
      let follows := followsLinks arguments (source == top.1)
      let found := if follows then statusOfPath disk (textOf source) else statusOfSelf disk (textOf source)
      match found with
      | .error fault =>
          if (Act.streamPath? (textOf source)).isSome then
            writeCopy arguments source target (statusOfTarget disk .nothing)
          else
            warnPath "cannot stat " source fault
            return 1
      | .ok status =>
          if status.isDirectory && !isDeep then
            warn (rowOf "-r not specified; omitting directory " ++ quoted source)
            return 1
          let goal :=
            if status.isLink then statusOfSelf disk (textOf target)
            else statusOfPath disk (textOf target)
          match goal, status.isDirectory with
          | .error .notADirectory, _ =>
              warnPath "cannot stat " target .notADirectory
              return 1
          | .ok there, true =>
              if there.isDirectory then copyInside status target levels source there.place false
              else if there.place = status.place then return 0
              else
                warn (rowOf "cannot overwrite non-directory " ++ quoted target
                  ++ rowOf " with directory " ++ quoted source)
                return 1
          | .error _, true =>
              match disk.tree.locateWith false disk.workingPlace (textOf target) with
              | .error fault =>
                  warnPath "cannot create directory " target fault
                  return 1
              | .ok place =>
                  if (disk.tree.node? place).isSome then
                    warnPath "cannot create directory " target .alreadyExists
                    return 1
                  Act.create place .directory Act.directoryMode
                  tellTransfer arguments "" source target
                  copyInside status target levels source place true
          | .ok there, false =>
              if there.isDirectory then
                warn (rowOf "cannot overwrite directory " ++ quoted target
                  ++ rowOf " with non-directory")
                return 1
              let isSame := (disk.namesOf status.place).contains there.place && status.kind != .device
              if isSame && !(arguments.has 'l' && there.place != status.place) then
                warn (quoted source ++ rowOf " and " ++ quoted target ++ rowOf " are the same file")
                return 1
              if !(← mayReplace arguments source target) then return 0
              keepBackup arguments target
              if arguments.has '!' then clearTarget target
              copyOne status source target
          | .error _, false =>
              if arguments.has '!' then clearTarget target
              copyOne status source target
where
  /-- Copies what is no directory. -/
  copyOne (status : PathStatus) (source target : Row) : Tool Nat := do
    if arguments.has 's' || arguments.has 'l' then linkCopy arguments source target status.place
    else
      match status.kind with
      | .link => placeCopy arguments source target (.link status.target)
      | .pipe =>
          if copiesDeeply arguments then placeCopy arguments source target .pipe
          else writeCopy arguments source target status
      | _ => writeCopy arguments source target status
  /-- Copies what is in a directory. -/
  copyInside (status : PathStatus) (target : Row) (levels : Nat) (source : Row)
      (goal : Place) (isNew : Bool) : Tool Nat := do
    let disk ← disk
    let whole := (disk.tree.locate disk.workingPlace (textOf top.2)).toOption
    let worstStatus ← worst (fun name => do
      if some (status.place ++ [name]) = whole then
        warn (rowOf "cannot copy a directory, " ++ quoted top.1 ++ rowOf ", into itself, "
          ++ quoted top.2)
        return 1
      copyPath arguments top levels (inDirectory source (rowOf name))
        (inDirectory target (rowOf name))) (disk.tree.namesIn status.place)
    copyDetails arguments isNew status goal
    return worstStatus

/-- Takes a step for each transfer. What was just made is not lost again. -/
def eachTransfer (step : Row → Row → Tool Nat) : List (Row × Row) → List (Row × Row) → Tool Nat
  | _, [] => return 0
  | made, (source, target) :: rest => do
      match made.find? fun transfer => transfer.2 == target with
      | some (earlier, _) =>
          if earlier = source then
            warn (rowOf "warning: source file " ++ quoted source ++ rowOf " specified more than once")
            eachTransfer step made rest
          else
            warn (rowOf "will not overwrite just-created " ++ quoted target ++ rowOf " with "
              ++ quoted source)
            let _ ← eachTransfer step made rest
            return 1
      | none =>
          let status ← step source target
          let made := if status = 0 then (source, target) :: made else made
          return max status (← eachTransfer step made rest)

/-- The options of copying and moving. -/
def transferOptions : List KnownOption :=
  [long 'a' "archive", long 'b' "", long 'b' "backup" .maybe, long 'd' "", long 'f' "force",
    long 'i' "interactive", long 'H' "", long 'l' "link", long 'L' "dereference",
    long 'n' "no-clobber", long 'p' "", long 'p' "preserve" .maybe, long 'P' "no-dereference",
    long 'r' "recursive", long 'R' "", long 's' "symbolic-link", long 'S' "suffix" .some,
    long 't' "target-directory" .some, long 'T' "no-target-directory", long 'u' "",
    long 'u' "update" .maybe, long 'v' "verbose", long 'x' "one-file-system",
    long '^' "parents", long '=' "no-preserve" .some, long '@' "attributes-only",
    long '!' "remove-destination", long '/' "strip-trailing-slashes"]

/-- Copies files and directories. -/
def cp : Utility := fun given => do
  let arguments ← parseArguments transferOptions given
  if arguments.has 'n' then
    warn (rowOf ("warning: behavior of -n is non-portable and may change in future;"
      ++ " use --update=none instead"))
  let transfers ← transfers arguments
  eachTransfer (fun source target => do
    if arguments.has '^' then
      let parent := (target.reverse.dropWhile (· != '/')).reverse
      let _ ← Act.onDisk (Disk.makeDirectories (textOf parent))
    copyPath arguments (source, target) 200 source target) [] transfers

/-! ## Moving -/

/-- Moves what stands at one path to another. -/
def movePath (arguments : Arguments) (source target : Row) : Tool Nat := do
  let disk ← disk
  let cannot (fault : FileFault) : Tool Nat := do
    warn (rowOf "cannot move " ++ quoted source ++ rowOf " to " ++ quoted target
      ++ rowOf (": " ++ fault.reason))
    return 1
  match statusOfSelf disk (textOf source) with
  | .error fault =>
      warnPath "cannot stat " source fault
      return 1
  | .ok status =>
      let found := statusOfSelf disk (textOf target)
      match found with
      | .error .notADirectory =>
          warnPath "cannot stat " target .notADirectory
          return 1
      | .error .notFound => pure ()
      | .error fault =>
          warnPath "cannot stat " target fault
          return 1
      | .ok _ => pure ()
      if (found.toOption.map PathStatus.place) == some status.place then
        warn (quoted source ++ rowOf " and " ++ quoted target ++ rowOf " are the same file")
        return 1
      if status.isDirectory && isInside disk source target then
        warn (rowOf "cannot move " ++ quoted source ++ rowOf " to a subdirectory of itself, "
          ++ quoted target)
        return 1
      match found.toOption.map PathStatus.isDirectory, status.isDirectory with
      | some true, true =>
          if !((disk.namesIn? (textOf target)).getD []).isEmpty then
            warn (rowOf "cannot overwrite " ++ quoted target ++ rowOf ": Directory not empty")
            return 1
      | some true, false =>
          warn (rowOf "cannot overwrite directory " ++ quoted target ++ rowOf " with non-directory")
          return 1
      | some false, true =>
          warn (rowOf "cannot overwrite non-directory " ++ quoted target ++ rowOf " with directory "
            ++ quoted source)
          return 1
      | _, _ => pure ()
      match disk.tree.locateSelf disk.workingPlace (textOf target) with
      | .error fault => cannot fault
      | .ok goal =>
          if !status.isDirectory && FileTree.namesDirectory (textOf target) then
            cannot .notADirectory
          else if !(← mayReplace arguments source target) then return 0
          else
            keepBackup arguments target
            Act.move status.place goal
            tellTransfer arguments "renamed " source target
            return 0

/-- Moves files and directories. -/
def mv : Utility := fun given => do
  let arguments ← parseArguments transferOptions given
  eachTransfer (movePath arguments) [] (← transfers arguments)

/-! ## Links -/

/-- The path that a link holds that leads to a source from the directory of the link. -/
def linkText (disk : Disk) (arguments : Arguments) (source target : Row) : Row :=
  if arguments.has 'r' then
    match resolvePath disk 'm' source, resolvePath disk 'm' (directoryName target) with
    | .ok place, .ok base => wayTo base place
    | _, _ => source
  else source

/-- Makes a link to what stands at a path, or a further name of it. -/
def linkPath (arguments : Arguments) (source target : Row) : Tool Nat := do
  let before ← disk
  let isSoft := arguments.has 's'
  let text := linkText before arguments source target
  let cannot (fault : FileFault) : Tool Nat := do
    let arrow :=
      if isSoft then fault = .nameTooLong || source.isEmpty else fault != .alreadyExists
    warn (rowOf (if isSoft then "failed to create symbolic link " else "failed to create hard link ")
      ++ quoted target
      ++ (if arrow then rowOf (if isSoft then " -> " else " => ") ++ quoted text else [])
      ++ rowOf (": " ++ fault.reason))
    return 1
  let origin : Except FileFault PathStatus :=
    if isSoft then .error .notFound
    else if arguments.has 'L' then statusOfPath before (textOf source)
    else statusOfSelf before (textOf source)
  match isSoft, origin with
  | false, .error fault =>
      warnPath "failed to access " source fault
      return 1
  | _, origin =>
      let status := origin.toOption
      if (status.map PathStatus.isDirectory).getD false then
        warn (quotedIfNeeded source ++ rowOf ": hard link not allowed for directory")
        return 1
      let there := (statusOfSelf before (textOf target)).toOption
      if let some there := there then
        if arguments.has 'f' || arguments.has 'b' || arguments.has 'i' then
          if there.isDirectory then
            warn (quotedIfNeeded target ++ rowOf ": cannot overwrite directory")
            return 1
          if (status.map fun status => (before.namesOf status.place).contains there.place).getD false
          then
            if status.map PathStatus.place = some there.place then
              warn (quoted source ++ rowOf " and " ++ quoted target ++ rowOf " are the same file")
              return 1
            else return 0
          if arguments.has 'i' && !arguments.has 'f' then
            if !(← agreesTo (rowOf "replace " ++ quoted target)) then return 0
          keepBackup arguments target
          clearTarget target
      let disk ← disk
      match disk.tree.inspectSelf disk.workingPlace (textOf target) with
      | .error fault => cannot fault
      | .ok (_, some _) => cannot .alreadyExists
      | .ok (place, none) =>
          if isSoft && text.isEmpty then return ← cannot .notFound
          if FileTree.namesDirectory (textOf target) then return ← cannot .notFound
          match status with
          | none => Act.create place (.link (textOf text)) 0o777
          | some status => Act.changeDisk fun disk => disk.share status.place place
          if arguments.has 'v' then
            putLine (quoted target ++ rowOf (if isSoft then " -> " else " => ") ++ quoted text)
          return 0

/-- Makes links. -/
def ln : Utility := fun given => do
  let arguments ← parseArguments
    [long 's' "symbolic", long 'f' "force", long 'v' "verbose", long 'n' "no-dereference",
      long 'r' "relative", long 'T' "no-target-directory", long 't' "target-directory" .some,
      long 'i' "interactive", long 'b' "", long 'b' "backup" .maybe, long 'P' "physical",
      long 'L' "logical", long 'S' "suffix" .some, long 'd' "directory", long 'F' ""] given
  if arguments.operands.isEmpty then usage (rowOf "missing file operand")
  let disk ← disk
  let isLink (path : Row) : Bool :=
    ((statusOfSelf disk (textOf path)).toOption.map PathStatus.isLink).getD false
  match arguments.operands, arguments.value? 't' with
  | [source], none =>
      if arguments.has 'T' then usage (rowOf "missing destination file operand after " ++ quotedText source)
      linkPath arguments source (inDirectory ['.'] (lastName source))
  | [source, target], none =>
      if arguments.has 'n' && isLink target then linkPath arguments source target
      else worst (fun (source, target) => linkPath arguments source target) (← transfers arguments)
  | _, _ => worst (fun (source, target) => linkPath arguments source target) (← transfers arguments)

/-- Makes one link. -/
def link : Utility := fun given => do
  let arguments ← parseArguments [] given
  match arguments.operands with
  | [] => usage (rowOf "missing operand")
  | [source] => usage (rowOf "missing operand after " ++ quotedText source)
  | [source, target] =>
      let disk ← disk
      let cannot (fault : FileFault) : Tool Nat :=
        fail (rowOf "cannot create link " ++ quoted target ++ rowOf " to " ++ quoted source
          ++ rowOf (": " ++ fault.reason)) 1
      match statusOfSelf disk (textOf source), statusOfSelf disk (textOf target) with
      | .error fault, _ => cannot fault
      | .ok _, .ok _ => cannot .alreadyExists
      | .ok _, .error _ => linkPath {} source target
  | _ :: _ :: extra :: _ => usage (rowOf "extra operand " ++ quotedText extra)

/-- Copies files to where they are used, or makes directories. -/
def install : Utility := fun given => do
  let arguments ← parseArguments
    [long 'd' "directory", long 'm' "mode" .some, long 'D' "", long 'v' "verbose",
      long 'p' "preserve-timestamps", long 't' "target-directory" .some, long 'o' "owner" .some,
      long 'g' "group" .some, long 's' "strip", long 'c' "", long 'C' "compare",
      long 'T' "no-target-directory", long 'b' "", long 'b' "backup" .maybe] given
  if arguments.has 'd' then
    if arguments.operands.isEmpty then usage (rowOf "missing file operand")
    worst (fun path => makeWithStarts (fun _ => return) none (startsOf path)) arguments.operands
  else
    if arguments.has 'D' then
      let parent :=
        match arguments.value? 't', arguments.operands with
        | some directory, _ => directory
        | none, [_, target] => (target.reverse.dropWhile (· != '/')).reverse
        | none, _ => []
      let _ ← Act.onDisk (Disk.makeDirectories (textOf parent))
    let mode := (arguments.value? 'm').getD (rowOf "755")
    eachTransfer (fun source target => do
      let status ← copyPath arguments (source, target) 200 source target
      if status = 0 then setMode target ((applyMode 0 false mode 0).getD Disk.openMode)
      return status) [] (← transfers arguments)

end TestAmplification.Shell
