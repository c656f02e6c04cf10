import TestAmplification.Shell.Utility.Options
import TestAmplification.Shell.Utility.Status

/-!
# Modes

A mode says what the owner, the group and others may do with a file. It is a
number of up to four digits of eight, or a list of changes: for whom, whether
something is granted, taken away or set, and what.

Changes that name nobody leave alone what new files do not get.
-/

set_option autoImplicit false

namespace TestAmplification.Shell

/-- The letters of a mode. -/
def modeLetters (mode : Nat) : Row :=
  let has (bit : Nat) : Bool := Nat.land mode bit != 0
  let triple (shift special : Nat) (both alone : Char) : Row :=
    [if has (0o4 * shift) then 'r' else '-', if has (0o2 * shift) then 'w' else '-',
      if has special then (if has shift then both else alone) else if has shift then 'x' else '-']
  triple 0o100 0o4000 's' 'S' ++ triple 0o10 0o2000 's' 'S' ++ triple 1 0o1000 't' 'T'

/-- The digits of a mode. -/
def modeDigits (mode : Nat) : Row :=
  Nat.toDigits 8 mode

/-- The part of a mode that a letter for persons stands for. -/
def personMask : Char → Nat
  | 'u' => 0o4700
  | 'g' => 0o2070
  | 'o' => 0o1007
  | _ => 0o7777

/-- What a letter for a right stands for, for everybody. -/
def rightMask (isDirectory : Bool) (mode : Nat) : Char → Option Nat
  | 'r' => some 0o444
  | 'w' => some 0o222
  | 'x' => some 0o111
  | 'X' => some (if isDirectory || Disk.modeRuns mode then 0o111 else 0)
  | 's' => some 0o6000
  | 't' => some 0o1000
  | _ => none

/-- The rights of one person, given to everybody. -/
def copiedRights (mode : Nat) (person : Char) : Nat :=
  let shift := if person = 'u' then 0o100 else if person = 'g' then 0o10 else 1
  mode / shift % 8 * 0o111

/-- The mode after changes to what the mask covers. -/
def changedMode (isDirectory : Bool) (mask : Nat) : Nat → Row → Nat → Option Nat
  | 0, _, _ => none
  | _ + 1, [], mode => some mode
  | steps + 1, sign :: rest, mode =>
      let letters := rest.takeWhile fun letter =>
        !(['+', '-', '='].contains letter)
      let rights :=
        match letters with
        | [letter] =>
            if ['u', 'g', 'o'].contains letter then some (copiedRights mode letter)
            else rightMask isDirectory mode letter
        | letters =>
            letters.foldlM (fun rights letter =>
              (rightMask isDirectory mode letter).map (Nat.lor rights)) 0
      rights.bind fun rights =>
        let rights := Nat.land rights mask
        let others := Nat.land mode (Nat.xor 0o7777 mask)
        let changed :=
          match sign with
          | '+' => some (Nat.lor mode rights)
          | '-' => some (Nat.land mode (Nat.xor 0o7777 rights))
          | '=' => some (Nat.lor others rights)
          | _ => none
        changed.bind (changedMode isDirectory mask steps (rest.drop letters.length))

/-- The mode after a text was applied to it, if the text is one for modes. The bits that new
files do not get are left alone where nobody is named. -/
def applyMode (spared : Nat) (isDirectory : Bool) (text : Row) (mode : Nat) : Option Nat :=
  if text.isEmpty then none
  else if text.all Char.isDigit then
    if text.all fun digit => digit < '8' then
      let value := text.foldl (fun value digit => value * 8 + (digit.toNat - 48)) 0
      let special := if isDirectory && text.length < 5 then Nat.land mode 0o6000 else 0
      if value ≤ 0o7777 then some (Nat.lor value special) else none
    else none
  else
    (cutAtEach ',' text).foldlM (fun mode part =>
      let persons := part.takeWhile fun letter => ['u', 'g', 'o', 'a'].contains letter
      let mask :=
        if persons.isEmpty then Nat.xor 0o7777 spared
        else persons.foldl (fun mask person => Nat.lor mask (personMask person)) 0
      let changes := part.drop persons.length
      if changes.isEmpty then none
      else changedMode isDirectory mask (changes.length + 1) changes mode) mode

/-- Is the text one for modes? -/
def isModeText (text : Row) : Bool :=
  (applyMode 0 false text Disk.plainMode).isSome

/-- Gives what a path leads to a mode. -/
def setMode (path : Row) (mode : Nat) : Tool Unit := do
  match statusOfPath (← Tool.disk) (textOf path) with
  | .ok status => Act.changeDisk fun disk => disk.setMode status.place mode
  | .error _ => return

/-- The arguments that are modes with a hyphen in front, and the others. -/
def splitModes (arguments : List Row) : List Row × List Row :=
  let (before, after) := arguments.span (· != ['-', '-'])
  let (modes, others) := before.partition fun argument =>
    match argument with
    | '-' :: letter :: _ =>
        ['r', 'w', 'x', 'X', 's', 't', 'u', 'g', 'o', 'a', ',', '+', '='].contains letter
          || letter.isDigit
    | _ => false
  (modes, others ++ after)

/-- Changes the mode of a path. -/
def changeModeOf (arguments : Arguments) (text : Row) (path : Row) : Tool Nat := do
  let disk ← Tool.disk
  let self := (statusOfSelf disk (textOf path)).toOption
  let isLink := (self.map PathStatus.isLink).getD false
  if isLink && arguments.has 'R' then return 0
  match statusOfPath disk (textOf path) with
  | .error fault =>
      if !arguments.has 'f' then
        if isLink && fault = .notFound then
          Tool.warn (rowOf "cannot operate on dangling symlink " ++ quoted path)
        else Tool.warn (rowOf "cannot access " ++ quoted path ++ rowOf (": " ++ fault.reason))
      return 1
  | .ok status =>
      let spared := (← Act.self).mask
      let mode := (applyMode spared status.isDirectory text status.mode).getD status.mode
      Act.changeDisk fun disk => disk.setMode status.place mode
      let shown (mode : Nat) : Row :=
        padZeros 4 (modeDigits mode) ++ rowOf " (" ++ modeLetters mode ++ rowOf ")"
      if arguments.has 'v' || (arguments.has 'c' && mode != status.mode) then
        Tool.putLine (rowOf "mode of " ++ quoted path
          ++ (if mode = status.mode then rowOf " retained as " ++ shown mode
            else rowOf " changed from " ++ shown status.mode ++ rowOf " to " ++ shown mode))
      return 0

/-- The paths below a directory, each before those in it. -/
def pathsBelow (disk : Disk) (path : Row) : List Row :=
  match disk.tree.inspect disk.workingPlace (textOf path) with
  | .ok (place, some .directory) =>
      let start := if path.getLast? == some '/' then path else path ++ ['/']
      (disk.tree.below place).map fun (way, _) => start ++ rowOf ("/".intercalate way)
  | _ => []

/-- Changes the modes of files. -/
def chmod : Utility := fun given => do
  let (modes, others) := splitModes given
  let arguments ← parseArguments
    [long 'R' "recursive", long 'v' "verbose", long 'c' "changes", long 'f' "silent",
      long 'f' "quiet", long '?' "reference" .some] others
  let disk ← Tool.disk
  let (text, paths) :=
    match modes, arguments.value? '?', arguments.operands with
    | [], none, text :: paths => (some text, paths)
    | [], none, [] => (none, [])
    | [], some reference, paths =>
        match statusOfPath disk (textOf reference) with
        | .ok status => (some (modeDigits status.mode), paths)
        | .error _ => (some (rowOf "+"), paths)
    | modes, _, paths => (some (joinWith [','] modes), paths)
  if let some reference := arguments.value? '?' then
    if let .error fault := statusOfPath disk (textOf reference) then
      Tool.fail (rowOf "failed to get attributes of " ++ quoted reference
        ++ rowOf (": " ++ fault.reason)) 1
  match text, paths with
  | none, _ => Tool.usage (rowOf "missing operand")
  | some text, [] => Tool.usage (rowOf "missing operand after " ++ quotedText text)
  | some text, paths =>
      if !isModeText text then Tool.usage (rowOf "invalid mode: " ++ quotedText text)
      let paths :=
        if arguments.has 'R' then paths.flatMap fun path => path :: pathsBelow disk path else paths
      Tool.worst (changeModeOf arguments text) paths

end TestAmplification.Shell

/-!
## Owners of files

Every file belongs to the only person and the only group that there are, so that changing an
owner changes nothing. Still it has to be a person or a group, and the files must be there.
-/

namespace TestAmplification.Shell

open Tool

/-- The persons and groups that the system knows besides those of everybody here. -/
def knownNames : List String :=
  ["root", "daemon", "bin", "sys", "games", "man", "lp", "mail", "news", "uucp", "proxy", "www-data",
    "backup", "list", "irc", "nobody"]

/-- The groups that are no persons. -/
def knownGroups : List String :=
  ["adm", "tty", "disk", "dialout", "fax", "voice", "cdrom", "floppy", "tape", "sudo", "audio", "dip",
    "operator", "src", "shadow", "utmp", "video", "sasl", "plugdev", "staff", "users", "nogroup"]

/-- Is the row a person? -/
def isPerson (row : Row) : Bool :=
  (Text.digits? row).isSome || knownNames.contains (textOf row)

/-- Is the row a group? -/
def isGroup (row : Row) : Bool :=
  (Text.digits? row).isSome || (knownNames.filter (· != "nobody") ++ knownGroups).contains (textOf row)

/-- What is wrong with the text of an owner. -/
def ownerFault? (onlyGroup : Bool) (text : Row) : Option Row :=
  if onlyGroup then
    if isGroup text then none else some (rowOf "invalid group: " ++ quotedText text)
  else
    let (person, group) :=
      match Text.cutFirst ':' text with
      | some (person, group) => (person, group)
      | none => (text, [])
    if !person.isEmpty && !isPerson person then some (rowOf "invalid user: " ++ quotedText text)
    else if !group.isEmpty && !isGroup group then some (rowOf "invalid group: " ++ quotedText text)
    else none

/-- Changes the owner of a path. -/
def changeOwnerOf (arguments : Arguments) (kind : String) (path : Row) : Tool Nat := do
  let disk ← disk
  let found := if arguments.has 'h' then (statusOfSelf disk (textOf path)).toOption.isSome
    else (statusOfPath disk (textOf path)).toOption.isSome
  if found then
    if arguments.has 'v' then
      putLine (rowOf (kind ++ " of ") ++ quoted path ++ rowOf " retained as root")
    return 0
  else
    match statusOfPath disk (textOf path) with
    | .error fault =>
        if !arguments.has 'f' then
          warn (rowOf "cannot access " ++ quoted path ++ rowOf (": " ++ fault.reason))
    | .ok _ => pure ()
    return 1

/-- Changes the owners of files, or only their groups. -/
def changeOwners (onlyGroup : Bool) : Utility := fun given => do
  let arguments ← parseArguments
    [long 'R' "recursive", long 'v' "verbose", long 'c' "changes", long 'f' "silent",
      long 'f' "quiet", long 'h' "no-dereference", long 'd' "dereference", long 'H' "", long 'L' "",
      long 'P' "", long '?' "reference" .some] given
  let (text, paths) :=
    match arguments.value? '?', arguments.operands with
    | some _, paths => (none, paths)
    | none, text :: paths => (some text, paths)
    | none, [] => (none, [])
  if let some reference := arguments.value? '?' then
    if let .error fault := statusOfPath (← disk) (textOf reference) then
      fail (rowOf "failed to get attributes of " ++ quoted reference
        ++ rowOf (": " ++ fault.reason)) 1
  match text, paths with
  | none, [] => usage (rowOf "missing operand")
  | some text, [] => usage (rowOf "missing operand after " ++ quotedText text)
  | text, paths =>
      if let some message := text.bind (ownerFault? onlyGroup) then fail message 1
      let before ← disk
      let paths :=
        if arguments.has 'R' then paths.flatMap fun path => path :: pathsBelow before path else paths
      worst (changeOwnerOf arguments (if onlyGroup then "group" else "ownership")) paths

/-- Changes the owners of files. -/
def chown : Utility := changeOwners false

/-- Changes the groups of files. -/
def chgrp : Utility := changeOwners true

end TestAmplification.Shell
