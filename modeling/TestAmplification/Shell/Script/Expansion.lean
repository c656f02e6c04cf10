import TestAmplification.Shell.Script.Arithmetic
import TestAmplification.Shell.Script.Extended.Braces
import TestAmplification.Shell.Script.Extended.Parameters
import TestAmplification.Shell.Script.Session

/-!
# From words to fields and redirections

What words expand to, and what the redirections of a command do with it.
-/

set_option autoImplicit false

/-!
## From words to fields

The words of a command become fields: parameters, substitutions and arithmetic
are replaced, what is not quoted is split into fields, and fields with special
characters are replaced by the file names that they match. A field without any
match stays as it is.

The command of a substitution runs in a process of its own, and its output is
read through a pipe. A command can also stand behind a path: then the path leads to the
pipe.
-/

namespace TestAmplification.Shell

open Session

/-! ### Values -/

/-- The message about an expression without a value. -/
def ArithmeticFault.message (fault : ArithmeticFault) (expression : Row) : Row :=
  let about (reason : String) : Row :=
    rowOf ("arithmetic expression: " ++ reason ++ ": \"") ++ expression ++ ['"']
  match fault with
  | .divisionByZero => about "division by zero"
  | .noPrimary => about "expecting primary"
  | .noEnd => about "expecting EOF"
  | .illegalNumber text => rowOf "Illegal number: " ++ text

/-- Sets variables one after the other. -/
def assignNumbers : List (String × Int) → Session Unit
  | [] => return
  | (name, number) :: rest => do
      assign name (intRow number)
      assignNumbers rest

/-- The value of an arithmetic expression, which may also set variables. -/
def arithmeticRow (expression : Row) : Session Row := do
  let shell ← get
  if shell.isExtended then return intRow (← reckon none expression)
  match Arithmetic.evaluate (fun name => (shell.value? name).getD []) expression with
  | .ok (assigned, number) =>
      assignNumbers assigned.reverse
      return intRow number
  | .error fault => giveUp (fault.message expression)

/-- The state of a shell that runs a part of the script. What has failed does not end it early
in the extended dialect. -/
def ShellState.forSubstitution (shell : ShellState) : ShellState :=
  if shell.isExtended && !shell.isSet "inherit_errexit" then
    { shell.withOption 'e' false with
      isPart := true, depth := shell.depth + 1, level := shell.level + 1 }
  else shell

/-- The file that a command only reads, if it does nothing else. -/
def readFileOf? : Command → Option Word
  | .sequence [.simple _ [] [] [.mk 0 .read target]] => some target
  | _ => none

/-- Takes note of the status of a substitution. In the extended dialect what follows sees it as
that of the last command. -/
def noteSubstitution (substitutionStatus : Nat) : Session Unit :=
  modify fun shell => { shell with
    substitutionStatus, status := if shell.isExtended then substitutionStatus else shell.status }

/-- The output of a command that runs in a process of its own. -/
def substitutedOutput (command : Command) : Session Row := do
  let _ ← takePlace
  let shell := (← get).forSubstitution
  let (outlet, inlet) ← Act.newPipe
  let process ← Act.start (.command command shell) fun process =>
    process.withStream 1 (some inlet)
  Act.changeSelf fun process => { process with kept := outlet :: process.kept }
  let row ← Act.readOpening outlet
  Act.changeSelf fun process => { process with kept := process.kept.drop 1 }
  let status := statusOf (← Act.awaitEnding process)
  noticeAll
  noteSubstitution status
  return withoutLastLines (row.filter (· != '\x00'))

/-- What a file holds that takes the place of a command. -/
def substitutedFile (path : Row) : Session Row := do
  match ← Act.openPath .read (textOf path) with
  | .ok opening =>
      let row ← Act.readOpening opening
      Act.letGo opening
      noteSubstitution 0
      return withoutLastLines (row.filter (· != '\x00'))
  | .error fault =>
      warn (path ++ rowOf (": " ++ fault.reason))
      noteSubstitution 1
      return []

/-- The first number from one down that no stream has. -/
def freeStreamBelow (process : Process) : Nat → Nat
  | 0 => 0
  | number + 1 =>
      if (process.streams.lookup (number + 1)).isSome then freeStreamBelow process number
      else number + 1

/-- The path of a pipe to a command in a process of its own, where its output is read or its
input is written. -/
def channelTo (isRead : Bool) (command : Command) : Session Row := do
  let (outlet, inlet) ← Act.newPipe
  let shell ← get
  let shell := { shell with isPart := true, depth := shell.depth + 1, level := shell.level + 1 }
  let kept := if isRead then outlet else inlet
  Act.keep kept
  let process ← Act.start (.command command shell) fun process =>
    if isRead then process.withStream 1 (some inlet) else process.withStream 0 (some outlet)
  let stream := freeStreamBelow (← Act.self) 63
  Act.connect stream (some kept)
  Act.letGo kept
  modify fun shell => { shell with channels := stream :: shell.channels, lastJob := some process }
  return rowOf "/dev/fd/" ++ natRow stream

/-- Is a parameter without a usable value? With a colon an empty value is not
usable. -/
def isUnset (colon : Bool) (value : Option Row) : Bool :=
  match value with
  | none => true
  | some row => colon && row.isEmpty

/-- The message about a parameter without a usable value. -/
def unsetMessage (colon : Bool) (word : Row) : Row :=
  if !word.isEmpty then word
  else rowOf (if colon then "parameter not set or null" else "parameter not set")

/-- What a tilde at the start of a word stands for. -/
def withHome (shell : ShellState) (characters : List Char) : Option (Row × List Char) :=
  match characters with
  | '~' :: rest =>
      let name := rest.takeWhile (· != '/')
      let home? :=
        if name.isEmpty then (shell.value? "HOME").or (if shell.isExtended then some (rowOf "/root") else none)
        else if name = rowOf "root" then some (rowOf "/root")
        else if name = ['+'] && shell.isExtended then shell.value? "PWD"
        else if name = ['-'] && shell.isExtended then shell.value? "OLDPWD"
        else none
      home?.map (·, rest.drop name.length)
  | _ => none

/-! ### Words -/

/-- Adds the value of a parameter to a draft. -/
def addParameter (context : WordContext) (name : String) (quoted : Bool) (draft : FieldDraft) :
    Session FieldDraft := do
  let shell ← get
  if name = "@" && quoted && context.splits then return draft.addFields shell.positional
  else if (name = "@" || name = "*") && !quoted && context.splits then
    return draft.addSplitFields shell.separators shell.positional
  else
    match shell.parameter? name with
    | some row => addValue context quoted draft row
    | none =>
        if shell.has 'u' && name ≠ "@" && name ≠ "*" then
          giveUp (rowOf name ++ rowOf ": parameter not set")
        return if quoted && name ≠ "@" then draft.add true [] else draft

/-- Adds a use of a parameter to a draft in the plain dialect. The first argument is how words
inside braces are added. -/
def addPlainUse (addInner : WordContext → Word → FieldDraft → Session FieldDraft)
    (context : WordContext) (name : String) (use : ParameterUse) (quoted : Bool) (draft : FieldDraft) :
    Session FieldDraft := do
  let plain : WordContext := { splits := false, isInner := true }
  let inner : WordContext := { context with isInner := true }
  let value := (← get).parameter? name
  match use with
  | .value => addParameter context name quoted draft
  | .length =>
      if value.isNone && (← get).has 'u' && name ≠ "@" && name ≠ "*" then
        giveUp (rowOf name ++ rowOf ": parameter not set")
      addValue context quoted draft (natRow (value.getD []).length)
  | .orWord colon word =>
      if isUnset colon value then addInner inner word draft
      else addParameter context name quoted draft
  | .orAssign colon word =>
      if isUnset colon value then
        if !isName name.toList then giveUp (rowOf name ++ rowOf ": bad variable name")
        let row := (← addInner plain word {}).row
        assign name row
        addValue context quoted draft row
      else addParameter context name quoted draft
  | .wordIfSet colon word =>
      if isUnset colon value then return if quoted then draft.add true [] else draft
      else addInner inner word draft
  | .orFail colon word =>
      if isUnset colon value then
        let message := (← addInner plain word {}).row
        giveUp (rowOf name ++ rowOf ": " ++ unsetMessage colon message)
      else addParameter context name quoted draft
  | .withoutStart longest pattern =>
      if value.isNone && (← get).has 'u' then
        giveUp (rowOf name ++ rowOf ": parameter not set")
      let pattern := (← addInner plain pattern {}).glyphs
      addValue context quoted draft (removeStart longest pattern (value.getD []))
  | .withoutEnd longest pattern =>
      if value.isNone && (← get).has 'u' then
        giveUp (rowOf name ++ rowOf ": parameter not set")
      let pattern := (← addInner plain pattern {}).glyphs
      addValue context quoted draft (removeEnd longest pattern (value.getD []))
  | _ => giveUp (rowOf "Bad substitution")

/-- Adds a part of a word to a draft. The first argument is how words inside
braces are added. -/
def addPart (addInner : WordContext → Word → FieldDraft → Session FieldDraft)
    (context : WordContext) (part : WordPart) (draft : FieldDraft) : Session FieldDraft := do
  let plain : WordContext := { splits := false, isInner := true }
  match part with
  | .text characters quoted =>
      if context.isInner then addValue context quoted draft characters
      else return draft.add quoted characters
  | .output command quoted =>
      match if (← get).isExtended then readFileOf? command else none with
      | some word =>
          addValue context quoted draft (← substitutedFile (← addInner plain word {}).row)
      | none => addValue context quoted draft (← substitutedOutput command)
  | .arithmetic expression quoted =>
      let row := (← addInner plain expression {}).row
      addValue context quoted draft (← arithmeticRow row)
  | .parameter source use quoted =>
      match (← get).dialect, source with
      | .plain, .named name => addPlainUse addInner context name use quoted draft
      | _, source =>
          let words : InnerWords := {
            glyphs := fun word => do return (← addInner plain word {}).glyphs
            add := addInner }
          addUse words context source use quoted draft
  | .channel isRead command => return draft.add true (← channelTo isRead command)
  | .elements _ => return draft

/-- Adds the parts of a word to a draft, with at most so many braces in one
another. -/
def addWord : Nat → WordContext → Word → FieldDraft → Session FieldDraft
  | 0, _, _, draft => return draft
  | depth + 1, context, word, draft =>
      word.foldlM (fun draft part => addPart (addWord depth) context part draft) draft

/-- The deepest nesting of braces in words. -/
def deepestWord : Nat := 500

/-- The word with a tilde at its start replaced. -/
def withHomeInFront (shell : ShellState) (word : Word) : Word :=
  match word with
  | .text characters false :: rest =>
      match withHome shell characters with
      | some (home, others) => .text home true :: .text others false :: rest
      | none => word
  | _ => word

/-- Texts with the tildes replaced that stand behind colons, and perhaps at their start. -/
def textWithHomes (shell : ShellState) (isStart : Bool) (characters : List Char) : Word :=
  (cutAtEach ':' characters).zipIdx.flatMap fun (piece, index) =>
    (if index = 0 then [] else [.text [':'] false])
      ++ match if index > 0 || isStart then withHome shell piece else none with
        | some (home, others) => [.text home true, .text others false]
        | none => [.text piece false]

/-- The word that is assigned, with the tildes replaced at its start and behind colons. -/
def withHomes (shell : ShellState) (word : Word) : Word :=
  word.zipIdx.flatMap fun (part, index) =>
    match part with
    | .text characters false =>
        if characters.contains '~' then textWithHomes shell (index = 0) characters else [part]
    | part => [part]

/-- The characters of a word as a single field. -/
def glyphsOf (word : Word) : Session (List Glyph) := do
  let word := withHomeInFront (← get) word
  let glyphs := (← addWord deepestWord { splits := false } word {}).glyphs
  Act.workOn glyphs.length
  return glyphs

/-- The text of a word as a single field. -/
def rowOfWord (word : Word) : Session Row := do
  return (← glyphsOf word).map Prod.fst

/-- The text of a word that is assigned. -/
def rowOfAssigned (word : Word) : Session Row := do
  let word := withHomes (← get) word
  let row := (← addWord deepestWord { splits := false } word {}).row
  Act.workOn row.length
  return row

/-! ### File names -/

/-- Parts of a pattern between slashes. -/
def patternParts (pattern : List Glyph) : List (List Glyph) :=
  pattern.foldr (fun glyph parts =>
    match parts with
    | [] => [[glyph]]
    | part :: others => if glyph.1 = '/' then [] :: part :: others else (glyph :: part) :: others)
    [[]]

/-- How file names are matched. -/
structure FileMatching where
  /-- How patterns are read. -/
  style : MatchStyle := {}
  /-- Are the directory itself and the one above it among the hidden names? -/
  hasDots : Bool := true
  /-- Are hidden names matched like others? -/
  showsHidden : Bool := false
  /-- Does a part of two stars stand for any directories? -/
  hasDepth : Bool := false

/-- How file names are matched in a script. -/
def fileMatching (shell : ShellState) : FileMatching :=
  if shell.isExtended then
    { style := { matchStyle shell with ignoresCase := shell.isSet "nocaseglob" }
      hasDots := !shell.isSet "globskipdots"
      showsHidden := shell.isSet "dotglob"
      hasDepth := shell.isSet "globstar" }
  else {}

/-- Does a part of a path hold a pattern? -/
def FileMatching.isPattern (matching : FileMatching) (part : List Glyph) : Bool :=
  isSpecialPattern part || (matching.style.hasChoices && hasChoice part)

/-- The names in a directory that match a part of a pattern. Hidden names need a
dot in the pattern. -/
def FileMatching.names (matching : FileMatching) (disk : Disk) (directory : Path)
    (part : List Glyph) : List String :=
  let names := (disk.namesIn? (if directory.isEmpty then "." else directory)).getD []
  let isDotted := (part.head?.map Prod.fst) == some '.'
  let dots := if isDotted && matching.hasDots then [".", ".."] else []
  (dots ++ names).filter fun name =>
    matching.style.accepts part (rowOf name)
      && (!name.startsWith "." || isDotted || matching.showsHidden)

/-- The paths of a directory, which ends in a slash or is empty, and of all directories below it,
at most so deep. -/
def FileMatching.directoriesBelow (matching : FileMatching) (disk : Disk) : Nat → Path → List Path
  | 0, start => [start]
  | depth + 1, start =>
      let names := (disk.namesIn? (if start.isEmpty then "." else start)).getD []
      let inner := names.filter fun name =>
        (!name.startsWith "." || matching.showsHidden)
          && match disk.tree.inspectSelf disk.workingPlace (start ++ name) with
            | .ok (_, some .directory) => true
            | _ => false
      start :: inner.flatMap fun name => matching.directoriesBelow disk depth (start ++ name ++ "/")

/-- Is the part of a pattern two stars? -/
def isDeepPart (part : List Glyph) : Bool :=
  part == [('*', false), ('*', false)]

/-- The paths that match the parts of a pattern below a path already matched. -/
def FileMatching.paths (matching : FileMatching) (disk : Disk) : Path → List (List Glyph) → List Path
  | start, [] => [start]
  | start, [part] =>
      if matching.hasDepth && isDeepPart part then
        (matching.directoriesBelow disk FileTree.longestName start).flatMap fun directory =>
          (if directory = start then [] else [(directory.dropEnd 1).toString])
            ++ ((matching.names disk directory part).filter fun name =>
              match disk.tree.inspectSelf disk.workingPlace (directory ++ name) with
              | .ok (_, some .directory) => false
              | _ => true).map (directory ++ ·)
      else if matching.isPattern part then (matching.names disk start part).map (start ++ ·)
      else
        let path := start ++ textOf (part.map Prod.fst)
        if (disk.tree.inspectSelf disk.workingPlace path).toOption.any (·.2.isSome) then [path] else []
  | start, part :: rest =>
      if matching.hasDepth && isDeepPart part then
        (matching.directoriesBelow disk FileTree.longestName start).flatMap fun directory =>
          matching.paths disk directory rest
      else if matching.isPattern part then
        (matching.names disk start part).flatMap fun name =>
          matching.paths disk (start ++ name ++ "/") rest
      else matching.paths disk (start ++ textOf (part.map Prod.fst) ++ "/") rest

/-- The file names that a field matches, if it is a pattern. -/
def FileMatching.found? (matching : FileMatching) (disk : Disk) (field : List Glyph) :
    Option (List Row) :=
  if matching.isPattern field then
    let paths := (matching.paths disk "" (patternParts field)).map rowOf
    some (paths.mergeSort fun first second => !decide (second < first))
  else none

/-- The fields that a field stands for: the file names that it matches, or the
field itself. -/
def fileNames (matching : FileMatching) (disk : Disk) (field : List Glyph) : Session (List Row) := do
  let plain := field.map Prod.fst
  match matching.found? disk field with
  | none => return [plain]
  | some [] =>
      let shell ← get
      if shell.isSet "failglob" then giveUpPlainly (rowOf "no match: " ++ plain)
      return if shell.isSet "nullglob" then [] else [plain]
  | some paths => return paths

/-- The words that words stand for in the extended dialect. -/
def spreadWords (shell : ShellState) (words : List Word) : List Word :=
  if shell.isExtended && shell.has 'B' then words.flatMap spreadBraces else words

/-- The word with its tildes replaced, as an argument has them. -/
def argumentWithHome (shell : ShellState) (word : Word) : Word :=
  match if shell.isExtended then word else [] with
  | .text characters false :: rest =>
      let name := characters.takeWhile continuesName
      match isName name, characters.drop name.length with
      | true, '=' :: value =>
          if value.contains '~' then
            .text (name ++ ['=']) false :: withHomes shell (.text value false :: rest)
          else word
      | _, _ => withHomeInFront shell word
  | _ => withHomeInFront shell word

/-- The fields of words. -/
def fieldsOf (words : List Word) : Session (List Row) := do
  let shell ← get
  let fields ← (spreadWords shell words).mapM fun word => do
    return (← addWord deepestWord { splits := true } (argumentWithHome shell word) {}).fields
  let fields := fields.flatten
  Act.workOn (fields.foldl (fun size field => size + field.length + 1) 0)
  let shell ← get
  let matching := fileMatching shell
  if !shell.has 'f' && fields.any matching.isPattern then
    let disk ← disk
    return (← fields.mapM (fileNames matching disk)).flatten
  else return fields.map fun field => field.map Prod.fst

end TestAmplification.Shell

/-!
## Redirections

A redirection connects a stream with a file, with another stream or with a text
in the script. They are made one after the other before the command runs, and
the first one that fails is the end of the command. Afterwards the streams lead
to where they led before.
-/

namespace TestAmplification.Shell

open Session

/-- The reason that a shell gives for a file that cannot be opened. -/
def openReason (missing : String) (fault : FileFault) : String :=
  if fault = .notFound || fault = .notADirectory then missing else fault.reason

/-- A redirection whose target is known. -/
structure KnownRedirection where
  /-- The number of the stream. -/
  stream : Nat
  /-- What is done with it. -/
  kind : RedirectionKind
  /-- The file, the other stream or the text. -/
  target : Row
  /-- Is the stream a free one that stays as it is afterwards? -/
  isFree : Bool := false

/-- The streams that a redirection changes for a while. -/
def KnownRedirection.streams (redirection : KnownRedirection) : List Nat :=
  if redirection.isFree then []
  else if redirection.kind = .writeAll || redirection.kind = .appendAll then [1, 2]
  else [redirection.stream]

/-- A word as it is spelled, as far as it holds texts and names. -/
def spelledWord (word : Word) : Row :=
  word.flatMap fun
    | .text characters _ => characters
    | .parameter (.named name) _ _ => '$' :: name.toList
    | _ => []

/-- The target of a redirection in the extended dialect, which must be one field. -/
def oneField (target : Word) : Session Row := do
  match ← fieldsOf [target] with
  | [field] => return field
  | _ =>
      complain (spelledWord target ++ rowOf ": ambiguous redirect") 1
      leave .redirection

/-- The first number from ten on that no stream has. -/
def freeStream (process : Process) : Nat → Nat → Nat
  | 0, number => number
  | steps + 1, number =>
      if (process.streams.lookup number).isSome then freeStream process steps (number + 1) else number

/-- A redirection in the extended dialect with its target. What looks like a stream but is none
is a file for all that is written. -/
def knownExtended (stream : Nat) (kind : RedirectionKind) (target : Word) (isFree : Bool) :
    Session KnownRedirection := do
  match kind with
  | .document => return { stream, kind, target := ← rowOfWord target, isFree }
  | .line => return { stream, kind := .document, target := (← rowOfWord target) ++ ['\n'], isFree }
  | _ =>
      let row ← oneField target
      let isNumber := !row.isEmpty && row.all Char.isDigit
      if kind = .duplicate && row ≠ ['-'] && !isNumber then
        let moved := row.dropLast
        if row.getLast? == some '-' && !moved.isEmpty && moved.all Char.isDigit then
          return { stream, kind, target := moved, isFree }
        if stream ≠ 1 then
          complain (spelledWord target ++ rowOf ": ambiguous redirect") 1
          leave .redirection
        return { stream, kind := .writeAll, target := row, isFree }
      return { stream, kind, target := row, isFree }

/-- Works out the target of a redirection. -/
def knownRedirection (redirection : Redirection) : Session KnownRedirection := do
  let isExtended := (← get).isExtended
  match redirection with
  | .mk stream kind target =>
      if isExtended then knownExtended stream kind target false
      else
        let target ← rowOfWord target
        if kind = .duplicate && target ≠ ['-'] && !(target.length = 1 && target.all Char.isDigit)
        then giveUp (rowOf ScriptFault.badStreamNumber.message)
        return { stream, kind, target }
  | .free name kind target =>
      let known ← knownExtended 0 kind target true
      if known.kind = .duplicate && known.target = ['-'] then
        let number := (Text.digits? (((← get).value? name).getD [])).getD 0
        return { known with stream := number }
      else
        let number := freeStream (← Act.self) 1000 10
        assign name (natRow number)
        return { known with stream := number }

/-- Works out the targets of redirections. -/
def knownRedirections (redirections : List Redirection) : Session (List KnownRedirection) :=
  redirections.mapM knownRedirection

/-- Opens a file for a stream. -/
def connectFile (stream : Nat) (mode : OpenMode) (path : Row) : Session (Option Row) := do
  match ← Act.openPath mode (textOf path) with
  | .ok opening =>
      Act.connect stream (some opening)
      Act.letGo opening
      return none
  | .error fault =>
      let isExtended := (← get).isExtended
      let text :=
        if isExtended then path ++ rowOf (": " ++ fault.reason)
        else if mode = .read then
          rowOf "cannot open " ++ path ++ rowOf (": " ++ openReason "No such file" fault)
        else
          rowOf "cannot create " ++ path ++ rowOf (": " ++ openReason "Directory nonexistent" fault)
      return some text

/-- Makes a redirection. The answer is why it fails, if it does. -/
def redirect (redirection : KnownRedirection) : Session (Option Row) := do
  let stream := redirection.stream
  let target := redirection.target
  match redirection.kind with
  | .read => connectFile stream .read target
  | .append => connectFile stream .append target
  | .update => connectFile stream .update target
  | .overwrite => connectFile stream .write target
  | .write =>
      let shell ← get
      if shell.has 'C' && (← disk).isFile (textOf target) then
        return some (if shell.isExtended then target ++ rowOf ": cannot overwrite existing file"
          else rowOf "cannot create " ++ target ++ rowOf ": File exists")
      connectFile stream .write target
  | .writeAll | .appendAll =>
      let mode := if redirection.kind = .writeAll then OpenMode.write else OpenMode.append
      match ← connectFile 1 mode target with
      | some message => return some message
      | none =>
          Act.connect 2 (← Act.openingOf 1)
          return none
  | .document | .line =>
      let opening ← Act.newOpening { target := .text (packed target), isRead := true }
      Act.connect stream (some opening)
      return none
  | .duplicate =>
      if target = ['-'] then
        Act.connect stream none
        return none
      else
        match ← Act.openingOf (Text.digitsValue target) with
        | some opening =>
            Act.connect stream (some opening)
            return none
        | none => return some (target ++ rowOf ": Bad file descriptor")

/-- Makes redirections up to the first that fails. The answer is why it
fails. -/
def redirectAll : List KnownRedirection → Session (Option Row)
  | [] => return none
  | redirection :: rest => do
      match ← redirect redirection with
      | some message => return some message
      | none => redirectAll rest

/-- Takes a step under redirections. When one of them fails, the other step is taken
instead. Afterwards they are undone unless they are to stay, or the process goes on as
a program. -/
def underRedirections (redirections : List KnownRedirection) (stay : Bool)
    (failed step : Session Unit) : Session Unit := do
  if redirections.isEmpty then step
  else
    let before ← Act.self
    let streams := (redirections.flatMap KnownRedirection.streams).eraseDups
    let openings := streams.filterMap fun stream => before.streams.lookup stream
    Act.changeSelf fun process => { process with kept := openings ++ process.kept }
    let isDone ← redirectAll redirections
    let left ← catching do
      match isDone with
      | some message =>
          complain message (faultStatus (← get))
          failed
      | none => step
    let undo := isDone.isSome || !(stay || left.any Leave.isBecoming)
    Act.changeSelf fun process =>
      let process := { process with kept := process.kept.drop openings.length }
      if undo then
        streams.foldl (fun process stream =>
          process.withStream stream (before.streams.lookup stream)) process
      else process
    resuming left

end TestAmplification.Shell
