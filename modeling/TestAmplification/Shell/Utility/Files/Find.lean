import TestAmplification.Shell.Utility.Files.Listing
import TestAmplification.Shell.Utility.Files.Transfer
import TestAmplification.Shell.Utility.Launching
import TestAmplification.Shell.Utility.Paths
import TestAmplification.Shell.Utility.Regex

/-!
# The program `find`

`find` goes through directories and asks an expression about every path that it comes
to. Expressions are conditions joined by operators; some conditions do something with
the path. A path is shown when the expression holds and nothing in it says what else
to do.
-/

set_option autoImplicit false

namespace TestAmplification.Shell

open Tool

namespace Find

/-! ## Expressions -/

/-- How a number is compared with another one. -/
inductive Comparison where
  /-- It is the same. -/
  | exactly (number : Nat)
  /-- It is greater. -/
  | above (number : Nat)
  /-- It is less. -/
  | below (number : Nat)

/-- Does a number fit? -/
def Comparison.holds : Comparison → Nat → Bool
  | exactly wanted, number => number == wanted
  | above limit, number => number > limit
  | below limit, number => number < limit

/-- What a pattern is compared with. -/
inductive Compared where
  /-- The last name of the path. -/
  | name
  /-- The whole path. -/
  | path

/-- A condition that only looks at a path. -/
inductive Condition where
  /-- The name or the path fits a pattern; the flag says whether case does not
  matter. -/
  | fits (subject : Compared) (pattern : Row) (foldsCase : Bool)
  /-- The whole path matches an expression. -/
  | matchesWhole (regex : Regex) (foldsCase : Bool)
  /-- It is of one of the kinds that letters stand for. The flag says whether links are seen the
  other way than by the search. -/
  | ofKind (letters : List Char) (isOther : Bool)
  /-- It is a link to a path that fits a pattern; the flag says whether case does not
  matter. -/
  | leadsTo (pattern : Row) (foldsCase : Bool)
  /-- Nothing is in it. -/
  | isEmpty
  /-- It takes so many units of so many bytes. -/
  | hasSize (size : Comparison) (unit : Nat)
  /-- It was changed after a tick. -/
  | changedAfter (tick : Int)
  /-- It was changed so many units of so many seconds ago. -/
  | hasAge (age : Comparison) (unit : Nat)
  /-- Its mode has exactly, all or any of the given bits. -/
  | hasMode (mark : Char) (mode : Nat)
  /-- It may be run or entered. -/
  | mayEnter
  /-- So many names lead to it. -/
  | hasLinks (count : Comparison)
  /-- It is at a place. -/
  | isAt (place : Place)
  /-- The same for all paths. -/
  | always (value : Bool)

/-- What is done with a path. -/
inductive Action where
  /-- It is shown, with a character behind it. -/
  | tell (ending : Char)
  /-- It is shown in a format. -/
  | write (format : Row)
  /-- It is shown with details. -/
  | list
  /-- It is removed. -/
  | delete
  /-- A command is run for it. The flags say whether that happens in its directory, and
  whether somebody is asked before. -/
  | run (command : List Row) (inPlace asks : Bool)
  /-- A command is run for it and others together, under a number. -/
  | gather (number : Nat) (command : List Row)
  /-- Nothing below it is looked at. -/
  | prune
  /-- The search ends. -/
  | quit

/-- An expression. -/
inductive Expression where
  /-- A condition. -/
  | condition (condition : Condition)
  /-- Something to do. -/
  | action (action : Action)
  /-- The opposite. -/
  | not (inner : Expression)
  /-- Both; the second counts only if the first holds. -/
  | and (first second : Expression)
  /-- One of them; the second counts only if the first does not hold. -/
  | or (first second : Expression)
  /-- The second, after the first. -/
  | after (first second : Expression)

/-- Does the expression say what to do with paths? -/
def Expression.acts : Expression → Bool
  | condition _ => false
  | action .prune => false
  | action _ => true
  | not inner => inner.acts
  | and first second | or first second | after first second => first.acts || second.acts

/-! ## Reading expressions -/

/-- How a search goes, as far as it has been read. -/
structure Plan where
  /-- The arguments that are left. -/
  rest : List Row := []
  /-- The argument that was read last. -/
  last : Row := []
  /-- The most levels below a start. -/
  deepest : Option Nat := none
  /-- The least levels below a start. -/
  highest : Nat := 0
  /-- Does a directory come after what is in it? -/
  isDeepFirst : Bool := false
  /-- Which links are followed: none, those that are named, or all. -/
  links : Char := 'P'
  /-- The commands that are run for many paths together, the last one first. -/
  gathered : List (List Row) := []

/-- Steps through the arguments. -/
abbrev Reader := StateT Plan Tool

/-- Refuses an expression. -/
def refuse {α : Type} (message : Row) : Reader α :=
  liftM (fail (α := α) message 1)

/-- A text between the quotes of messages. -/
def marked (text : Row) : Row :=
  '\x60' :: text ++ ['\'']

/-- Takes the argument of a condition. -/
def operand (name : Row) : Reader Row := do
  match (← get).rest with
  | argument :: rest =>
      modify fun plan => { plan with rest, last := argument }
      return argument
  | [] => refuse (rowOf "missing argument to " ++ marked name)

/-- The comparison that a text asks for. -/
def comparison? (text : Row) : Option Comparison :=
  match text with
  | '+' :: digits => (Text.digits? digits).map .above
  | '-' :: digits => (Text.digits? digits).map .below
  | digits => (Text.digits? digits).map .exactly

/-- Takes a comparison. -/
def comparison (name : Row) : Reader Comparison := do
  let text ← operand name
  match comparison? text with
  | some comparison => return comparison
  | none => refuse (rowOf "invalid argument " ++ marked text ++ rowOf " to " ++ marked name)

/-- Takes a number of levels. -/
def levels (name : Row) : Reader Nat := do
  let text ← operand name
  match Text.digits? text with
  | some number => return number
  | none =>
      refuse (rowOf "Expected a positive decimal integer argument to " ++ name ++ rowOf ", but got "
        ++ quoted text)

/-- Takes a command up to the sign that ends it. The flag says whether it takes many
paths together. -/
def command (name : Row) : Nat → List Row → Reader (List Row × Bool)
  | 0, _ => refuse (rowOf "missing argument to " ++ marked name)
  | steps + 1, words => do
      match (← get).rest with
      | [] => refuse (rowOf "missing argument to " ++ marked name)
      | word :: rest =>
          modify fun plan => { plan with rest, last := word }
          if word = [';'] then
            if words.isEmpty then refuse (rowOf "missing argument to " ++ marked name)
            else return (words.reverse, false)
          else if word = ['+'] && words.head? == some (rowOf "\x7b\x7d") then
            return (words.reverse, true)
          else command name steps (word :: words)

/-- Reads a condition or an action by its name. -/
def primary (name : Row) : Reader Expression := do
  let yes : Expression := .condition (.always true)
  let condition (condition : Condition) : Reader Expression := return .condition condition
  let age (unit : Nat) : Reader Expression := do
    return .condition (.hasAge (← comparison name) unit)
  match String.ofList name with
  | "-name" => condition (.fits .name (← operand name) false)
  | "-iname" => condition (.fits .name (← operand name) true)
  | "-path" | "-wholename" => condition (.fits .path (← operand name) false)
  | "-ipath" | "-iwholename" => condition (.fits .path (← operand name) true)
  | "-regex" | "-iregex" =>
      let text ← operand name
      match Regex.parse { isExtended := false } text with
      | .ok regex => condition (.matchesWhole regex (name == rowOf "-iregex"))
      | .error fault => refuse (rowOf fault.message)
  | "-type" | "-xtype" =>
      let text ← operand name
      let letters := text.filter (· != ',')
      match letters.find? fun letter => !(['f', 'd', 'l', 'c', 'b', 'p', 's'].contains letter) with
      | some letter => refuse (rowOf "Unknown argument to " ++ name ++ rowOf ": " ++ [letter])
      | none => condition (.ofKind letters (name == rowOf "-xtype"))
  | "-lname" => condition (.leadsTo (← operand name) false)
  | "-ilname" => condition (.leadsTo (← operand name) true)
  | "-empty" => condition .isEmpty
  | "-size" =>
      let text ← operand name
      let units : List (Char × Nat) :=
        [('c', 1), ('w', 2), ('b', 512), ('k', 1024), ('M', 1048576), ('G', 1073741824)]
      match text.getLast?.bind fun letter => units.lookup letter, comparison? text.dropLast, comparison? text with
      | some unit, some size, _ => condition (.hasSize size unit)
      | none, _, some size => condition (.hasSize size 512)
      | _, _, _ => refuse (rowOf "Invalid argument " ++ marked text ++ rowOf " to -size")
  | "-newer" | "-anewer" | "-cnewer" =>
      let path ← operand name
      let disk ← disk
      match statusOfPath disk (textOf path) with
      | .ok status => condition (.changedAfter status.tick)
      | .error fault => refuse (quoted path ++ rowOf (": " ++ fault.reason))
  | "-mtime" | "-atime" | "-ctime" => age 86400
  | "-mmin" | "-amin" | "-cmin" => age 60
  | "-perm" =>
      let text ← operand name
      let (mark, mode) :=
        match text with
        | '-' :: mode => ('-', mode)
        | '/' :: mode => ('/', mode)
        | mode => ('=', mode)
      match applyMode 0 false mode 0 with
      | some mode => condition (.hasMode mark mode)
      | none => refuse (rowOf "invalid mode " ++ quoted text)
  | "-executable" => condition .mayEnter
  | "-readable" | "-writable" | "-true" => return yes
  | "-false" | "-nouser" | "-nogroup" => condition (.always false)
  | "-links" => condition (.hasLinks (← comparison name))
  | "-samefile" =>
      let path ← operand name
      match statusOfPath (← disk) (textOf path) with
      | .ok status => condition (.isAt status.place)
      | .error fault => refuse (quoted path ++ rowOf (": " ++ fault.reason))
  | "-user" | "-group" | "-uid" | "-gid" =>
      let text ← operand name
      condition (.always (text == rowOf "root" || text == ['0']))
  | "-maxdepth" =>
      let number ← levels name
      modify fun plan => { plan with deepest := some number }
      return yes
  | "-mindepth" =>
      let number ← levels name
      modify fun plan => { plan with highest := number }
      return yes
  | "-depth" | "-d" =>
      modify fun plan => { plan with isDeepFirst := true }
      return yes
  | "-follow" =>
      modify fun plan => { plan with links := 'L' }
      return yes
  | "-xdev" | "-mount" | "-daystart" | "-noleaf" | "-warn" | "-nowarn"
  | "-ignore_readdir_race" => return yes
  | "-regextype" =>
      let _ ← operand name
      return yes
  | "-print" => return .action (.tell '\n')
  | "-print0" => return .action (.tell '\x00')
  | "-printf" => return .action (.write (← operand name))
  | "-ls" => return .action .list
  | "-delete" =>
      modify fun plan => { plan with isDeepFirst := true }
      return .action .delete
  | "-prune" => return .action .prune
  | "-quit" => return .action .quit
  | "-exec" | "-execdir" | "-ok" | "-okdir" =>
      let (words, isMany) ← command name ((← get).rest.length + 1) []
      let inPlace := name == rowOf "-execdir" || name == rowOf "-okdir"
      if isMany && !inPlace then
        let number := (← get).gathered.length
        modify fun plan => { plan with gathered := words.dropLast :: plan.gathered }
        return .action (.gather number words.dropLast)
      else return .action (.run words inPlace ((rowOf "-ok").isPrefixOf name))
  | _ =>
      if name.head? == some '-' then refuse (rowOf "unknown predicate " ++ marked name)
      else
        warn (rowOf "paths must precede expression: " ++ marked name)
        let before := (← get).last
        if ["-name", "-iname", "-path", "-wholename"].any fun known => rowOf known == before then
          refuse (rowOf "possible unquoted pattern after predicate " ++ marked before ++ ['?'])
        else liftM (leave (α := Expression) 1)

/-- Is the argument one of the given words? -/
def isWord (words : List String) (argument : Row) : Bool :=
  words.any fun word => rowOf word == argument

/-- What is read as an expression. -/
inductive Level where
  /-- Expressions one after the other. -/
  | sequence
  /-- Alternatives. -/
  | alternatives
  /-- Conditions that must all hold. -/
  | conditions
  /-- One condition. -/
  | single

/-- Reads an expression of a level, in at most so many steps. -/
def expression : Nat → Level → Reader Expression
  | 0, _ => refuse (rowOf "expression is too long")
  | steps + 1, level => do
      let binary (words : List String) (tighter : Level) (again : Level)
          (join : Expression → Expression → Expression) : Reader Expression := do
        let first ← expression steps tighter
        match (← get).rest with
        | word :: rest =>
            if isWord words word then
              modify fun plan => { plan with rest }
              if rest.isEmpty then
                refuse (rowOf "expected an expression after " ++ quoted word)
              return join first (← expression steps again)
            else return first
        | [] => return first
      match level with
      | .sequence => binary [","] .alternatives .sequence .after
      | .alternatives => binary ["-o", "-or"] .conditions .alternatives .or
      | .conditions =>
          let first ← expression steps .single
          match (← get).rest with
          | [] => return first
          | word :: rest =>
              if isWord ["-o", "-or", ",", ")"] word then return first
              else
                if isWord ["-a", "-and"] word then
                  modify fun plan => { plan with rest }
                  if rest.isEmpty then
                    refuse (rowOf "expected an expression after " ++ quoted word)
                return .and first (← expression steps .conditions)
      | .single =>
          match (← get).rest with
          | [] => refuse (rowOf "expected an expression")
          | word :: rest =>
              modify fun plan => { plan with rest }
              if isWord ["!", "-not"] word then
                if rest.isEmpty then refuse (rowOf "expected an expression after " ++ quoted word)
                return .not (← expression steps .single)
              else if word = ['('] then
                if rest.isEmpty then
                  refuse (rowOf ("invalid expression; expected to find a ')' but didn't see one."
                    ++ " Perhaps you need an extra predicate after '('"))
                if rest.head? = some [')'] then
                  refuse (rowOf "invalid expression; empty parentheses are not allowed.")
                let inner ← expression steps .sequence
                match (← get).rest with
                | [')'] :: rest =>
                    modify fun plan => { plan with rest }
                    return inner
                | _ =>
                    refuse (rowOf ("invalid expression; I was expecting to find a ')' somewhere"
                      ++ " but did not see one."))
              else if isWord ["-a", "-and", "-o", "-or", ","] word then
                refuse (rowOf "invalid expression; you have used a binary operator " ++ quoted word
                  ++ rowOf " with nothing before it.")
              else if word = [')'] then
                refuse (rowOf "invalid expression; you have too many ')'")
              else
                let read ← primary word
                modify fun plan => { plan with last := word }
                return read

/-! ## Conditions -/

/-- A path that the search came to. -/
structure Found where
  /-- The path. -/
  path : Row
  /-- The start that it lies below. -/
  start : Row
  /-- How many levels it lies below the start. -/
  depth : Nat
  /-- What stands there. -/
  status : PathStatus

/-- Does a condition hold? -/
def Condition.holds (disk : Disk) (now : Int) (found : Found) : Condition → Bool
  | fits subject pattern foldsCase =>
      let text :=
        match subject with
        | .name => baseName found.path
        | .path => found.path
      let fold (row : Row) : Row := if foldsCase then row.map Char.toLower else row
      matchesPattern ((fold pattern).map (·, false)) (fold text)
  | matchesWhole regex foldsCase =>
      let size := found.path.length
      (regex.matchEnding { characters := found.path.toArray, foldsCase } (· == size) 0).isSome
  | ofKind letters isOther =>
      let self := (statusOfSelf disk (textOf found.path)).toOption.getD found.status
      let status :=
        if !isOther then found.status
        else if found.status.isLink then
          (statusOfPath disk (textOf found.path)).toOption.getD found.status
        else if self.isLink then self
        else found.status
      letters.contains status.kind.typeLetter
  | leadsTo pattern foldsCase =>
      let fold (row : Row) : Row := if foldsCase then row.map Char.toLower else row
      found.status.isLink
        && matchesPattern ((fold pattern).map (·, false)) (fold (rowOf found.status.target))
  | isEmpty =>
      match found.status.kind with
      | .directory => (disk.tree.namesIn found.status.place).isEmpty
      | .file => found.status.size == 0
      | _ => false
  | hasSize size unit => size.holds ((found.status.size + unit - 1) / unit)
  | changedAfter tick => found.status.tick > tick
  | hasAge age unit =>
      age.holds ((now - found.status.changed).toNat / 1000000000 / unit)
  | hasMode mark mode =>
      let own := found.status.mode
      if mark = '-' then Nat.land own mode == mode
      else if mark = '/' then mode == 0 || Nat.land own mode != 0
      else own == mode
  | mayEnter => found.status.mayEnter
  | hasLinks count => count.holds found.status.names
  | isAt place => (disk.namesOf place).contains found.status.place
  | always value => value

/-! ## Actions -/

/-- How far a search has come. -/
structure Progress where
  /-- The paths that wait for commands, with the numbers of the commands, the last one
  first. -/
  gathered : List (Nat × Row) := []
  /-- Is what lies below the present path left out? -/
  isPruned : Bool := false
  /-- Is the search at its end? -/
  isOver : Bool := false
  /-- The status so far. -/
  status : Nat := 0

/-- Steps of a search. -/
abbrev Steps := StateT Progress Tool

/-- What a path is called below its start. -/
def wayBelow (found : Found) : Row :=
  let way := found.path.drop found.start.length
  if way.head? == some '/' then way.drop 1 else way

/-- A detail of a path in a format. -/
def detail? (disk : Disk) (found : Found) (letter : Char) : Option Row :=
  let status := found.status
  match letter with
  | 'p' => some found.path
  | 'f' => some (baseName found.path)
  | 'h' =>
      some (if found.path.contains '/' then directoryName found.path else ['.'])
  | 'P' => some (wayBelow found)
  | 'H' => some found.start
  | 'd' => some (natRow found.depth)
  | 's' => some (natRow status.size)
  | 'y' => some [status.kind.typeLetter]
  | 'Y' =>
      some [((statusOfPath disk (textOf found.path)).toOption.map fun status =>
        status.kind.typeLetter).getD 'N']
  | 'm' => some (modeDigits status.mode)
  | 'M' => some status.letters
  | 'u' | 'g' => some (rowOf "root")
  | 'U' | 'G' => some ['0']
  | 'n' => some (natRow status.names)
  | 'l' => some (rowOf status.target)
  | 'k' => some (natRow (blockCount status))
  | 'b' => some (natRow (2 * blockCount status))
  | 'i' => some (natRow (fileNumber disk status.place))
  | 't' | 'a' | 'c' => some (formattedMoment status.changed (rowOf "%a %b %e %H:%M:%S.%N0 %Y"))
  | _ => none

/-- A path in a format, in at most so many steps. -/
def formatted (disk : Disk) (found : Found) : Nat → Row → Row
  | 0, _ => []
  | _ + 1, [] => []
  | steps + 1, '%' :: rest =>
      let flags := rest.takeWhile fun flag => ['-', '0', '+', ' ', '#'].contains flag
      let digits := (rest.drop flags.length).takeWhile Char.isDigit
      let fill (row : Row) : Row :=
        let width := (Text.digits? digits).getD 0
        if flags.contains '-' then padRight width row
        else if flags.contains '0' then padZeros width row
        else padLeft width row
      match rest.drop (flags.length + digits.length) with
      | [] => ['%']
      | '%' :: more => '%' :: formatted disk found steps more
      | 'T' :: '@' :: more =>
          fill (formattedMoment found.status.changed (rowOf "%s.%N0")) ++ formatted disk found steps more
      | 'T' :: letter :: more =>
          fill (formattedMoment found.status.changed ['%', letter]) ++ formatted disk found steps more
      | letter :: more =>
          match detail? disk found letter with
          | some row => fill row ++ formatted disk found steps more
          | none => '%' :: letter :: formatted disk found steps more
  | steps + 1, '\\' :: letter :: rest =>
      match letterEscape? letter with
      | some character => character :: formatted disk found steps rest
      | none =>
          if isOctalDigit letter then
            let digits := ((letter :: rest).take 3).takeWhile isOctalDigit
            byteOf (octalValue digits) :: formatted disk found steps ((letter :: rest).drop digits.length)
          else if letter = '\\' then '\\' :: formatted disk found steps rest
          else '\\' :: letter :: formatted disk found steps rest
  | steps + 1, character :: rest => character :: formatted disk found steps rest

/-- Runs a command and says whether it succeeded. -/
def succeeds (command : List Row) (place : Option Place) : Tool Bool := do
  let environment := (← read).environment
  let name := command.head?.getD []
  match ← programPath environment name with
  | .error fault =>
      warn (quoted name ++ rowOf (": " ++ fault.reason))
      return false
  | .ok path =>
      let child ← Act.start (.program path command environment) fun process =>
        { process with place := place.getD process.place }
      return (← Act.awaitEnding child) == .code 0

/-- Does something with a path. The answer says whether that holds. -/
def Action.perform (found : Found) : Action → Steps Bool
  | .tell ending => do
      put (found.path ++ [ending])
      return true
  | .write format => do
      put (formatted (← disk) found (format.length + 1) format)
      return true
  | .list => do
      let disk ← disk
      let entry : ListedEntry := { name := found.path, path := found.path, status := found.status }
      let fields := longFields {} disk entry
      putLine (padLeft 9 (natRow (fileNumber disk found.status.place)) ++ ' '
        :: padLeft 6 (natRow (blockCount found.status)) ++ ' ' :: joinWith [' '] fields
        ++ ' ' :: longName {} disk entry)
      return true
  | .delete => do
      if found.path = ['.'] then return true
      let removed ←
        if found.status.isDirectory then Act.removeDirectory (textOf found.path)
        else Act.removeFile (textOf found.path)
      match removed with
      | .ok () => return true
      | .error fault =>
          warn (rowOf "cannot delete " ++ quoted found.path ++ rowOf (": " ++ fault.reason))
          modify fun progress => { progress with status := 1 }
          return false
  | .run command inPlace asks => do
      let name := if inPlace then rowOf "./" ++ baseName found.path else found.path
      let words := command.take 1 ++ (command.drop 1).map fun word =>
        joinWith name (cutAtText (rowOf "\x7b\x7d") word)
      if asks then
        warnRow (rowOf "< " ++ words.head?.getD [] ++ rowOf " ... " ++ name ++ rowOf " > ? ")
        let line := ((← liftM standardInput).toOption).getD []
        if line.head? != some 'y' && line.head? != some 'Y' then return false
      succeeds words (if inPlace then some found.status.place.dropLast else none)
  | .gather number _ => do
      modify fun progress => { progress with gathered := (number, found.path) :: progress.gathered }
      return true
  | .prune => do
      modify fun progress => { progress with isPruned := true }
      return true
  | .quit => do
      modify fun progress => { progress with isOver := true }
      return true

/-- Asks an expression about a path. -/
def Expression.holds (found : Found) : Expression → Steps Bool
  | condition asked => do
      let disk ← disk
      return asked.holds disk disk.clock found
  | action deed => deed.perform found
  | not inner => do return !(← inner.holds found)
  | and first second => do
      if ← first.holds found then second.holds found else return false
  | or first second => do
      if ← first.holds found then return true else second.holds found
  | after first second => do
      let _ ← first.holds found
      second.holds found

/-- What a search finds at a path, when links are followed or not. A link that leads nowhere is
found itself. -/
def statusSeen (disk : Disk) (plan : Plan) (depth : Nat) (path : Row) :
    Except FileFault PathStatus :=
  let self := statusOfSelf disk (textOf path)
  if plan.links = 'L' || plan.links = 'H' && depth = 0 then
    match statusOfPath disk (textOf path) with
    | .ok status => .ok status
    | .error _ => self
  else self

/-- Goes through a path and what lies below it, at most so many levels deep. The directories on
the way come with their paths. -/
def search (plan : Plan) (expression : Expression) (start : Row) :
    Nat → Nat → List (Place × Row) → Row → Steps Unit
  | 0, _, _, _ => return
  | levels + 1, depth, way, path => do
      if (← get).isOver then return
      let disk ← disk
      match statusSeen disk plan depth path with
      | .error fault =>
          warn (quoted path ++ rowOf (": " ++ fault.reason))
          modify fun progress => { progress with status := 1 }
      | .ok status =>
        match if status.isDirectory then way.lookup status.place else none with
        | some earlier =>
          warn (rowOf "File system loop detected; " ++ quoted path
            ++ rowOf " is part of the same file system loop as " ++ quoted earlier ++ ['.'])
          modify fun progress => { progress with status := 1 }
        | none =>
          let found : Found := { path, start, depth, status }
          let ask : Steps Unit := do
            if depth ≥ plan.highest then
              let _ ← expression.holds found
          modify fun progress => { progress with isPruned := false }
          if !plan.isDeepFirst then ask
          let mayGoOn := (plan.deepest.map fun deepest => decide (depth < deepest)).getD true
          let isPruned := (← get).isPruned && !plan.isDeepFirst
          if status.isDirectory && mayGoOn && !isPruned then
            ((← liftM Tool.disk).tree.namesIn status.place).forM fun name =>
              search plan expression start levels (depth + 1) ((status.place, path) :: way)
                (inDirectory path (rowOf name))
          if plan.isDeepFirst then
            if !(← get).isOver then ask

end Find

/-- Finds paths. -/
def find : Utility := fun given => do
  let (settings, given) := given.span fun argument =>
    [['-', 'L'], ['-', 'P'], ['-', 'H']].contains argument
  let isStart (argument : Row) : Bool :=
    !((argument.head? == some '-' && argument.length > 1) || argument == ['!'] || argument == ['('])
  let (starts, rest) := given.span isStart
  let starts := if starts.isEmpty then [['.']] else starts
  let begun : Find.Plan := { rest, links := (settings.getLast?.bind List.getLast?).getD 'P' }
  let everything : Find.Expression := .condition (.always true)
  let (expression, plan) ←
    if rest.isEmpty then pure (everything, begun)
    else (Find.expression (4 * rest.length + 8) .sequence).run begun
  if plan.rest.head? = some [')'] then
    fail (rowOf "invalid expression; you have too many ')'") 1
  let expression :=
    if expression.acts then expression else .and expression (.action (.tell '\n'))
  let (_, progress) ← (starts.forM fun start =>
    Find.search plan expression start 200 0 [] start).run {}
  let statuses ← plan.gathered.reverse.zipIdx.mapM fun (command, number) => do
    let paths := (progress.gathered.filter fun entry => entry.1 == number).reverse.map Prod.snd
    if paths.isEmpty then return 0
    if ← Find.succeeds (command ++ paths) none then return 0 else return 1
  return statuses.foldl max progress.status

end TestAmplification.Shell
