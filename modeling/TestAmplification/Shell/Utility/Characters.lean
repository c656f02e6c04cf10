import TestAmplification.Shell.Script.Pattern
import TestAmplification.Shell.Utility.Passing

/-!
# Utilities for characters

`tr` replaces, removes and squeezes characters, `fold` breaks long lines, `expand`
and `unexpand` turn tabs into blanks and back.

A set of characters is written as a list in which ranges, classes in brackets and
repetitions in brackets stand for several characters. A backslash escapes.
-/

set_option autoImplicit false

namespace TestAmplification.Shell

open Tool

/-! ## Sets -/

/-- The character that a letter behind a backslash stands for. -/
def letterEscape? (letter : Char) : Option Char :=
  [('a', '\x07'), ('b', '\x08'), ('t', '\t'), ('n', '\n'), ('v', '\x0b'), ('f', '\x0c'),
    ('r', '\r')].lookup letter

/-- Is the character a digit of eight? -/
def isOctalDigit (character : Char) : Bool :=
  '0' ≤ character && character ≤ '7'

/-- The number that digits of eight denote. -/
def octalValue (digits : Row) : Nat :=
  digits.foldl (fun value digit => 8 * value + Text.digitValue digit) 0

/-- The characters of a written set, each with the answer whether it was
escaped. -/
def unescapedSet : Nat → Row → List Glyph
  | 0, _ => []
  | _ + 1, [] => []
  | _ + 1, ['\\'] => [('\\', true)]
  | steps + 1, '\\' :: letter :: rest =>
      let digits := ((letter :: rest).take 3).takeWhile isOctalDigit
      if digits.isEmpty then ((letterEscape? letter).getD letter, true) :: unescapedSet steps rest
      else
        (Char.ofNat (octalValue digits % 256), true)
          :: unescapedSet steps ((letter :: rest).drop digits.length)
  | steps + 1, character :: rest => (character, false) :: unescapedSet steps rest

/-- A part of a set. -/
inductive SetPart where
  /-- Some characters. -/
  | characters (characters : Row)
  /-- A class by its name. -/
  | named (name : Row)
  /-- A character, repeated so often or as often as needed. -/
  | repeated (character : Char) (count : Option Nat)
deriving DecidableEq, Inhabited

/-- All bytes. -/
def allBytes : Row :=
  (List.range 256).map Char.ofNat

/-- The parts of a written set, in at most so many steps. -/
def setParts : Nat → List Glyph → Tool (List SetPart)
  | 0, _ => return []
  | _ + 1, [] => return []
  | steps + 1, glyph :: rest => do
      let single : Tool (List SetPart) := do
        match rest with
        | ('-', false) :: (high, _) :: others =>
            let low := glyph.1
            if high < low then
              fail (rowOf "range-endpoints of '" ++ [low, '-', high]
                ++ rowOf "' are in reverse collating sequence order") 1
            let members := (List.range (high.toNat + 1 - low.toNat)).map fun offset =>
              Char.ofNat (low.toNat + offset)
            return .characters members :: (← setParts steps others)
        | _ => return .characters [glyph.1] :: (← setParts steps rest)
      match glyph, rest with
      | ('[', false), (':', false) :: inner =>
          let name := (inner.takeWhile fun other => other.1 != ':').map Prod.fst
          match inner.drop name.length with
          | (':', false) :: (']', false) :: others =>
              if !classNames.contains (String.ofList name) then
                fail (rowOf "invalid character class '" ++ name ++ ['\'']) 1
              return .named name :: (← setParts steps others)
          | _ => single
      | ('[', false), ('=', false) :: (member, _) :: ('=', false) :: (']', false) :: others =>
          return .characters [member] :: (← setParts steps others)
      | ('[', false), (member, _) :: ('*', false) :: inner =>
          let digits := (inner.map Prod.fst).takeWhile Char.isDigit
          match inner.drop digits.length with
          | (']', false) :: others =>
              let number :=
                if digits.head? == some '0' then octalValue digits else Text.digitsValue digits
              return .repeated member (if number = 0 then none else some number)
                :: (← setParts steps others)
          | _ => single
      | _, _ => single

/-- The characters of the parts of a set, where a repetition without a count fills
up to a length. -/
def charactersOf (length : Nat) (parts : List SetPart) : Row :=
  let fixed := (parts.map fun part =>
    match part with
    | .characters characters => characters.length
    | .named name => (allBytes.filter (classHolds name)).length
    | .repeated _ count => count.getD 0).foldl (· + ·) 0
  parts.flatMap fun part =>
    match part with
    | .characters characters => characters
    | .named name => allBytes.filter (classHolds name)
    | .repeated character count => List.replicate (count.getD (length - fixed)) character

/-- The parts of a written set. -/
def readSet (text : Row) : Tool (List SetPart) := do
  let glyphs := unescapedSet (text.length + 1) text
  if text.getLast? == some '\\' && glyphs.getLast? == some ('\\', true)
      && (text.reverse.takeWhile (· == '\\')).length % 2 == 1 then
    warn (rowOf "warning: an unescaped backslash at end of string is not portable")
  setParts (glyphs.length + 1) glyphs

/-- How bytes are changed, byte by byte. -/
structure ByteMapping where
  /-- What every byte becomes. -/
  map : ByteArray
  /-- The bytes that are left out, each by its number. -/
  removed : ByteArray
  /-- The bytes of which runs become one. -/
  squeezed : ByteArray

namespace ByteMapping

/-- The bytes from an index on after the change, behind others. The last byte written so far is
given by its number, and comes with the answer. -/
def apply (mapping : ByteMapping) (bytes : ByteArray) :
    Nat → Nat → Nat → ByteArray → ByteArray × Nat
  | 0, _, last, written => (written, last)
  | steps + 1, index, last, written =>
      let byte := (bytes.get! index).toNat
      if mapping.removed.get! byte = 1 then
        apply mapping bytes steps (index + 1) last written
      else
        let changed := mapping.map.get! byte
        if mapping.squeezed.get! changed.toNat = 1 && changed.toNat = last then
          apply mapping bytes steps (index + 1) last written
        else apply mapping bytes steps (index + 1) changed.toNat (written.push changed)

end ByteMapping

/-- Checks that classes of letters in the second set stand where the first has
some. -/
def checkClasses (first second : List SetPart) : Tool Unit := do
  let isCase (part : SetPart) : Bool :=
    part == .named "upper".toList || part == .named "lower".toList
  if second.any fun part => !isCase part && (match part with | .named _ => true | _ => false) then
    fail (rowOf ("when translating, the only character classes that may appear in\n"
      ++ "string2 are 'upper' and 'lower'")) 1
  let starts (parts : List SetPart) : List Nat :=
    (List.range parts.length).filterMap fun index =>
      if (parts[index]?.map isCase).getD false then
        some (charactersOf 0 (parts.take index)).length
      else none
  if (starts second).any fun start => !(starts first).contains start then
    fail (rowOf "misaligned [:upper:] and/or [:lower:] construct") 1

/-- How `tr` changes bytes. -/
def mappingOf (arguments : Arguments) (first : List SetPart)
    (second : Option (List SetPart)) : ByteMapping :=
  let inverted := arguments.has 'c'
  let listed := charactersOf 0 first
  let domain := if inverted then allBytes.filter fun byte => !listed.contains byte else listed
  let table (members : Row) : ByteArray :=
    members.foldl (fun table member => table.set! member.toNat 1) (packed (List.replicate 256 '\x00'))
  let targets := (second.map (charactersOf domain.length)).getD []
  let same := packed allBytes
  let squeezed := if arguments.has 's' then targets else []
  if arguments.has 'd' then { map := same, removed := table domain, squeezed := table squeezed }
  else
    match second with
    | none => { map := same, removed := table [], squeezed := table domain }
    | some _ =>
        let pairs := (if arguments.has 't' then domain.take targets.length else domain).zip
          (targets ++ List.replicate (domain.length - targets.length) (targets.getLast?.getD 'x'))
        let map := pairs.foldl (fun (map : ByteArray) (source, target) =>
          map.set! source.toNat (UInt8.ofNat target.toNat)) same
        { map, removed := table [], squeezed := table squeezed }

/-- Passes on the input with its bytes changed. The last byte written so far is given by its
number. -/
def passMapped (mapping : ByteMapping) : Nat → Nat → Tool Nat
  | 0, _ => return 0
  | steps + 1, last => do
      match ← Act.receiveSome 0 Act.readingSize with
      | .error fault => fail (rowOf ("read error: " ++ fault.reason)) 1
      | .ok bytes =>
          if bytes.isEmpty then return 0
          Act.work (bytes.size / 8)
          let (written, last) :=
            mapping.apply bytes bytes.size 0 last (ByteArray.emptyWithCapacity bytes.size)
          putBytes written
          passMapped mapping steps last

/-- Replaces, removes or squeezes characters of the input. -/
def tr : Utility := fun arguments => do
  let arguments ← parseInFront
    [long 'c' "complement", long 'd' "delete", long 's' "squeeze-repeats",
      long 't' "truncate-set1", long 'C' ""] arguments
  let arguments := if arguments.has 'C' then arguments.add 'c' [] else arguments
  let (deletes, squeezes) := (arguments.has 'd', arguments.has 's')
  match arguments.operands with
  | [] => usage (rowOf "missing operand")
  | [first] =>
      if deletes && squeezes then
        warn (rowOf "missing operand after " ++ quotedText first)
        warnRow (rowOf "Two strings must be given when both deleting and squeezing repeats.\n")
        hint
      if !deletes && !squeezes then
        warn (rowOf "missing operand after " ++ quotedText first)
        warnRow (rowOf "Two strings must be given when translating.\n")
        hint
  | [_, second] =>
      if deletes && !squeezes then
        warn (rowOf "extra operand " ++ quotedText second)
        warnRow (rowOf ("Only one string may be given when deleting without"
          ++ " squeezing repeats.\n"))
        hint
  | _ :: _ :: extra :: _ => usage (rowOf "extra operand " ++ quotedText extra)
  let first ← readSet (arguments.operands.head?.getD [])
  let second ← arguments.operands[1]?.mapM readSet
  match second with
  | some parts =>
      if !deletes then
        if parts.isEmpty && !arguments.has 't' then
          fail (rowOf "when not truncating set1, string2 must be non-empty") 1
        checkClasses first parts
  | none => pure ()
  passMapped (mappingOf arguments first second) Act.patience 256

/-! ## Columns -/

/-- The column after a character. -/
def columnAfter (inBytes : Bool) (column : Nat) (character : Char) : Nat :=
  if inBytes then column + 1
  else if character = '\x08' then column - 1
  else if character = '\r' then 0
  else if character = '\t' then column / 8 * 8 + 8
  else column + 1

/-- The column after some characters. -/
def columnAfterAll (inBytes : Bool) (row : Row) : Nat :=
  row.foldl (columnAfter inBytes) 0

/-- A line broken so that its pieces are not wider than a width, behind blanks if
that is wanted. The characters of the present piece come last first. -/
def foldedLine (width : Nat) (inBytes atBlanks : Bool) : Nat → Nat → Row → Row → List Row
  | 0, _, piece, rest => [piece.reverse ++ rest]
  | _ + 1, _, piece, [] => [piece.reverse]
  | steps + 1, column, piece, character :: rest =>
      let next := columnAfter inBytes column character
      if next ≤ width || piece.isEmpty then
        foldedLine width inBytes atBlanks steps next (character :: piece) rest
      else
        let after := piece.takeWhile fun other => other != ' ' && other != '\t'
        if atBlanks && after.length < piece.length then
          (piece.drop after.length).reverse
            :: foldedLine width inBytes atBlanks steps (columnAfterAll inBytes after.reverse) after
              (character :: rest)
        else
          piece.reverse :: foldedLine width inBytes atBlanks steps 0 [] (character :: rest)

/-- Breaks long lines of each input. -/
def fold : Utility := fun arguments => do
  let arguments :=
    match arguments with
    | ('-' :: digit :: more) :: rest =>
        if digit.isDigit then (rowOf "-w" ++ digit :: more) :: rest else arguments
    | _ => arguments
  let arguments ← parseArguments
    [long 'w' "width" .some, long 's' "spaces", long 'b' "bytes"] arguments
  let text := (arguments.value? 'w').getD (rowOf "80")
  match Text.digits? text with
  | none => fail (rowOf "invalid number of columns: " ++ quotedText text) 1
  | some 0 =>
      fail (rowOf "invalid number of columns: " ++ quotedText text
        ++ rowOf ": Numerical result out of range") 1
  | some width =>
      overLines '\n' plainComplaint (fun row => do
        let lines := (rowLines row).flatMap fun line =>
          foldedLine width (arguments.has 'b') (arguments.has 's') (2 * line.length + 2) 0 [] line
        put (if endsLine row then joinRows lines else (joinRows lines).dropLast)) arguments.operands

/-! ## Tabs -/

/-- The next column where a tab ends. Behind the last of several stops a tab is a
single blank. -/
def nextStop (stops : List Nat) (column : Nat) : Nat :=
  match stops with
  | [size] => column / max 1 size * max 1 size + max 1 size
  | stops => (stops.find? (column < ·)).getD (column + 1)

/-- A row with blanks for its tabs. -/
def expandedRow (stops : List Nat) (onlyFirst : Bool) (row : Row) : Row :=
  let step (state : Row × Nat × Bool) (character : Char) : Row × Nat × Bool :=
    let (written, column, inFront) := state
    if character = '\n' then ('\n' :: written, 0, true)
    else if character = '\t' && (inFront || !onlyFirst) then
      let next := nextStop stops column
      (List.replicate (next - column) ' ' ++ written, next, inFront)
    else if character = '\x08' then (character :: written, column - 1, inFront)
    else (character :: written, column + 1, inFront && (character == ' ' || character == '\t'))
  (row.foldl step ([], 0, true)).1.reverse

/-- The columns where tabs end that a list of numbers gives. -/
def stopsOf (text : Option Row) : List Nat :=
  match text with
  | none => [8]
  | some text =>
      let numbers := (text.splitBy fun first second => first.isDigit == second.isDigit).filterMap
        Text.digits?
      if numbers.isEmpty then [8] else numbers

/-- Turns tabs of each input into blanks. -/
def expand : Utility := fun arguments => do
  let arguments ← parseArguments [long 't' "tabs" .some, long 'i' "initial"] arguments
  overLines '\n' plainComplaint (fun row =>
    put (expandedRow (stopsOf (arguments.value? 't')) (arguments.has 'i') row)) arguments.operands

/-- A line with tabs for runs of blanks, at most so many steps. Blanks that were
passed over wait until it is known whether they reach a stop. -/
def unexpandedLine (stops : List Nat) (everywhere : Bool) :
    Nat → Nat → Nat → Bool → Row → Row
  | 0, _, _, _, rest => rest
  | _ + 1, _, blanks, _, [] => List.replicate blanks ' '
  | steps + 1, column, blanks, converts, character :: rest =>
      if converts && character = ' ' then
        let next := column + 1
        if nextStop stops (column - blanks) = next && (blanks > 0 || next % 8 ≠ 0 || !everywhere)
        then '\t' :: unexpandedLine stops everywhere steps next 0 converts rest
        else unexpandedLine stops everywhere steps next (blanks + 1) converts rest
      else if converts && character = '\t' then
        '\t' :: unexpandedLine stops everywhere steps (nextStop stops column) 0 converts rest
      else
        List.replicate blanks ' ' ++ character
          :: unexpandedLine stops everywhere steps (column + 1) 0 everywhere rest

/-- Turns blanks of each input into tabs. -/
def unexpand : Utility := fun arguments => do
  let arguments ← parseArguments
    [long 't' "tabs" .some, long 'a' "all", long 'f' "first-only"] arguments
  let everywhere := (arguments.has 'a' || arguments.has 't') && !arguments.has 'f'
  overLines '\n' plainComplaint (fun row => do
    let lines := (rowLines row).map fun line =>
      unexpandedLine (stopsOf (arguments.value? 't')) everywhere (line.length + 1) 0 0 true line
    put (if endsLine row then joinRows lines else (joinRows lines).dropLast)) arguments.operands

end TestAmplification.Shell
