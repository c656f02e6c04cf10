import TestAmplification.Shell.Script.Extended.Assignments
import TestAmplification.Shell.Script.Variables

/-!
# Reading in the extended dialect

The input is read up to a mark, or so many characters of it, into variables or into a list. A
list can also get all lines of the input.
-/

set_option autoImplicit false

namespace TestAmplification.Shell

open Session

/-! ## Reading one piece -/

/-- How a piece of the input is read. -/
structure PieceRule where
  /-- The stream. -/
  stream : Nat
  /-- The character that ends it, unless none does. -/
  ending : Option Char
  /-- The most characters. -/
  limit : Option Nat
  /-- Do backslashes stand for themselves? -/
  isRaw : Bool

/-- Reads characters one by one up to the end of a piece. The answer says, too, whether the piece
is complete. -/
def readPiece (rule : PieceRule) : Nat → Nat → List Glyph × Bool → Session (List Glyph × Bool)
  | 0, _, (before, _) => return (before.reverse, false)
  | steps + 1, count, (before, isEscaped) => do
      if rule.limit == some count then return (before.reverse, true)
      else
        match ((← Act.readSome rule.stream 1).toOption.getD []).head? with
        | none => return (before.reverse, false)
        | some character =>
            if rule.ending == some character && !isEscaped then return (before.reverse, true)
            else if isEscaped && character = '\n' then readPiece rule steps count (before, false)
            else
              let (glyphs, isEscaped) := withCharacter rule.isRaw (before, isEscaped) character
              readPiece rule steps (if isEscaped then count else count + 1) (glyphs, isEscaped)

/-- All fields of a line. -/
def fieldsOfLine (separators : List Char) : Nat → List Glyph → List Row
  | 0, _ => []
  | _ + 1, [] => []
  | steps + 1, line =>
      let (field, rest) := firstField separators line
      field.map Prod.fst :: fieldsOfLine separators steps rest

/-- Fills variables with the fields of a line; the last one gets the rest. -/
def fillTargets (separators : List Char) : List Row → List Glyph → Session Unit
  | [], _ => return
  | [target], line => setFor target ((lastField separators line).map Prod.fst)
  | target :: targets, line => do
      let (field, rest) := firstField separators line
      setFor target (field.map Prod.fst)
      fillTargets separators targets rest

/-- The stream that the value of an option denotes. -/
def streamOption (options : List (Char × Row)) : Session Nat := do
  match optionValue? options 'u' with
  | none => return 0
  | some value =>
      match Text.digits? value with
      | none =>
          remark (value ++ rowOf ": invalid file descriptor specification")
          leave .fault
      | some stream =>
          if (← Act.openingOf stream).isNone then
            remark (value ++ rowOf ": invalid file descriptor: Bad file descriptor")
            leave .fault
          return stream

/-- The number that the value of an option denotes. -/
def countOption (options : List (Char × Row)) (letter : Char) (message : String) :
    Session (Option Nat) := do
  match optionValue? options letter with
  | none => return none
  | some value =>
      match Text.digits? value with
      | some count => return some count
      | none =>
          remark (value ++ rowOf message)
          leave .fault

/-- Is the text a time in seconds? -/
def isTime (text : Row) : Bool :=
  !text.isEmpty && text.all (fun character => character.isDigit || character = '.')
    && text.count '.' ≤ 1

/-- Reads a line or another piece of the input into variables. -/
def readExtended : Builtin := fun arguments => do
  let use : BuiltinUse := {
    letters := "ers", valued := "adinNptu"
    usage := "read [-ers] [-a array] [-d delim] [-i text] [-n nchars] [-N nchars] [-p prompt] "
      ++ "[-t timeout] [-u fd] [name ...]" }
  let (options, names) ← use.take arguments
  let limit ← countOption options 'n' ": invalid number"
  let exact ← countOption options 'N' ": invalid number"
  match optionValue? options 't' with
  | some time =>
      if !isTime time then
        remark (time ++ rowOf ": invalid timeout specification")
        leave .fault
  | none => pure ()
  let stream ← streamOption options
  let list := optionValue? options 'a'
  match (list.toList ++ names).find? fun name => (targetOf? name).isNone with
  | some name =>
      remark (noIdentifier name)
      leave .fault
  | none => pure ()
  if optionValue? options 't' = some ['0'] then finish 0
  else
    let isRaw := options.any fun option => option.1 == 'r'
    let ending :=
      if exact.isSome then none
      else
        match optionValue? options 'd' with
        | some mark => some (mark.head?.getD '\x00')
        | none => some '\n'
    let (line, isComplete) ←
      if ending == some '\n' && limit.isNone then
        readLineWith stream isRaw Act.patience ([], false)
      else readPiece { stream, ending, limit := exact.or limit, isRaw } Act.patience 0 ([], false)
    let separators := (← get).separators
    finish (if isComplete then 0 else 1)
    let trimmed := line.dropWhile (isBlankSeparator separators)
    match list, names with
    | some list, _ =>
        let name := String.ofList (list.takeWhile continuesName)
        refuseIfFixed name
        storeList name false ((fieldsOfLine separators (line.length + 1) trimmed).map (none, ·))
    | none, [] => setFor (rowOf "REPLY") (line.map Prod.fst)
    | none, names =>
        if exact.isSome then
          fillTargets [] names line
        else fillTargets separators names trimmed

/-! ## Reading all lines -/

/-- Reads a line with its end, perhaps ended by another mark. Nothing is the end of the
input. -/
def readWholeLine (stream : Nat) (ending : Char) : Nat → List Row → Session Row
  | 0, before => return before.reverse.flatten
  | steps + 1, before => do
      let piece ←
        if ending = '\n' then Act.readTowardsLine stream
        else pure ((← Act.readSome stream 1).toOption.getD [])
      if piece.isEmpty || piece.getLast? == some ending then
        return (piece :: before).reverse.flatten
      else readWholeLine stream ending steps (piece :: before)

/-- Reads lines, at most so many; those before come last first. -/
def readWholeLines (stream : Nat) (ending : Char) : Nat → List Row → Session (List Row)
  | 0, before => return before.reverse
  | steps + 1, before => do
      let line ← readWholeLine stream ending Act.patience []
      if line.isEmpty then return before.reverse
      else readWholeLines stream ending steps (line :: before)

/-- Reads the lines of the input into a list. -/
def mapLines : Builtin := fun arguments => do
  let use : BuiltinUse := {
    letters := "t", valued := "cCdnOsu"
    usage := "mapfile [-d delim] [-n count] [-O origin] [-s count] [-t] [-u fd] [-C callback] "
      ++ "[-c quantum] [array]" }
  let (options, names) ← use.take arguments
  let count ← countOption options 'n' ": invalid line count"
  let skipped ← countOption options 's' ": invalid line count"
  let origin ← countOption options 'O' ": invalid array origin"
  let stream ← streamOption options
  let target := names.head?.getD (rowOf "MAPFILE")
  if !isName target then
    remark (noIdentifier target)
    leave .fault
  let name := (← get).target (String.ofList target)
  refuseIfFixed name
  let ending :=
    match optionValue? options 'd' with
    | some mark => mark.head?.getD '\x00'
    | none => '\n'
  let _ ← readWholeLines stream ending (skipped.getD 0) []
  let most := (count.filter (· > 0)).getD Act.patience
  let lines ← readWholeLines stream ending most []
  let trims := options.any fun option => option.1 == 't'
  let lines := lines.map fun line =>
    let line := if trims && line.getLast? == some ending then line.dropLast else line
    line.filter (· != '\x00')
  finish 0
  modify (·.changeElements name fun elements =>
    match origin with
    | none => .ofList lines
    | some first =>
        lines.zipIdx.foldl (fun elements (line, index) =>
          elements.set (.number (first + index)) line) elements)

end TestAmplification.Shell
