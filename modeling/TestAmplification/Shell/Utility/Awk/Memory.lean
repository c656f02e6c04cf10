import TestAmplification.Shell.Utility.Awk.Formats
import TestAmplification.Shell.Utility.Awk.Syntax

/-!
# What programs of `awk` remember, read and write

Variables, arrays and fields, and the records that a program reads and writes.
-/

set_option autoImplicit false

/-!
## Variables, arrays and fields of `awk`

The record and its fields are two views of one text. Whichever was set last makes the other
one as soon as somebody looks at it (`State.withFields`, `State.withRecord`). Some variables
mean something to the program: `NF` is the number of fields, `FS` keeps them apart, and `RS`
says where a record ends.

An element of an array is there as soon as somebody uses it.
-/

namespace TestAmplification.Shell.Awk

/-! ### Parts of a text -/

namespace Separator

/-- Does the character keep words apart? -/
def isBlank (character : Char) : Bool :=
  character == ' ' || character == '\t' || character == '\n'

/-- The words of a row. Those before come last first, and the present one comes last
character first. -/
def wordsWith : List Row → Row → Row → List Row
  | before, word, [] => (if word.isEmpty then before else word.reverse :: before).reverse
  | before, word, first :: rest =>
      if !isBlank first then wordsWith before (first :: word) rest
      else if word.isEmpty then wordsWith before [] rest
      else wordsWith (word.reverse :: before) [] rest

/-- The parts of a row between places that are not empty, from a place on. -/
def between (row : Row) (place : Nat) : List Regex.Found → List Row
  | [] => [row]
  | found :: rest =>
      if found.start = found.finish then between row place rest
      else
        row.take (found.start - place)
          :: between (row.drop (found.finish - place)) found.finish rest

/-- The parts of a text. -/
def cut (separator : Separator) (row : Row) : List Row :=
  if row.isEmpty then []
  else
    match separator with
    | blanks => wordsWith [] [] row
    | nothing => row.map ([·])
    | character mark => cutAtEach mark row
    | regex expression => between row 0 (expression.allMatches { characters := row.toArray })

end Separator

/-! ### Variables -/

namespace State

/-- What a name stands for. What the function under way has of its own comes first. -/
def cellOf (state : State) (name : String) : Cell :=
  match state.own.lookup name with
  | some cell => cell
  | none => (state.globals[name]?).getD (.value .absent)

/-- The state where a name stands for something else. -/
def withCell (state : State) (name : String) (cell : Cell) : State :=
  if (state.own.lookup name).isSome then
    { state with
      own := state.own.map fun entry => if entry.1 == name then (name, cell) else entry }
  else { state with globals := state.globals.insert name cell }

/-- The state with a variable that all of the program sees. -/
def withVariable (state : State) (name : String) (value : Value) : State :=
  { state with globals := state.globals.insert name (.value value) }

/-- The value of a variable that all of the program sees. -/
def valueOf (state : State) (name : String) : Value :=
  match state.globals[name]? with
  | some (.value value) => value
  | _ => .absent

/-- The text of a variable that means something to the program. -/
def setting (state : State) (name : String) : Row :=
  valueRow plainFormat (state.valueOf name)

/-- The text of a value. -/
def textOf (state : State) (value : Value) : Row :=
  value.toRow fun number => numberRow (state.setting "CONVFMT") number

/-- The text of a value as it is written. -/
def shown (state : State) (value : Value) : Row :=
  value.toRow fun number => numberRow (state.setting "OFMT") number

/-- The message of a fault while the program runs, with how far its input was read. -/
def messageOf (state : State) (message : Row) : Row :=
  rowOf "run time error: " ++ message ++ rowOf "\n\tFILENAME=\"" ++ state.setting "FILENAME"
    ++ rowOf "\" FNR=" ++ state.setting "FNR" ++ rowOf " NR=" ++ state.setting "NR"

/-! ### The record and its fields -/

/-- The state where the fields are those of the record. -/
def withFields (state : State) : State :=
  if state.isSplit then state
  else
    { state with
      isSplit := true
      fields := ((state.separator.cut state.record).map Value.given).toArray }

/-- The state where the record is made of the fields. -/
def withRecord (state : State) : State :=
  if state.isJoined then state
  else
    { state with
      isJoined := true
      record := joinWith (state.setting "OFS") (state.fields.toList.map state.textOf) }

/-- The state with another record. -/
def setRecord (state : State) (row : Row) : State :=
  { state with record := row, isJoined := true, isSplit := false, fields := #[] }

/-- The state with so many fields. -/
def setFieldCount (state : State) (count : Nat) : State :=
  let state := state.withFields
  let fields := state.fields.extract 0 count
  { state with
    isJoined := false
    fields := fields ++ Array.replicate (count - fields.size) (.given []) }

/-- The state with another field. -/
def setField (state : State) (index : Nat) (value : Value) : State :=
  match index with
  | 0 => state.setRecord (state.textOf value)
  | place + 1 =>
      let state := state.withFields
      let state := if state.fields.size > place then state else state.setFieldCount (place + 1)
      { state with isJoined := false, fields := state.fields.set! place value }

/-! ### Arrays -/

/-- The value of an element, and the state where it was used. -/
def useElement (state : State) (number : Nat) (subscript : Subscript) : Value × State :=
  let value := ((state.arrays[number]?).bind fun collection => collection.find? subscript).getD .absent
  (value, { state with
    arrays := state.arrays.modify number fun collection => collection.insert subscript value })

end State

/-! ### Steps -/

namespace Steps

/-- Fails in the middle of the program. -/
def runtimeFault {Result : Type} (message : Row) : Steps Result := do
  fault ((← get).messageOf message)

/-- The text of a value. -/
def textOf (value : Value) : Steps Row := do
  match value with
  | .text row | .given row => return row
  | value => return (← get).textOf value

/-- The record. -/
def record : Steps Row := do
  modify State.withRecord
  return (← get).record

/-- The expression of a pattern. -/
def regexAt (pattern : Row) : Steps Regex := do
  match (← get).regexes[pattern]? with
  | some regex => return regex
  | none =>
      match regexOf pattern with
      | .ok regex =>
          modify fun state => { state with regexes := state.regexes.insert pattern regex }
          return regex
      | .error message => runtimeFault message

/-- The separator that a text stands for. -/
def separatorAt (row : Row) : Steps Separator := do
  match row with
  | [] => return .nothing
  | [' '] => return .blanks
  | [mark] => return .character mark
  | pattern => return .regex (← regexAt pattern)

/-- The end of a record that a text stands for. -/
def recordEndAt (row : Row) : Steps RecordEnd := do
  match row with
  | [] => return .paragraph
  | [mark] => return .character mark
  | pattern => return .regex (← regexAt pattern)

/-! ### Fields -/

/-- The field with a number; that with the number zero is the record. -/
def field (index : Nat) : Steps Value := do
  match index with
  | 0 => return .given (← record)
  | place + 1 =>
      modify State.withFields
      return ((← get).fields[place]?).getD (.given [])

/-- The number of the field that a value stands for. -/
def fieldIndex (value : Value) : Steps Nat := do
  let index := wordOf value.toNumber
  if index < 0 then runtimeFault (rowOf "negative field index $" ++ intRow index)
  else return index.toNat

/-! ### Variables -/

/-- The value of a variable. -/
def valueOf (name : String) : Steps Value := do
  if name = "NF" then
    modify State.withFields
    return .number (Float.ofNat (← get).fields.size)
  else
    match (← get).cellOf name with
    | .value value => return value
    | _ => return .absent

/-- Sets a variable. -/
def setVariable (name : String) (value : Value) : Steps Unit := do
  if name = "NF" then
    let count := wordOf value.toNumber
    if count < 0 then runtimeFault (rowOf "negative value assigned to NF")
    modify fun state => state.setFieldCount count.toNat
  else
    if name = "FS" then
      modify State.withFields
      let separator ← separatorAt (← textOf value)
      modify fun state => { state with separator }
    else if name = "RS" then
      let recordEnd ← recordEndAt (← textOf value)
      modify fun state => { state with recordEnd }
    modify fun state => state.withCell name (.value value)

/-! ### Arrays -/

/-- The number of a new array. -/
def newArray : Steps Nat :=
  modifyGet fun state => (state.nextArray, { state with nextArray := state.nextArray + 1 })

/-- The number of the array that a name stands for. -/
def arrayNumber (name : String) : Steps Nat := do
  let known (number : Nat) : Steps Nat := do
    modify fun state =>
      if state.arrays.contains number then state
      else { state with arrays := state.arrays.insert number {} }
    return number
  match (← get).cellOf name with
  | .array number => known number
  | .fresh number =>
      modify fun state => state.withCell name (.array number)
      known number
  | .value _ =>
      let number ← newArray
      modify fun state => state.withCell name (.array number)
      known number

/-- Changes an array. -/
def changeArray (number : Nat) (change : Collection → Collection) : Steps Unit :=
  modify fun state => { state with arrays := state.arrays.modify number change }

/-- The array with a number. -/
def array (number : Nat) : Steps Collection := do
  return ((← get).arrays[number]?).getD {}

/-- The subscript that values stand for. -/
def subscriptOf (values : List Value) : Steps Subscript := do
  match values with
  | [.number number] =>
      let row ← textOf (.number number)
      return { row, number := if number.floor == number && number.abs < 1e15 then intOf? row else none }
  | [value] => return { row := ← textOf value }
  | values =>
      let rows ← values.mapM textOf
      return { row := joinWith ((← get).setting "SUBSEP") rows }

/-- The value of an element. -/
def element (number : Nat) (subscript : Subscript) : Steps Value :=
  modifyGet fun state => state.useElement number subscript

/-- Does an array have an element? -/
def hasElement (number : Nat) (subscript : Subscript) : Steps Bool :=
  modifyGet fun state =>
    if ((state.arrays[number]?).any fun collection => collection.holds subscript) then
      (true, (state.useElement number subscript).2)
    else (false, state)

/-! ### Places -/

/-- Where a value can be put. -/
inductive Slot where
  /-- Into a variable. -/
  | named (name : String)
  /-- Into an element of the array with a number. -/
  | element (array : Nat) (subscript : Subscript)
  /-- Into a field. -/
  | field (index : Nat)
deriving Inhabited

/-- The value at a place. -/
def valueAt : Slot → Steps Value
  | .named name => valueOf name
  | .element array subscript => element array subscript
  | .field index => field index

/-- Puts a value to a place. -/
def put (slot : Slot) (value : Value) : Steps Unit := do
  match slot with
  | .named name => setVariable name value
  | .element array subscript =>
      changeArray array fun collection => collection.insert subscript value
  | .field index => modify fun state => state.setField index value

end Steps

end TestAmplification.Shell.Awk

/-!
## What a program of `awk` reads and writes

Each place that is written to has its own store. It is emptied when it is full, when the place
is closed, and in front of everything that others could write next: commands that are started,
and the end.

Records come from the inputs that the arguments name, one after the other. An argument can also
set a variable; that happens when its turn comes.
-/

namespace TestAmplification.Shell.Awk

namespace Steps

/-! ### Writing -/

/-- The most that is kept for a place. -/
def mostKept : Nat := 4096

/-- Writes what is kept for a place. -/
def flushSink (sink : Sink) : Steps Unit := do
  match (← get).unwritten.lookup sink with
  | some (pieces, size) =>
      if size > 0 then
        modify fun state => { state with
          unwritten := state.unwritten.map fun entry =>
            if entry.1 == sink then (sink, [], 0) else entry }
        let _ ← ask (.write sink pieces.reverse.flatten)
  | none => return

/-- Writes all that is kept. -/
def flushAll : Steps Unit := do
  ((← get).unwritten.map Prod.fst).forM flushSink

/-- Opens a place to write to. -/
def prepare (sink : Sink) : Steps Unit := do
  match sink with
  | .named kind name =>
      if kind = .command then flushAll
      let answer ← ask (.prepare sink)
      if answer.status < 0 then
        fault (rowOf "cannot open \"" ++ name ++ rowOf "\" for output (" ++ answer.row ++ [')'])
  | _ => return

/-- Writes to a place. -/
def write (sink : Sink) (row : Row) : Steps Unit := do
  if sink = .errors then
    let _ ← ask (.write sink row)
  else
    let kept := (← get).unwritten.lookup sink
    if kept.isNone then prepare sink
    let (pieces, size) := kept.getD ([], 0)
    let size := size + row.length
    modify fun state => { state with
      unwritten := (sink, row :: pieces, size) :: state.unwritten.filter (·.1 != sink) }
    if size ≥ mostKept then flushSink sink

/-- The place that a kind and a name stand for. -/
def sinkOf (kind : SinkKind) (name : Row) : Sink :=
  if kind = .command then .named kind name
  else if name = rowOf "/dev/stdout" then .standard
  else if name = rowOf "/dev/stderr" then .errors
  else .named kind name

/-- Is the place one that was opened under a name? -/
def isNamed (name : Row) : Sink → Bool
  | .named _ other => name == other
  | _ => false

/-- Closes all that a name stands for. The answer is the status of a command, or a negative
number if nothing was open. -/
def closeAll (name : Row) : Steps Int := do
  let closed := ((← get).unwritten.map Prod.fst).filter (isNamed name)
  closed.forM flushSink
  modify fun state => { state with
    unwritten := state.unwritten.filter fun entry => !isNamed name entry.1
    sources := state.sources.filter (· != name) }
  return (← ask (.close name)).status

/-- Writes what is kept for a name, or for the standard output. -/
def flushNamed (name : Option Row) : Steps Int := do
  match name with
  | none =>
      flushSink .standard
      return 0
  | some name =>
      let outlets := ((← get).unwritten.map Prod.fst).filter fun sink =>
        isNamed name sink || sink == sinkOf .file name
      outlets.forM flushSink
      return if outlets.isEmpty then -1 else 0

/-- Runs a command. The answer is its status. -/
def system (command : Row) : Steps Int := do
  flushAll
  return (← ask (.system command)).status

/-- Closes the commands that read what the program wrote, and writes all that is kept. -/
def finish : Steps Unit := do
  let commands := (← get).unwritten.filterMap fun entry =>
    match entry.1 with
    | .named .command name => some name
    | _ => none
  commands.forM fun name => do
    let _ ← closeAll name
  flushAll

/-! ### Reading -/

/-- The variable and the value of an argument that sets one. -/
def assignment? (argument : Row) : Option (String × Row) :=
  let name := argument.takeWhile isNameCharacter
  match argument.drop name.length with
  | '=' :: value =>
      if name.isEmpty || (name.head?.map Char.isDigit).getD true then none
      else some (String.ofList name, unescapedRow value)
  | _ => none

/-- Opens an input. -/
def openInput (path : Row) : Steps Unit := do
  let answer ← ask (.input path)
  if answer.status < -1 then fault (rowOf "read error (" ++ answer.row ++ [')'])
  if answer.status < 0 then
    fault (rowOf "cannot open \"" ++ path ++ rowOf "\" (" ++ answer.row ++ [')'])
  modify fun state => { state with hasInput := true, hadInput := true }
  setVariable "FILENAME" (.given path)
  setVariable "FNR" (.number 0.0)

/-- Opens the next input that an argument names, or the standard input if none does. The answer
says whether there is one. At most so many arguments are looked at. -/
def openNext : Nat → Steps Bool
  | 0 => return false
  | steps + 1 => do
      let state ← get
      if state.nextOperand < wordOf (state.valueOf "ARGC").toNumber then
        let number := state.nextOperand
        modify fun state => { state with nextOperand := number + 1 }
        let arguments ← array (← arrayNumber "ARGV")
        let argument ← textOf ((arguments.find? { row := natRow number }).getD .absent)
        if argument.isEmpty then openNext steps
        else
          match assignment? argument with
          | some (name, value) =>
              setVariable name (.given value)
              openNext steps
          | none =>
              openInput argument
              return true
      else if state.hadInput then return false
      else
        openInput ['-']
        return true

/-- Adds one to a variable. -/
def count (name : String) : Steps Unit :=
  modify fun state => state.withVariable name (.number ((state.valueOf name).toNumber + 1.0))

/-- A record from a source. Nothing is the end, or something that cannot be opened; then the
second result is true. -/
def recordFrom (source : LineSource) (name : Row) : Steps (Option Row × Bool) := do
  let answer ← ask (.record source name (← get).recordEnd)
  if answer.status > 0 then return (some answer.row, false)
  else if answer.status < 0 && !answer.row.isEmpty then
    fault (rowOf "read error (" ++ answer.row ++ [')'])
  else return (none, decide (answer.status < 0))

/-- The next record of the inputs, if there is one, after at most so many inputs. -/
def nextRecordWithin : Nat → Steps (Option Row)
  | 0 => return none
  | steps + 1 => do
      if (← get).hasInput then
        match ← recordFrom .inputs [] with
        | (some row, _) =>
            count "NR"
            count "FNR"
            return some row
        | (none, _) =>
            modify fun state => { state with hasInput := false }
            nextRecordWithin steps
      else if ← openNext 1000000 then nextRecordWithin steps
      else return none

/-- The next record of the inputs, if there is one. -/
def nextRecord : Steps (Option Row) :=
  nextRecordWithin 1000000

/-- A record from a file or a command. Nothing is the end, or something that cannot be opened;
then the second result is true. -/
def otherRecord (source : LineSource) (name : Row) : Steps (Option Row × Bool) := do
  if source = .command && !(← get).sources.contains name then
    flushAll
    modify fun state => { state with sources := name :: state.sources }
  recordFrom source name

end Steps

end TestAmplification.Shell.Awk
