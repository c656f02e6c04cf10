import TestAmplification.Shell.Utility.Awk.Grammar
import TestAmplification.Shell.Utility.Awk.Run
import TestAmplification.Shell.Utility.Launching

/-!
# The program `awk`

What a program of `awk` is connected with, and how it is run.
-/

set_option autoImplicit false

/-!
## What programs of `awk` are connected with

A program asks for what it needs from outside (`Request`), and here it gets its answers. Files
and commands stay connected with it until it closes them or ends. A command that reads what the
program writes is waited for then.
-/

namespace TestAmplification.Shell.Awk

open Tool

/-- Something that is read. -/
structure Channel where
  /-- Where it is read from. -/
  opening : Nat
  /-- What was read and not used. -/
  held : Row := []
  /-- Was all of it read? -/
  isOver : Bool := false
  /-- The process that writes it, if it is a command. -/
  writer : Option Nat := none
deriving Inhabited

/-- Something that is written. -/
structure Outlet where
  /-- The place that it stands for. -/
  sink : Sink
  /-- Where it is written to. -/
  opening : Nat
  /-- The process that reads it, if it is a command. -/
  reader : Option Nat := none
deriving Inhabited

/-- All that a program is connected with. -/
structure Channels where
  /-- The input. -/
  input : Option Channel := none
  /-- What else is read, with its names. -/
  others : List ((LineSource × Row) × Channel) := []
  /-- What is written. -/
  outlets : List Outlet := []
deriving Inhabited

/-- Steps with what the program is connected with. -/
abbrev Served := StateT Channels Tool

/-- The work of a step of a program. -/
def stepEffort : Nat := 8

/-! ### Records -/

/-- The number of bytes that are read at a time. -/
def blockSize : Nat := 4096

/-- The first record of a row of which all is known, and what follows it. -/
def takeRecord (ending : RecordEnd) (row : Row) : Row × Row :=
  match ending with
  | .character mark =>
      let record := row.takeWhile (· != mark)
      (record, row.drop (record.length + 1))
  | .paragraph =>
      let lines := cutAtEach '\n' (row.dropWhile (· == '\n'))
      let record := lines.takeWhile fun line => !line.isEmpty
      let rest := joinWith ['\n'] (lines.drop record.length)
      (joinWith ['\n'] record, rest.dropWhile (· == '\n'))
  | .regex regex =>
      let found := (regex.allMatches { characters := row.toArray }).find? fun found =>
        found.start < found.finish
      match found with
      | some found => (row.take found.start, row.drop found.finish)
      | none => (row, [])

/-- Is a row without any record? -/
def hasNoRecord (ending : RecordEnd) (row : Row) : Bool :=
  match ending with
  | .paragraph => row.all (· == '\n')
  | _ => row.isEmpty

/-- Is the first record of a row known, whatever follows the row? -/
def isComplete (ending : RecordEnd) (row : Row) : Bool :=
  match ending with
  | .character mark => row.contains mark
  | _ => false

/-- Reads the next record, in at most so many blocks. The answer comes with the channel
afterwards. -/
def readRecord (ending : RecordEnd) : Nat → Channel → Tool (Answer × Channel)
  | 0, channel => return ({ status := 0 }, channel)
  | steps + 1, channel => do
      if isComplete ending channel.held || channel.isOver then
        if hasNoRecord ending channel.held then return ({ status := 0 }, channel)
        let (row, rest) := takeRecord ending channel.held
        return ({ status := 1, row }, { channel with held := rest })
      match ← Act.readOnce Act.patience channel.opening blockSize with
      | .error fault => return ({ status := -1, row := rowOf fault.reason }, channel)
      | .ok [] => readRecord ending steps { channel with isOver := true }
      | .ok piece => readRecord ending steps { channel with held := channel.held ++ piece }

/-! ### Commands -/

/-- Starts a command with one of its streams connected to an opening. The answer is its
process. -/
def startCommand (command : Row) (change : Process → Process) : Tool Nat := do
  let environment := (← read).environment
  Act.start (.program (rowOf "/bin/sh") [rowOf "sh", rowOf "-c", command] environment) change

/-- The status of a command in a program. -/
def commandStatus : ExitStatus → Int
  | .code status => status
  | .signal signal => 256 + signal

/-- Waits for a command, if there is one. -/
def awaitCommand (process : Option Nat) : Tool Int := do
  match process with
  | some number => return commandStatus (← Act.awaitEnding number)
  | none => return 0

namespace Served

/-- The channel that lines are read from, which is opened if need be. -/
def channelOf (source : LineSource) (name : Row) : Served (Option Channel) := do
  match source with
  | .inputs => return (← get).input
  | .file =>
      match (← get).others.lookup (source, name) with
      | some channel => return some channel
      | none =>
          match ← openInput name with
          | .ok opening =>
              Act.keep opening
              return some { opening }
          | .error _ => return none
  | .command =>
      match (← get).others.lookup (source, name) with
      | some channel => return some channel
      | none =>
          let (outlet, inlet) ← Act.newPipe
          Act.keep outlet
          let writer ← startCommand name fun process => process.withStream 1 (some inlet)
          return some { opening := outlet, writer := some writer }

/-- Keeps the channel of a source for later. -/
def keepChannel (source : LineSource) (name : Row) (channel : Channel) : Served Unit :=
  modify fun channels =>
    match source with
    | .inputs => { channels with input := some channel }
    | source =>
        { channels with
          others := ((source, name), channel) :: channels.others.filter (·.1 != (source, name)) }

/-- Opens a place to write to. -/
def prepare (sink : Sink) : Served Answer := do
  match sink with
  | .named .command name =>
      let (outlet, inlet) ← Act.newPipe
      Act.keep inlet
      let reader ← startCommand name fun process => process.withStream 0 (some outlet)
      modify fun channels => { channels with
        outlets := { sink, opening := inlet, reader := some reader } :: channels.outlets }
      return { status := 1 }
  | .named kind name =>
      match ← Act.openPath (if kind = .added then .append else .write) (textOf name) with
      | .ok opening =>
          Act.keep opening
          modify fun channels => { channels with outlets := { sink, opening } :: channels.outlets }
          return { status := 1 }
      | .error fault => return { status := -1, row := rowOf fault.reason }
  | _ => return { status := 1 }

/-- Writes to a place. -/
def write (sink : Sink) (row : Row) : Served Unit := do
  match sink with
  | .standard =>
      if let .error fault ← Act.write 1 row then
        Tool.fail (rowOf ("close failed on file \"/dev/stdout\" (" ++ fault.reason ++ ")")) 2
  | .errors => let _ ← Act.write 2 row
  | sink =>
      if let some outlet := (← get).outlets.find? (·.sink == sink) then
        let _ ← Act.writeOpening outlet.opening row

/-- Closes all that has a name. The status is that of the last command. -/
def close (name : Row) : Served Answer := do
  let channels ← get
  let outlets := channels.outlets.filter fun outlet => Steps.isNamed name outlet.sink
  let others := channels.others.filter fun entry => entry.1.2 == name
  set { channels with
    outlets := channels.outlets.filter fun outlet => !Steps.isNamed name outlet.sink
    others := channels.others.filter fun entry => entry.1.2 != name }
  let ended := outlets.map (fun outlet => (outlet.opening, outlet.reader))
    ++ others.map fun entry => (entry.2.opening, entry.2.writer)
  let status ← ended.foldlM (fun _ (opening, process) => do
    Act.letGo opening
    awaitCommand process) (-1)
  return { status }

/-- Answers what a program asks for. -/
def answer (request : Request) : Served Answer := do
  match request with
  | .prepare sink => prepare sink
  | .write sink row =>
      write sink row
      return {}
  | .close name => close name
  | .input path =>
      match ← openInput path with
      | .ok opening =>
          Act.keep opening
          keepChannel .inputs [] { opening }
          return { status := 1 }
      | .error (.opening fault) => return { status := -1, row := rowOf fault.reason }
      | .error (.reading fault) => return { status := -2, row := rowOf fault.reason }
  | .record source name ending =>
      match ← channelOf source name with
      | none => return { status := -1 }
      | some channel =>
          let (answer, channel) ← readRecord ending Act.patience channel
          keepChannel source name channel
          return answer
  | .system command =>
      let child ← startCommand command fun process => process
      return { status := ← awaitCommand (some child) }
  | .moment => return { status := (← disk).clock / 1000000000 }
  | .work effort =>
      Act.work (stepEffort * effort)
      return {}

/-- Runs a program with the answers that it asks for. The answer is its last state, and how it
left what it was at, if it did. -/
def serve : Turn Unit → Served (Option Leave × State)
  | .done () state => return (none, state)
  | .left leave state => return (some leave, state)
  | .asks request state resume => do
      let answer ← answer request
      serve (resume answer state)

end Served

end TestAmplification.Shell.Awk

/-!
## The program `awk`

`awk` runs a program that looks for patterns in its inputs and says what is to be done with
them. The program is the first operand, unless files hold it.
-/

namespace TestAmplification.Shell

open Tool Awk

/-- How `awk` is called. -/
def awkManual : Row := rowOf (
  "Usage: mawk [Options] [Program] [file ...]\n\nProgram:\n"
  ++ "    The -f option value is the name of a file containing program text.\n"
  ++ "    If no -f option is given, a \"--\" ends option processing; the following\n"
  ++ "    parameters are the program text.\n\nOptions:\n"
  ++ "    -f program-file  Program  text is read from file instead of from the\n"
  ++ "                     command-line.  Multiple -f options are accepted.\n"
  ++ "    -F value         sets the field separator, FS, to value.\n"
  ++ "    -v var=value     assigns value to program variable var.\n"
  ++ "    --               unambiguous end of options.\n\n"
  ++ "    Implementation-specific options are prefixed with \"-W\".  They can be\n"
  ++ "    abbreviated:\n\n"
  ++ "    -W version       show version information and exit.\n"
  ++ "    -W compat        pre-POSIX 2001.\n"
  ++ "    -W dump          show assembler-like listing of program and exit.\n"
  ++ "    -W help          show this message and exit.\n"
  ++ "    -W interactive   set unbuffered output, line-buffered input.\n"
  ++ "    -W exec file     use file as program as well as last option.\n"
  ++ "    -W posix         stricter POSIX checking.\n"
  ++ "    -W random=number set initial random seed.\n"
  ++ "    -W sprintf=number adjust size of sprintf buffer.\n"
  ++ "    -W usage         show this message and exit.\n")

/-- What the options of `awk` ask for. -/
structure AwkOptions where
  /-- The files that hold the program. -/
  files : List Row := []
  /-- The variables that are set beforehand. -/
  settings : List (String × Row) := []
  /-- What keeps fields apart, if that is said. -/
  separator : Option Row := none
  /-- The operands. -/
  operands : List Row := []

/-- Reads the options of `awk`. -/
def readAwkOptions (options : AwkOptions) : List Row → Tool AwkOptions
  | [] => return options
  | ['-', '-'] :: rest => return { options with operands := rest }
  | ('-' :: '-' :: name) :: _ => do
      if name = rowOf "help" then
        put awkManual
        leave 0
      else fail (rowOf "not an option: --" ++ name) 2
  | ('-' :: letter :: value) :: rest => do
      let use (value : Row) : Tool AwkOptions := do
        if letter = 'f' then return { options with files := options.files ++ [value] }
        else if letter = 'F' then return { options with separator := some (unescapedRow value) }
        else if letter = 'v' then
          match Steps.assignment? value with
          | some assigned => return { options with settings := options.settings ++ [assigned] }
          | none => fail (rowOf "improper assignment: -v " ++ value) 2
        else if value.head? = some 'h' || value.head? = some 'u' then
          put awkManual
          leave 0
        else return options
      if !(['f', 'F', 'v', 'W'].contains letter) then fail (rowOf "not an option: -" ++ letter :: value) 2
      match value, rest with
      | [], [] => fail (rowOf "option -" ++ letter :: rowOf " lacks argument") 2
      | [], value :: rest => readAwkOptions (← use value) rest
      | value, rest => readAwkOptions (← use value) rest
  | operands => return { options with operands }

/-- The text of the program, and the other operands. -/
def awkProgram (options : AwkOptions) : Tool (Row × List Row) := do
  if options.files.isEmpty then
    match options.operands with
    | program :: rest => return (program, rest)
    | [] =>
        warnRow awkManual
        leave 0
  else
    let texts ← options.files.mapM fun path => do
      match ← input path with
      | .ok row => return row
      | .error (.opening fault) =>
          fail (rowOf "cannot open \"" ++ path ++ rowOf ("\" (" ++ fault.reason ++ ")")) 2
      | .error (.reading fault) => fail (rowOf ("read error (" ++ fault.reason ++ ")")) 2
    return (joinWith ['\n'] texts, options.operands)

/-- Sets the variables that every program has, and those that options set. -/
def awkStart (name : Row) (environment : List (String × Row)) (options : AwkOptions)
    (operands : List Row) : Steps Unit := do
  let array (name : String) (entries : List (Row × Value)) : Steps Unit := do
    let number ← Steps.arrayNumber name
    Steps.changeArray number fun collection =>
      entries.foldl (fun collection (row, value) => collection.insert { row } value) collection
  let texts := [("FS", rowOf " "), ("OFS", rowOf " "), ("ORS", ['\n']), ("RS", ['\n']),
    ("SUBSEP", ['\x1c']), ("CONVFMT", plainFormat), ("OFMT", plainFormat), ("FILENAME", [])]
  texts.forM fun (name, row) => Steps.setVariable name (.text row)
  let numbers : List (String × Float) := [("NR", 0.0), ("FNR", 0.0), ("RSTART", 0.0), ("RLENGTH", -1.0)]
  numbers.forM fun (name, number) => Steps.setVariable name (.number number)
  let arguments := name :: operands
  Steps.setVariable "ARGC" (.number (Float.ofNat arguments.length))
  array "ARGV" (arguments.zipIdx.map fun (row, number) => (natRow number, .given row))
  array "ENVIRON" (environment.map fun (name, row) => (rowOf name, .given row))
  options.separator.forM fun row => Steps.setVariable "FS" (.given row)
  options.settings.forM fun (name, row) => Steps.setVariable name (.given row)

/-- Runs a program over the records of its inputs. -/
def awk : Utility := fun given => do
  let call ← read
  let name := (cutAtEach '/' (rowOf call.name)).getLast?.getD []
  withReader (fun call => { call with name := textOf name }) do
    let options ← readAwkOptions {} given
    let (text, operands) ← awkProgram options
    match parse text with
    | .error faults =>
        faults.forM fun fault => warn fault.row
        return 2
    | .ok program =>
        let start := awkStart name call.environment options operands
        let steps : Steps Unit := do
          start
          program.runAll
        let serve : Served Nat := do
          let (left, state) ← Served.serve (steps {})
          let status ←
            match left with
            | some (.fault message) =>
                warn message
                pure 2
            | _ => pure state.status
          let _ ← Served.serve (Steps.finish state)
          return status
        let (status, _) ← serve.run {}
        return status

end TestAmplification.Shell
