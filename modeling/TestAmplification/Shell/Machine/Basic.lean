import TestAmplification.Files.Disk
import TestAmplification.Shell.Row
import TestAmplification.Shell.Script.State
import TestAmplification.Tooling.Launch

/-!
# The machine

Signals by name, and the processes, streams and files that a machine consists of.
-/

set_option autoImplicit false

/-!
## Signals by name

A signal has a number, a name and a text that tells what it did to a process.
-/

namespace TestAmplification.Shell

/-- The signals in the order of their numbers, from one on. -/
def signals : List (String × String) :=
  [("HUP", "Hangup"), ("INT", "Interrupt"), ("QUIT", "Quit"), ("ILL", "Illegal instruction"),
    ("TRAP", "Trace/breakpoint trap"), ("ABRT", "Aborted"), ("BUS", "Bus error"),
    ("FPE", "Floating point exception"), ("KILL", "Killed"), ("USR1", "User defined signal 1"),
    ("SEGV", "Segmentation fault"), ("USR2", "User defined signal 2"), ("PIPE", "Broken pipe"),
    ("ALRM", "Alarm clock"), ("TERM", "Terminated"), ("STKFLT", "Stack fault"),
    ("CHLD", "Child exited"), ("CONT", "Continued"), ("STOP", "Stopped (signal)"),
    ("TSTP", "Stopped"), ("TTIN", "Stopped (tty input)"), ("TTOU", "Stopped (tty output)"),
    ("URG", "Urgent I/O condition"), ("XCPU", "CPU time limit exceeded"),
    ("XFSZ", "File size limit exceeded"), ("VTALRM", "Virtual timer expired"),
    ("PROF", "Profiling timer expired"), ("WINCH", "Window changed"), ("IO", "I/O possible"),
    ("PWR", "Power failure"), ("SYS", "Bad system call")]

/-- The number of the first signal that is free for any use. -/
def firstFreeSignal : Nat := 34

/-- The number of the last signal. -/
def lastSignal : Nat := 64

/-- The name of a signal. Signals that are free for any use are counted from the nearer
end, and some signals have no name but their number. -/
def nameOfSignal (number : Nat) : String :=
  if number = 0 then "EXIT"
  else if number < 32 && number ≠ 16 then (signals[number - 1]?.map Prod.fst).getD ""
  else if number < firstFreeSignal then Text.decimal number
  else
    let above := number - firstFreeSignal
    let below := lastSignal - number
    if above ≤ below then if above = 0 then "RTMIN" else "RTMIN+" ++ Text.decimal above
    else if below = 0 then "RTMAX" else "RTMAX-" ++ Text.decimal below

/-- What a signal did to a process. -/
def signalText (number : Nat) : String :=
  match signals[number - 1]? with
  | some signal => signal.2
  | none =>
      if number < firstFreeSignal then "Unknown signal " ++ Text.decimal number
      else "Real-time signal " ++ Text.decimal (number - firstFreeSignal)

/-- The number of the signal with a name. -/
def signalOfName? (name : Row) : Option Nat :=
  let name := String.ofList (name.map Char.toUpper)
  (List.range (lastSignal + 1)).find? fun number => nameOfSignal number == name

/-- The number of the signal that a number or a name denotes. -/
def signalOf? (text : Row) : Option Nat :=
  ((Text.digits? text).filter (· ≤ lastSignal)).or (signalOfName? text)

end TestAmplification.Shell

/-!
## The machine

A machine has a disk, a clock and processes. A process writes to and reads from
streams, which have numbers. A stream leads to an opening, and several streams of
several processes may lead to the same one; then they share the position in it.

A pipe passes on what is written at one end to those who read at the other. It
holds only so much at a time. Nothing more is to come when nobody is left who
could write to it.

What goes to a record is kept until the end. The records are what the starter of
the machine gets to see.
-/

/-!
## Steps that may have to wait

A process acts on a machine step by step. Most steps can be taken at once; some
have to wait, for the time to come or for another process. A process that waits
hands over the machine together with what it does once the wait is over, so that
others can use the machine meanwhile.

The steps that follow others are attached to the last of them
(`Progress.andThen`), whether it waits or not, so a process that waits looks to
those around it like any other.
-/

namespace TestAmplification.Shell

/-- What a process waits for. -/
inductive Wait where
  /-- Nothing: it only takes a breath. -/
  | breath
  /-- That the others had their turn. -/
  | turn
  /-- A moment. -/
  | moment (moment : Nat)
  /-- Something to read in a pipe, or the end of it. -/
  | input (pipe : Nat)
  /-- Room in a pipe, or that nobody reads it. -/
  | room (pipe : Nat)
  /-- That somebody opens the other end of a pipe. A reader waits for one who writes, and the
  other way round; the number says how often that end was opened before. -/
  | partner (pipe : Nat) (isReader : Bool) (count : Nat)
  /-- The end of a process, but not beyond a moment. -/
  | ending (process : Nat) (latest : Option Nat)
  /-- The end of some processes; a signal ends the wait, too. -/
  | endings (processes : List Nat)
  /-- Nothing that ever comes. -/
  | never
deriving DecidableEq, Inhabited

/-- The moment that a wait ends at in any case. -/
def Wait.moment? : Wait → Option Nat
  | .moment latest => some latest
  | .ending _ latest => latest
  | _ => none

/-- How far some steps came: they are done, or they wait and can be
resumed. -/
inductive Progress (State Result : Type) where
  /-- The steps are done. -/
  | done (result : Result) (state : State)
  /-- The steps wait. -/
  | waiting (wait : Wait) (state : State) (resume : State → Progress State Result)

namespace Progress

variable {State First Second : Type}

/-- The progress with further steps after it. -/
def andThen (next : First → State → Progress State Second) :
    Progress State First → Progress State Second
  | done result state => next result state
  | waiting wait state resume => waiting wait state fun state => andThen next (resume state)

end Progress

/-- Steps on a state that may have to wait. -/
def Coroutine (State Result : Type) : Type :=
  State → Progress State Result

namespace Coroutine

variable {State : Type}

instance : Monad (Coroutine State) where
  pure result := fun state => .done result state
  bind first next := fun state => (first state).andThen next

instance : MonadStateOf State (Coroutine State) where
  get := fun state => .done state state
  set state := fun _ => .done () state
  modifyGet change := fun state =>
    let (result, state) := change state
    .done result state

/-- Waits. -/
def await (wait : Wait) : Coroutine State Unit := fun state =>
  .waiting wait state fun state => .done () state

end Coroutine

end TestAmplification.Shell

namespace TestAmplification.Shell

/-! ### Openings -/

/-- What an opening leads to. -/
inductive Target where
  /-- Nothing to read; what is written disappears. -/
  | nothing
  /-- Zero bytes without end; what is written disappears. -/
  | zeros
  /-- A place without room. -/
  | full
  /-- Bytes that nobody can foresee, without end; what is written disappears. -/
  | noise
  /-- A file. -/
  | file (place : Place)
  /-- A directory. -/
  | directory (place : Place)
  /-- A text that can only be read. -/
  | text (bytes : ByteArray)
  /-- The end of a pipe where it is read. -/
  | outlet (pipe : Nat)
  /-- The end of a pipe where it is written. -/
  | inlet (pipe : Nat)
  /-- Both ends of a pipe. -/
  | channel (pipe : Nat)
  /-- A record. -/
  | record (number : Nat)
deriving BEq, Inhabited

namespace Target

/-- Is something read there that a pipe passes on? -/
def readsPipe (pipe : Nat) (target : Target) : Bool :=
  target == .outlet pipe || target == .channel pipe

/-- Is something written there that a pipe passes on? -/
def writesPipe (pipe : Nat) (target : Target) : Bool :=
  target == .inlet pipe || target == .channel pipe

/-- Does it lead to a record? -/
def isRecord : Target → Bool
  | record _ => true
  | _ => false

end Target

/-- What may be done with an opening, and where it stands. -/
structure Opening where
  /-- What it leads to. -/
  target : Target
  /-- May it be read? -/
  isRead : Bool := false
  /-- May it be written? -/
  isWritten : Bool := false
  /-- Is what is written put to the end? -/
  appends : Bool := false
  /-- The number of bytes before the present position. -/
  position : Nat := 0
deriving BEq, Inhabited

/-- Why a stream cannot be used. -/
inductive StreamFault where
  /-- The stream is closed, or not open for that. -/
  | closed
  /-- The stream leads to a directory. -/
  | isADirectory
  /-- There is no room. -/
  | full
  /-- Nobody reads the pipe. -/
  | broken
deriving DecidableEq, Inhabited

/-- The text of a fault. -/
def StreamFault.reason : StreamFault → String
  | closed => "Bad file descriptor"
  | isADirectory => "Is a directory"
  | full => "No space left on device"
  | broken => "Broken pipe"

/-! ### Processes -/

/-- A process. -/
structure Process where
  /-- Its number. -/
  number : Nat
  /-- The number of the process that started it. -/
  parent : Nat
  /-- The number of the group that it belongs to. -/
  group : Nat := 1
  /-- Where its streams lead to. -/
  streams : List (Nat × Nat) := []
  /-- Openings put aside for later. -/
  kept : List Nat := []
  /-- The directory that it is in. -/
  place : Place
  /-- The bits that new files do not get. -/
  mask : Nat := 0o022
  /-- The signals that it wants to know about. -/
  caught : List Nat := []
  /-- The signals that do not concern it. -/
  ignored : List Nat := []
  /-- The signals that have come and were not looked at. -/
  pending : List Nat := []
  /-- Was it told to stop until it is told to go on? -/
  isStopped : Bool := false
  /-- How it ended, if it has. -/
  ending : Option ExitStatus := none
deriving Inhabited

/-- The number of the signal that nothing can be done about. -/
def killSignal : Nat := 9

/-- The number of the signal for writing to a pipe that nobody reads. -/
def pipeSignal : Nat := 13

/-- The number of the signal to go on. -/
def resumeSignal : Nat := 18

/-- The number of the signal to stop that nothing can be done about. -/
def stopSignal : Nat := 19

/-- The signals to stop. -/
def stopSignals : List Nat := [19, 20, 21, 22]

/-- The signals that leave a process alone unless it asks for them. -/
def harmlessSignals : List Nat := [0, 17, 18, 23, 28]

namespace Process

/-- Has the process not come to its end? -/
def isAlive (process : Process) : Bool :=
  process.ending.isNone

/-- The signal that ends the process now, if one does. A process that is stopped can only be
ended by the signal that nothing can be done about. -/
def fatalSignal? (process : Process) : Option Nat :=
  process.pending.find? fun signal =>
    signal == killSignal || !process.isStopped &&
      !(process.caught ++ process.ignored ++ harmlessSignals).contains signal

/-- Has a signal come that the process wants to know about? -/
def hasNews (process : Process) : Bool :=
  process.pending.any process.caught.contains

/-- The process when a signal comes for it. -/
def receiving (signal : Nat) (process : Process) : Process :=
  let process :=
    if signal = resumeSignal || signal = killSignal then
      { process with isStopped := false, pending := process.pending.filter (!stopSignals.contains ·) }
    else process
  let isFree := signal != killSignal && signal != stopSignal
  if isFree && process.ignored.contains signal || process.pending.contains signal then process
  else if stopSignals.contains signal && !(isFree && process.caught.contains signal) then
    { process with isStopped := true, pending := process.pending.filter (· != resumeSignal) }
  else { process with pending := process.pending ++ [signal] }

/-- Does a stream of the process, or what it has put aside, lead to the
opening? -/
def holds (process : Process) (opening : Nat) : Bool :=
  process.isAlive && (process.kept.contains opening
    || process.streams.any fun entry => entry.2 == opening)

/-- The process with a stream that leads to an opening, or without the
stream. -/
def withStream (process : Process) (stream : Nat) (opening : Option Nat) : Process :=
  { process with
    streams := (opening.map (stream, ·)).toList
      ++ process.streams.filter fun entry => entry.1 != stream }

end Process

/-! ### Pipes and files -/

/-- What a pipe holds. -/
structure Pipe where
  /-- The number of bytes. -/
  size : Nat := 0
  /-- What is read next. -/
  front : ByteArray := ByteArray.empty
  /-- How much of it was read. -/
  used : Nat := 0
  /-- The pieces after that, the last one first. -/
  back : List ByteArray := []
  /-- How often the end was opened where it is read. -/
  outlets : Nat := 0
  /-- How often the end was opened where it is written. -/
  inlets : Nat := 0
deriving Inhabited

namespace Pipe

/-- The pipe with a further piece. -/
def write (pipe : Pipe) (bytes : ByteArray) : Pipe :=
  if bytes.isEmpty then pipe
  else { pipe with size := pipe.size + bytes.size, back := bytes :: pipe.back }

/-- At most so many bytes from the start, and the pipe without them. -/
def read (pipe : Pipe) (limit : Nat) : ByteArray × Pipe :=
  let pipe :=
    if pipe.front.size < pipe.used + limit && !pipe.back.isEmpty then
      { pipe with
        front := packedAll (pipe.front.extract pipe.used pipe.front.size :: pipe.back.reverse)
        used := 0, back := [] }
    else pipe
  let bytes := pipe.front.extract pipe.used (pipe.used + limit)
  (bytes, { pipe with size := pipe.size - bytes.size, used := pipe.used + bytes.size })

end Pipe

/-- Pieces that were written to the end of a file and are not yet in the tree. -/
structure Unsaved where
  /-- The place of the file. -/
  place : Place
  /-- The number of bytes of the file, with the pieces. -/
  size : Nat
  /-- The pieces, the last one first. -/
  pieces : List ByteArray
  /-- When the last piece was written. -/
  moment : Int
deriving Inhabited

/-! ### Machines -/

/-- The state of a machine. -/
structure Machine where
  /-- The disk. -/
  disk : Disk
  /-- The time that has passed, in nanoseconds. -/
  now : Nat := 0
  /-- The openings, by their numbers. -/
  openings : Array Opening := #[]
  /-- The pipes, by their numbers. -/
  pipes : Array Pipe := #[]
  /-- The numbers of the pipes with a place in the tree. -/
  placedPipes : List (Place × Nat) := []
  /-- What was written last, if it is not yet in the tree. -/
  unsaved : Option Unsaved := none
  /-- What was written to the records, the last piece first. -/
  records : Array (List ByteArray) := #[]
  /-- The processes. -/
  processes : List Process := []
  /-- The number of the last process that was started. -/
  lastProcess : Nat := 1
  /-- Processes that are still to begin, and what they are to do. -/
  started : List (Nat × Job) := []
  /-- The work done since the time last went on. -/
  effort : Nat := 0
deriving Inhabited

namespace Machine

/-- The most that a pipe holds. -/
def pipeRoom : Nat := 65536

/-- The work that is done in no time. Whoever does more is taken for one that
never comes to an end. -/
def mostEffort : Nat := 60000000

/-- The process with a number. -/
def process? (machine : Machine) (number : Nat) : Option Process :=
  machine.processes.find? fun process => process.number == number

/-- The machine with a change to a process. -/
def changeProcess (machine : Machine) (number : Nat) (change : Process → Process) : Machine :=
  { machine with
    processes := machine.processes.map fun process =>
      if process.number = number then change process else process }

/-- The machine with a further opening, whose number is the second result. -/
def addOpening (machine : Machine) (opening : Opening) : Machine × Nat :=
  let number := machine.openings.size
  ({ machine with openings := machine.openings.push opening }, number)

/-- The opening that a stream of a process leads to, with its number. -/
def streamOf? (machine : Machine) (process : Process) (stream : Nat) : Option (Nat × Opening) :=
  (process.streams.lookup stream).bind fun number =>
    machine.openings[number]?.map (number, ·)

/-- Does a process hold an opening to a target of some kind? -/
def isHeld (machine : Machine) (isMeant : Target → Bool) : Bool :=
  machine.processes.any fun process =>
    process.isAlive && (process.kept ++ process.streams.map Prod.snd).any fun number =>
      ((machine.openings[number]?).map fun opening => isMeant opening.target).getD false

/-- The number of bytes of a file that are kept with a unit of work. -/
def bytesKeptPerEffort : Nat := 400

/-- The machine with all that was written in its tree. -/
def saved (machine : Machine) : Machine :=
  match machine.unsaved with
  | none => machine
  | some unsaved =>
      let disk :=
        match machine.disk.tree.node? unsaved.place with
        | some (.file bytes _) =>
            machine.disk.store unsaved.place (packedAll (bytes :: unsaved.pieces.reverse)) unsaved.moment
        | _ => machine.disk
      { machine with
        unsaved := none, disk, effort := machine.effort + unsaved.size / bytesKeptPerEffort }

/-- The bytes of the file at a place. -/
def fileBytes (machine : Machine) (place : Place) : ByteArray :=
  match machine.saved.disk.tree.node? place with
  | some (.file bytes _) => bytes
  | _ => ByteArray.empty

/-- The work after which a process takes a breath. -/
def breathEffort : Nat := 16384

/-- The machine with work done. -/
def working (machine : Machine) (effort : Nat) : Machine :=
  { machine with effort := machine.effort + effort }

/-- The number of bytes that are passed on with a unit of work. -/
def bytesPerEffort : Nat := 64

/-- The machine with the work of passing on so many bytes. -/
def passing (machine : Machine) (count : Nat) : Machine :=
  machine.working (count / bytesPerEffort + 1)

/-! ### Reading and writing -/

/-- Twice as many zero bytes as before, so often. -/
def doubledZeros : Nat → ByteArray
  | 0 => ByteArray.empty.push 0
  | times + 1 => let zeros := doubledZeros times; zeros ++ zeros

/-- As many zero bytes as are read at a time. -/
def zeroBlock : ByteArray := doubledZeros 16

/-- So many zero bytes. -/
def zeroBytes (count : Nat) : ByteArray :=
  let whole := (List.replicate (count / zeroBlock.size) zeroBlock).foldl (· ++ ·) ByteArray.empty
  whole ++ zeroBlock.extract 0 (count % zeroBlock.size)

/-- So many bytes that look as if nobody could foresee them. -/
def noiseBytes : Nat → UInt64 → ByteArray → ByteArray
  | 0, _, bytes => bytes
  | count + 1, seed, bytes =>
      let seed := seed * 6364136223846793005 + 1442695040888963407
      noiseBytes count seed (bytes.push (seed >>> 33).toUInt8)

/-- What can be read from an opening now, at most so many bytes, with the machine
afterwards. Nothing is the end; no answer means that there is something to wait
for. -/
def readNow (machine : Machine) (number limit : Nat) :
    Option (Except StreamFault ByteArray) × Machine :=
  let moved (machine : Machine) (count : Nat) : Machine :=
    { machine.passing count with
      openings := machine.openings.modify number fun opening =>
        { opening with position := opening.position + count } }
  match machine.openings[number]? with
  | none => (some (.error .closed), machine)
  | some { isRead := false, .. } => (some (.error .closed), machine)
  | some { isRead := true, target, position, .. } =>
    match target with
    | .nothing => (some (.ok ByteArray.empty), machine)
    | .zeros | .full => (some (.ok (zeroBytes limit)), machine.passing limit)
    | .noise =>
        let bytes := noiseBytes limit (position + 1).toUInt64 ByteArray.empty
        let count := bytes.size
        (some (.ok bytes), (moved machine count).working limit)
    | .file place =>
        let machine := machine.saved
        let bytes := (machine.fileBytes place).extract position (position + limit)
        let count := bytes.size
        (some (.ok bytes), moved machine count)
    | .text bytes =>
        let bytes := bytes.extract position (position + limit)
        let count := bytes.size
        (some (.ok bytes), moved machine count)
    | .directory _ => (some (.error .isADirectory), machine)
    | .outlet pipe | .channel pipe =>
        let held := (machine.pipes[pipe]?).getD {}
        if held.size = 0 then
          if machine.isHeld (·.writesPipe pipe) then (none, machine)
          else (some (.ok ByteArray.empty), machine)
        else
          let (bytes, left) := held.read limit
          let machine := machine.passing bytes.size
          (some (.ok bytes), { machine with pipes := machine.pipes.set! pipe left })
    | .inlet _ | .record _ => (some (.error .closed), machine)

/-- The bytes of a file with others written at a position. -/
def splice (bytes : ByteArray) (position : Nat) (written : ByteArray) : ByteArray :=
  let before := bytes.extract 0 position
  before ++ zeroBytes (position - before.size) ++ written
    ++ bytes.extract (position + written.size) bytes.size

/-- The machine with an opening after so many bytes. -/
def movedTo (machine : Machine) (number position : Nat) : Machine :=
  { machine with
    openings := machine.openings.modify number fun opening => { opening with position }
    disk := { machine.disk with clock := machine.disk.clock + 1 } }

/-- The machine after writing to a file when all that was written before is in its
tree. What is added to the end is kept apart for now. -/
def writeToSaved (machine : Machine) (number : Nat) (opening : Opening) (place : Place)
    (written : ByteArray) : Machine :=
  let moment := machine.disk.clock
  match machine.disk.tree.node? place with
  | some (.file bytes _) =>
      let size := bytes.size
      let position := if opening.appends then size else opening.position
      let machine := machine.movedTo number (position + written.size)
      if position = size then
        { machine with
          unsaved := some { place, size := size + written.size, pieces := [written], moment } }
      else
        { machine with disk := machine.disk.store place (splice bytes position written) moment }
  | _ => machine

/-- The machine after writing to a file. -/
def writeToFile (machine : Machine) (number : Nat) (opening : Opening) (place : Place)
    (written : ByteArray) : Machine :=
  match machine.unsaved with
  | some unsaved =>
      if unsaved.place = place && (opening.appends || opening.position = unsaved.size) then
        let size := unsaved.size + written.size
        { machine.movedTo number size with
          unsaved := some { unsaved with
            size, pieces := written :: unsaved.pieces, moment := machine.disk.clock } }
      else machine.saved.writeToSaved number opening place written
  | none => machine.writeToSaved number opening place written

/-- Writes to an opening what there is room for now, with the rest and the machine
afterwards. -/
def writeNow (machine : Machine) (number : Nat) (bytes : ByteArray) :
    Except StreamFault ByteArray × Machine :=
  let machine := machine.passing bytes.size
  match machine.openings[number]? with
  | none => (.error .closed, machine)
  | some opening =>
    if !opening.isWritten then (.error .closed, machine)
    else
      match opening.target with
      | .nothing | .zeros | .noise => (.ok ByteArray.empty, machine)
      | .full => (.error .full, machine)
      | .file place => (.ok ByteArray.empty, machine.writeToFile number opening place bytes)
      | .record number =>
          (.ok ByteArray.empty, { machine with records := machine.records.modify number (bytes :: ·) })
      | .inlet pipe | .channel pipe =>
          if !machine.isHeld (·.readsPipe pipe) then (.error .broken, machine)
          else
            let held := (machine.pipes[pipe]?).getD {}
            let room := pipeRoom - held.size
            (.ok (bytes.extract room bytes.size),
              { machine with pipes := machine.pipes.set! pipe (held.write (bytes.extract 0 room)) })
      | .outlet _ | .text _ | .directory _ => (.error .closed, machine)

/-- What a record holds. -/
def recordBytes (machine : Machine) (number : Nat) : ByteArray :=
  packedAll ((machine.records[number]?).getD []).reverse

/-! ### Pipes with a place -/

/-- The machine with the pipe that stands at a place, and its number. A pipe that nobody
holds is empty. -/
def placedPipe (machine : Machine) (place : Place) : Machine × Nat :=
  match machine.placedPipes.lookup place with
  | some pipe =>
      if machine.isHeld fun target => target.readsPipe pipe || target.writesPipe pipe then
        (machine, pipe)
      else
        ({ machine with
          pipes := machine.pipes.modify pipe fun pipe =>
            { outlets := pipe.outlets, inlets := pipe.inlets } }, pipe)
  | none =>
      let pipe := machine.pipes.size
      ({ machine with
        pipes := machine.pipes.push {}, placedPipes := (place, pipe) :: machine.placedPipes }, pipe)

/-- The machine where what is open at a place, or stands below it, is elsewhere. -/
def relocated (machine : Machine) (goes : Place → Place) : Machine :=
  { machine with
    openings := machine.openings.map fun opening =>
      match opening.target with
      | .file place => { opening with target := .file (goes place) }
      | .directory place => { opening with target := .directory (goes place) }
      | _ => opening
    placedPipes := machine.placedPipes.map fun (place, pipe) => (goes place, pipe)
    processes := machine.processes.map fun process => { process with place := goes process.place } }

/-- Where a file goes on that is open and has lost its last name. -/
def namelessPlace (number : Nat) : Place :=
  ["\x00", Text.decimal number]

/-- Is it the place of a file that has lost its last name? -/
def isNameless (place : Place) : Bool :=
  place.head? == some "\x00"

/-- The machine without what stands at a place and below it. Files that are open go on
under another name or without any, and who is in a directory that goes is nowhere. -/
def erased (machine : Machine) (place : Place) : Machine :=
  let machine := machine.saved
  let opened := machine.openings.findIdx? fun opening => opening.target == .file place
  let disk := machine.disk.erase place
  match machine.disk.tree.node? place with
  | some (.file bytes changed) =>
      match opened with
      | none => { machine with disk }
      | some opening =>
        match (machine.disk.namesOf place).drop 1 with
        | other :: _ =>
            { machine with disk }.relocated fun here => if here = place then other else here
        | [] =>
            let free := namelessPlace opening
            { machine with
              disk := { disk with tree := disk.tree.put free (.file bytes changed) } }.relocated
                fun here => if here = place then free else here
  | some .directory =>
      { machine with disk }.relocated fun here =>
        if place.isPrefixOf here then FileTree.lostPlace here else here
  | _ => { machine with disk, placedPipes := machine.placedPipes.filter (·.1 != place) }

/-- The machine where what stood at a place stands at another one. -/
def moved (machine : Machine) (source target : Place) : Machine :=
  let machine :=
    if (machine.disk.tree.node? target).isSome then machine.erased target else machine.saved
  { machine with disk := machine.disk.move source target }.relocated fun here =>
    if source.isPrefixOf here then target ++ here.drop source.length else here

/-! ### Signals -/

/-- The machine where a signal has come for a process. -/
def withSignal (machine : Machine) (signal number : Nat) : Machine :=
  machine.changeProcess number (·.receiving signal)

/-- The processes of a group that have not come to their end. -/
def groupMembers (machine : Machine) (group : Nat) : List Nat :=
  (machine.processes.filter fun process => process.group == group && process.isAlive).map
    Process.number

/-! ### Waiting -/

/-- The process and a process that is no more. -/
def hasEnded (machine : Machine) (number : Nat) : Bool :=
  match machine.process? number with
  | some process => !process.isAlive
  | none => true

/-- Is the wait of a process over? -/
def isOver (machine : Machine) (process : Process) : Wait → Bool
  | .breath | .turn => true
  | .moment moment => moment ≤ machine.now
  | .input pipe =>
      decide (((machine.pipes[pipe]?).getD {}).size > 0) || !machine.isHeld (·.writesPipe pipe)
  | .room pipe =>
      decide (((machine.pipes[pipe]?).getD {}).size < pipeRoom) || !machine.isHeld (·.readsPipe pipe)
  | .partner pipe isReader count =>
      let state := (machine.pipes[pipe]?).getD {}
      if isReader then decide (state.inlets > count) || machine.isHeld (·.writesPipe pipe)
      else decide (state.outlets > count) || machine.isHeld (·.readsPipe pipe)
  | .ending number latest =>
      machine.hasEnded number || (latest.map fun latest => decide (latest ≤ machine.now)).getD false
  | .endings numbers => numbers.all machine.hasEnded || process.hasNews
  | .never => false

end Machine

end TestAmplification.Shell
