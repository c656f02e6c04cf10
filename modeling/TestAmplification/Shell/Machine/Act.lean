import TestAmplification.Shell.Machine.Basic
import TestAmplification.Shell.Machine.Programs

/-!
# What processes do, and their turns

What a process does, step by step, and how the processes of a machine take turns.
-/

set_option autoImplicit false

/-!
## What a process does

A process acts on the machine under its own number. It opens, reads and writes,
uses the disk from its own directory, starts other processes, waits for them and
sends them signals.

Reading waits until there is something to read, and writing until everything is
written. A process that writes to a pipe without readers gets a signal, which
ends it unless it is prepared.
-/

namespace TestAmplification.Shell

/-- Steps of a process, whose number they know. -/
abbrev Act := ReaderT Nat (Coroutine Machine)

/-- How a file is opened. -/
inductive OpenMode where
  /-- To be read. -/
  | read
  /-- To be written from its start, without what it holds so far. -/
  | write
  /-- To be written at its end. -/
  | append
  /-- To be read and written. -/
  | update
deriving DecidableEq, Inhabited

/-- How a process comes to its end: by itself, or by going on as another
program. -/
inductive Departure where
  /-- It ends with a status. -/
  | ends (status : Nat)
  /-- A signal ends it. -/
  | falls (signal : Nat)
  /-- It goes on as the program at a path. The arguments start with the name that the
  program is called by. -/
  | becomes (path : Row) (arguments : List Row) (environment : List (String × Row))
deriving DecidableEq, Inhabited

/-- The status that stands for an end. -/
def statusOf : ExitStatus → Nat
  | .code status => status
  | .signal signal => 128 + signal

namespace Act

/-- How often a process that waits for its turn may find that others were
faster. -/
def patience : Nat := 100000000

/-- Waits. -/
def await (wait : Wait) : Act Unit := fun _ => Coroutine.await wait

/-- The present process. -/
def self : Act Process := do
  let number ← read
  return ((← get).process? number).getD { number, parent := 0, place := [] }

/-- Changes the present process. -/
def changeSelf (change : Process → Process) : Act Unit := do
  let number ← read
  modify (·.changeProcess number change)

/-- Does some work. Who works for too long without a pause never comes to an
end. -/
def work (effort : Nat) : Act Unit := do
  let (before, after) ← modifyGet fun machine =>
    ((machine.effort, machine.effort + effort), machine.working effort)
  if after > Machine.mostEffort then await .never
  else if before / Machine.breathEffort != after / Machine.breathEffort then await .breath

/-- Handles a text with so many characters. Texts that keep growing are too much work at
last. -/
def workOn (size : Nat) : Act Unit :=
  work (size + size * size / 262144)

/-- The time that has passed, in nanoseconds. -/
def now : Act Nat :=
  return (← get).now

/-- Lets the given time pass. -/
def pause (nanoseconds : Nat) : Act Unit := do
  await (.moment ((← get).now + nanoseconds))

/-! ### The disk -/

/-- Uses the disk from the directory of the process. -/
def onDisk {α : Type} (action : StateM Disk α) : Act α := do
  let place := (← self).place
  modifyGet fun machine =>
    let machine := machine.saved
    let (result, disk) := action { machine.disk with workingPlace := place }
    (result, { machine with disk := { disk with workingPlace := machine.disk.workingPlace } })

/-- The disk as the process sees it. -/
def disk : Act Disk := onDisk get

/-- Changes the disk. -/
def changeDisk (change : Disk → Disk) : Act Unit :=
  onDisk (modify change)

/-- Puts something new at a place, with a mode as far as the process grants it. -/
def create (place : Place) (node : FileNode) (mode : Nat) : Act Unit := do
  let mask := (← self).mask
  let granted := Nat.land mode (Nat.xor 0o7777 mask)
  changeDisk fun disk =>
    let disk := disk.create place node
    if granted = disk.modeOf place then disk else disk.setMode place granted

/-- The mode that a new file is asked for with. -/
def fileMode : Nat := 0o666

/-- The mode that a new directory is asked for with. -/
def directoryMode : Nat := 0o777

/-- Makes a directory. -/
def makeDirectory (path : Path) (mode : Nat) : Act (Except FileFault Unit) := do
  let disk ← disk
  match disk.tree.locateWith false disk.workingPlace path with
  | .error fault => return .error fault
  | .ok place =>
      if (disk.tree.node? place).isSome then return .error .alreadyExists
      create place .directory mode
      return .ok ()

/-- Removes what stands at a place, with everything below it. -/
def erase (place : Place) : Act Unit :=
  modify (·.erased place)

/-- Removes a file, a link or a pipe. -/
def removeFile (path : Path) : Act (Except FileFault Unit) := do
  let disk ← disk
  match disk.tree.placeToRemove disk.workingPlace path with
  | .error fault => return .error fault
  | .ok place =>
      erase place
      return .ok ()

/-- Removes an empty directory. -/
def removeDirectory (path : Path) : Act (Except FileFault Unit) := do
  let disk ← disk
  match disk.tree.directoryToRemove disk.workingPlace path with
  | .error fault => return .error fault
  | .ok place =>
      erase place
      return .ok ()

/-- Moves what stands at a place to another one, in the place of what stands there. -/
def move (source target : Place) : Act Unit :=
  modify (·.moved source target)

/-! ### Streams -/

/-- A new opening. -/
def newOpening (opening : Opening) : Act Nat :=
  modifyGet fun machine =>
    let (machine, number) := machine.addOpening opening
    (number, machine)

/-- A new pipe: the opening where it is read and the one where it is written. -/
def newPipe : Act (Nat × Nat) := do
  let pipe := (← get).pipes.size
  modify fun machine => { machine with pipes := machine.pipes.push {} }
  let outlet ← newOpening { target := .outlet pipe, isRead := true }
  let inlet ← newOpening { target := .inlet pipe, isWritten := true }
  return (outlet, inlet)

/-- What an opening leads to. -/
def targetOf (number : Nat) : Act (Option Target) := do
  return ((← get).openings[number]?).map Opening.target

/-- Keeps an opening for the time being. -/
def keep (opening : Nat) : Act Unit :=
  changeSelf fun process => { process with kept := opening :: process.kept }

/-- No longer keeps an opening. -/
def letGo (opening : Nat) : Act Unit :=
  changeSelf fun process => { process with kept := process.kept.erase opening }

/-- Connects a stream with an opening, or closes it. -/
def connect (stream : Nat) (opening : Option Nat) : Act Unit :=
  changeSelf (·.withStream stream opening)

/-- The number of the stream that a path stands for, if it stands for one. -/
def streamPath? (path : Path) : Option Nat :=
  if path = "/dev/stdin" then some 0
  else if path = "/dev/stdout" then some 1
  else if path = "/dev/stderr" then some 2
  else
    (Text.withoutStart? "/dev/fd/".toList path.toList
      |>.or (Text.withoutStart? "/proc/self/fd/".toList path.toList)).bind Text.digits?

/-- The target of the device with a name. -/
def deviceTarget : String → Target
  | "zero" => .zeros
  | "full" => .full
  | "null" => .nothing
  | _ => .noise

/-- The target of the device at a path that is written plainly. -/
def deviceOf? (path : Path) : Option Target :=
  if "/dev/".isPrefixOf path then (deviceAt? (Path.names path)).map deviceTarget else none

/-- Waits until somebody opens the other end of a pipe, too, if nobody has done so. -/
def awaitPartner (pipe : Nat) (mode : OpenMode) : Act Unit := do
  let machine ← get
  let state := (machine.pipes[pipe]?).getD {}
  let count (change : Pipe → Pipe) : Act Unit :=
    modify fun machine => { machine with pipes := machine.pipes.modify pipe change }
  match mode with
  | .read =>
      count fun pipe => { pipe with outlets := pipe.outlets + 1 }
      if !machine.isHeld (·.writesPipe pipe) then await (.partner pipe true state.inlets)
  | .update => return
  | .write | .append =>
      count fun pipe => { pipe with inlets := pipe.inlets + 1 }
      if !machine.isHeld (·.readsPipe pipe) then await (.partner pipe false state.outlets)

/-- Opens the pipe at a place. -/
def openPipe (mode : OpenMode) (place : Place) : Act Nat := do
  let pipe ← modifyGet fun machine =>
    let (machine, pipe) := machine.placedPipe place
    (pipe, machine)
  let opening ← newOpening (match mode with
    | .read => { target := .outlet pipe, isRead := true }
    | .update => { target := .channel pipe, isRead := true, isWritten := true }
    | .write | .append => { target := .inlet pipe, isWritten := true })
  keep opening
  awaitPartner pipe mode
  return opening

/-- Opens a file of the disk. -/
def openOnDisk (mode : OpenMode) (path : Path) : Act (Except FileFault Nat) := do
  let opening (target : Target) : Opening :=
    { target
      isRead := mode = .read || mode = .update
      isWritten := mode ≠ .read
      appends := mode = .append }
  let disk ← disk
  match disk.tree.inspect disk.workingPlace path, mode with
  | .error fault, _ => return .error fault
  | .ok (place, some .directory), .read => return .ok (← newOpening (opening (.directory place)))
  | .ok (_, some .directory), _ => return .error .isADirectory
  | .ok (place, none), mode =>
      match deviceAt? place, mode with
      | some name, _ => return .ok (← newOpening { opening (deviceTarget name) with appends := false })
      | none, .read => return .error .notFound
      | none, _ =>
          if FileTree.namesDirectory path then return .error .isADirectory
          create place (.file ByteArray.empty disk.clock) fileMode
          return .ok (← newOpening (opening (.file place)))
  | .ok (place, some .pipe), _ => return .ok (← openPipe mode place)
  | .ok (place, some _), .write =>
      changeDisk fun disk =>
        { disk.store place ByteArray.empty disk.clock with clock := disk.clock + 1 }
      return .ok (← newOpening (opening (.file place)))
  | .ok (place, some _), _ => return .ok (← newOpening (opening (.file place)))

/-- The work of opening anything at all. -/
def openEffort : Nat := 100

/-- Opens what a path leads to. The answer is the number of the opening. -/
def openPath (mode : OpenMode) (path : Path) : Act (Except FileFault Nat) := do
  work openEffort
  match deviceOf? path, streamPath? path with
  | some target, _ =>
      return .ok (← newOpening {
        target
        isRead := mode = .read || mode = .update
        isWritten := mode ≠ .read })
  | none, some stream =>
      match (← get).streamOf? (← self) stream with
      | some (_, { target := .file place, .. }) =>
          openOnDisk mode ("/" ++ "/".intercalate place)
      | some (number, _) =>
          keep number
          return .ok number
      | none => return .error .notFound
  | none, none => openOnDisk mode path

/-- The work of reading or writing anything at all. -/
def streamEffort : Nat := 20

/-- The work of looking at so many bytes one by one. -/
def lookingEffort (count : Nat) : Nat :=
  count / 2

/-- Reads from an opening, at most so many bytes. Nothing is the end. -/
def receive : Nat → Nat → Nat → Act (Except StreamFault ByteArray)
  | 0, _, _ => return .ok ByteArray.empty
  | patience + 1, number, limit => do
      work streamEffort
      let target ← targetOf number
      match ← modifyGet fun machine => machine.readNow number limit with
      | some result => return result
      | none =>
          match target with
          | some (.outlet pipe) | some (.channel pipe) => await (.input pipe)
          | _ => await .turn
          receive patience number limit

/-- Reads a row from an opening, at most so many bytes. Nothing is the end. -/
def readOnce (patience number limit : Nat) : Act (Except StreamFault Row) := do
  match ← receive patience number limit with
  | .ok bytes =>
      work (lookingEffort bytes.size)
      return .ok (unpacked bytes)
  | .error fault => return .error fault

/-- The opening that a stream leads to. -/
def openingOf (stream : Nat) : Act (Option Nat) := do
  return (← self).streams.lookup stream

/-- Reads from a stream, at most so many bytes. Nothing is the end. -/
def receiveSome (stream limit : Nat) : Act (Except StreamFault ByteArray) := do
  match ← openingOf stream with
  | some number => receive patience number limit
  | none => return .error .closed

/-- Reads a row from a stream, at most so many bytes. Nothing is the end. -/
def readSome (stream limit : Nat) : Act (Except StreamFault Row) := do
  match ← openingOf stream with
  | some number => readOnce patience number limit
  | none => return .error .closed

/-- Reads from a stream to the end of a line as far as that is near, or at least one byte.
Nothing is the end. -/
def readTowardsLine (stream : Nat) : Act Row := do
  match ← openingOf stream with
  | none => return []
  | some number =>
      let target ← targetOf number
      let isSteady :=
        match target with
        | some (.file _) | some (.text _) => true
        | _ => false
      let row := (← readOnce patience number (if isSteady then 128 else 1)).toOption.getD []
      let taken := row.take ((row.takeWhile (· != '\n')).length + 1)
      modify fun machine => { machine with
        openings := machine.openings.modify number fun opening =>
          { opening with position := opening.position - (row.length - taken.length) } }
      return taken

/-- The number of bytes that a program reads at a time. -/
def readingSize : Nat := 65536

/-- Reads an opening to its end, at most so many bytes; the pieces so far come last first. -/
def receiveUpTo : Nat → Nat → Nat → List ByteArray → Act (Except StreamFault ByteArray)
  | 0, _, _, pieces => return .ok (packedAll pieces.reverse)
  | steps + 1, number, limit, pieces => do
      if limit = 0 then return .ok (packedAll pieces.reverse)
      match ← receive patience number (min limit readingSize) with
      | .error fault => return .error fault
      | .ok piece =>
          if piece.isEmpty then return .ok (packedAll pieces.reverse)
          receiveUpTo steps number (limit - piece.size) (piece :: pieces)

/-- More bytes than anybody reads. -/
def mostBytes : Nat := 1000000000000000

/-- Reads an opening to its end. -/
def receiveAll (number : Nat) : Act (Except StreamFault ByteArray) :=
  receiveUpTo patience number mostBytes []

/-- Reads the row of an opening to its end. -/
def readWhole (number : Nat) : Act (Except StreamFault Row) := do
  match ← receiveAll number with
  | .ok bytes =>
      work (lookingEffort bytes.size)
      return .ok (unpacked bytes)
  | .error fault => return .error fault

/-- Reads the row of a stream to its end. -/
def readAll (stream : Nat) : Act (Except StreamFault Row) := do
  match ← openingOf stream with
  | some number => readWhole number
  | none => return .error .closed

/-- Reads the row of an opening to its end. -/
def readOpening (number : Nat) : Act Row := do
  return (← readWhole number).toOption.getD []

/-- Writes bytes to an opening. -/
def sendWith : Nat → Nat → ByteArray → Act (Except StreamFault Unit)
  | 0, _, _ => return .ok ()
  | patience + 1, number, bytes => do
      work streamEffort
      let target ← targetOf number
      match ← modifyGet fun machine => machine.writeNow number bytes with
      | .error .broken =>
          if !(← self).ignored.contains pipeSignal then
            let number ← read
            modify (·.withSignal pipeSignal number)
            await .turn
          return .error .broken
      | .error fault => return .error fault
      | .ok rest =>
          if rest.isEmpty then return .ok ()
          match target with
          | some (.inlet pipe) | some (.channel pipe) => await (.room pipe)
          | _ => await .turn
          sendWith patience number rest

/-- Writes bytes to an opening. -/
def send (number : Nat) (bytes : ByteArray) : Act (Except StreamFault Unit) :=
  if bytes.isEmpty then return .ok () else sendWith patience number bytes

/-- Writes a row to an opening. -/
def writeOpening (number : Nat) (row : Row) : Act (Except StreamFault Unit) := do
  if row.isEmpty then return .ok ()
  let bytes := packed row
  work (lookingEffort bytes.size)
  sendWith patience number bytes

/-- Writes bytes to a stream. -/
def sendTo (stream : Nat) (bytes : ByteArray) : Act (Except StreamFault Unit) := do
  if bytes.isEmpty then return .ok ()
  match ← openingOf stream with
  | some number => sendWith patience number bytes
  | none => return .error .closed

/-- Writes a row to a stream. -/
def write (stream : Nat) (row : Row) : Act (Except StreamFault Unit) := do
  if row.isEmpty then return .ok ()
  match ← openingOf stream with
  | some number => writeOpening number row
  | none => return .error .closed

/-- Moves the position in a file back, so that the bytes before it are read once
more. -/
def stepBack (number count : Nat) : Act Unit :=
  modify fun machine => { machine with
    openings := machine.openings.modify number fun opening =>
      match opening.target with
      | .file _ => { opening with position := opening.position - count }
      | _ => opening }

/-! ### Other processes -/

/-- The work of starting a process. -/
def startEffort : Nat := 6000

/-- Starts a process with streams and a directory like those of this one. The
answer is its number. -/
def start (job : Job) (change : Process → Process) : Act Nat := do
  work (startEffort + 40 * (← get).processes.length)
  let process ← self
  modifyGet fun machine =>
    let number := machine.lastProcess + 1
    let child := change { process with
      number, parent := process.number, caught := [], pending := [], kept := [] }
    (number, { machine with
      processes := machine.processes ++ [child]
      lastProcess := number
      started := machine.started ++ [(number, job)] })

/-- How a process ended. It is forgotten then. -/
def endingOf (number : Nat) : Act (Option ExitStatus) :=
  modifyGet fun machine =>
    match (machine.process? number).bind Process.ending with
    | none => (none, machine)
    | some ending =>
        (some ending, { machine with
          processes := machine.processes.filter fun process => process.number != number })

/-- Waits for the end of a process. -/
def awaitEnding (number : Nat) : Act ExitStatus := do
  await (.ending number none)
  return (← endingOf number).getD (.code 0)

/-- Sends a signal to a process. The answer says whether there is such a
process. -/
def signal (signal number : Nat) : Act Bool := do
  match (← get).process? number with
  | some process =>
      if signal ≠ 0 && process.isAlive then
        modify (·.withSignal signal number)
        await .turn
      return true
  | none => return false

/-- Sends a signal to the processes of a group. The answer says whether there are any. -/
def signalGroup (signal group : Nat) : Act Bool := do
  let members := (← get).groupMembers group
  if signal ≠ 0 && !members.isEmpty then
    modify fun machine => members.foldl (fun machine number => machine.withSignal signal number) machine
    await .turn
  return !members.isEmpty

/-- Sends a signal to those that a number stands for: a process, or a group if the number is
zero or negative. The answer says whether there are any. -/
def signalTo (signal : Nat) (number : Int) : Act Bool := do
  if number > 0 then Act.signal signal number.toNat
  else if number = 0 then signalGroup signal (← self).group
  else signalGroup signal number.natAbs

end Act

end TestAmplification.Shell

/-!
## Taking turns

The processes of a machine take turns. Each goes on until it has to wait, and
those whose wait is over follow one another in the order in which they came to
wait. When all of them wait, the clock goes on to the next moment that one of
them waits for.

The first process is the one that somebody outside waits for, but only until a
deadline. Once it has ended, the others go on as long as one of them could still
write to the records.
-/

namespace TestAmplification.Shell

/-- A process under way. -/
structure Thread where
  /-- The number of its process. -/
  number : Nat
  /-- What it waits for. -/
  wait : Wait
  /-- What it does then. -/
  resume : Machine → Progress Machine Departure

/-- What programs do: how a job is done. -/
abbrev Performer := Job → Act Departure

/-- A process goes on as another program at most so often. -/
def mostBecomings : Nat := 1000

/-- Does a job, and those that it goes on as. -/
def performUpTo (perform : Performer) : Nat → Job → Act ExitStatus
  | 0, _ => return .code 126
  | becomings + 1, job => do
      match ← perform job with
      | .ends status => return .code (status % 256)
      | .falls signal => return .signal signal
      | .becomes path arguments environment =>
          Act.changeSelf fun process => { process with caught := [], kept := [] }
          performUpTo perform becomings (.program path arguments environment)

/-- The thread of a process that begins. -/
def Thread.of (perform : Performer) (number : Nat) (job : Job) : Thread where
  number
  wait := .turn
  resume machine :=
    (performUpTo perform mostBecomings job number machine).andThen fun ending machine =>
      .done (match ending with
        | .code status => .ends status
        | .signal signal => .falls signal) machine

namespace Machine

/-- The machine after the end of a process. -/
def ended (machine : Machine) (number : Nat) (ending : ExitStatus) : Machine :=
  machine.changeProcess number fun process =>
    { process with ending := some ending, streams := [], kept := [], pending := [] }

/-- Is everything done that somebody outside waits for? -/
def isFinished (machine : Machine) : Bool :=
  machine.hasEnded 1 &&
    !machine.isHeld Target.isRecord

/-- The progress after breaths, at most so many. -/
def breathed : Nat → Progress Machine Departure → Progress Machine Departure
  | 0, progress => progress
  | times + 1, progress =>
      match progress with
      | .waiting .breath machine resume => breathed times (resume machine)
      | progress => progress

/-- The most turns that processes take. -/
def mostTurns : Nat := 2000000

/-- Takes the turn of a thread, if it has something to do. The answer is what is
left of the thread. -/
def turnOf (machine : Machine) (thread : Thread) : Option (Option Thread × Machine) :=
  match machine.process? thread.number with
  | none => some (none, machine)
  | some process =>
      match process.fatalSignal? with
      | some signal => some (none, machine.ended thread.number (.signal signal))
      | none =>
          if process.isStopped || !machine.isOver process thread.wait then none
          else
            match breathed mostTurns (thread.resume machine) with
            | .waiting wait machine resume => some (some { thread with wait, resume }, machine)
            | .done (.falls signal) machine =>
                some (none, machine.ended thread.number (.signal signal))
            | .done (.ends status) machine =>
                some (none, machine.ended thread.number (.code status))
            | .done (.becomes ..) machine => some (none, machine.ended thread.number (.code 0))

/-- Takes the first turn that can be taken. The answer is what is left of the
threads. -/
def firstTurn (machine : Machine) : List Thread → List Thread → Option (List Thread × Machine)
  | _, [] => none
  | passed, thread :: others =>
      match machine.turnOf thread with
      | some (left, machine) => some (passed.reverse ++ others ++ left.toList, machine)
      | none => firstTurn machine (thread :: passed) others

/-- The next moment that a thread waits for. Who is stopped waits for none. -/
def nextMoment? (machine : Machine) (threads : List Thread) : Option Nat :=
  (threads.filterMap fun thread =>
    if ((machine.process? thread.number).map Process.isStopped).getD false then none
    else thread.wait.moment?).min?

/-- The machine at a later moment. -/
def goneOn (machine : Machine) (moment : Nat) : Machine :=
  let passed := moment - machine.now
  { machine with
    now := machine.now + passed, effort := 0
    disk := { machine.disk with clock := machine.disk.clock + passed } }

/-- Lets the processes take turns, at most so often. The answer says whether they
came to an end before the deadline. -/
def runUpTo (perform : Performer) (deadline : Nat) : Nat → List Thread → Machine → Bool × Machine
  | 0, _, machine => (machine.hasEnded 1, machine)
  | turns + 1, threads, machine =>
      let threads := threads ++ machine.started.map fun (number, job) =>
        Thread.of perform number job
      let machine := { machine with started := [] }
      if machine.isFinished then (true, machine)
      else
        match machine.firstTurn [] threads with
        | some (threads, machine) => runUpTo perform deadline turns threads machine
        | none =>
            match machine.nextMoment? threads with
            | none => (machine.hasEnded 1, machine)
            | some moment =>
                if moment > deadline && !machine.hasEnded 1 then (false, machine)
                else runUpTo perform deadline turns threads (machine.goneOn moment)

/-- Lets the processes take turns until what somebody outside waits for is
done. -/
def run (perform : Performer) (deadline : Nat) (machine : Machine) : Bool × Machine :=
  runUpTo perform deadline mostTurns [] machine

end Machine

end TestAmplification.Shell
