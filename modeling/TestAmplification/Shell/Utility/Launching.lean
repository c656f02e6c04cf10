import TestAmplification.Shell.Machine.Search
import TestAmplification.Shell.Machine.Basic
import TestAmplification.Shell.Utility.Decimal
import TestAmplification.Shell.Utility.Options

/-!
# Programs that run others

Some programs only prepare what another one finds: its variables, its directory, the
signals that concern it, or how much time it has. They go on as the other program, or
start it and wait for its end.
-/

set_option autoImplicit false

namespace TestAmplification.Shell

open Tool

/-- The path of the program with a name. -/
def programPath (environment : List (String × Row)) (name : Row) : Tool (Except FileFault Row) := do
  return searchProgram (← disk) ((environment.lookup "PATH").getD standardSearch) name

/-- The path of the program of a command whose arguments can be handed to it. -/
def programFor (environment : List (String × Row)) (command : List Row) :
    Tool (Except FileFault Row) := do
  match ← programPath environment (command.head?.getD []) with
  | .ok path => return if isTooMuch command environment then .error .argumentsTooLong else .ok path
  | .error fault => return .error fault

/-- The status of a program that cannot be run. -/
def statusOfFault (fault : FileFault) : Nat :=
  if fault = .notFound then 127 else 126

/-- Goes on as the program that arguments name, or says why that cannot be. -/
def goOnAs (environment : List (String × Row)) (complain : Row → Row) (command : List Row) :
    Tool Nat := do
  let name := command.head?.getD []
  match ← programFor environment command with
  | .ok path => throw (.becomes path command environment)
  | .error fault => fail (complain name ++ rowOf (": " ++ fault.reason)) (statusOfFault fault)

/-! ## Variables -/

/-- The variables with one set or changed. -/
def withVariable (environment : List (String × Row)) (name : String) (value : Row) :
    List (String × Row) :=
  if environment.any fun entry => entry.1 == name then
    environment.map fun entry => if entry.1 = name then (name, value) else entry
  else environment ++ [(name, value)]

/-- The words of a text, where quotes and backslashes keep blanks, in at most so many
steps. The present word comes with whether it has begun. -/
def splitWords : Nat → Option Char → Option Row → Row → List Row
  | 0, _, word, _ | _ + 1, _, word, [] => word.toList
  | steps + 1, quote, word, character :: rest =>
      let more (row : Row) : Option Row := some (word.getD [] ++ row)
      match quote, character, rest with
      | none, '\\', '_' :: rest => word.toList ++ splitWords steps none none rest
      | some '"', '\\', '_' :: rest => splitWords steps quote (more [' ']) rest
      | none, '\\', next :: rest | some '"', '\\', next :: rest =>
          let escaped := ([('n', '\n'), ('t', '\t'), ('r', '\r'), ('f', '\x0c'),
            ('v', '\x0b')].lookup next).getD next
          splitWords steps quote (more [escaped]) rest
      | some mark, _, _ =>
          if character = mark then splitWords steps none (more []) rest
          else splitWords steps quote (more [character]) rest
      | none, _, _ =>
          if character = '"' || character = '\'' then
            splitWords steps (some character) (more []) rest
          else if isSpace character then word.toList ++ splitWords steps none none rest
          else splitWords steps none (more [character]) rest

/-- Runs a program with other variables, or writes the variables. -/
def env : Utility := fun given => withReader (fun call => { call with usageStatus := 125 }) do
  let given :=
    match given with
    | ['-'] :: rest => rowOf "-i" :: rest
    | ['-', 'S'] :: text :: rest => splitWords (text.length + 1) none none text ++ rest
    | ('-' :: 'S' :: text) :: rest => splitWords (text.length + 1) none none text ++ rest
    | given => given
  let arguments ← parseInFront
    [long 'i' "ignore-environment", long '0' "null", long 'u' "unset" .some, long 'C' "chdir" .some,
      long 'S' "split-string" .some, long 'v' "debug", long 'd' "default-signal" .maybe,
      long 'g' "ignore-signal" .maybe, long 'b' "block-signal" .maybe] given
  let unset := arguments.values 'u'
  if let some name := unset.find? fun name => name.isEmpty || name.contains '=' then
    fail (rowOf "cannot unset " ++ quotedIfNeeded name ++ rowOf ": Invalid argument") 125
  let inherited := (← read).environment
  let start := (if arguments.has 'i' then [] else inherited).filter fun entry => !unset.contains (rowOf entry.1)
  let (assignments, command) := arguments.operands.span (·.contains '=')
  let environment := assignments.foldl (fun environment assignment =>
    let name := assignment.takeWhile (· != '=')
    withVariable environment (textOf name) (assignment.drop (name.length + 1))) start
  if let some path := arguments.value? 'C' then
    if command.isEmpty then usage (rowOf "must specify command with --chdir (-C)")
    let disk ← disk
    match disk.tree.inspect disk.workingPlace (textOf path) with
    | .ok (place, some .directory) => Act.changeSelf fun process => { process with place }
    | found =>
        let fault := match found with
          | .error fault => fault
          | .ok (_, none) => .notFound
          | .ok _ => .notADirectory
        fail (rowOf "cannot change directory to " ++ quoted path ++ rowOf (": " ++ fault.reason)) 125
  if command.isEmpty then
    let ending := if arguments.has '0' then ['\x00'] else ['\n']
    put (environment.flatMap fun (name, value) => rowOf name ++ '=' :: value ++ ending)
    return 0
  else
    if arguments.has '0' then usage (rowOf "cannot specify --null (-0) with command")
    goOnAs environment quoted command

/-- Writes variables. -/
def printenv : Utility := fun given => withReader (fun call => { call with usageStatus := 2 }) do
  let arguments ← parseInFront [long '0' "null"] given
  let environment := (← read).environment
  let ending := if arguments.has '0' then ['\x00'] else ['\n']
  if arguments.operands.isEmpty then
    put (environment.flatMap fun (name, value) => rowOf name ++ '=' :: value ++ ending)
    return 0
  else
    worst (fun name => do
      match environment.lookup (textOf name) with
      | some value =>
          put (value ++ ending)
          return 0
      | none => return 1) arguments.operands

/-! ## Time -/

/-- Waits. -/
def sleep : Utility := fun given => do
  let arguments ← parseArguments [] given
  if arguments.operands.isEmpty then usage (rowOf "missing operand")
  let times := arguments.operands.map fun text => (text, nanosecondsOf? text)
  let faults := times.filter fun (_, time) => time.isNone
  faults.forM fun (text, _) => warn (rowOf "invalid time interval " ++ quotedText text)
  if !faults.isEmpty then hint
  Act.pause ((times.filterMap Prod.snd).foldl (· + ·) 0)
  return 0

/-- Sends a signal to a process and, if wanted, to all others of the own group. -/
def signalAll (isAlone : Bool) (signal child : Nat) : Tool Unit := do
  let self ← Act.self
  let members := (← get).groupMembers self.group
  let others := if isAlone then [] else members.filter (· != self.number)
  ((child :: others).eraseDups).forM fun number =>
    modify fun machine =>
      if machine.hasEnded number then machine
      else
        let machine := machine.withSignal signal number
        if signal = killSignal || signal = resumeSignal then machine
        else machine.withSignal resumeSignal number

/-- Runs a program for at most so long. -/
def timeout : Utility := fun given => withReader (fun call => { call with usageStatus := 125 }) do
  let arguments ← parseInFront
    [long 'k' "kill-after" .some, long 's' "signal" .some, long 'v' "verbose", long 'f' "foreground",
      long 'p' "preserve-status"] given
  let interval (text : Row) : Tool Nat := do
    match nanosecondsOf? text with
    | some time => return time
    | none => usage (rowOf "invalid time interval " ++ quotedText text)
  let later ← (arguments.value? 'k').mapM interval
  let signal ←
    match arguments.value? 's' with
    | none => pure 15
    | some text =>
        let name := if (rowOf "SIG").isPrefixOf (text.map Char.toUpper) then text.drop 3 else text
        match signalOf? name with
        | some signal => pure signal
        | none => usage (quotedText text ++ rowOf ": invalid signal")
  let (limit, command) ←
    match arguments.operands with
    | limit :: name :: rest => pure (← interval limit, name :: rest)
    | _ => hint
  let environment := (← read).environment
  let name := command.head?.getD []
  match ← programFor environment command with
  | .error fault =>
      fail (rowOf "failed to run command " ++ quotedText name ++ rowOf (": " ++ fault.reason))
        (statusOfFault fault)
  | .ok path =>
      if !arguments.has 'f' then
        Act.changeSelf fun process => { process with group := process.number }
      let child ← Act.start (.program path command environment) id
      let send (signal : Nat) : Tool Unit := do
        if arguments.has 'v' then
          warn (rowOf ("sending signal " ++ nameOfSignal signal
            ++ " to command ") ++ quotedText name)
        signalAll (arguments.has 'f') signal child
        if signal = killSignal && !arguments.has 'f' then throw (.falls killSignal)
      let begun := (← get).now
      Act.await (.ending child (if limit = 0 then none else some (begun + limit)))
      if (← get).hasEnded child then
        match ← Act.endingOf child with
        | some (.signal signal) => throw (.falls signal)
        | ending => return statusOf (ending.getD (.code 0))
      else
        send signal
        match later with
        | none => Act.await (.ending child none)
        | some time =>
            Act.await (.ending child (some ((← get).now + time)))
            if !(← get).hasEnded child then send killSignal
        let ending := (← Act.endingOf child).getD (.code 0)
        match ending with
        | .signal 9 => return if arguments.has 'p' || signal = killSignal then 137 else 124
        | ending => return if arguments.has 'p' then statusOf ending else 124

/-! ## Surroundings -/

/-- Runs a program that hanging up does not concern. -/
def nohup : Utility := fun given => withReader (fun call => { call with usageStatus := 125 }) do
  let arguments ← parseInFront [] given
  if arguments.operands.isEmpty then usage (rowOf "missing operand")
  Act.changeSelf fun process => { process with ignored := 1 :: process.ignored }
  goOnAs (← read).environment (fun name => rowOf "failed to run command " ++ quotedText name)
    arguments.operands

/-- Runs a program in a group of its own. A process that leads a group starts another one for
that. -/
def setsid : Utility := fun given => do
  let arguments ← parseInFront [long 'c' "ctty", long 'f' "fork", long 'w' "wait"] given
  if arguments.operands.isEmpty then usage (rowOf "no command specified")
  let environment := (← read).environment
  let complain (name : Row) : Row := rowOf "failed to execute " ++ name
  let self ← Act.self
  if self.group = self.number || arguments.has 'f' then
    match ← programFor environment arguments.operands with
    | .error fault =>
        fail (complain (arguments.operands.head?.getD []) ++ rowOf (": " ++ fault.reason))
          (statusOfFault fault)
    | .ok path =>
        let child ← Act.start (.program path arguments.operands environment) fun process =>
          { process with group := process.number }
        if arguments.has 'w' then return statusOf (← Act.awaitEnding child) else return 0
  else
    Act.changeSelf fun process => { process with group := process.number }
    goOnAs environment complain arguments.operands

/-- Runs a program with less of a claim to time. -/
def nice : Utility := fun given => withReader (fun call => { call with usageStatus := 125 }) do
  let given :=
    match given with
    | ('-' :: digit :: more) :: rest =>
        if digit.isDigit then rowOf "-n" :: (digit :: more) :: rest else given
    | given => given
  let arguments ← parseInFront [long 'n' "adjustment" .some] given
  let adjustment := arguments.value? 'n'
  if let some text := adjustment then
    if (intOf? text).isNone then fail (rowOf "invalid adjustment " ++ quotedText text) 125
  match arguments.operands, adjustment with
  | [], some _ => usage (rowOf "a command must be given with an adjustment")
  | [], none =>
      putLine ['0']
      return 0
  | command, _ => goOnAs (← read).environment quoted command

/-- Runs a program whose streams pass on what they hold at other times. -/
def stdbuf : Utility := fun given => withReader (fun call => { call with usageStatus := 125 }) do
  let arguments ← parseInFront
    [long 'i' "input" .some, long 'o' "output" .some, long 'e' "error" .some] given
  arguments.options.reverse.forM fun (letter, mode) => do
    if mode = ['L'] && letter = 'i' then
      usage (rowOf "line buffering stdin is meaningless")
    if mode ≠ ['L'] && !(mode.head?.any Char.isDigit) then
      fail (rowOf "invalid mode " ++ quotedText mode) 125
  if arguments.operands.isEmpty then usage (rowOf "missing operand")
  if arguments.options.isEmpty then usage (rowOf "you must specify a buffering mode option")
  goOnAs (← read).environment (fun name => rowOf "failed to run command " ++ quotedText name)
    arguments.operands

/-! ## Small programs -/

/-- More lines than anybody reads. -/
def mostLines : Nat := 1000000000000

/-- Writes a row again and again. -/
def writeForever (row : Row) : Nat → Tool Nat
  | 0 => return 0
  | count + 1 => do
      put row
      writeForever row count

/-- Writes a line again and again. -/
def yes : Utility := fun given => do
  let arguments ← parseArguments [] given
  let line := if arguments.operands.isEmpty then ['y'] else joinWith [' '] arguments.operands
  let count := 4096 / (line.length + 1) + 1
  writeForever (List.replicate count (line ++ ['\n'])).flatten mostLines

/-- Does nothing. -/
def succeed : Utility := fun _ => return 0

/-- Does nothing, and that without success. -/
def doNotSucceed : Utility := fun _ => return 1

/-- Sends signals. -/
def sendSignals : Utility := fun given => do
  let (signal, numbers) ←
    match given with
    | ['-', 'l'] :: [] =>
        let names := signals.map Prod.fst
        putLine (joinWith [' '] ((names.take 16).map rowOf))
        putLine (joinWith [' '] ((names.drop 16).map rowOf))
        leave 0
    | ['-', 'l'] :: name :: _ =>
        match Text.digits? name, signalOf? name with
        | some number, _ => putLine (rowOf (nameOfSignal (number % 128)))
        | none, some signal => putLine (natRow signal)
        | none, none => fail (rowOf "unknown signal name " ++ name) 1
        leave 0
    | ['-', 's'] :: name :: rest => pure (signalOf? name, rest)
    | ['-', '-'] :: rest => pure (some 15, rest)
    | ('-' :: name) :: rest =>
        let name := if (rowOf "SIG").isPrefixOf name then name.drop 3 else name
        pure (signalOf? name, rest)
    | rest => pure (some 15, rest)
  match signal with
  | none => fail (rowOf "unknown signal name") 1
  | some signal =>
      worst (fun text => do
        match intOf? text with
        | some number =>
            if ← Act.signalTo signal number then return 0
            else
              warn (rowOf "(" ++ intRow number ++ rowOf "): No such process")
              return 1
        | none =>
            warn (rowOf "failed to parse argument: '" ++ text ++ ['\''])
            return 1) numbers

end TestAmplification.Shell
