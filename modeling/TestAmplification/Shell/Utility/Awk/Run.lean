import TestAmplification.Shell.Utility.Awk.Memory

/-!
# Running programs of `awk`

Expressions are worked out and statements are run in steps, which know how deep they may be in
one another. Loops do not add to that depth.

A function gets its own names for what it is given. A name that stands for nothing yet can
still become an array there; so the one who calls it and the function agree beforehand which
array that will be.
-/

set_option autoImplicit false

/-!
## Texts in texts

Functions of `awk` that look for a text in another one, cut a part out of it, or put
something else in the place of what a pattern matches.
-/

namespace TestAmplification.Shell.Awk

/-- The number of the first character from which a text is found in another one, counted from
one, or zero. -/
def indexFrom (wanted : Row) : Nat → Row → Nat
  | number, row =>
      if wanted.isPrefixOf row then number
      else
        match row with
        | [] => 0
        | _ :: rest => indexFrom wanted (number + 1) rest

/-- So many characters of a row from the one with a number on. What would stand in front of the
first one is missing. -/
def part (row : Row) (start : Int) (length : Option Int) : Row :=
  let behind := row.drop (start - 1).toNat
  match length with
  | none => behind
  | some length => behind.take (if start < 0 then length - start else length).toNat

/-- What a replacement stands for when something was matched. An ampersand is what was matched,
unless an odd number of backslashes stands in front of it; two of them are one there. -/
def replacementFor (matched : Row) : Nat → Row → Row
  | backslashes, [] => List.replicate backslashes '\\'
  | backslashes, '\\' :: rest => replacementFor matched (backslashes + 1) rest
  | backslashes, '&' :: rest =>
      List.replicate (backslashes / 2) '\\'
        ++ (if backslashes % 2 = 1 then ['&'] else matched) ++ replacementFor matched 0 rest
  | backslashes, character :: rest =>
      List.replicate backslashes '\\' ++ character :: replacementFor matched 0 rest

/-- The row with something else in the place of matches, from a place on. -/
def withReplaced (replacement row : Row) (place : Nat) : List Regex.Found → Row
  | [] => row
  | found :: rest =>
      let behind := row.drop (found.start - place)
      row.take (found.start - place)
        ++ replacementFor (behind.take (found.finish - found.start)) 0 replacement
        ++ withReplaced replacement (behind.drop (found.finish - found.start)) found.finish rest

/-- Puts a replacement in the place of the first match, or of all matches. The answer is the new
text and how many there were. -/
def substitute (regex : Regex) (isAll : Bool) (replacement row : Row) : Row × Nat :=
  let subject : Subject := { characters := row.toArray }
  let found := if isAll then regex.allMatches subject else (regex.search subject 0).toList
  (withReplaced replacement row 0 found, found.length)

/-- The order of two texts. -/
def orderOf (first second : Row) : Ordering :=
  if first = second then .eq else if first < second then .lt else .gt

/-- Does a relation hold where the order is that? -/
def Relation.holds : Relation → Ordering → Bool
  | .less, order => order == .lt
  | .atMost, order => order != .gt
  | .equal, order => order == .eq
  | .different, order => order != .eq
  | .greater, order => order == .gt
  | .atLeast, order => order != .lt

/-- Does a relation hold between numbers? -/
def Relation.holdsFor (relation : Relation) (first second : Float) : Bool :=
  match relation with
  | .less => first < second
  | .atMost => first ≤ second
  | .equal => first == second
  | .different => first != second
  | .greater => first > second
  | .atLeast => first ≥ second

/-- The result of an operation on numbers. -/
def Operation.apply (operation : Operation) (first second : Float) : Float :=
  match operation with
  | .add => first + second
  | .subtract => first - second
  | .multiply => first * second
  | .divide => first / second
  | .remainder => Awk.remainder first second
  | .power => first.pow second

/-- The function that a function of a program is, if it makes a number out of one. -/
def Builtin.ofNumber? : Builtin → Option (Float → Float)
  | .sin => some Float.sin
  | .cos => some Float.cos
  | .exp => some Float.exp
  | .log => some Float.log
  | .sqrt => some Float.sqrt
  | .int => some fun number => if number < 0.0 then number.ceil else number.floor
  | _ => none

end TestAmplification.Shell.Awk

namespace TestAmplification.Shell.Awk

/-- The functions of a program by their names. -/
abbrev Functions := List (String × Function)

namespace Steps

/-- How deep expressions, statements and calls can be in one another. -/
def deepest : Nat := 24000

/-- The room for what functions under way were given. -/
def mostUsed : Nat := 1004

/-- More rounds than any loop has. -/
def mostRounds : Nat := 1000000000000

/-- Fails since too much is under way. -/
def tooDeep {Result : Type} : Steps Result :=
  fault (rowOf "program limit exceeded: eval stack size=1024")

/-- What a function is given for a name. -/
def cellFor (name : String) : Steps Cell := do
  match (← get).cellOf name with
  | .array number => return .array number
  | .fresh number => return .fresh number
  | .value .absent =>
      if name = "NF" then return .value (← valueOf name)
      let number ← newArray
      modify fun state => state.withCell name (.fresh number)
      return .fresh number
  | .value value => return .value value

/-- Is a relation one between two values? Values that count as numbers are compared as such. -/
def relate (relation : Relation) (first second : Value) : Steps Bool := do
  match first.number?, second.number? with
  | some first, some second => return relation.holdsFor first second
  | _, _ => return relation.holds (orderOf (← textOf first) (← textOf second))

/-- Does a pattern occur in a text? -/
def occurs (regex : Regex) (row : Row) : Steps Bool := do
  work (row.length / 4)
  return regex.occursIn { characters := row.toArray }

/-- Values in a format, or the fault of a function that has a name. -/
def formatted (name : String) (values : List Value) : Steps (Row × Option Row) := do
  let state ← get
  let format := state.textOf (values.head?.getD .absent)
  let (row, fault) := formatRow (state.setting "CONVFMT") format (values.drop 1)
  let call := rowOf name ++ rowOf "(\"" ++ format ++ rowOf "\")"
  match fault with
  | none => return (row, none)
  | some .missing => return (row, some (rowOf "not enough arguments passed to " ++ call))
  | some (.improper number) =>
      return (row, some (rowOf "improper conversion(number " ++ natRow number ++ rowOf ") in " ++ call))

/-- The next number that looks as if nobody could foresee it, from zero to one. -/
def chance : Steps Float := do
  modify fun state => { state with
    chance := (state.chance * 6364136223846793005 + 1442695040888963407) % powerOfTwo 64 }
  return Float.ofNat ((← get).chance >>> 11) / Float.ofNat (powerOfTwo 53)

/-- Starts chance anew. The answer is what it was started with before. -/
def seedChance (seed : Value) : Steps Value :=
  modifyGet fun state =>
    (state.seed, { state with seed, chance := (seed.toNumber.abs.toUInt64).toNat + 1 })

/-- Leaves a function that takes so much room, where it was called with names of its own. -/
def afterCall (own : List (String × Cell)) (used mark : Nat) : Steps Unit :=
  modify fun state =>
    let arrays := state.own.foldl (fun arrays entry =>
      match entry.2 with
      | .array number => if number ≥ mark then arrays.erase number else arrays
      | _ => arrays) state.arrays
    { state with own, used, arrays }

/-- Calls a function with what it is given. -/
def callWith (function : Function) (given : List Cell) (body : Steps Unit) : Steps Value := do
  let state ← get
  let size := function.parameters.length
  let (own, used, mark) := (state.own, state.used, state.nextArray)
  if used + size > mostUsed then tooDeep
  let missing := List.replicate (size - given.length) (Cell.value .absent)
  modify fun state => { state with own := function.parameters.zip (given ++ missing), used := used + size }
  let result ← catching body
  afterCall own used mark
  match result with
  | .ok () => return .absent
  | .error (.giveBack value) => return value
  | .error other => leave other

/-- Takes steps of a loop. The answer says whether the loop goes on. -/
def inLoop (body : Steps Unit) : Steps Bool := do
  match ← catching body with
  | .ok () | .error .round => return true
  | .error .loop => return false
  | .error other => leave other

mutual

/-- Works an expression out. -/
def evaluate (functions : Functions) : Nat → Expression → Steps Value
  | 0, _ => tooDeep
  | depth + 1, expression => do
      work 1
      match expression with
      | .number value => return .number value
      | .text row => return .text row
      | .regex pattern => return .ofBool (← occurs (← regexAt pattern) (← record))
      | .named name => valueOf name
      | .element .. | .field _ => valueAt (← slotOf functions depth expression)
      | .assign none target value => do
          let slot ← slotOf functions depth target
          let value ← evaluate functions depth value
          put slot value
          return value
      | .assign (some operation) target value => do
          let slot ← slotOf functions depth target
          let value ← evaluate functions depth value
          let result := operation.apply (← valueAt slot).toNumber value.toNumber
          put slot (.number result)
          return .number result
      | .step isUp isAfter target => do
          let slot ← slotOf functions depth target
          let before := (← valueAt slot).toNumber
          let after := if isUp then before + 1.0 else before - 1.0
          put slot (.number after)
          return .number (if isAfter then before else after)
      | .negative inner => return .number (-(← evaluate functions depth inner).toNumber)
      | .positive inner => return .number (← evaluate functions depth inner).toNumber
      | .negated inner => return .ofBool !(← evaluate functions depth inner).isTrue
      | .operate operation first second => do
          let first ← evaluate functions depth first
          let second ← evaluate functions depth second
          return .number (operation.apply first.toNumber second.toNumber)
      | .relate relation first second => do
          let first ← evaluate functions depth first
          let second ← evaluate functions depth second
          return .ofBool (← relate relation first second)
      | .joined first second => do
          let first ← textOf (← evaluate functions depth first)
          let second ← textOf (← evaluate functions depth second)
          work (first.length / 16 + first.length * first.length / 1600000)
          return .text (first ++ second)
      | .both first second => do
          if (← evaluate functions depth first).isTrue then
            return .ofBool (← evaluate functions depth second).isTrue
          else return .ofBool false
      | .either first second => do
          if (← evaluate functions depth first).isTrue then return .ofBool true
          else return .ofBool (← evaluate functions depth second).isTrue
      | .choice condition yes no => do
          if (← evaluate functions depth condition).isTrue then evaluate functions depth yes
          else evaluate functions depth no
      | .occurs text pattern => do
          let row ← textOf (← evaluate functions depth text)
          return .ofBool (← occurs (← regexOfExpression functions depth pattern) row)
      | .holds subscripts name => do
          let subscript ← subscriptOf (← evaluateAll functions depth subscripts)
          return .ofBool (← hasElement (← arrayNumber name) subscript)
      | .call name given => do
          match functions.lookup name with
          | none => fault (rowOf ("function " ++ name ++ " never defined"))
          | some function =>
              let cells ← cellsFor functions depth given
              callWith function cells (run functions depth function.body)
      | .builtin function given => callBuiltin functions depth function given
      | .getline source path target => do
          let (row, isFault) ←
            match source with
            | .inputs => pure (← nextRecord, false)
            | source => otherRecord source (← textOf (← evaluate functions depth path))
          match row with
          | none => return .number (if isFault then -1.0 else 0.0)
          | some row =>
              match target with
              | none => modify fun state => state.setRecord row
              | some target => put (← slotOf functions depth target) (.given row)
              return .number 1.0

/-- Works expressions out, one after the other. -/
def evaluateAll (functions : Functions) : Nat → List Expression → Steps (List Value)
  | 0, _ => tooDeep
  | depth + 1, expressions => expressions.mapM (evaluate functions depth)

/-- Finds the place that an expression stands for. -/
def slotOf (functions : Functions) : Nat → Expression → Steps Slot
  | 0, _ => tooDeep
  | depth + 1, expression => do
      match expression with
      | .named name => return .named name
      | .element name subscripts =>
          let subscript ← subscriptOf (← evaluateAll functions depth subscripts)
          let number ← arrayNumber name
          let _ ← element number subscript
          return .element number subscript
      | .field index => return .field (← fieldIndex (← evaluate functions depth index))
      | _ => fault (rowOf "nothing can be put there")

/-- The pattern that an expression stands for. -/
def regexOfExpression (functions : Functions) : Nat → Expression → Steps Regex
  | 0, _ => tooDeep
  | depth + 1, expression => do
      match expression with
      | .regex pattern => regexAt pattern
      | expression => regexAt (← textOf (← evaluate functions depth expression))

/-- What a function is given. -/
def cellsFor (functions : Functions) : Nat → List Expression → Steps (List Cell)
  | 0, _ => tooDeep
  | depth + 1, expressions => expressions.mapM fun expression => do
      match expression with
      | .named name => cellFor name
      | expression => return .value (← evaluate functions depth expression)

/-- Calls a function that every program has. -/
def callBuiltin (functions : Functions) : Nat → Builtin → List Expression → Steps Value
  | 0, _, _ => tooDeep
  | depth + 1, function, given => do
      let textAt (index : Nat) : Steps Row := do
        match given[index]? with
        | some expression => textOf (← evaluate functions depth expression)
        | none => return []
      let numberAt (index : Nat) : Steps Float := do
        match given[index]? with
        | some expression => return (← evaluate functions depth expression).toNumber
        | none => return 0.0
      let natural (number : Nat) : Value := .number (Float.ofNat number)
      match function, given with
      | .length, [] => return natural (← record).length
      | .length, [.named name] =>
          match (← get).cellOf name with
          | .array number => return natural (← array number).elements.size
          | _ => return natural (← textOf (← valueOf name)).length
      | .length, _ => return natural (← textAt 0).length
      | .substr, _ =>
          let row ← textAt 0
          let start := wordOf (← numberAt 1)
          let length ← if given.length > 2 then pure (some (wordOf (← numberAt 2))) else pure none
          return .text (part row start length)
      | .index, _ =>
          let row ← textAt 0
          return natural (indexFrom (← textAt 1) 1 row)
      | .split, _ =>
          let row ← textAt 0
          let separator ←
            match (given[2]? : Option Expression) with
            | none => pure (← get).separator
            | some (.regex pattern) => pure (Separator.regex (← regexAt pattern))
            | some expression => separatorAt (← textOf (← evaluate functions depth expression))
          let parts := separator.cut row
          match (given[1]? : Option Expression) with
          | some (.named name) =>
              let number ← arrayNumber name
              changeArray number fun _ => .ofValues (parts.map .given)
              return natural parts.length
          | _ => fault (rowOf "nothing can be put there")
      | .sub, pattern :: _ :: rest | .gsub, pattern :: _ :: rest =>
          let regex ← regexOfExpression functions depth pattern
          let replacement ← textAt 1
          let slot ←
            match rest with
            | target :: _ => slotOf functions depth target
            | [] => pure (Slot.field 0)
          let row ← textOf (← valueAt slot)
          work (row.length / 4)
          let (changed, count) := substitute regex (function = .gsub) replacement row
          if count > 0 then put slot (.text changed)
          return natural count
      | .find, text :: pattern :: _ =>
          let row ← textOf (← evaluate functions depth text)
          let regex ← regexOfExpression functions depth pattern
          work (row.length / 4)
          let found := regex.search { characters := row.toArray } 0
          let start := (found.map fun found => found.start + 1).getD 0
          setVariable "RSTART" (natural start)
          setVariable "RLENGTH" ((found.map fun found => natural (found.finish - found.start)).getD
            (.number (-1.0)))
          return natural start
      | .sprintf, _ =>
          let (row, complaint) ← formatted "sprintf" (← evaluateAll functions depth given)
          match complaint with
          | none => return .text row
          | some message => runtimeFault message
      | .atan2, _ =>
          let first ← numberAt 0
          return .number (Float.atan2 first (← numberAt 1))
      | .rand, _ => return .number (← chance)
      | .srand, [] => seedChance (.number (floatOf (← ask .moment).status))
      | .srand, expression :: _ => seedChance (← evaluate functions depth expression)
      | .tolower, _ => return .text ((← textAt 0).map Char.toLower)
      | .toupper, _ => return .text ((← textAt 0).map Char.toUpper)
      | .system, _ => return .number (floatOf (← system (← textAt 0)))
      | .close, _ => return .number (floatOf (← closeAll (← textAt 0)))
      | .flush, [] => return .number (floatOf (← flushNamed none))
      | .flush, _ => return .number (floatOf (← flushNamed (some (← textAt 0))))
      | .moment, _ => return .number (floatOf (← ask .moment).status)
      | function, _ => return .number ((function.ofNumber?.getD fun number => number) (← numberAt 0))

/-- Runs a statement. -/
def run (functions : Functions) : Nat → Statement → Steps Unit
  | 0, _ => tooDeep
  | depth + 1, statement => do
      match statement with
      | .expression expression =>
          let _ ← evaluate functions depth expression
      | .print given sink =>
          let values ← if given.isEmpty then pure [.given (← record)]
            else evaluateAll functions depth given
          let sink ← sinkFor functions depth sink
          let state ← get
          write sink (joinWith (state.setting "OFS") (values.map state.shown) ++ state.setting "ORS")
      | .printf given sink =>
          let values ← evaluateAll functions depth given
          let sink ← sinkFor functions depth sink
          let (row, complaint) ← formatted "printf" values
          write sink row
          complaint.forM runtimeFault
      | .choice condition yes no =>
          if (← evaluate functions depth condition).isTrue then run functions depth yes
          else run functions depth no
      | .loop isAfter condition step body =>
          let holds : Steps Bool := do
            work 1
            match condition with
            | some condition => return (← evaluate functions depth condition).isTrue
            | none => return true
          let round : Steps Bool := do
            if isAfter then
              if ← inLoop (run functions depth body) then holds else return false
            else if ← holds then
              if ← inLoop (run functions depth body) then
                run functions depth step
                return true
              else return false
            else return false
          again round mostRounds
      | .forEach name array body =>
          let number ← arrayNumber array
          changeArray number Collection.arranged
          let subscripts := (← Steps.array number).subscripts
          overItems (fun subscript => do
            setVariable name (.text subscript)
            inLoop (run functions depth body)) subscripts
      | .block statements => statements.forM (run functions depth)
      | .leaveLoop => leave .loop
      | .leaveRound => leave .round
      | .next => leave .next
      | .nextInput => leave .input
      | .exit status =>
          if let some expression := status then
            let status := wordOf (← evaluate functions depth expression).toNumber
            modify fun state => { state with status := (status % 256).toNat }
          leave .exit
      | .giveBack value =>
          match value with
          | some expression => leave (.giveBack (← evaluate functions depth expression))
          | none => leave (.giveBack .absent)
      | .delete name subscripts =>
          let number ← arrayNumber name
          match subscripts with
          | none => changeArray number fun _ => {}
          | some subscripts =>
              let subscript ← subscriptOf (← evaluateAll functions depth subscripts)
              changeArray number fun collection => collection.erase subscript

/-- The place that a statement writes to. -/
def sinkFor (functions : Functions) : Nat → Option (SinkKind × Expression) → Steps Sink
  | 0, _ => tooDeep
  | depth + 1, sink => do
      match sink with
      | none => return .standard
      | some (kind, expression) =>
          return sinkOf kind (← textOf (← evaluate functions depth expression))

end

end Steps

namespace Program

open Steps

/-- Is a rule with a number meant for the record? -/
def isMeant (program : Program) (number : Nat) (rule : Rule) : Steps Bool := do
  let holds (expression : Expression) : Steps Bool := do
    return (← evaluate program.functions deepest expression).isTrue
  match rule.pattern with
  | .first | .last => return false
  | .condition none => return true
  | .condition (some expression) => holds expression
  | .range start finish =>
      if (← get).openRanges.contains number || (← holds start) then
        if ← holds finish then
          modify fun state => { state with openRanges := state.openRanges.filter (· != number) }
        else
          modify fun state => { state with openRanges := number :: state.openRanges.filter (· != number) }
        return true
      else return false

/-- Does what a rule says. -/
def follow (program : Program) (rule : Rule) : Steps Unit :=
  run program.functions deepest (rule.action.getD (.print [] none))

/-- Does what the rules say that come first, or last. -/
def followAll (program : Program) (isMeant : Pattern → Bool) : Steps Unit :=
  (program.rules.filter fun rule => isMeant rule.pattern).forM program.follow

/-- Uses the rules for the record. -/
def forRecord (program : Program) : Steps Unit :=
  program.rules.zipIdx.forM fun (rule, number) => do
    if ← program.isMeant number rule then program.follow rule

/-- Uses the rules for the next record. The answer says whether there was one. -/
def oneRecord (program : Program) : Steps Bool := do
  match ← nextRecord with
  | none => return false
  | some row =>
      modify fun state => state.setRecord row
      work 8
      match ← catching program.forRecord with
      | .ok () | .error .next => return true
      | .error .input =>
          modify fun state => { state with hasInput := false }
          return true
      | .error other => leave other

/-- Is there a rule that needs the records? -/
def needsRecords (program : Program) : Bool :=
  program.rules.any fun rule =>
    match rule.pattern with
    | .first => false
    | _ => true

/-- Takes steps unless they leave the program because of a fault. The answer says whether they
came to their end. -/
def untilExit (steps : Steps Unit) : Steps Bool := do
  match ← catching steps with
  | .ok () => return true
  | .error (.fault message) => fault message
  | .error _ => return false

/-- Runs the program. An exit leads to the rules that come last, unless it is one of them. -/
def runAll (program : Program) : Steps Unit := do
  let isFirst : Pattern → Bool := fun
    | .first => true
    | _ => false
  let isLast : Pattern → Bool := fun
    | .last => true
    | _ => false
  let goesOn ← untilExit (program.followAll isFirst)
  if goesOn && program.needsRecords then
    let _ ← untilExit (again program.oneRecord mostRounds)
  let _ ← untilExit (program.followAll isLast)

end Program

end TestAmplification.Shell.Awk
