import Std.Data.HashMap
import TestAmplification.Shell.Utility.Awk.Syntax
import TestAmplification.Shell.Utility.Awk.Value
import TestAmplification.Shell.Utility.Regex

/-!
# The state of a program of `awk`

A program runs by itself as long as it only computes. Where it needs something from
outside it asks for that, and goes on with the answer (`Turn.asks`).

What is written is kept for a while. It goes out when it is much, when its place is closed,
when a command is started, and at the end.
-/

set_option autoImplicit false

/-!
## Arrays of `awk`

An array holds values under subscripts, which are texts. The subscripts come in the order of
the slots that their hash values lead to. In one slot, what was used last comes first.

An array whose subscripts were all numbers is first arranged by these numbers, and by their
texts as soon as somebody wants to go through it or uses another text.
-/

namespace TestAmplification.Shell.Awk

/-- A subscript: a text, which may be that of a whole number. -/
structure Subscript where
  /-- The text. -/
  row : Row
  /-- The whole number, if it was given as one. -/
  number : Option Int := none
deriving Inhabited

/-- An element of an array. -/
structure Element where
  /-- Its value. -/
  value : Value
  /-- When it was used last. -/
  stamp : Nat
  /-- The whole number that its subscript was given as. -/
  number : Option Int
deriving Inhabited

/-- An array. -/
structure Collection where
  /-- The elements by their subscripts. -/
  elements : Std.HashMap Row Element := {}
  /-- How often an element was used. -/
  clock : Nat := 0
  /-- Is it arranged by texts? -/
  isText : Bool := false
  /-- The number of slots. -/
  slots : Nat := 64
deriving Inhabited

namespace Collection

/-- The hash value of a text. -/
def hashOf (row : Row) : UInt32 :=
  row.foldl (fun hash character => (hash ^^^ character.val) * 16777619) 2166136261

/-- The slot of a text. -/
def slotOf (collection : Collection) (row : Row) : Nat :=
  (hashOf row).toNat % collection.slots

/-- The most elements for each slot. -/
def mostInSlot : Nat := 12

/-- The subscripts with their elements, in the order of some key. Those with the same key come in
the order in which they were used, the last one first. -/
def ordered (collection : Collection) (key : Row × Element → Nat) : List (Row × Element) :=
  let keyed := collection.elements.toList.map fun entry => (key entry, entry)
  (keyed.mergeSort fun first second =>
    if first.1 = second.1 then decide (second.2.2.stamp ≤ first.2.2.stamp)
    else decide (first.1 < second.1)).map Prod.snd

/-- Elements with other stamps, from a number on. -/
def stamped (elements : Std.HashMap Row Element) : Nat → List (Row × Element) → Std.HashMap Row Element
  | _, [] => elements
  | stamp, (row, element) :: rest =>
      stamped (elements.insert row { element with stamp }) (stamp + 1) rest

/-- The array arranged by texts. -/
def arranged (collection : Collection) : Collection :=
  if collection.isText then collection
  else
    let slots : Int := collection.slots
    let entries := collection.ordered fun entry => ((entry.2.number.getD 0) % slots).toNat
    { collection with
      elements := stamped {} collection.clock entries
      clock := collection.clock + entries.length
      isText := true }

/-- The array as it is before a subscript is used. -/
def before (collection : Collection) (subscript : Subscript) : Collection :=
  if subscript.number.isNone then collection.arranged else collection

/-- Does the array have the element? -/
def holds (collection : Collection) (subscript : Subscript) : Bool :=
  collection.elements.contains subscript.row

/-- The value of an element, if there is one. -/
def find? (collection : Collection) (subscript : Subscript) : Option Value :=
  collection.elements[subscript.row]?.map Element.value

/-- The array with a value at a subscript. -/
def insert (collection : Collection) (subscript : Subscript) (value : Value) : Collection :=
  match collection.before subscript with
  | { elements, clock, isText, slots } =>
      let elements := elements.insert subscript.row
        { value, stamp := clock, number := subscript.number }
      let isFull := decide (elements.size > mostInSlot * slots)
      { elements, clock := clock + 1, isText, slots := if isFull then 2 * slots else slots }

/-- The array without an element. -/
def erase (collection : Collection) (subscript : Subscript) : Collection :=
  { collection with elements := collection.elements.erase subscript.row }

/-- The subscripts of an array that is arranged by texts. -/
def subscripts (collection : Collection) : List Row :=
  (collection.ordered fun entry => collection.slotOf entry.1).map Prod.fst

/-- The array of some values, with their numbers as subscripts. -/
def ofValues (values : List Value) : Collection :=
  (values.zipIdx 1).foldl (fun collection (value, number) =>
    collection.insert ⟨natRow number, some number⟩ value) {}

end Collection

end TestAmplification.Shell.Awk

namespace TestAmplification.Shell.Awk

/-! ## Requests -/

/-- Where something is written. -/
inductive Sink where
  /-- The standard output. -/
  | standard
  /-- The standard error. -/
  | errors
  /-- A file from its start, a file at its end, or a command. -/
  | named (kind : SinkKind) (name : Row)
deriving DecidableEq, Inhabited

/-- Where a record ends. -/
inductive RecordEnd where
  /-- At a character. -/
  | character (character : Char)
  /-- At empty lines. -/
  | paragraph
  /-- At what an expression matches. -/
  | regex (regex : Regex)
deriving Inhabited

/-- What a program asks for. -/
inductive Request where
  /-- That a place to write to is opened. -/
  | prepare (sink : Sink)
  /-- That something is written. -/
  | write (sink : Sink) (row : Row)
  /-- That all that leads to or comes from something is closed. -/
  | close (name : Row)
  /-- That the next input is opened. -/
  | input (path : Row)
  /-- A record. -/
  | record (source : LineSource) (name : Row) (ending : RecordEnd)
  /-- That a command is run. -/
  | system (command : Row)
  /-- The moment. -/
  | moment
  /-- That so much work is counted. -/
  | work (effort : Nat)

/-- An answer: a number that says how it went, and a text. Where something is opened or read,
one stands for success, zero for the end, and a negative number for a fault, whose reason is the
text. -/
structure Answer where
  /-- The number. -/
  status : Int := 0
  /-- The text. -/
  row : Row := []
deriving Inhabited

/-! ## State -/

/-- What keeps the parts of a text apart. -/
inductive Separator where
  /-- Blanks. -/
  | blanks
  /-- Nothing: each character is a part. -/
  | nothing
  /-- A character. -/
  | character (character : Char)
  /-- What an expression matches. -/
  | regex (regex : Regex)
deriving Inhabited

/-- What a name stands for. -/
inductive Cell where
  /-- A value. -/
  | value (value : Value)
  /-- The array with a number. -/
  | array (number : Nat)
  /-- Nothing yet. If it becomes an array it is the one with the number. -/
  | fresh (number : Nat)
deriving Inhabited

/-- The state of a program. -/
structure State where
  /-- The variables. -/
  globals : Std.HashMap String Cell := {}
  /-- What the function under way has of its own. -/
  own : List (String × Cell) := []
  /-- The arrays by their numbers. -/
  arrays : Std.HashMap Nat Collection := {}
  /-- The number of the next array. -/
  nextArray : Nat := 0
  /-- The record. -/
  record : Row := []
  /-- Is the record made of the fields as they are now? -/
  isJoined : Bool := true
  /-- The fields of the record. -/
  fields : Array Value := #[]
  /-- Are the fields those of the record as it is now? -/
  isSplit : Bool := false
  /-- What keeps the fields of a record apart. -/
  separator : Separator := .blanks
  /-- Where a record ends. -/
  recordEnd : RecordEnd := .character '\n'
  /-- The expressions that were read, by their texts. -/
  regexes : Std.HashMap Row Regex := {}
  /-- The rules whose range is under way. -/
  openRanges : List Nat := []
  /-- What is to be written, the last piece of each place first, with its size. The place that
  was used last comes first. -/
  unwritten : List (Sink × List Row × Nat) := []
  /-- The commands whose lines are read. -/
  sources : List Row := []
  /-- The number of the next argument that can be an input. -/
  nextOperand : Nat := 1
  /-- Is an input open? -/
  hasInput : Bool := false
  /-- Was there an argument that is an input? -/
  hadInput : Bool := false
  /-- The status that the program ends with. -/
  status : Nat := 0
  /-- How much of the room for calls is used. -/
  used : Nat := 0
  /-- The state of chance. -/
  chance : Nat := 1
  /-- What chance was started with. -/
  seed : Value := .number 0.0
  /-- The work that was not yet counted. -/
  effort : Nat := 0
deriving Inhabited

/-- Why the order of statements is left. -/
inductive Leave where
  /-- The loop is left. -/
  | loop
  /-- The round of the loop is left. -/
  | round
  /-- The record is left. -/
  | next
  /-- The input is left. -/
  | input
  /-- The program ends. -/
  | exit
  /-- The function is left with a value. -/
  | giveBack (value : Value)
  /-- The program cannot go on. -/
  | fault (message : Row)
deriving Inhabited

/-! ## Steps -/

/-- How far some steps came. -/
inductive Turn (Result : Type) where
  /-- They are done. -/
  | done (result : Result) (state : State)
  /-- They leave what is under way. -/
  | left (leave : Leave) (state : State)
  /-- They need an answer. -/
  | asks (request : Request) (state : State) (resume : Answer → State → Turn Result)

/-- Goes on with further steps. -/
def Turn.andThen {First Second : Type} (next : First → State → Turn Second) :
    Turn First → Turn Second
  | done result state => next result state
  | left leave state => left leave state
  | asks request state resume => asks request state fun answer state =>
      andThen next (resume answer state)

/-- Goes on with further steps however the first ones are left. -/
def Turn.whateverComes {First Second : Type} (next : Except Leave First → State → Turn Second) :
    Turn First → Turn Second
  | done result state => next (.ok result) state
  | left leave state => next (.error leave) state
  | asks request state resume => asks request state fun answer state =>
      whateverComes next (resume answer state)

/-- Steps of a program. -/
def Steps (Result : Type) : Type :=
  State → Turn Result

namespace Steps

instance : Monad Steps where
  pure result := fun state => .done result state
  bind first next := fun state => (first state).andThen next

instance : MonadStateOf State Steps where
  get := fun state => .done state state
  set state := fun _ => .done () state
  modifyGet change := fun state =>
    let (result, state) := change state
    .done result state

/-- Leaves what is under way. -/
def leave {Result : Type} (leave : Leave) : Steps Result := fun state => .left leave state

/-- Asks for something. -/
def ask (request : Request) : Steps Answer := fun state =>
  .asks request state fun answer state => .done answer state

/-- Fails with a message. -/
def fault {Result : Type} (message : Row) : Steps Result :=
  leave (.fault message)

/-- Takes steps and says how they were left, if they were. -/
def catching {Result : Type} (steps : Steps Result) : Steps (Except Leave Result) := fun state =>
  (steps state).whateverComes fun result state => .done result state

/-- Takes a step for each item as long as the steps ask for that. -/
def overItems {Item : Type} (step : Item → Steps Bool) : List Item → State → Turn Unit
  | [], state => .done () state
  | item :: rest, state =>
      match step item state with
      | .done true state => overItems step rest state
      | .done false state => .done () state
      | .left leave state => .left leave state
      | .asks request state resume => .asks request state fun answer state =>
          (resume answer state).andThen fun goesOn state =>
            if goesOn then overItems step rest state else .done () state

/-- Takes a step again and again as long as it asks for that, at most so often. -/
def again (step : Steps Bool) : Nat → State → Turn Unit
  | 0, state => .done () state
  | rounds + 1, state =>
      match step state with
      | .done true state => again step rounds state
      | .done false state => .done () state
      | .left leave state => .left leave state
      | .asks request state resume => .asks request state fun answer state =>
          (resume answer state).andThen fun goesOn state =>
            if goesOn then again step rounds state else .done () state

/-- The work that is counted at a time. -/
def effortStep : Nat := 4096

/-- Does some work. -/
def work (effort : Nat) : Steps Unit := do
  let done := (← get).effort + effort
  if done < effortStep then modify fun state => { state with effort := done }
  else
    modify fun state => { state with effort := 0 }
    let _ ← ask (.work done)

end Steps

end TestAmplification.Shell.Awk
