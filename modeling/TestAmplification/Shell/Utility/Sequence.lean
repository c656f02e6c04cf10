import TestAmplification.Shell.Utility.Format
import TestAmplification.Shell.Utility.Passing

/-!
# Sequences of numbers and lines in no order

Numbers one after the other, and lines in an order that nobody can tell before.
-/

set_option autoImplicit false

/-!
## Sequences of numbers

The numbers from a first to a last one in steps are written with as many places as the
first and the step have, or in a format.
-/

namespace TestAmplification.Shell

open Tool

/-- A number for a sequence: its value, how wide it is written, and how many places it
has, unless that is unknown. -/
structure SequenceNumber where
  /-- The value. -/
  value : Floating
  /-- The width. -/
  width : Nat := 1
  /-- The number of places. -/
  places : Option Nat := some 0

/-- The width and the number of places of a number as it is written. -/
def measureNumber (text : Row) : Nat × Option Nat :=
  let isHexadecimal := text.contains 'x' || text.contains 'X'
  let point := text.idxOf '.'
  let hasPoint := text.contains '.'
  if isHexadecimal then (0, if hasPoint || text.contains 'p' then none else some 0)
  else
    let fraction := (text.drop (point + 1)).takeWhile fun character =>
      character != 'e' && character != 'E'
    let places : Nat := if hasPoint then fraction.length else 0
    let barePoint := hasPoint && (point = 0 || !((text[point - 1]?).map Char.isDigit).getD false)
    let width : Int := text.length + (if !hasPoint then 0 else if fraction.isEmpty then -1
      else if barePoint then 1 else 0)
    let mark := text.findIdx fun character => character == 'e' || character == 'E'
    if mark < text.length then
      let exponent := (intOf? (text.drop (mark + 1))).getD 0
      let newPlaces : Int := if exponent < 0 then places - exponent else places - min (places : Int) exponent
      let width := width - (text.length - mark : Nat)
      let (width, exponent) :=
        if exponent < 0 then
          (width + (if hasPoint then (if mark = point + 1 then 1 else 0) else 1), -exponent)
        else
          (width - (if hasPoint && newPlaces = 0 && !fraction.isEmpty then 1 else 0),
            exponent - min (fraction.length : Int) exponent)
      ((width + exponent).toNat, some newPlaces.toNat)
    else (width.toNat, some places)

/-- The number that an argument denotes. -/
def readSequenceNumber (argument : Row) : Tool SequenceNumber := do
  let text := argument.dropWhile fun character => isSpace character || character == '+'
  let isQuoted := argument.head? == some '\'' || argument.head? == some '"'
  match floatingArgument extendedExactness argument with
  | (value, none) =>
      if argument.isEmpty || isQuoted then
        usage (rowOf "invalid floating point argument: " ++ quotedText argument)
      match value with
      | .undefined _ =>
          usage (rowOf "invalid " ++ quotedText (rowOf "not-a-number") ++ rowOf " argument: "
            ++ quotedText argument)
      | .infinite _ => return { value, width := 0, places := some 0 }
      | .finite _ =>
          let (width, places) := measureNumber text
          match Fraction.take? (argument.dropWhile isSpace) with
          | some (exact, _) => return { value := .finite exact, width, places }
          | none => return { value, width, places }
  | (_, some _) => usage (rowOf "invalid floating point argument: " ++ quotedText argument)

/-- A format with one directive: what stands before it, the directive, and what
follows. -/
structure NumberFormat where
  /-- What stands before the number. -/
  before : Row := []
  /-- How the number is written. -/
  directive : Directive
  /-- What follows the number. -/
  after : Row := []

/-- A number in a format. -/
def NumberFormat.write (format : NumberFormat) (number : Floating) : Row :=
  format.before ++ floatingRow extendedExactness format.directive number ++ format.after

/-- The text in front of the directive of a format, where a double percent sign stands
for one, and what follows that text. -/
def takeLiteral : Nat → Row → Row × Row
  | 0, row => ([], row)
  | _ + 1, [] => ([], [])
  | steps + 1, '%' :: '%' :: rest =>
      let (literal, rest) := takeLiteral steps rest
      ('%' :: literal, rest)
  | _ + 1, '%' :: rest => ([], '%' :: rest)
  | steps + 1, character :: rest =>
      let (literal, rest) := takeLiteral steps rest
      (character :: literal, rest)

/-- The format that an option asks for. -/
def readNumberFormat (text : Row) : Tool NumberFormat := do
  let say (message : String) : Tool NumberFormat :=
    fail (rowOf "format " ++ quotedText text ++ rowOf message) 1
  let (before, rest) := takeLiteral (text.length + 1) text
  match rest with
  | [] => say " has no % directive"
  | _ :: rest =>
      let flags := rest.takeWhile fun flag => ['-', '+', '#', '0', ' ', '\''].contains flag
      let rest := rest.drop flags.length
      let width := rest.takeWhile Char.isDigit
      let rest := rest.drop width.length
      let (precision, rest) :=
        match rest with
        | '.' :: rest =>
            let digits := rest.takeWhile Char.isDigit
            (some (Text.digitsValue digits), rest.drop digits.length)
        | rest => (none, rest)
      let rest := if rest.head? == some 'L' then rest.drop 1 else rest
      match rest with
      | [] => say " ends in %"
      | letter :: rest =>
          if !(['a', 'A', 'e', 'E', 'f', 'F', 'g', 'G'].contains letter) then
            fail (rowOf "format " ++ quotedText text ++ rowOf " has unknown %" ++ [letter]
              ++ rowOf " directive") 1
          let (after, more) := takeLiteral (rest.length + 1) rest
          if more.isEmpty then
            return { before, after
                     directive := { flags, width := Text.digitsValue width, precision, letter } }
          else say " has too many % directives"

/-- The format for numbers from a first to a last one. -/
def standardFormat (hasEqualWidths : Bool) (first step last : SequenceNumber) : NumberFormat :=
  match first.places, step.places, last.places with
  | some firstPlaces, some stepPlaces, some lastPlaces =>
      let places := max firstPlaces stepPlaces
      let firstWidth : Int := first.width + (places - firstPlaces : Nat)
        + (if firstPlaces = 0 && places > 0 then 1 else 0)
      let lastWidth : Int := last.width + ((places : Int) - lastPlaces)
        - (if lastPlaces > 0 && places = 0 then 1 else 0)
        + (if lastPlaces = 0 && places > 0 then 1 else 0)
      { directive := {
          flags := if hasEqualWidths then ['0'] else []
          width := if hasEqualWidths then (max firstWidth lastWidth).toNat else 0
          precision := some places
          letter := 'f' } }
  | _, _, _ => { directive := { flags := [], width := 0, precision := none, letter := 'g' } }

/-- Does a number lie beyond the last one? -/
def isBeyond (step : Fraction) (last : Floating) (number : Fraction) : Bool :=
  match last with
  | .finite last =>
      if step.isNegative then number.compare last == .lt else number.compare last == .gt
  | .infinite isNegative => isNegative != step.isNegative
  | .undefined _ => true

/-- How many numbers are written at a time. -/
def blockLength : Nat := 512

/-- Writes the numbers up to a last one, each behind a separator, from the one with an
index on and in at most so many blocks. -/
def writeNumbers (format : NumberFormat) (separator : Row) (first step : Fraction)
    (last : Floating) : Nat → Nat → Tool Unit
  | 0, _ => return
  | blocks + 1, index => do
      let numbers := ((List.range blockLength).map fun offset =>
        first.add (step.times (index + offset))).takeWhile fun number =>
          !isBeyond step last number
      Act.work (20 * numbers.length)
      put (numbers.flatMap fun number => separator ++ format.write (.finite number))
      if numbers.length = blockLength then
        writeNumbers format separator first step last blocks (index + blockLength)

/-- More blocks than anybody reads. -/
def mostBlocks : Nat := 1000000000

/-- The arguments where the first number below zero ends the options. -/
def beforeNumbers : List Row → List Row
  | [] => []
  | ('-' :: letter :: more) :: rest =>
      if letter.isDigit || letter = '.' then ['-', '-'] :: ('-' :: letter :: more) :: rest
      else
        match rest with
        | value :: rest' =>
            if more.isEmpty && (letter = 's' || letter = 'f') then
              ['-', letter] :: value :: beforeNumbers rest'
            else ('-' :: letter :: more) :: beforeNumbers (value :: rest')
        | [] => [('-' :: letter :: more)]
  | argument :: rest => argument :: rest

/-- Writes a sequence of numbers. -/
def seq : Utility := fun given => do
  let arguments ← parseInFront
    [long 'f' "format" .some, long 's' "separator" .some, long 'w' "equal-width"]
    (beforeNumbers given)
  if arguments.operands.isEmpty then usage (rowOf "missing operand")
  if let some extra := arguments.operands[3]? then
    usage (rowOf "extra operand " ++ quotedText extra)
  let format ← (arguments.value? 'f').mapM readNumberFormat
  let numbers ← arguments.operands.mapM readSequenceNumber
  let one : SequenceNumber := { value := .finite (.ofInt 1) }
  let (first, step, last) :=
    match numbers with
    | [last] => (one, one, last)
    | [first, last] => (first, one, last)
    | first :: step :: last :: _ => (first, step, last)
    | [] => (one, one, one)
  if format.isSome && arguments.has 'w' then
    usage (rowOf "format string may not be specified when printing equal width strings")
  let format := format.getD (standardFormat (arguments.has 'w') first step last)
  let separator := (arguments.value? 's').getD ['\n']
  match first.value, step.value with
  | .finite number, .finite stepBy =>
      if stepBy.isZero then
        usage (rowOf "invalid Zero increment value: " ++ quotedText ((arguments.operands[1]?).getD []))
      if !isBeyond stepBy last.value number then
        put (format.write first.value)
        writeNumbers format separator number stepBy last.value mostBlocks 1
        put ['\n']
  | _, _ => return 0
  return 0

end TestAmplification.Shell

/-!
## Lines in no order

The lines of an input, the arguments or the numbers of a range are written in an order that
nobody can tell before.
-/

namespace TestAmplification.Shell

open Tool

/-- The seed after another one. -/
def laterSeed (seed : Nat) : Nat :=
  (seed * 6364136223846793005 + 1442695040888963407) % Nat.pow 2 64

/-- Items in another order, at most so many. -/
def shuffled {α : Type} : Nat → Nat → List α → List α
  | 0, _, _ => []
  | steps + 1, seed, items =>
      match items[Nat.shiftRight seed 33 % max 1 items.length]? with
      | none => []
      | some item =>
          item :: shuffled steps (laterSeed seed)
            (items.eraseIdx (Nat.shiftRight seed 33 % max 1 items.length))

/-- Items chosen again and again, so many. -/
def chosenAgain {α : Type} : Nat → Nat → List α → List α
  | 0, _, _ => []
  | steps + 1, seed, items =>
      (items[Nat.shiftRight seed 33 % max 1 items.length]?).toList
        ++ chosenAgain steps (laterSeed seed) items

/-- The numbers of a range that a text gives. -/
def rangeOf? (text : Row) : Option (List Row) := do
  let (low, high) ← Text.cutFirst '-' text
  let low ← Text.digits? low
  let high ← Text.digits? high
  if low ≤ high + 1 then
    some ((List.range (high + 1 - low)).map fun index => natRow (low + index))
  else none

/-- Writes lines in no order. -/
def shuf : Utility := fun given => do
  let arguments ← parseArguments
    [long 'e' "echo", long 'i' "input-range" .some, long 'n' "head-count" .some,
      long 'o' "output" .some, long 'r' "repeat", long 'z' "zero-terminated",
      long '\x01' "random-source" .some] given
  let range ← (arguments.value? 'i').mapM fun text => do
    match rangeOf? text with
    | some numbers => return numbers
    | none => fail (rowOf "invalid input range: " ++ quotedText text) 1
  let counts ← (arguments.values 'n').mapM fun text => do
    match Text.digits? text with
    | some count => return count
    | none => fail (rowOf "invalid line count: " ++ quotedText text) 1
  if arguments.has 'e' && range.isSome then usage (rowOf "cannot combine -e and -i options")
  let extra := if arguments.has 'e' then none
    else if range.isSome then arguments.operands.head?
    else arguments.operands[1]?
  if let some extra := extra then usage (rowOf "extra operand " ++ quotedText extra)
  let ending := if arguments.has 'z' then '\x00' else '\n'
  let items ←
    match range with
    | some numbers => pure numbers
    | none =>
        if arguments.has 'e' then pure arguments.operands
        else
          let path := arguments.operands.head?.getD ['-']
          match ← input path with
          | .ok row => pure ((records [ending] false row).map fun line => line.filter (· != ending))
          | .error fault => fail (plainComplaint path fault) 1
  let seed := laterSeed ((← Act.now) + (← Act.self).number)
  let count := counts.min?
  if arguments.has 'r' && items.isEmpty && count ≠ some 0 then fail (rowOf "no lines to repeat") 1
  let chosen := if arguments.has 'r' then chosenAgain (count.getD 0) seed items
    else shuffled (min (count.getD items.length) items.length) seed items
  let row := chosen.flatMap (· ++ [ending])
  match arguments.value? 'o' with
  | none =>
      put row
      return 0
  | some path =>
      match ← Act.openPath .write (textOf path) with
      | .ok opening =>
          let _ ← keeping opening (Act.writeOpening opening row)
          return 0
      | .error fault => fail (quotedIfNeeded path ++ rowOf (": " ++ fault.reason)) 1

end TestAmplification.Shell
