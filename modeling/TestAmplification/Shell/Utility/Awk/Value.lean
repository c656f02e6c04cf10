import TestAmplification.Shell.Utility.Format

/-!
# Values of `awk`

A value is a number, a text, or both: a text that comes from outside counts as a number
if it looks like one. A variable that was never set is both zero and empty.

Numbers are floating. A whole number becomes a text with all its digits; any other
number becomes a text by a format.
-/

set_option autoImplicit false

namespace TestAmplification.Shell.Awk

/-- A value. -/
inductive Value where
  /-- Nothing was ever set. -/
  | absent
  /-- A number. -/
  | number (number : Float)
  /-- A text. -/
  | text (row : Row)
  /-- A text that comes from outside. -/
  | given (row : Row)
deriving Inhabited

/-! ## Numbers -/

/-- The number that an exponent of ten makes of some digits. -/
def floatOfDigits (digits : Nat) (exponent : Int) : Float :=
  let exponent := max (-5000) (min 5000 exponent)
  Float.ofScientific digits (exponent < 0) exponent.natAbs

/-- A decimal number in front of a row, without a sign, and what follows it. -/
def takeDecimal? (row : Row) : Option (Float × Row) :=
  let (digits, places, rest) := Fraction.takeDigits Char.isDigit row
  if digits.isEmpty then none
  else
    let (exponent, rest) := Fraction.takeExponent ['e', 'E'] rest
    if places = 0 && exponent = 0 && digits.length < 16 then
      some (Float.ofNat (Text.digitsValue digits), rest)
    else some (floatOfDigits (Text.digitsValue digits) (exponent - places), rest)

/-- A number in front of a row, without a sign, and what follows it. -/
def takeUnsigned? (row : Row) : Option (Float × Row) :=
  match row with
  | '0' :: mark :: digit :: rest =>
      if (mark = 'x' || mark = 'X') && (Text.hexDigit? digit).isSome then
        let digits := (digit :: rest).takeWhile fun digit => (Text.hexDigit? digit).isSome
        some (floatOfDigits (Text.hexValue digits) 0, (digit :: rest).drop digits.length)
      else takeDecimal? row
  | _ =>
      match takeDecimal? row with
      | some found => some found
      | none =>
          let infinity := (takeWord ["infinity", "inf"] row).map ((1.0 : Float) / 0.0, ·)
          infinity.or ((takeWord ["nan"] row).map ((0.0 : Float) / 0.0, ·))

/-- A number in front of a row, and what follows it. -/
def takeNumber? (row : Row) : Option (Float × Row) :=
  match row.dropWhile isSpace with
  | '-' :: rest => (takeUnsigned? rest).map fun (number, rest) => (-number, rest)
  | '+' :: rest => takeUnsigned? rest
  | rest => takeUnsigned? rest

/-- The number that a row starts with, or zero. -/
def numberOfRow (row : Row) : Float :=
  ((takeNumber? row).map Prod.fst).getD 0.0

/-- The number that a row looks like, with blanks around it. -/
def numberLike? (row : Row) : Option Float :=
  (takeNumber? row).bind fun (number, rest) => if rest.all isSpace then some number else none

/-- Two to a power. -/
def powerOfTwo (exponent : Nat) : Nat :=
  1 <<< exponent

/-- The number as a sign, digits and an exponent of two, if it is finite. -/
def partsOf (number : Float) : Option (Bool × Nat × Int) :=
  let bits := number.toBits.toNat
  let exponent := bits / powerOfTwo 52 % 2048
  let digits := bits % powerOfTwo 52
  let isNegative := bits / powerOfTwo 63 = 1
  if exponent = 2047 then none
  else if exponent = 0 then some (isNegative, digits, -1074)
  else some (isNegative, digits + powerOfTwo 52, (exponent : Int) - 1075)

/-- The number as it is written by formats. -/
def floatingOf (number : Float) : Floating :=
  match partsOf number with
  | some (isNegative, digits, exponent) =>
      .finite (({ isNegative, numerator := digits } : Fraction).scaled 2 exponent)
  | none => if number.isNaN then .undefined true else .infinite (number < 0.0)

/-- The whole part of a number, if it is finite. -/
def wholeOf? (number : Float) : Option Int :=
  (partsOf number).map fun (isNegative, digits, exponent) =>
    let size := if exponent ≥ 0 then digits <<< exponent.toNat else digits >>> exponent.natAbs
    if isNegative then -(size : Int) else size

/-- The number that is nearest to a whole number. -/
def floatOf (number : Int) : Float :=
  if number < 0 then -(floatOfDigits number.natAbs 0) else floatOfDigits number.natAbs 0

/-- The rest of a division of numbers, with the sign of the first. -/
def remainder (first second : Float) : Float :=
  match partsOf first, partsOf second with
  | some (isNegative, digits, exponent), some (_, divisor, other) =>
      if divisor = 0 then (0.0 : Float) / 0.0
      else
        let least := min exponent other
        let rest := (digits <<< (exponent - least).toNat) % (divisor <<< (other - least).toNat)
        let size := (floatOfDigits rest 0).scaleB least
        if isNegative then -size else size
  | some _, none => if second.isNaN then second else first
  | none, _ => (0.0 : Float) / 0.0

/-- The greatest number of a word. -/
def greatestWord : Int := powerOfTwo 64 - 1

/-- The greatest number of a word with a sign. -/
def greatestSigned : Int := powerOfTwo 63 - 1

/-- A number in a word, as it is written with all its digits. -/
def wordOf (number : Float) : Int :=
  match wholeOf? number with
  | some whole => max (-greatestSigned) (min greatestWord whole)
  | none => if number > 0.0 then greatestWord else -greatestSigned - 1

/-- The row of a number. The format is used for what is no whole number. -/
def rowOfNumber (format : Float → Row) (number : Float) : Row :=
  if number.abs < 1e15 && number.floor == number then intRow ((wholeOf? number).getD 0)
  else
    match wholeOf? number with
    | some whole =>
        let held := if whole ≤ -greatestSigned - 1 then whole else min greatestWord whole
        if held.natAbs ≤ powerOfTwo 64 && floatOf held == number && -greatestSigned - 1 ≤ held then
          intRow held
        else format number
    | none => format number

namespace Value

/-- The number of a value. -/
def toNumber : Value → Float
  | .absent => 0.0
  | .number held => held
  | .text held | .given held => numberOfRow held

/-- The text of a value, where a format is used for numbers that are not whole. -/
def toRow (format : Float → Row) : Value → Row
  | .absent => []
  | .number held => rowOfNumber format held
  | .text held | .given held => held

/-- The number that the value is compared as, if it counts as a number. -/
def number? : Value → Option Float
  | .absent => some 0.0
  | .number held => some held
  | .text _ => none
  | .given held => numberLike? held

/-- Does the value count as true? -/
def isTrue : Value → Bool
  | .absent => false
  | .number held => held != 0.0
  | .text row => !row.isEmpty
  | .given row =>
      match numberLike? row with
      | some held => held != 0.0
      | none => !row.isEmpty

/-- The value of a condition. -/
def ofBool (condition : Bool) : Value :=
  .number (if condition then 1.0 else 0.0)

end Value

end TestAmplification.Shell.Awk
