import TestAmplification.Shell.Row

/-!
# Numbers with fractions

A number is a fraction: a sign, a numerator and a denominator that is not zero. It
is read from decimal notation, or from hexadecimal digits, and written with a given
number of places, with an exponent, or in the shorter of the two ways. A tie goes to
the even neighbour.

A machine holds a number only with so many binary digits. `Fraction.rounded` is the
nearest number that has so many.
-/

set_option autoImplicit false

namespace TestAmplification.Shell

/-- A number as a fraction. -/
structure Fraction where
  /-- Is the number below zero? -/
  isNegative : Bool := false
  /-- The numerator of its size. -/
  numerator : Nat
  /-- The denominator of its size. -/
  denominator : Nat := 1
deriving DecidableEq, Inhabited

/-- A power. -/
def powerOf (base exponent : Nat) : Nat :=
  Nat.pow base exponent

namespace Fraction

/-- A whole number. -/
def ofInt (number : Int) : Fraction :=
  { isNegative := number < 0, numerator := number.natAbs }

/-- Is the number zero? -/
def isZero (number : Fraction) : Bool :=
  number.numerator == 0

/-- The numerator with its sign. -/
def signed (number : Fraction) : Int :=
  if number.isNegative then -(number.numerator : Int) else number.numerator

/-- How two numbers are ordered. -/
def compare (first second : Fraction) : Ordering :=
  Ord.compare (first.signed * second.denominator) (second.signed * first.denominator)

/-- The sum of two numbers. -/
def add (first second : Fraction) : Fraction :=
  let sum := first.signed * second.denominator + second.signed * first.denominator
  { isNegative := sum < 0, numerator := sum.natAbs
    denominator := first.denominator * second.denominator }

/-- The number, so often. -/
def times (count : Nat) (number : Fraction) : Fraction :=
  { number with numerator := count * number.numerator }

/-- The number multiplied by a power of a base. -/
def scaled (number : Fraction) (base : Nat) (exponent : Int) : Fraction :=
  if exponent ≥ 0 then { number with numerator := number.numerator * powerOf base exponent.toNat }
  else { number with denominator := number.denominator * powerOf base exponent.natAbs }

/-! ## Rounding -/

/-- The whole number nearest to a quotient; a tie goes to the even one. -/
def nearest (numerator denominator : Nat) : Nat :=
  let quotient := numerator / denominator
  let rest := 2 * (numerator % denominator)
  if rest < denominator then quotient
  else if rest > denominator then quotient + 1
  else quotient + quotient % 2

/-- The nearest number with at most so many binary digits. -/
def rounded (bits : Nat) (number : Fraction) : Fraction :=
  if number.isZero then number
  else
    let size : Int := (Nat.log2 number.numerator : Int) - Nat.log2 number.denominator
    let shift : Int := size - bits + 1
    let scaledDown := number.scaled 2 (-shift)
    let quotient := scaledDown.numerator / scaledDown.denominator
    let shift := if Nat.log2 quotient + 1 < bits then shift - 1
      else if Nat.log2 quotient + 1 > bits then shift + 1 else shift
    let scaledDown := number.scaled 2 (-shift)
    let digits := nearest scaledDown.numerator scaledDown.denominator
    ({ number with numerator := digits, denominator := 1 } : Fraction).scaled 2 shift

/-- The digits of the size with so many places, rounded. -/
def placeDigits (places : Nat) (number : Fraction) : Nat :=
  nearest (number.numerator * powerOf 10 places) number.denominator

/-- The exponent of ten of the first digit, when so many digits follow it. -/
def leadingExponent (places : Nat) (number : Fraction) : Int :=
  if number.isZero then 0
  else
    let estimate : Int :=
      (natRow number.numerator).length - ((natRow number.denominator).length : Int)
    let digitsAt (exponent : Int) : Nat :=
      let shifted := number.scaled 10 ((places : Int) - exponent)
      nearest shifted.numerator shifted.denominator
    let candidates := [estimate - 1, estimate, estimate + 1]
    (candidates.find? fun exponent => decide ((natRow (digitsAt exponent)).length = places + 1)).getD
      estimate

/-! ## Writing -/

/-- Digits with a point before the last so many of them. -/
def withPoint (places : Nat) (keepsPoint : Bool) (digits : Nat) : Row :=
  let row := padZeros (places + 1) (natRow digits)
  let whole := row.take (row.length - places)
  if places = 0 then whole ++ (if keepsPoint then ['.'] else [])
  else whole ++ '.' :: row.drop (row.length - places)

/-- The size with so many places. -/
def fixed (places : Nat) (keepsPoint : Bool) (number : Fraction) : Row :=
  withPoint places keepsPoint (number.placeDigits places)

/-- An exponent with a sign and at least two digits. -/
def exponentRow (mark : Char) (exponent : Int) : Row :=
  [mark, if exponent < 0 then '-' else '+'] ++ padZeros 2 (natRow exponent.natAbs)

/-- The size with an exponent and so many places. -/
def scientific (places : Nat) (keepsPoint : Bool) (mark : Char) (number : Fraction) : Row :=
  let exponent := number.leadingExponent places
  let shifted := number.scaled 10 ((places : Int) - exponent)
  let digits := nearest shifted.numerator shifted.denominator
  withPoint places keepsPoint digits ++ exponentRow mark exponent

/-- A row without zeros at the end of its places. -/
def withoutLastZeros (row : Row) : Row :=
  if row.contains '.' then
    let short := (row.reverse.dropWhile (· == '0')).reverse
    if short.getLast? == some '.' then short.dropLast else short
  else row

/-- The size in the shorter way with so many digits. -/
def general (digits : Nat) (keepsZeros : Bool) (mark : Char) (number : Fraction) : Row :=
  let digits := max 1 digits
  let exponent := number.leadingExponent (digits - 1)
  let strip (row : Row) : Row := if keepsZeros then row else withoutLastZeros row
  if exponent < -4 || exponent ≥ digits then
    let row := number.scientific (digits - 1) keepsZeros mark
    let mantissa := row.takeWhile (· != mark)
    strip mantissa ++ row.drop mantissa.length
  else strip (number.fixed ((digits : Int) - 1 - exponent).toNat keepsZeros)

/-! ## Reading -/

/-- The digits of a number in front of a row and what follows them: the value of
all digits, how many stand behind the point, and whether there is a point. -/
def takeDigits (isDigit : Char → Bool) (row : Row) : Row × Nat × Row :=
  let whole := row.takeWhile isDigit
  match row.drop whole.length with
  | '.' :: rest =>
      let places := rest.takeWhile isDigit
      (whole ++ places, places.length, rest.drop places.length)
  | rest => (whole, 0, rest)

/-- A signed run of digits in front of a row and what follows it. -/
def takeSigned (row : Row) : Option (Int × Row) :=
  let (sign, rest) :=
    match row with
    | '-' :: rest => ((-1 : Int), rest)
    | '+' :: rest => (1, rest)
    | rest => (1, rest)
  let digits := rest.takeWhile Char.isDigit
  if digits.isEmpty then none
  else some (sign * Text.digitsValue digits, rest.drop digits.length)

/-- An exponent behind a mark, and what follows it. -/
def takeExponent (marks : List Char) (row : Row) : Int × Row :=
  match row with
  | mark :: rest =>
      if marks.contains mark then (takeSigned rest).getD (0, row) else (0, row)
  | [] => (0, row)

/-- The number in front of a row and what follows it. -/
def take? (row : Row) : Option (Fraction × Row) :=
  let (isNegative, unsigned) :=
    match row with
    | '-' :: rest => (true, rest)
    | '+' :: rest => (false, rest)
    | rest => (false, rest)
  let hexadecimal : Option (Fraction × Row) :=
    match unsigned with
    | '0' :: mark :: rest =>
        if mark = 'x' || mark = 'X' then
          let (digits, places, rest) := takeDigits (fun digit => (Text.hexDigit? digit).isSome) rest
          if digits.isEmpty then none
          else
            let (exponent, rest) := takeExponent ['p', 'P'] rest
            some (({ isNegative, numerator := Text.hexValue digits } : Fraction).scaled 2
              (exponent - 4 * places), rest)
        else none
    | _ => none
  match hexadecimal with
  | some found => some found
  | none =>
      let (digits, places, rest) := takeDigits Char.isDigit unsigned
      if digits.isEmpty then none
      else
        let (exponent, rest) := takeExponent ['e', 'E'] rest
        let exponent := max (-5000) (min 5000 exponent)
        some (({ isNegative, numerator := Text.digitsValue digits } : Fraction).scaled 10
          (exponent - places), rest)

end Fraction

example : String.ofList (Fraction.fixed 2 false ⟨false, 314159, 100000⟩) = "3.14" := by
  decide +kernel

example : String.ofList (Fraction.general 6 false 'e' ⟨false, 1, 10000⟩) = "0.0001" := by
  decide +kernel

end TestAmplification.Shell

/-!
## Lengths of time

A length of time is written as a number and the letter of a unit, which may be
missing. Parts of a nanosecond count as a whole one.
-/

namespace TestAmplification.Shell

/-- The nanoseconds in the unit that a suffix stands for. -/
def timeUnit? : Row → Option Nat
  | [] | ['s'] => some 1000000000
  | ['m'] => some 60000000000
  | ['h'] => some 3600000000000
  | ['d'] => some 86400000000000
  | _ => none

/-- A time that never ends. -/
def endlessTime : Nat := 1000000000000000000000

/-- The nanoseconds that a text denotes. -/
def nanosecondsOf? (text : Row) : Option Nat :=
  let lower := text.map Char.toLower
  if lower = "inf".toList || lower = "infinity".toList then some endlessTime
  else
    match Fraction.take? text with
    | some (number, suffix) =>
        if number.isNegative && !number.isZero then none
        else
          (timeUnit? suffix).map fun unit =>
            (number.numerator * unit + number.denominator - 1) / number.denominator
    | none => none

end TestAmplification.Shell
