/-!
# Whole numbers in decimal

A number is read from ASCII digits, with an optional plus sign and any number
of leading zeros, and only when it does not exceed a given bound. Numbers are
written with the fewest digits.
-/

set_option autoImplicit false

namespace TestAmplification.Text

/-- Is the character one of the ten ASCII digits? -/
def isDigit (character : Char) : Bool :=
  '0' ≤ character && character ≤ '9'

/-- The value of a digit. -/
def digitValue (character : Char) : Nat :=
  character.toNat - '0'.toNat

/-- The number that a run of digits denotes. -/
def digitsValue (digits : List Char) : Nat :=
  digits.foldl (fun value digit => 10 * value + digitValue digit) 0

/-- Reads a number of at least one digit and nothing else. -/
def digits? (characters : List Char) : Option Nat :=
  if characters ≠ [] ∧ characters.all isDigit then some (digitsValue characters) else none

/-- Reads a number with an optional plus sign. -/
def unsigned? : List Char → Option Nat
  | '+' :: digits => digits? digits
  | digits => digits? digits

/-- Reads a number with an optional plus sign that is at most the bound. -/
def unsignedUpTo? (bound : Nat) (characters : List Char) : Option Nat :=
  (unsigned? characters).filter (· ≤ bound)

/-- The greatest number of 32 bits. -/
def greatestWord32 : Nat := UInt32.size - 1

/-- The greatest number of 64 bits. -/
def greatestWord64 : Nat := UInt64.size - 1

/-- The greatest number of 64 bits when the first bit is a sign. -/
def greatestSigned64 : Nat := UInt64.size / 2 - 1

/-- Reads a number of at most 32 bits. -/
def word32? (characters : List Char) : Option UInt32 :=
  (unsignedUpTo? greatestWord32 characters).map UInt32.ofNat

/-- Reads a number of at most 64 bits. -/
def word64? (characters : List Char) : Option UInt64 :=
  (unsignedUpTo? greatestWord64 characters).map UInt64.ofNat

/-- The decimal digits of a number, without leading zeros. -/
def decimalDigits (number : Nat) : List Char :=
  Nat.toDigits 10 number

/-- A number in decimal. -/
def decimal (number : Nat) : String :=
  String.ofList (decimalDigits number)

/-- A number in decimal, filled up with zeros on the left to a width. -/
def decimalWide (width number : Nat) : List Char :=
  let digits := decimalDigits number
  List.replicate (width - digits.length) '0' ++ digits

/-- The digits `0` to `9`, `a` to `f` of sixteen. -/
def hexDigit? (character : Char) : Option Nat :=
  if '0' ≤ character ∧ character ≤ '9' then some (character.toNat - '0'.toNat)
  else if 'a' ≤ character ∧ character ≤ 'f' then some (character.toNat - 'a'.toNat + 10)
  else if 'A' ≤ character ∧ character ≤ 'F' then some (character.toNat - 'A'.toNat + 10)
  else none

/-- The number that a run of hexadecimal digits denotes. -/
def hexValue (digits : List Char) : Nat :=
  digits.foldl (fun value digit => 16 * value + (hexDigit? digit).getD 0) 0

/-- The last four hexadecimal digits of a number, in lower case. -/
def fourHexDigits (number : Nat) : List Char :=
  [12, 8, 4, 0].map fun shift => Nat.digitChar ((number >>> shift) % 16)

example : word32? "+4294967295".toList = some 4294967295 := by decide +kernel
example : word32? "4294967296".toList = none := by decide +kernel
example : word32? "+".toList = none := by decide +kernel

end TestAmplification.Text
