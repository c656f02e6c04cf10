import TestAmplification.Text.Decimal
import TestAmplification.Text.Scan
import TestAmplification.Toml.Document

/-!
# Texts, numbers and moments in TOML

Texts have four forms: basic ones with escapes and literal ones without, each
on one line or on several. A control character other than a tab never stands
for itself. In the forms of several lines a line feed right after the opening
quotes does not count, a carriage return before a line feed does not count
either, and up to two quotes may stand directly before the closing ones.

Whole numbers have 64 bits. Numbers that are not whole may be as large as they
like below, but a positive one must not round to infinity.
-/

set_option autoImplicit false

namespace TestAmplification.Toml

open Scan

/-! ## Blanks and lines -/

/-- The two blanks within a line. -/
def isBlank (character : Char) : Bool :=
  character == ' ' || character == '\t'

/-- Passes over blanks. -/
def blanks : Scan Unit := do
  let _ ← run isBlank

/-- The end of a line. -/
def newline : Scan Unit :=
  expect ['\n'] <|> expect ['\r', '\n']

/-- May the character stand in a comment? -/
def isCommentCharacter (character : Char) : Bool :=
  character == '\t' || (0x20 ≤ character.toNat && character.toNat ≠ 0x7F)

/-- A comment up to the end of its line. -/
def comment : Scan Unit := do
  expect ['#']
  let _ ← run isCommentCharacter

/-- The end of a line or of the text. -/
def lineEnd : Scan Unit := do
  if ← atEnd then return else newline

/-- What may follow a value or a header on its line. -/
def restOfLine : Scan Unit := do
  blanks
  let _ ← optional comment
  lineEnd

/-- A run of blanks or one line end, perhaps with a comment before it. -/
def spaceOrLine : Scan Unit := do
  let taken ← run isBlank
  let commented ← isNext comment
  let ended ← isNext newline
  if !ended && (commented || taken.isEmpty) then failure else return

/-- Passes over blanks, comments and line ends. -/
def spaceAndLines : Scan Unit := do
  let _ ← repeated spaceOrLine

/-! ## Texts -/

/-- May the character stand for itself in a basic text? -/
def isBasicCharacter (character : Char) : Bool :=
  isCommentCharacter character && character ≠ '"' && character ≠ '\\'

/-- May the character stand for itself in a literal text? -/
def isLiteralCharacter (character : Char) : Bool :=
  isCommentCharacter character && character ≠ '\''

/-- Is the character a hexadecimal digit? -/
def isHexDigit (character : Char) : Bool :=
  (Text.hexDigit? character).isSome

/-- A character by its code point in so many hexadecimal digits. -/
def codePoint (digits : Nat) : Scan Char := do
  let point := Text.hexValue (← exactly isHexDigit digits)
  if point.isValidChar then return Char.ofNat point else failure

/-- What follows the backslash of an escape. -/
def escaped : Scan Char := do
  match ← next with
  | 'b' => return '\x08'
  | 't' => return '\t'
  | 'n' => return '\n'
  | 'f' => return '\x0c'
  | 'r' => return '\r'
  | '"' => return '"'
  | '\\' => return '\\'
  | 'u' => codePoint 4
  | 'U' => codePoint 8
  | _ => failure

/-- A part of a basic text. -/
def basicPart : Scan (List Char) := do
  match ← peek with
  | some '\\' =>
      expect ['\\']
      return [← escaped]
  | _ => runOfSome isBasicCharacter

/-- A basic text on one line. -/
def basicText : Scan String := do
  expect ['"']
  let parts ← repeated basicPart
  expect ['"']
  return String.ofList parts.flatten

/-- A literal text on one line. -/
def literalText : Scan String := do
  expect ['\'']
  let characters ← run isLiteralCharacter
  expect ['\'']
  return String.ofList characters

/-- A line end inside a text. -/
def lineFeed : Scan (List Char) := do
  newline
  return ['\n']

/-- A backslash at the end of a line, with all blanks and line ends that
follow it. -/
def joinedLine : Scan (List Char) := do
  expect ['\\']
  blanks
  newline
  let _ ← repeated (do if ← isNext newline then return else let _ ← runOfSome isBlank)
  return []

/-- One or two quotes that do not close a text. -/
def loneQuotes (quote : Char) : Scan (List Char) := do
  let quotes ← runOfSome (· == quote)
  if quotes.length ≤ 2 then return quotes else failure

/-- The closing quotes of a text of several lines, with up to two quotes before
them that belong to the text. -/
def closingQuotes (quote : Char) : Scan (List Char) := do
  let quotes ← run (· == quote)
  if 3 ≤ quotes.length && quotes.length ≤ 5 then return quotes.drop 3 else failure

/-- A text of several lines between three quotes, put together from parts. -/
def longText (quote : Char) (part : Scan (List Char)) : Scan String := do
  expect [quote, quote, quote]
  let _ ← optional newline
  let parts ← repeated (part <|> lineFeed <|> loneQuotes quote)
  let quotes ← closingQuotes quote
  return String.ofList (parts.flatten ++ quotes)

/-- A text in any of the four forms. -/
def anyText : Scan String :=
  longText '"' (joinedLine <|> basicPart) <|> basicText
    <|> longText '\'' (runOfSome isLiteralCharacter) <|> literalText

/-! ## Numbers -/

/-- A run of digits with single underscores between them. -/
def digitGroups (isDigit : Char → Bool) : Scan (List Char) := do
  let first ← runOfSome isDigit
  let others ← repeated (do expect ['_']; runOfSome isDigit)
  return first ++ others.flatten

/-- A sign, if there is one. -/
def sign : Scan (List Char) := do
  match ← peek with
  | some '+' => expect ['+']; return ['+']
  | some '-' => expect ['-']; return ['-']
  | _ => return []

/-- A whole number without superfluous zeros, as its sign and digits. -/
def wholeDigits : Scan (List Char × List Char) := do
  let sign ← sign
  match ← peek with
  | some '0' => expect ['0']; return (sign, ['0'])
  | _ => return (sign, ← digitGroups Text.isDigit)

/-- The number of digits in a base. -/
def valueInBase (base : Nat) (digits : List Char) : Nat :=
  digits.foldl (fun value digit => base * value + (Text.hexDigit? digit).getD 0) 0

/-- A whole number with a letter for its base. -/
def basedInteger (letter : Char) (base : Nat) (isDigit : Char → Bool) : Scan Int := do
  expect ['0', letter]
  let value := valueInBase base (← digitGroups isDigit)
  if value ≤ Text.greatestSigned64 then return value else failure

/-- A whole number in decimal. -/
def decimalInteger : Scan Int := do
  let (sign, digits) ← wholeDigits
  let size := Text.digitsValue digits
  if sign == ['-'] then
    if size ≤ Text.greatestSigned64 + 1 then return -(size : Int) else failure
  else if size ≤ Text.greatestSigned64 then return size else failure

/-- A whole number. -/
def integer : Scan Int := do
  match ← get with
  | '0' :: 'x' :: _ => basedInteger 'x' 16 isHexDigit
  | '0' :: 'o' :: _ => basedInteger 'o' 8 fun character => '0' ≤ character && character ≤ '7'
  | '0' :: 'b' :: _ => basedInteger 'b' 2 fun character => character == '0' || character == '1'
  | _ => decimalInteger

/-- The decimals after a point. -/
def fraction : Scan (List Char) := do
  expect ['.']
  digitGroups Text.isDigit

/-- The power of ten after its mark. -/
def exponent : Scan Int := do
  let _ ← nextIf fun character => character == 'e' || character == 'E'
  let sign ← sign
  let size := Text.digitsValue (← digitGroups Text.isDigit)
  return if sign == ['-'] then -(size : Int) else size

/-- Does the number of these digits, times a power of ten, round to infinity in
64 bits? The least such number is halfway between the greatest finite one and
the power of two after it. -/
def roundsToInfinity (digits : List Char) (power : Int) : Bool :=
  let size := Text.digitsValue digits
  let length : Int := (Text.decimalDigits size).length
  let least := Nat.pow 2 1024 - Nat.pow 2 970
  if size = 0 then false
  else if length + power > 400 then true
  else if length + power < 200 then false
  else if power < 0 then least * Nat.pow 10 (-power).toNat ≤ size
  else least ≤ size * Nat.pow 10 power.toNat

/-- Are the characters, apart from a sign, one of the two special numbers? -/
def specialFloat : Scan Unit := do
  let _ ← sign
  expect ['i', 'n', 'f'] <|> expect ['n', 'a', 'n']

/-- A number with a fraction or an exponent. -/
def pointedFloat : Scan Unit := do
  let (sign, digits) ← wholeDigits
  let decimals ← optional fraction
  let power ← optional exponent
  if decimals.isNone && power.isNone then failure
  else
    let decimals := decimals.getD []
    if sign != ['-'] && roundsToInfinity (digits ++ decimals) (power.getD 0 - decimals.length)
    then failure
    else return

/-- What a scanner uses, as it is spelled. -/
def spelling (scanner : Scan Unit) : Scan (List Char) := do
  let before ← get
  scanner
  return before.take (before.length - (← remaining))

/-! ## Moments -/

/-- A number of so many digits within bounds. -/
def bounded (digits least greatest : Nat) : Scan Nat := do
  let value := Text.digitsValue (← exactly Text.isDigit digits)
  if least ≤ value && value ≤ greatest then return value else failure

/-- Does the year have a leap day? -/
def isLeapYear (year : Nat) : Bool :=
  year % 4 == 0 && (year % 100 != 0 || year % 400 == 0)

/-- The number of days of a month. -/
def daysInMonth (year month : Nat) : Nat :=
  if month == 2 then (if isLeapYear year then 29 else 28)
  else if month == 4 || month == 6 || month == 9 || month == 11 then 30
  else 31

/-- A date. -/
def date : Scan Unit := do
  let year ← bounded 4 0 9999
  expect ['-']
  let month ← bounded 2 1 12
  expect ['-']
  let _ ← bounded 2 1 (daysInMonth year month)

/-- A time of the day. The seconds may show a leap second. -/
def time : Scan Unit := do
  let _ ← bounded 2 0 23
  expect [':']
  let _ ← bounded 2 0 59
  expect [':']
  let _ ← bounded 2 0 60
  let _ ← optional (do expect ['.']; runOfSome Text.isDigit)

/-- The distance of a time from the zero meridian. -/
def offset : Scan Unit := do
  match ← next with
  | 'Z' | 'z' => return
  | '+' | '-' =>
      let _ ← bounded 2 0 23
      expect [':']
      let _ ← bounded 2 0 59
  | _ => failure

/-- The mark between a date and a time. -/
def isTimeMark (character : Char) : Bool :=
  character == 'T' || character == 't' || character == ' '

/-- A date, perhaps with a time and an offset, or a time alone. -/
def moment : Scan Unit :=
  (do
    date
    let _ ← optional (do
      let _ ← nextIf isTimeMark
      time
      optional offset))
  <|> time

end TestAmplification.Toml
