import TestAmplification.Shell.Utility.Decimal
import TestAmplification.Shell.Utility.Escape
import TestAmplification.Shell.Utility.Quoting

/-!
# Writing by a format

A format is a text with directives. Each directive writes an argument in its way,
and the format is used again as long as arguments are left. Where arguments are
missing, empty ones take their place.

The shells and the program `printf` differ in the escapes and directives that they
know, in how exact they are with fractions, and in what they say about faults.
-/

set_option autoImplicit false

namespace TestAmplification.Shell

/-! ## Directives -/

/-- A directive of a format. -/
structure Directive where
  /-- The flags. -/
  flags : List Char
  /-- The least width. -/
  width : Nat
  /-- The precision, if one is given. -/
  precision : Option Nat
  /-- The letter that says how to write. -/
  letter : Char
deriving Inhabited

/-- Is the flag given? -/
def Directive.has (directive : Directive) (flag : Char) : Bool :=
  directive.flags.contains flag

/-- A row filled up to the width of a directive. -/
def Directive.fill (directive : Directive) (row : Row) : Row :=
  if directive.has '-' then padRight directive.width row else padLeft directive.width row

/-- Digits behind a sign, filled up to the width of a directive: with zeros
between them, if it asks for that. -/
def Directive.fillNumber (directive : Directive) (mayHaveZeros : Bool) (sign digits : Row) : Row :=
  let digits :=
    if directive.has '0' && !directive.has '-' && mayHaveZeros then
      padZeros (directive.width - sign.length) digits
    else digits
  directive.fill (sign ++ digits)

/-- The sign of a number under the flags of a directive. -/
def Directive.signOf (directive : Directive) (isNegative : Bool) : Row :=
  if isNegative then ['-']
  else if directive.has '+' then ['+']
  else if directive.has ' ' then [' ']
  else []

/-! ## Whole numbers -/

/-- What is wrong with an argument that should be a number. -/
inductive NumberFault where
  /-- It is no number at all. -/
  | missing
  /-- Something follows the number. -/
  | incomplete
  /-- The number is too large or too small. -/
  | outOfRange
  /-- Something follows the only character that counts. -/
  | ignored (rest : Row)
deriving DecidableEq, Inhabited

/-- The size of the number at the start of an argument without a sign, and what
follows it. -/
def takeMagnitude (row : Row) : Option (Nat × Row) :=
  match row with
  | '0' :: mark :: rest =>
      let digits := rest.takeWhile fun digit => (Text.hexDigit? digit).isSome
      if (mark = 'x' || mark = 'X') && !digits.isEmpty then
        some (Text.hexValue digits, rest.drop digits.length)
      else
        let digits := (mark :: rest).takeWhile isOctalDigit
        some (octalValue digits, (mark :: rest).drop digits.length)
  | row =>
      let digits := row.takeWhile Char.isDigit
      if digits.isEmpty then none else some (Text.digitsValue digits, row.drop digits.length)

/-- The number of the only character that counts in an argument with a quote in
front. -/
def quotedNumber? : Row → Option (Nat × Option NumberFault)
  | mark :: rest =>
      if mark = '\'' || mark = '"' then
        match rest with
        | [] => some (0, none)
        | [character] => some (character.toNat, none)
        | character :: more => some (character.toNat, some (.ignored more))
      else none
  | [] => none

/-- The whole number that an argument denotes, and what is wrong with it. -/
def wholeArgument (isSigned : Bool) (argument : Row) : Int × Option NumberFault :=
  match quotedNumber? argument with
  | some (number, fault) => (number, fault)
  | none =>
      let row := argument.dropWhile isSpace
      let (isNegative, digits) :=
        match row with
        | '-' :: digits => (true, digits)
        | '+' :: digits => (false, digits)
        | digits => (false, digits)
      let most := if !isSigned then Text.greatestWord64
        else if isNegative then Text.greatestSigned64 + 1 else Text.greatestSigned64
      match takeMagnitude digits with
      | none => (0, if argument.isEmpty then none else some .missing)
      | some (size, rest) =>
          if size > most then
            (if isNegative && isSigned then -(most : Int) else most, some .outOfRange)
          else
            (if isNegative then -(size : Int) else size,
              if rest.isEmpty then none else some .incomplete)

/-- A whole number in the way of a directive. -/
def wholeRow (directive : Directive) (number : Int) : Row :=
  let precise (digits : Row) : Row :=
    if directive.precision = some 0 && digits = ['0'] then []
    else padZeros (directive.precision.getD 1) digits
  let write (sign digits : Row) : Row :=
    directive.fillNumber directive.precision.isNone sign (precise digits)
  let word := (UInt64.ofInt number).toNat
  match directive.letter with
  | 'u' => write [] (natRow word)
  | 'o' =>
      let digits := precise (Nat.toDigits 8 word)
      let mark := if directive.has '#' && digits.head? != some '0' then ['0'] else []
      directive.fillNumber directive.precision.isNone [] (mark ++ digits)
  | 'x' =>
      write (if directive.has '#' && word != 0 then ['0', 'x'] else []) (Nat.toDigits 16 word)
  | 'X' =>
      (write (if directive.has '#' && word != 0 then ['0', 'x'] else [])
        (Nat.toDigits 16 word)).map Char.toUpper
  | _ => write (directive.signOf (number < 0)) (natRow number.natAbs)

/-! ## Fractions -/

/-- A number as an argument denotes it. -/
inductive Floating where
  /-- A fraction. -/
  | finite (number : Fraction)
  /-- More than any number. -/
  | infinite (isNegative : Bool)
  /-- No number. -/
  | undefined (isNegative : Bool)
deriving Inhabited

/-- How exact numbers are: the binary digits, and the exponent of two that is too
large. -/
structure Exactness where
  /-- The number of binary digits. -/
  digits : Nat
  /-- The exponent of two that is too large. -/
  limit : Nat

/-- Numbers as the shell holds them. -/
def doubleExactness : Exactness := ⟨53, 1024⟩

/-- Numbers as programs hold them. -/
def extendedExactness : Exactness := ⟨64, 16384⟩

/-- Reads one of some words, in small or capital letters. -/
def takeWord (words : List String) (row : Row) : Option Row :=
  (words.find? fun word => word.toList.isPrefixOf (row.map Char.toLower)).map fun word =>
    row.drop word.length

/-- The number that an argument denotes, and what is wrong with it. -/
def floatingArgument (exactness : Exactness) (argument : Row) : Floating × Option NumberFault :=
  match quotedNumber? argument with
  | some (number, fault) => (.finite (.ofInt number), fault)
  | none =>
      let row := argument.dropWhile isSpace
      let unsigned := if row.head? == some '-' || row.head? == some '+' then row.drop 1 else row
      let isNegative := row.head? == some '-'
      let leaving (rest : Row) : Option NumberFault :=
        if rest.isEmpty then none else some .incomplete
      match takeWord ["infinity", "inf"] unsigned, takeWord ["nan"] unsigned, Fraction.take? row with
      | some rest, _, _ => (.infinite isNegative, leaving rest)
      | none, some rest, _ => (.undefined isNegative, leaving rest)
      | none, none, none =>
          (.finite (.ofInt 0), if argument.isEmpty then none else some .missing)
      | none, none, some (number, rest) =>
          let held := number.rounded exactness.digits
          let greatest : Fraction := ({ numerator := 1 } : Fraction).scaled 2 exactness.limit
          let least : Fraction :=
            ({ numerator := 1 } : Fraction).scaled 2 (2 - (exactness.limit : Int))
          let size : Fraction := { held with isNegative := false }
          if size.compare greatest != .lt then (.infinite isNegative, some .outOfRange)
          else if !number.isZero && size.compare least == .lt then (.finite held, some .outOfRange)
          else (.finite held, leaving rest)

/-- The size of a number in digits of sixteen with an exponent of two. The number
of binary digits of the first digit is given. -/
def hexadecimalSize (firstBits : Nat) (exactness : Exactness) (precision : Option Nat)
    (keepsPoint : Bool) (number : Fraction) : Row :=
  let most := (exactness.digits - firstBits + 3) / 4
  let places := precision.getD most
  let exponent : Int :=
    if number.isZero then 0
    else
      let quotient : Int := (Nat.log2 number.numerator : Int) - Nat.log2 number.denominator
      let low : Fraction := ({ numerator := 1 } : Fraction).scaled 2 quotient
      let top := if ({ number with isNegative := false } : Fraction).compare low == .lt then
        quotient - 1 else quotient
      top - ((firstBits : Int) - 1)
  let shifted := (number.scaled 2 (-exponent)).scaled 16 places
  let digits := Fraction.nearest shifted.numerator shifted.denominator
  let row := padZeros (places + 1) (Nat.toDigits 16 digits)
  let whole := row.take (row.length - places)
  let part := row.drop (row.length - places)
  let part := if precision.isSome then part
    else (part.reverse.dropWhile (· == '0')).reverse
  rowOf "0x" ++ whole ++ (if part.isEmpty && !keepsPoint then [] else '.' :: part)
    ++ ['p', if exponent < 0 then '-' else '+'] ++ natRow exponent.natAbs

/-- A number in the way of a directive. -/
def floatingRow (exactness : Exactness) (directive : Directive) (number : Floating) : Row :=
  let small := directive.letter.toLower
  let keepsPoint := directive.has '#'
  let places := directive.precision.getD 6
  let row :=
    match number with
    | .infinite isNegative => directive.fill (directive.signOf isNegative ++ rowOf "inf")
    | .undefined isNegative => directive.fill (directive.signOf isNegative ++ rowOf "nan")
    | .finite number =>
        let sign := directive.signOf number.isNegative
        if small = 'a' then
          let firstBits := if exactness.digits = 64 then 4 else 1
          let digits := hexadecimalSize firstBits exactness directive.precision keepsPoint number
          directive.fillNumber true (sign ++ digits.take 2) (digits.drop 2)
        else
          directive.fillNumber true sign
            (if small = 'e' then number.scientific places keepsPoint 'e'
              else if small = 'f' then number.fixed places keepsPoint
              else number.general places keepsPoint 'e')
  if directive.letter.isUpper then row.map Char.toUpper else row

/-! ## Formats -/

/-- What is said while a format is used. -/
inductive Said where
  /-- A row is written. -/
  | output (row : Row)
  /-- Something is told. -/
  | complaint (row : Row)
deriving Inhabited

/-- A format under way. -/
structure Formatting where
  /-- What was said, the last one first. -/
  said : List Said := []
  /-- The arguments that are left. -/
  arguments : List Row := []
  /-- The status so far. -/
  status : Nat := 0
  /-- Does nothing more follow? -/
  isOver : Bool := false
deriving Inhabited

namespace Formatting

/-- Writes a row. -/
def put (formatting : Formatting) (row : Row) : Formatting :=
  match formatting.said with
  | .output before :: others => { formatting with said := .output (row.reverse ++ before) :: others }
  | said => { formatting with said := .output row.reverse :: said }

/-- Tells something. -/
def tell (formatting : Formatting) (row : Row) (status : Nat) : Formatting :=
  { formatting with
    said := .complaint row :: formatting.said, status := max status formatting.status }

/-- Tells something and stops. -/
def giveUp (formatting : Formatting) (row : Row) (status : Nat) : Formatting :=
  { formatting.tell row status with isOver := true }

/-- What was said, in order. -/
def result (formatting : Formatting) : List Said :=
  formatting.said.reverse.map fun
    | .output row => .output row.reverse
    | other => other

end Formatting

/-- Who uses a format. -/
inductive FormatUser where
  /-- The program. -/
  | program
  /-- A shell in the plain dialect. -/
  | plainShell
  /-- A shell in the extended dialect. -/
  | extendedShell
deriving DecidableEq

/-- How a format is used. -/
structure FormatStyle where
  /-- Who uses it. -/
  user : FormatUser
  /-- The escapes in the format. -/
  rule : EscapeRule
  /-- The escapes in arguments. -/
  argumentRule : EscapeRule
  /-- How exact fractions are. -/
  exactness : Exactness
  /-- The text of a moment in the way of a format of its own. -/
  moment : Row → Row → Row := fun _ _ => []

/-- The `printf` of a shell in the plain dialect. -/
def shellFormat : FormatStyle where
  user := .plainShell
  rule := {}
  argumentRule := { hasLongZero := true, hasStop := true }
  exactness := doubleExactness

/-- The `printf` of a shell in the extended dialect. -/
def extendedFormat (moment : Row → Row → Row) : FormatStyle where
  user := .extendedShell
  rule := { hasHexadecimal := true, isStrict := true, hasNames := true, hasFewDigits := true
            hasQuotes := true }
  argumentRule := { hasLongZero := true, hasStop := true, hasHexadecimal := true, isStrict := true
                    hasFewDigits := true, keepsMissing := true }
  exactness := extendedExactness
  moment

/-- The program `printf`. -/
def programFormat : FormatStyle where
  user := .program
  rule := { hasStop := true, hasHexadecimal := true, isStrict := true, hasNames := true }
  argumentRule := { hasLongZero := true, hasStop := true, hasHexadecimal := true, isStrict := true
                    hasNames := true }
  exactness := extendedExactness

namespace FormatStyle

/-- Does the program use the format? -/
def isProgram (style : FormatStyle) : Bool :=
  style.user == .program

/-- Does a shell in the extended dialect use the format? -/
def isExtended (style : FormatStyle) : Bool :=
  style.user == .extendedShell

/-- The status when a format cannot be used. -/
def faultStatus (style : FormatStyle) : Nat :=
  if style.user = .plainShell then 2 else 1

/-- The kind of number that an argument starts like. -/
def numberKind (argument : Row) : String :=
  match (argument.dropWhile isSpace).dropWhile ['-', '+'].contains with
  | '0' :: mark :: _ => if mark = 'x' || mark = 'X' then "hex number" else "octal number"
  | _ => "number"

/-- What is told about an argument that should be a number. -/
def complaint (style : FormatStyle) (argument : Row) (fault : NumberFault) : Option Row :=
  match style.user, fault with
  | .program, .missing => some (quotedText argument ++ rowOf ": expected a numeric value")
  | .program, .incomplete => some (quotedText argument ++ rowOf ": value not completely converted")
  | .program, .outOfRange => some (quotedText argument ++ rowOf ": Numerical result out of range")
  | .program, .ignored rest =>
      some (rowOf "warning: " ++ rest
        ++ rowOf ": character(s) following character constant have been ignored")
  | .plainShell, .missing => some (argument ++ rowOf ": expected numeric value")
  | .plainShell, .incomplete => some (argument ++ rowOf ": not completely converted")
  | .plainShell, .outOfRange => some (argument ++ rowOf ": Numerical result out of range")
  | .extendedShell, .missing | .extendedShell, .incomplete =>
      some (argument ++ rowOf (": invalid " ++ numberKind argument))
  | .extendedShell, .outOfRange =>
      some (rowOf "warning: " ++ argument ++ rowOf ": Numerical result out of range")
  | _, .ignored _ => none

/-- Tells what is wrong with an argument, if anything is. -/
def tellFault (style : FormatStyle) (argument : Row) (fault : Option NumberFault)
    (formatting : Formatting) : Formatting :=
  match fault with
  | none => formatting
  | some fault =>
      match style.complaint argument fault with
      | none => formatting
      | some row =>
          let isHarmless :=
            match fault with
            | .ignored _ => true
            | .outOfRange => style.isExtended
            | _ => false
          formatting.tell row (if isHarmless then 0 else 1)

/-- The next argument. -/
def takeArgument (formatting : Formatting) : Row × Formatting :=
  (formatting.arguments.head?.getD [],
    { formatting with arguments := formatting.arguments.drop 1 })

/-- A number in a directive: its digits, or an argument in the place of a star. -/
def takeSize (style : FormatStyle) (row : Row) (formatting : Formatting) :
    Option Int × Row × Formatting :=
  match row with
  | '*' :: rest =>
      let (argument, formatting) := takeArgument formatting
      let (number, fault) := wholeArgument true argument
      (some number, rest, style.tellFault argument fault formatting)
  | row =>
      let digits := row.takeWhile Char.isDigit
      (if digits.isEmpty then none else some (Text.digitsValue digits), row.drop digits.length,
        formatting)

/-- Are the flags and the precision of no use for the letter? -/
def isUseless (directive : Directive) : Bool :=
  (directive.has '#' && ['c', 'd', 'i', 's', 'u'].contains directive.letter)
    || (directive.has '0' && ['c', 's'].contains directive.letter)
    || (directive.has '\'' && ['a', 'A', 'c', 'e', 'E', 'o', 's', 'x', 'X'].contains directive.letter)
    || (directive.precision.isSome && directive.letter == 'c')

/-- Writes an argument by a directive. There is no answer when the directive does
not exist. -/
def write (style : FormatStyle) (directive : Directive) (formatting : Formatting) :
    Option Formatting :=
  let (argument, after) := takeArgument formatting
  let cut (row : Row) : Row := (directive.precision.map row.take).getD row
  let letter := directive.letter
  if letter = 's' then some (after.put (directive.fill (cut argument)))
  else if letter = 'c' then some (after.put (directive.fill [argument.head?.getD '\x00']))
  else if letter = 'b' && !style.isProgram then
    let (row, ending) := unescape style.argumentRule argument
    let after := after.put (directive.fill (cut row))
    some (if ending = .stop then { after with isOver := true } else after)
  else if (letter = 'q' || letter = 'Q') && style.isExtended then
    some (after.put (directive.fill
      (if letter = 'q' then cut (withBackslashes argument) else withBackslashes (cut argument))))
  else if letter = 'd' || letter = 'i' then
    let (number, fault) := wholeArgument true argument
    some ((style.tellFault argument fault after).put (wholeRow directive number))
  else if ['o', 'u', 'x', 'X'].contains letter then
    let (number, fault) := wholeArgument false argument
    some ((style.tellFault argument fault after).put (wholeRow directive number))
  else if ['a', 'A', 'e', 'E', 'f', 'F', 'g', 'G'].contains letter then
    let (number, fault) := floatingArgument style.exactness argument
    some ((style.tellFault argument fault after).put
      (floatingRow style.exactness directive number))
  else none

/-- Writes by the directive after a percent sign, and what follows it. -/
def useDirective (style : FormatStyle) (row : Row) (formatting : Formatting) :
    Row × Formatting :=
  let flags := row.takeWhile fun flag =>
    ['#', '-', '+', ' ', '0'].contains flag || (style.user != .plainShell && flag == '\'')
  let (width, rest, formatting) := style.takeSize (row.drop flags.length) formatting
  let (precision, rest, formatting) :=
    match rest with
    | '.' :: rest =>
        let (size, rest, formatting) := style.takeSize rest formatting
        let size := size.getD 0
        (if size < 0 then none else some size.toNat, rest, formatting)
    | rest => (none, rest, formatting)
  let modifiers := if style.user != .plainShell then rest.takeWhile ['h', 'l', 'L', 'j', 't', 'z'].contains else []
  let rest := rest.drop modifiers.length
  let width := width.getD 0
  let flags := if width < 0 then '-' :: flags else flags
  let clock? : Option (Row × Row) :=
    match style.isExtended, rest with
    | true, '(' :: inner =>
        match Text.cutFirst ')' inner with
        | some (format, 'T' :: after) => some (format, after)
        | _ => none
    | _, _ => none
  match clock?, rest with
  | some (format, after), _ =>
      let (argument, left) := takeArgument formatting
      let row := style.moment argument format
      let row := (precision.map row.take).getD row
      let directive : Directive := { flags, width := width.natAbs, precision, letter := 'T' }
      (after, left.put (directive.fill row))
  | none, [] =>
      let message :=
        match style.user with
        | .program => '%' :: row ++ rowOf ": invalid conversion specification"
        | .plainShell => rowOf "missing format character"
        | .extendedShell => ['\x60', '%'] ++ row ++ rowOf "': missing format character"
      ([], formatting.giveUp message style.faultStatus)
  | none, letter :: rest =>
      let directive : Directive := { flags, width := width.natAbs, precision, letter }
      let spelling := '%' :: row.take (row.length - rest.length)
      let isKnown := !(style.isProgram && isUseless directive)
      match if isKnown then style.write directive formatting else none with
      | some formatting => (rest, formatting)
      | none =>
          let message :=
            match style.user with
            | .program => spelling ++ rowOf ": invalid conversion specification"
            | .plainShell => spelling ++ rowOf ": invalid directive"
            | .extendedShell => ['\x60', letter] ++ rowOf "': invalid format character"
          ([], formatting.giveUp message style.faultStatus)

/-- Tells about an escape without its digits. -/
def tellMissing (formatting : Formatting) (mark : Char) : Formatting :=
  formatting.tell
    (rowOf (if mark = 'x' then "missing hex digit for \\" else "missing unicode digit for \\") ++ [mark]) 0

/-- Uses a format once, in at most so many steps. -/
def useOnce (style : FormatStyle) : Nat → Row → Formatting → Formatting
  | 0, _, formatting => formatting
  | steps + 1, format, formatting =>
      if formatting.isOver then formatting
      else
        match format with
        | [] => formatting
        | '%' :: '%' :: rest => useOnce style steps rest (formatting.put ['%'])
        | '%' :: 'b' :: rest =>
            let (argument, after) := takeArgument formatting
            let (row, ending) := unescape style.argumentRule argument
            let after := after.put row
            let after :=
              if style.isExtended then
                (missingDigits style.argumentRule argument.length argument).foldl tellMissing after
              else after
            match ending with
            | .finish => useOnce style steps rest after
            | .stop => { after with isOver := true }
            | .fault message => after.giveUp message style.faultStatus
        | '%' :: rest =>
            let isQuoting := style.isProgram && rest.head? == some 'q'
            if isQuoting then
              let (argument, after) := takeArgument formatting
              useOnce style steps (rest.drop 1) (after.put (quotedIfNeeded argument))
            else
              let (rest, formatting) := style.useDirective rest formatting
              useOnce style steps rest formatting
        | '\\' :: rest =>
            match takeEscape style.rule rest with
            | .found row rest => useOnce style steps rest (formatting.put row)
            | .stop => { formatting with isOver := true }
            | escape =>
                if style.isExtended then
                  let mark := rest.take 1
                  useOnce style steps (rest.drop 1)
                    (mark.foldl tellMissing (formatting.put ('\\' :: mark)))
                else formatting.giveUp (escape.fault?.getD []) style.faultStatus
        | character :: rest => useOnce style steps rest (formatting.put [character])

/-- Uses a format again as long as arguments are left and get fewer. -/
def useAgain (style : FormatStyle) (format : Row) : Nat → Formatting → Formatting
  | 0, formatting => formatting
  | steps + 1, formatting =>
      let after := style.useOnce (format.length + 1) format formatting
      if after.isOver || after.arguments.isEmpty then after
      else if after.arguments.length < formatting.arguments.length then
        useAgain style format steps after
      else if style.isProgram then
        after.tell (rowOf "warning: ignoring excess arguments, starting with "
          ++ quotedText (after.arguments.head?.getD [])) 0
      else after

/-- Uses a format with arguments. -/
def use (style : FormatStyle) (format : Row) (arguments : List Row) : Formatting :=
  style.useAgain format (arguments.length + 1) { arguments }

end FormatStyle

/-! ## Programs -/

/-- The program `printf`. -/
def printf : Utility := fun arguments => do
  let arguments := if arguments.head? = some ['-', '-'] then arguments.drop 1 else arguments
  match arguments with
  | [] => Tool.usage (rowOf "missing operand")
  | format :: arguments =>
      let formatting := programFormat.use format arguments
      formatting.result.forM fun
        | .output row => Tool.put row
        | .complaint row => Tool.warn row
      return formatting.status

/-- The program `echo`. -/
def echo : Utility := fun arguments => do
  Tool.put (programEchoRow false true arguments)
  return 0

end TestAmplification.Shell
