import TestAmplification.Shell.Utility.Characters

/-!
# Escapes in written texts

A backslash makes the characters after it stand for another one: a letter for a
control character, digits for the character with that number. How far this goes
differs between those who write texts, so it is the matter of a rule. One escape ends
the text with all that follows it.
-/

set_option autoImplicit false

namespace TestAmplification.Shell

/-- Which escapes there are. -/
structure EscapeRule where
  /-- May a zero stand before three digits of eight? -/
  hasLongZero : Bool := false
  /-- Are there escapes with digits of eight without a zero in front? -/
  hasOctal : Bool := true
  /-- Is there the escape that ends everything? -/
  hasStop : Bool := false
  /-- Are there escapes with digits of sixteen? -/
  hasHexadecimal : Bool := false
  /-- Is it a fault when those digits are missing? -/
  isStrict : Bool := false
  /-- Are there escapes of quotes and of letters by their numbers in all
  alphabets? -/
  hasNames : Bool := false
  /-- May a number in all alphabets have fewer digits than there is room for? -/
  hasFewDigits : Bool := false
  /-- Are there escapes of the single quote and the question mark? -/
  hasQuotes : Bool := false
  /-- Are there escapes of control characters by a letter? -/
  hasControls : Bool := false
  /-- Does an escape without its digits stay as it is? -/
  keepsMissing : Bool := false
deriving Inhabited

/-- What an escape stands for. -/
inductive Escape where
  /-- Characters, and what follows the escape. -/
  | found (row : Row) (rest : Row)
  /-- The end of everything. -/
  | stop
  /-- Digits are missing. -/
  | noDigits
  /-- The number belongs to no character. -/
  | badNumber (row : Row)

/-- A byte by its number, of which the last eight bits count. -/
def byteOf (number : Nat) : Char :=
  Char.ofNat (number % 256)

/-- The character with a number in all alphabets, as an escape of so many digits, or of
fewer. -/
def namedCharacter (mayBeShort : Bool) (mark : Char) (length : Nat) (rest : Row) : Escape :=
  let digits := (rest.take length).takeWhile fun digit => (Text.hexDigit? digit).isSome
  if digits.isEmpty || (digits.length < length && !mayBeShort) then .noDigits
  else
    let number := Text.hexValue digits
    if 0xd800 ≤ number && number ≤ 0xdfff then
      .badNumber ('\\' :: mark :: digits)
    else if number < 0x80 then .found [byteOf number] (rest.drop digits.length)
    else
      let shown := (Nat.toDigits 16 number).map Char.toUpper
      let width := if number < 0x10000 then 4 else 8
      .found (['\\', if width = 4 then 'u' else 'U'] ++ padZeros width shown)
        (rest.drop digits.length)

/-- What the characters after a backslash stand for. -/
def takeEscape (rule : EscapeRule) (row : Row) : Escape :=
  let octal (digits rest : Row) : Escape := .found [byteOf (octalValue digits)] rest
  match row with
  | [] => .found ['\\'] []
  | letter :: rest =>
      if letter = '0' && rule.hasLongZero then
        let digits := (rest.take 3).takeWhile isOctalDigit
        octal digits (rest.drop digits.length)
      else if isOctalDigit letter && rule.hasOctal then
        let digits := (row.take 3).takeWhile isOctalDigit
        octal digits (row.drop digits.length)
      else if letter = 'c' && rule.hasStop then .stop
      else if letter = 'x' && rule.hasHexadecimal then
        let digits := (rest.take 2).takeWhile fun digit => (Text.hexDigit? digit).isSome
        if !digits.isEmpty then .found [byteOf (Text.hexValue digits)] (rest.drop digits.length)
        else if rule.isStrict then .noDigits
        else .found ['\\', 'x'] rest
      else if letter = 'u' && (rule.hasNames || rule.hasFewDigits) then
        namedCharacter rule.hasFewDigits 'u' 4 rest
      else if letter = 'U' && (rule.hasNames || rule.hasFewDigits) then
        namedCharacter rule.hasFewDigits 'U' 8 rest
      else if letter = '"' && rule.hasNames then .found ['"'] rest
      else if (letter = '\'' || letter = '?') && rule.hasQuotes then .found [letter] rest
      else if letter = 'c' && rule.hasControls then
        match rest with
        | control :: rest => .found [byteOf (control.toUpper.toNat % 32)] rest
        | [] => .found ['\\', 'c'] []
      else if letter = '\\' then .found ['\\'] rest
      else if letter = 'e' || (letter = 'E' && rule.hasFewDigits) then .found ['\x1b'] rest
      else
        match letterEscape? letter with
        | some character => .found [character] rest
        | none => .found ['\\', letter] rest

/-- How the reading of a text with escapes ends. -/
inductive EscapeEnd where
  /-- With the text. -/
  | finish
  /-- With the escape that ends everything. -/
  | stop
  /-- With a fault. -/
  | fault (message : Row)
deriving DecidableEq

/-- What is wrong with an escape, and what the fault is. -/
def Escape.fault? : Escape → Option Row
  | .noDigits => some (rowOf "missing hexadecimal number in escape")
  | .badNumber row => some (rowOf "invalid universal character name " ++ row)
  | _ => none

/-- A text with its escapes replaced, in at most so many steps; what is written so
far comes last first. -/
def unescapeUpTo (rule : EscapeRule) : Nat → Row → Row → Row × EscapeEnd
  | 0, before, _ => (before.reverse, .finish)
  | _ + 1, before, [] => (before.reverse, .finish)
  | steps + 1, before, '\\' :: rest =>
      match takeEscape rule rest with
      | .found row rest => unescapeUpTo rule steps (row.reverse ++ before) rest
      | .stop => (before.reverse, .stop)
      | escape =>
          if rule.keepsMissing then
            unescapeUpTo rule steps ((rest.take 1).reverse ++ '\\' :: before) (rest.drop 1)
          else (before.reverse, (escape.fault?.map EscapeEnd.fault).getD .finish)
  | steps + 1, before, character :: rest => unescapeUpTo rule steps (character :: before) rest

/-- A text with its escapes replaced; what stands for no character stays as it is, in at
most so many steps. -/
def unescapeKnown (rule : EscapeRule) : Nat → Row → Row
  | 0, _ | _ + 1, [] => []
  | steps + 1, '\\' :: rest =>
      match takeEscape rule rest with
      | .found row rest => row ++ unescapeKnown rule steps rest
      | _ => '\\' :: rest.take 1 ++ unescapeKnown rule steps (rest.drop 1)
  | steps + 1, character :: rest => character :: unescapeKnown rule steps rest

/-- A text with its escapes replaced, and how that ends. -/
def unescape (rule : EscapeRule) (row : Row) : Row × EscapeEnd :=
  unescapeUpTo rule (row.length + 1) [] row

/-- The letters of the escapes without their digits in a text, in at most so many steps. -/
def missingDigits (rule : EscapeRule) : Nat → Row → List Char
  | 0, _ | _ + 1, [] => []
  | steps + 1, '\\' :: rest =>
      match takeEscape rule rest with
      | .found _ rest => missingDigits rule steps rest
      | .stop => []
      | _ => rest.take 1 ++ missingDigits rule steps (rest.drop 1)
  | steps + 1, _ :: rest => missingDigits rule steps rest

/-! ## Echo -/

/-- The escapes of the `echo` of the shell. -/
def shellEchoRule : EscapeRule := { hasLongZero := true, hasStop := true }

/-- The escapes of a quotation with a dollar sign in front. -/
def quotationRule : EscapeRule where
  hasHexadecimal := true
  hasNames := true
  hasFewDigits := true
  hasQuotes := true
  hasControls := true

/-- The escapes of the `echo` of a shell in the extended dialect. -/
def extendedEchoRule : EscapeRule where
  hasLongZero := true
  hasOctal := false
  hasStop := true
  hasHexadecimal := true
  hasFewDigits := true
  keepsMissing := true

/-- The escapes of the program `echo`. -/
def programEchoRule : EscapeRule := { hasLongZero := true, hasStop := true, hasHexadecimal := true }

/-- Arguments with blanks between them and a line feed at the end. Escapes are
replaced if there is a rule for them. -/
def echoRow (rule : Option EscapeRule) (newline : Bool) (arguments : List Row) : Row :=
  let row := joinWith [' '] arguments
  match rule.map fun rule => unescape rule row with
  | some (row, .stop) => row
  | some (row, _) => if newline then row ++ ['\n'] else row
  | none => if newline then row ++ ['\n'] else row

/-- What the `echo` of the shell writes. -/
def shellEchoRow : List Row → Row
  | ['-', 'n'] :: rest => echoRow (some shellEchoRule) false rest
  | arguments => echoRow (some shellEchoRule) true arguments

/-- What an `echo` with options writes: the letters of its options say whether escapes are
replaced and whether the line is ended. -/
def optionedEchoRow (rule : EscapeRule) (escapes newline : Bool) : List Row → Row
  | ('-' :: letter :: letters) :: rest =>
      if (letter :: letters).all ['n', 'e', 'E'].contains then
        optionedEchoRow rule
          ((letter :: letters).foldl (fun escapes letter =>
            if letter = 'e' then true else if letter = 'E' then false else escapes) escapes)
          (newline && !(letter :: letters).contains 'n') rest
      else
        echoRow (if escapes then some rule else none) newline (('-' :: letter :: letters) :: rest)
  | arguments => echoRow (if escapes then some rule else none) newline arguments

/-- What the program `echo` writes. -/
def programEchoRow (escapes newline : Bool) (arguments : List Row) : Row :=
  optionedEchoRow programEchoRule escapes newline arguments

end TestAmplification.Shell
