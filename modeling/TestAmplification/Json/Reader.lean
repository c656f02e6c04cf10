import TestAmplification.Json.Syntax

/-!
# Reading JSON

The reader accepts exactly one value with blanks around it. It checks how
numbers and strings are spelled, but not whether a string has a text. Values
nest to any depth: a nested value is shorter than the value around it, so
twice the length of the text bounds the number of steps.
-/

set_option autoImplicit false

namespace TestAmplification.Json

/-- The four blanks of JSON. -/
def isBlank (character : Char) : Bool :=
  character == ' ' || character == '\t' || character == '\n' || character == '\r'

/-- The characters after the blanks at their start. -/
def skipBlanks (characters : List Char) : List Char :=
  characters.dropWhile isBlank

/-- Is the character a hexadecimal digit? -/
def isHexDigit (character : Char) : Bool :=
  (Text.hexDigit? character).isSome

/-- Reads the rest of a string after its opening quote: the spelling, and what
follows the closing quote. -/
def readSpelling : List Char → Option (List Char × List Char)
  | [] => none
  | '"' :: rest => some ([], rest)
  | '\\' :: 'u' :: a :: b :: c :: d :: rest =>
      if [a, b, c, d].all isHexDigit then
        (readSpelling rest).map fun (spelling, others) =>
          ('\\' :: 'u' :: a :: b :: c :: d :: spelling, others)
      else none
  | '\\' :: letter :: rest =>
      if (shortEscape? letter).isSome then
        (readSpelling rest).map fun (spelling, others) => ('\\' :: letter :: spelling, others)
      else none
  | character :: rest =>
      if character.toNat < 0x20 then none
      else (readSpelling rest).map fun (spelling, others) => (character :: spelling, others)

/-- Takes a run of at least one digit. -/
def takeDigits (characters : List Char) : Option (List Char × List Char) :=
  match characters.span Text.isDigit with
  | ([], _) => none
  | (digits, rest) => some (digits, rest)

/-- Takes the whole part of a number: a zero alone, or digits that do not
start with one. -/
def takeWhole : List Char → Option (List Char × List Char)
  | '0' :: rest => some (['0'], rest)
  | characters => takeDigits characters

/-- Takes the fraction of a number, if there is one. -/
def takeFraction : List Char → Option (List Char × List Char)
  | '.' :: rest => (takeDigits rest).map fun (digits, others) => ('.' :: digits, others)
  | characters => some ([], characters)

/-- Takes the exponent of a number, if there is one. -/
def takeExponent : List Char → Option (List Char × List Char)
  | mark :: rest =>
      if mark = 'e' ∨ mark = 'E' then
        match rest with
        | sign :: digits =>
            if sign = '+' ∨ sign = '-' then
              (takeDigits digits).map fun (digits, others) => (mark :: sign :: digits, others)
            else
              (takeDigits rest).map fun (digits, others) => (mark :: digits, others)
        | [] => none
      else some ([], mark :: rest)
  | [] => some ([], [])

/-- Reads a number without a sign. -/
def readMagnitude (characters : List Char) : Option (List Char × List Char) := do
  let (whole, rest) ← takeWhole characters
  let (fraction, rest) ← takeFraction rest
  let (exponent, rest) ← takeExponent rest
  return (whole ++ fraction ++ exponent, rest)

/-- Reads a number. -/
def readNumber : List Char → Option (List Char × List Char)
  | '-' :: rest => (readMagnitude rest).map fun (spelling, others) => ('-' :: spelling, others)
  | characters => readMagnitude characters

mutual

/-- Reads a value, with blanks before it. The first argument bounds the number
of steps. -/
def readValue : Nat → List Char → Option (Json × List Char)
  | 0, _ => none
  | steps + 1, characters =>
      match skipBlanks characters with
      | 'n' :: 'u' :: 'l' :: 'l' :: rest => some (.null, rest)
      | 't' :: 'r' :: 'u' :: 'e' :: rest => some (.bool true, rest)
      | 'f' :: 'a' :: 'l' :: 's' :: 'e' :: rest => some (.bool false, rest)
      | '"' :: rest => (readSpelling rest).map fun (spelling, others) => (.string spelling, others)
      | '[' :: rest =>
          match skipBlanks rest with
          | ']' :: others => some (.array [], others)
          | _ => (readElements steps rest).map fun (elements, others) => (.array elements, others)
      | '{' :: rest =>
          match skipBlanks rest with
          | '}' :: others => some (.object [], others)
          | _ => (readMembers steps rest).map fun (members, others) => (.object members, others)
      | others => (readNumber others).map fun (spelling, others) => (.number spelling, others)

/-- Reads the elements of an array up to its closing bracket. -/
def readElements : Nat → List Char → Option (List Json × List Char)
  | 0, _ => none
  | steps + 1, characters =>
      match readValue steps characters with
      | none => none
      | some (element, rest) =>
          match skipBlanks rest with
          | ']' :: others => some ([element], others)
          | ',' :: others =>
              (readElements steps others).map fun (elements, others) =>
                (element :: elements, others)
          | _ => none

/-- Reads the members of an object up to its closing brace. -/
def readMembers : Nat → List Char → Option (List (List Char × Json) × List Char)
  | 0, _ => none
  | steps + 1, characters =>
      match skipBlanks characters with
      | '"' :: rest =>
          match readSpelling rest with
          | none => none
          | some (name, rest) =>
              match skipBlanks rest with
              | ':' :: rest =>
                  match readValue steps rest with
                  | none => none
                  | some (value, rest) =>
                      match skipBlanks rest with
                      | '}' :: others => some ([(name, value)], others)
                      | ',' :: others =>
                          (readMembers steps others).map fun (members, others) =>
                            ((name, value) :: members, others)
                      | _ => none
              | _ => none
      | _ => none

end

/-- Reads a text that holds exactly one value. -/
def parse? (text : String) : Option Json :=
  let characters := text.toList
  match readValue (2 * characters.length + 2) characters with
  | some (value, rest) => if (skipBlanks rest).isEmpty then some value else none
  | none => none

end TestAmplification.Json
