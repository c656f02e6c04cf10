import TestAmplification.Text.Decimal

/-!
# Writing TOML

A text is written in the first of the following forms that fits, where control
characters are all but the tab and the line feed:

1. basic, when it holds no control character, backslash, quote or line feed;
2. literal, when it holds no control character, apostrophe or line feed;
3. basic on several lines, when it holds no control character, no backslash and
   at most two quotes in a row;
4. literal on several lines, when it holds no control character and at most two
   apostrophes in a row;
5. else basic with escapes, on several lines if it holds a line feed.

A list of at most one element stays on its line; the elements of a longer list
get a line each, with a comma after every element.
-/

set_option autoImplicit false

namespace TestAmplification.Toml

/-! ## Forms of texts -/

/-- Is the character a control character that cannot stand for itself? -/
def isControl (character : Char) : Bool :=
  (character.toNat < 0x20 && character ≠ '\t' && character ≠ '\n') || character.toNat == 0x7F

/-- The length of the longest run of a character, where a run of the given
length stands before. -/
def longestRunAfter (character : Char) : Nat → List Char → Nat
  | current, [] => current
  | current, first :: rest =>
      if first = character then longestRunAfter character (current + 1) rest
      else max current (longestRunAfter character 0 rest)

/-- The length of the longest run of a character. -/
def longestRun (character : Char) (characters : List Char) : Nat :=
  longestRunAfter character 0 characters

/-- The ways to write a text. -/
inductive TextForm where
  | basic
  | literal
  | longBasic
  | longLiteral
deriving DecidableEq

/-- The form that a text is written in. -/
def formOf (characters : List Char) : TextForm :=
  let controls := characters.any isControl
  let oneLine := !characters.contains '\n'
  if !controls && oneLine && !characters.contains '\\' && !characters.contains '"' then .basic
  else if !controls && oneLine && !characters.contains '\'' then .literal
  else if !controls && !characters.contains '\\' && longestRun '"' characters ≤ 2 then .longBasic
  else if !controls && longestRun '\'' characters ≤ 2 then .longLiteral
  else if oneLine then .basic
  else .longBasic

/-! ## Escapes -/

/-- The last four hexadecimal digits of a number, in upper case. -/
def fourUpperDigits (number : Nat) : List Char :=
  (Text.fourHexDigits number).map Char.toUpper

/-- The escape of a character that is neither a quote nor a line feed. -/
def escapeOther (character : Char) : List Char :=
  if character = '\\' then ['\\', '\\']
  else if character = '\x08' then ['\\', 'b']
  else if character = '\t' then ['\\', 't']
  else if character = '\x0c' then ['\\', 'f']
  else if character = '\r' then ['\\', 'r']
  else if isControl character then '\\' :: 'u' :: fourUpperDigits character.toNat
  else [character]

/-- The escape of a character in a basic text on one line. -/
def escapeBasic (character : Char) : List Char :=
  if character = '"' then ['\\', '"']
  else if character = '\n' then ['\\', 'n']
  else escapeOther character

/-- The escapes of a basic text on several lines. The first argument counts
the quotes since the last character that was none or was escaped; every third
quote of a run is escaped. -/
def escapeLong : Nat → List Char → List Char
  | _, [] => []
  | quotes, character :: rest =>
      if character = '"' then
        if quotes = 2 then '\\' :: '"' :: escapeLong 0 rest
        else '"' :: escapeLong (quotes + 1) rest
      else if character = '\n' then '\n' :: escapeLong 0 rest
      else escapeOther character ++ escapeLong 0 rest

/-- A text between three quotes, on a line of its own if it has several. -/
def between (quotes characters written : List Char) : List Char :=
  quotes ++ (if characters.contains '\n' then ['\n'] else []) ++ written ++ quotes

/-- A text in a form. -/
def writeIn (form : TextForm) (characters : List Char) : List Char :=
  match form with
  | .basic => '"' :: characters.flatMap escapeBasic ++ ['"']
  | .literal => '\'' :: characters ++ ['\'']
  | .longBasic => between ['"', '"', '"'] characters (escapeLong 0 characters)
  | .longLiteral => between ['\'', '\'', '\''] characters characters

/-- A text as a TOML value. -/
def textValue (text : String) : String :=
  String.ofList (writeIn (formOf text.toList) text.toList)

/-! ## Other values -/

/-- A truth value as a TOML value. -/
def boolValue (value : Bool) : String :=
  if value then "true" else "false"

/-- A list of texts as a TOML value. -/
def listValue : List String → String
  | [] => "[]"
  | [element] => "[" ++ textValue element ++ "]"
  | elements =>
      "[\n" ++ String.join (elements.map fun element => "    " ++ textValue element ++ ",\n")
        ++ "]"

/-! ## Sections -/

/-- A section under a header: its keys with their written values. -/
def writeSection (header : String) (entries : List (String × String)) : String :=
  "[" ++ header ++ "]\n" ++
    String.join (entries.map fun (key, value) => key ++ " = " ++ value ++ "\n")

/-- Sections with an empty line between neighbours. -/
def writeSections (sections : List (String × List (String × String))) : String :=
  "\n".intercalate (sections.map fun (header, entries) => writeSection header entries)

end TestAmplification.Toml
