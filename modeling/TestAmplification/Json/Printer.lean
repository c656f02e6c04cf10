import TestAmplification.Json.Syntax

/-!
# Writing JSON

A value is written in one of two layouts. The compact layout has no blanks.
The indented layout gives every element and every member a line of its own,
two blanks further in than the value around it, and separates a name from its
value by a colon and a blank; an empty array or object stays on its line.
-/

set_option autoImplicit false

namespace TestAmplification.Json

/-- The characters of a literal. -/
def literal (value : Bool) : List Char :=
  if value then ['t', 'r', 'u', 'e'] else ['f', 'a', 'l', 's', 'e']

/-- A spelling between quotes. -/
def quoted (spelling : List Char) : List Char :=
  '"' :: spelling ++ ['"']

mutual

/-- The compact layout of a value. -/
def compactChars : Json → List Char
  | .null => ['n', 'u', 'l', 'l']
  | .bool value => literal value
  | .number spelling => spelling
  | .string spelling => quoted spelling
  | .array elements => '[' :: compactElements elements ++ [']']
  | .object members => '{' :: compactMembers members ++ ['}']

/-- The elements of an array with commas between them. -/
def compactElements : List Json → List Char
  | [] => []
  | [element] => compactChars element
  | element :: next :: rest => compactChars element ++ ',' :: compactElements (next :: rest)

/-- The members of an object with commas between them. -/
def compactMembers : List (List Char × Json) → List Char
  | [] => []
  | [(name, value)] => quoted name ++ ':' :: compactChars value
  | (name, value) :: next :: rest =>
      quoted name ++ ':' :: compactChars value ++ ',' :: compactMembers (next :: rest)

end

/-- A new line at the given depth. -/
def newLine (depth : Nat) : List Char :=
  '\n' :: List.replicate (2 * depth) ' '

mutual

/-- The indented layout of a value that starts at the given depth. -/
def indentedChars (depth : Nat) : Json → List Char
  | .null => ['n', 'u', 'l', 'l']
  | .bool value => literal value
  | .number spelling => spelling
  | .string spelling => quoted spelling
  | .array [] => ['[', ']']
  | .array (element :: rest) =>
      '[' :: indentedElements (depth + 1) (element :: rest) ++ newLine depth ++ [']']
  | .object [] => ['{', '}']
  | .object (member :: rest) =>
      '{' :: indentedMembers (depth + 1) (member :: rest) ++ newLine depth ++ ['}']

/-- The elements of an array, each on its line. -/
def indentedElements (depth : Nat) : List Json → List Char
  | [] => []
  | [element] => newLine depth ++ indentedChars depth element
  | element :: next :: rest =>
      newLine depth ++ indentedChars depth element ++ ',' ::
        indentedElements depth (next :: rest)

/-- The members of an object, each on its line. -/
def indentedMembers (depth : Nat) : List (List Char × Json) → List Char
  | [] => []
  | [(name, value)] => newLine depth ++ quoted name ++ ':' :: ' ' :: indentedChars depth value
  | (name, value) :: next :: rest =>
      newLine depth ++ quoted name ++ ':' :: ' ' :: indentedChars depth value ++ ',' ::
        indentedMembers depth (next :: rest)

end

/-- The compact layout of a value. -/
def compact (value : Json) : String :=
  String.ofList (compactChars value)

/-- The indented layout of a value. -/
def indented (value : Json) : String :=
  String.ofList (indentedChars 0 value)

end TestAmplification.Json
