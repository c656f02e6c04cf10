import TestAmplification.Text.Utf8

/-!
# Paths

A path is a text of names with slashes between them. It is absolute when it
starts with a slash. Paths are joined and cut as they are written: nothing is
looked up and neither `.` nor `..` is worked out, only doubled slashes and
inner `.` names are passed over when a path is cut.

The system also knows paths that are no texts. They are joined byte by byte.
-/

set_option autoImplicit false

namespace TestAmplification

/-- A path, as it is written. -/
abbrev Path := String

namespace Path

/-- Does the path start at the root? -/
def isAbsolute (path : Path) : Bool :=
  path.toList.head? == some '/'

/-- The second path as seen from the first: an absolute path stays as it is,
and a relative one follows after a slash. -/
def join (base path : Path) : Path :=
  if isAbsolute path then path
  else if base.isEmpty || base.toList.getLast? == some '/' then base ++ path
  else base ++ "/" ++ path

/-- The names of a path, also empty ones and dots. -/
def splitNames : List Char → List (List Char)
  | [] => [[]]
  | '/' :: rest => [] :: splitNames rest
  | character :: rest =>
      match splitNames rest with
      | [] => [[character]]
      | name :: others => (character :: name) :: others

/-- The names of a path in order, without empty ones. -/
def names (path : Path) : List String :=
  (splitNames path.toList).filter (!·.isEmpty) |>.map String.ofList

/-! ## Parents -/

/-- The start of a path that is no name to be cut off: the root, or a dot that
stands alone in front. -/
def anchorLength : List Char → Nat
  | '/' :: _ => 1
  | ['.'] => 1
  | '.' :: '/' :: _ => 1
  | _ => 0

/-- Drops the last name of a reversed path together with the slash before
it. -/
def dropName (reversed : List Char) : List Char :=
  (reversed.dropWhile (· != '/')).drop 1

theorem length_dropName_lt {reversed : List Char} (nonempty : reversed ≠ []) :
    (dropName reversed).length < reversed.length := by
  unfold dropName
  rw [List.length_drop]
  have shorter : (reversed.dropWhile (· != '/')).length ≤ reversed.length :=
    (List.dropWhile_suffix _).length_le
  have positive : 0 < reversed.length := List.length_pos_iff.2 nonempty
  omega

/-- Drops empty names and dots from the end of a reversed path. -/
def dropIdle : List Char → List Char
  | [] => []
  | character :: rest =>
      if (character :: rest).takeWhile (· != '/') ∈ [[], ['.']] then
        dropIdle (dropName (character :: rest))
      else character :: rest
termination_by reversed => reversed.length
decreasing_by exact length_dropName_lt (List.cons_ne_nil _ _)

/-- The path without its last name; nothing for the root and for the empty
path. -/
def parent? (path : Path) : Option Path :=
  let characters := path.toList
  let anchor := characters.take (anchorLength characters)
  let body := dropIdle (characters.drop (anchorLength characters)).reverse
  if body.isEmpty then
    if anchor = ['.'] then some "" else none
  else
    some (String.ofList (anchor ++ (dropIdle (dropName body)).reverse))

example : parent? "a//b/./c/" = some "a//b" := by decide +kernel
example : parent? "./c" = some "." := by decide +kernel
example : parent? "c" = some "" := by decide +kernel
example : parent? "/" = none := by decide +kernel

end Path

/-! ## Paths that are no texts -/

/-- A path as the system knows it: a text, or bytes that are none. -/
inductive SystemPath where
  | text (path : Path)
  | bytes (raw : Text.Bytes)
deriving DecidableEq, Inhabited

namespace SystemPath

/-- The path with the given bytes. -/
def ofBytes (raw : Text.Bytes) : SystemPath :=
  match Text.decode? raw with
  | some path => text path
  | none => bytes raw

/-- The second path as seen from the first. -/
def join : SystemPath → Path → SystemPath
  | text base, path => text (Path.join base path)
  | bytes base, path =>
      if Path.isAbsolute path then text path
      else if base.getLast? = some 0x2F then bytes (base ++ Text.encode path)
      else bytes (base ++ 0x2F :: Text.encode path)

/-- The path as it is shown, with a replacement for what is no text. -/
def render : SystemPath → String
  | text path => path
  | bytes raw => Text.decodeWithReplacement raw

end SystemPath

end TestAmplification
