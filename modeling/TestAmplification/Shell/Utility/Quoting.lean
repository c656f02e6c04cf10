import TestAmplification.Shell.Row

/-!
# Names in messages

A name in a message is quoted so that a shell would read it as one word. Single
quotes enclose it, or double quotes if it holds single quotes and nothing else
that needs care. A byte that is not printed stands as a number of eight.

Some messages quote a name only if it needs that.
-/

set_option autoImplicit false

namespace TestAmplification.Shell

/-- Is the byte printed? -/
def isPrinted (character : Char) : Bool :=
  ' ' ≤ character && character ≤ '~'

/-- A number of eight with three digits. -/
def threeOctalDigits (number : Nat) : Row :=
  [number / 64 % 8, number / 8 % 8, number % 8].map Nat.digitChar

/-- The letter that stands for a byte behind a backslash. -/
def controlLetter? (character : Char) : Option Char :=
  [('\x07', 'a'), ('\x08', 'b'), ('\t', 't'), ('\n', 'n'), ('\x0b', 'v'), ('\x0c', 'f'),
    ('\r', 'r')].lookup character

/-- A byte that is not printed, behind a backslash. -/
def escapedByte (character : Char) : Row :=
  match controlLetter? character with
  | some letter => ['\\', letter]
  | none => '\\' :: threeOctalDigits character.toNat

/-- May the character stand between double quotes as it is? -/
def isCarefree (character : Char) : Bool :=
  character.isAlphanum ||
    ['%', '+', ',', '-', '.', '/', ':', '@', ']', '_', ' ', '\'', '\x7b', '\x7d'].contains character

/-- A row between single quotes; runs of bytes that are not printed stand outside
of them. -/
def inSingleQuotes (row : Row) : Row :=
  let runs := row.splitBy fun first second => isPrinted first == isPrinted second
  let parts := runs.zipIdx.map fun (run, index) =>
    if run.all isPrinted then
      run.flatMap fun character => if character = '\'' then "'\\''".toList else [character]
    else
      "'$'".toList ++ run.flatMap escapedByte
        ++ (if index + 1 = runs.length then [] else ['\'', '\''])
  ['\''] ++ parts.flatten ++ ['\'']

/-- A name in quotes. -/
def quoted (row : Row) : Row :=
  if row.contains '\'' && row.all isCarefree then ['"'] ++ row ++ ['"'] else inSingleQuotes row

/-- Does a name need quotes? -/
def needsQuotes (row : Row) : Bool :=
  row.isEmpty || ['#', '~'].contains (row.head?.getD ' ')
    || row.any fun character =>
      !isPrinted character || character == ' '
        || "!\"$&'()*;<=>?[\\^`|".toList.contains character

/-- A name, in quotes if it needs them. -/
def quotedIfNeeded (row : Row) : Row :=
  if needsQuotes row then quoted row else row

/-- A text in quotes, where a quote and a byte that is not printed stand behind a
backslash. -/
def quotedText (row : Row) : Row :=
  ['\''] ++ (row.flatMap fun character =>
    if character = '\'' || character = '\\' then ['\\', character]
    else if isPrinted character then [character]
    else escapedByte character) ++ ['\'']

end TestAmplification.Shell

/-!
## Values as a script would write them

A value is written so that a shell reads it back as it is: between single quotes, between
double quotes, with backslashes, or with escapes after a dollar sign when it holds
characters that are not printed.
-/

namespace TestAmplification.Shell

/-- A character in a quotation with escapes. -/
def escapedCharacter (character : Char) : Row :=
  if character = '\\' || character = '\'' then ['\\', character]
  else if character = '\x1b' then ['\\', 'E']
  else if isPrinted character then [character]
  else escapedByte character

/-- A value between single quotes with escapes. -/
def withEscapes (row : Row) : Row :=
  ['$', '\''] ++ row.flatMap escapedCharacter ++ ['\'']

/-- A value between single quotes, where a single quote stands outside of them. -/
def betweenSingleQuotes (row : Row) : Row :=
  if row = ['\''] then ['\\', '\'']
  else
    ['\''] ++ (row.flatMap fun character =>
      if character = '\'' then ['\'', '\\', '\'', '\''] else [character]) ++ ['\'']

/-- A value between quotes that a script can use again. -/
def reusable (row : Row) : Row :=
  if row.all isPrinted then betweenSingleQuotes row else withEscapes row

/-- A value between double quotes. -/
def betweenDoubleQuotes (row : Row) : Row :=
  if row.all isPrinted then
    ['"'] ++ (row.flatMap fun character =>
      if ['"', '$', '\\', '\x60'].contains character then ['\\', character] else [character]) ++ ['"']
  else withEscapes row

/-- Would a tilde or a number sign behind the given characters mean more than itself? -/
def hasMeaningBehind (before : Option Char) (character : Char) : Bool :=
  (character = '~' && (before.isNone || before == some '=' || before == some ':'))
    || (character = '#' && before.isNone)

/-- The characters with those in front of them. -/
def withBefore (row : Row) : List (Option Char × Char) :=
  (none :: row.map some).zip row

/-- Would the characters mean more than themselves without quotes? -/
def hasMeaning (row : Row) : Bool :=
  (withBefore row).any fun (before, character) =>
    " \t\n'\"\\|&;()<>!\x7b\x7d*[?]^$\x60".toList.contains character
      || hasMeaningBehind before character

/-- A value with quotes if it needs them. -/
def quotedAsNeeded (row : Row) : Row :=
  if !row.all isPrinted then withEscapes row
  else if hasMeaning row then betweenSingleQuotes row
  else row

/-- A value with backslashes where they are needed. -/
def withBackslashes (row : Row) : Row :=
  if row.isEmpty then ['\'', '\'']
  else if !row.all isPrinted then withEscapes row
  else
    (withBefore row).flatMap fun (before, character) =>
      if " '\"\\|&;()<>!\x7b\x7d*[?]^$\x60,".toList.contains character
          || hasMeaningBehind before character then
        ['\\', character]
      else [character]

end TestAmplification.Shell
