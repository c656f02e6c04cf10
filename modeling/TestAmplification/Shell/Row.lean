import TestAmplification.Text.Decimal
import TestAmplification.Text.Utf8

/-!
# Rows of bytes

Scripts and utilities treat texts as rows of bytes. A row holds one character
for every byte, the character with the number of the byte, so that the bytes of
a row can be looked at like letters and no byte is ever lost.

A row is cut into lines at its line feeds. A line feed at its end opens no
further line.
-/

set_option autoImplicit false

namespace TestAmplification.Shell

/-- A row of bytes. -/
abbrev Row := List Char

/-- Rows are spread by the numbers of their characters. -/
instance : Hashable Row :=
  ⟨fun row => row.foldl (fun sum character => mixHash sum (hash character.val)) 7⟩

/-! ## Bytes and texts -/

/-- The row of some bytes. -/
def ofBytes (bytes : Text.Bytes) : Row :=
  bytes.map fun byte => Char.ofNat byte.toNat

/-- The bytes of a row. -/
def toBytes (row : Row) : Text.Bytes :=
  row.map fun character => UInt8.ofNat character.toNat

/-- The row of the first so many bytes, in front of another row. -/
def unpackOnto (bytes : ByteArray) : Nat → Row → Row
  | 0, row => row
  | count + 1, row => unpackOnto bytes count (Char.ofNat (bytes.get! count).toNat :: row)

/-- The row of packed bytes. -/
def unpacked (bytes : ByteArray) : Row :=
  unpackOnto bytes bytes.size []

/-- Packed bytes with the bytes of a row behind them. -/
def packBehind (bytes : ByteArray) : Row → ByteArray
  | [] => bytes
  | character :: rest => packBehind (bytes.push (UInt8.ofNat character.toNat)) rest

/-- The bytes of a row, packed. -/
def packed (row : Row) : ByteArray :=
  packBehind ByteArray.empty row

/-- Pieces of packed bytes, one behind the other. -/
def packedAll (pieces : List ByteArray) : ByteArray :=
  pieces.foldl (· ++ ·) ByteArray.empty

/-- The row of a text. -/
def rowOf (text : String) : Row :=
  ofBytes (Text.encode text)

/-- The text of a row. -/
def textOf (row : Row) : String :=
  Text.decodeWithReplacement (toBytes row)

/-- A number as a row. -/
def natRow (number : Nat) : Row :=
  Text.decimalDigits number

/-- A whole number as a row. -/
def intRow (number : Int) : Row :=
  (if number < 0 then ['-'] else []) ++ natRow number.natAbs

/-- The whole number that a row denotes, with an optional sign. -/
def intOf? : Row → Option Int
  | '-' :: digits => (Text.digits? digits).map fun number => -(number : Int)
  | '+' :: digits => (Text.digits? digits).map fun number => (number : Int)
  | digits => (Text.digits? digits).map fun number => (number : Int)

/-! ## Parts -/

/-- The parts of a row between occurrences of a character. -/
def cutAtEach (separator : Char) (row : Row) : List Row :=
  row.foldr (fun character parts =>
    match parts with
    | [] => [[character]]
    | part :: others =>
        if character = separator then [] :: part :: others else (character :: part) :: others)
    [[]]

/-- The parts of a row between occurrences of a text that is not empty, at most so
many; the characters of the present part come last first. -/
def cutAtTextUpTo (separator : Row) : Nat → Row → Row → List Row
  | 0, part, rest => [part.reverse ++ rest]
  | _ + 1, part, [] => [part.reverse]
  | steps + 1, part, character :: rest =>
      if !separator.isEmpty && separator.isPrefixOf (character :: rest) then
        part.reverse
          :: cutAtTextUpTo separator steps [] ((character :: rest).drop separator.length)
      else cutAtTextUpTo separator steps (character :: part) rest

/-- The parts of a row between occurrences of a text that is not empty. -/
def cutAtText (separator row : Row) : List Row :=
  match separator with
  | [character] => cutAtEach character row
  | _ => cutAtTextUpTo separator (row.length + 1) [] row

/-- The lines of a row, without the characters that end them. A last line without an
end counts. -/
def linesEndedBy (ending : Char) (row : Row) : List Row :=
  let parts := cutAtEach ending row
  if parts.getLast? = some [] then parts.dropLast else parts

/-- The lines of a row, without their line feeds. -/
def rowLines (row : Row) : List Row :=
  linesEndedBy '\n' row

/-- Lines with a character after each. -/
def joinEnded (ending : Char) (lines : List Row) : Row :=
  lines.flatMap fun line => line ++ [ending]

/-- Lines with a line feed after each. -/
def joinRows (lines : List Row) : Row :=
  joinEnded '\n' lines

/-- Rows with a separator between neighbours. -/
def joinWith (separator : Row) (rows : List Row) : Row :=
  (List.intersperse separator rows).flatten

/-- Does the row end in a line feed, or is it empty? -/
def endsLine (row : Row) : Bool :=
  row.isEmpty || row.getLast? == some '\n'

/-- A row without the line feeds at its end. -/
def withoutLastLines (row : Row) : Row :=
  (row.reverse.dropWhile (· == '\n')).reverse

/-- Is the character a blank of the plain alphabet? -/
def isSpace (character : Char) : Bool :=
  character == ' ' || ('\t' ≤ character && character ≤ '\r')

/-- The runs of characters that are no blanks. -/
def wordsOf (row : Row) : List Row :=
  (row.splitBy fun first second => isSpace first == isSpace second).filter
    fun run => !(run.head?.map isSpace).getD true

/-- A row with blanks in front, filled up to a width. -/
def padLeft (width : Nat) (row : Row) : Row :=
  List.replicate (width - row.length) ' ' ++ row

/-- A row with blanks behind, filled up to a width. -/
def padRight (width : Nat) (row : Row) : Row :=
  row ++ List.replicate (width - row.length) ' '

/-- A row with zeros in front, filled up to a width. -/
def padZeros (width : Nat) (row : Row) : Row :=
  List.replicate (width - row.length) '0' ++ row

end TestAmplification.Shell
