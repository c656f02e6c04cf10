import TestAmplification.Shell.Row
import TestAmplification.Shell.Script.Syntax

/-!
# Alternatives between braces

A word with braces stands for several words: one for each of the alternatives between
commas, or for each number or letter from a first to a last one. Only unquoted braces,
commas and dots count. Braces without alternatives stand for themselves.
-/

set_option autoImplicit false

namespace TestAmplification.Shell

/-- A piece of a word: an unquoted character, or something else. -/
inductive WordPiece where
  /-- An unquoted character. -/
  | mark (character : Char)
  /-- Another part. -/
  | part (part : WordPart)
deriving Inhabited

namespace WordPiece

/-- The pieces of a word. -/
def ofWord (word : Word) : List WordPiece :=
  word.flatMap fun
    | .text characters false => characters.map mark
    | other => [part other]

/-- The word of some pieces. -/
def toWord (pieces : List WordPiece) : Word :=
  pieces.foldr (fun piece word =>
    match piece, word with
    | mark character, .text characters false :: rest => .text (character :: characters) false :: rest
    | mark character, word => .text [character] false :: word
    | part other, word => other :: word) []

/-- Is the piece the given character? -/
def isMark (character : Char) : WordPiece → Bool
  | mark found => found == character
  | part _ => false

/-- Cuts the alternatives between braces, up to the closing one, with so many open ones inside;
the present alternative comes last first. -/
def takeAlternatives : Nat → List WordPiece → List WordPiece →
    Option (List (List WordPiece) × List WordPiece)
  | _, _, [] => none
  | depth, before, piece :: rest =>
      if piece.isMark '\x7d' && depth = 0 then some ([before.reverse], rest)
      else if piece.isMark ',' && depth = 0 then
        (takeAlternatives 0 [] rest).map fun (others, after) => (before.reverse :: others, after)
      else
        let depth := if piece.isMark '\x7b' then depth + 1
          else if piece.isMark '\x7d' then depth - 1 else depth
        takeAlternatives depth (piece :: before) rest

/-- The characters of pieces that are all unquoted. -/
def marks? (pieces : List WordPiece) : Option Row :=
  pieces.mapM fun
    | mark character => some character
    | part _ => none

end WordPiece

/-! ## Ranges -/

/-- The most members of a range. -/
def mostMembers : Nat := 1000000

/-- The numbers from one to another in steps. -/
def numbersFrom (first last : Int) (step : Nat) : List Int :=
  let step := if step = 0 then 1 else step
  let count := min mostMembers ((last - first).natAbs / step + 1)
  (List.range count).map fun index =>
    if first ≤ last then first + (index * step : Nat) else first - (index * step : Nat)

/-- A number with zeros up to a width. -/
def paddedNumber (width : Nat) (number : Int) : Row :=
  if number < 0 then '-' :: padZeros (width - 1) (natRow number.natAbs)
  else padZeros width (natRow number.natAbs)

/-- Has the number a zero in front that asks for a width? -/
def asksForWidth (row : Row) : Bool :=
  let digits := if row.head? == some '-' then row.drop 1 else row
  digits.head? == some '0' && digits.length > 1

/-- The members of a range that a text between braces describes. -/
def rangeMembers? (text : Row) : Option (List Row) := do
  let (first, last, step) ←
    match cutAtText ['.', '.'] text with
    | [first, last] => some (first, last, 1)
    | [first, last, step] => (intOf? step).map fun step => (first, last, step.natAbs)
    | _ => none
  match intOf? first, intOf? last, first, last with
  | some low, some high, _, _ =>
      let width := if asksForWidth first || asksForWidth last then max first.length last.length else 0
      return (numbersFrom low high step).map (paddedNumber width)
  | _, _, [low], [high] =>
      if low.isAlpha && high.isAlpha then
        return (numbersFrom low.toNat high.toNat step).map fun number => [Char.ofNat number.toNat]
      else none
  | _, _, _, _ => none

/-! ## Words -/

/-- The words that pieces stand for, in at most so many steps. -/
def spreadUpTo : Nat → List WordPiece → List (List WordPiece)
  | 0, pieces => [pieces]
  | _ + 1, [] => [[]]
  | steps + 1, piece :: rest =>
      let plain : List (List WordPiece) := (spreadUpTo steps rest).map (piece :: ·)
      if !piece.isMark '\x7b' then plain
      else
        match WordPiece.takeAlternatives 0 [] rest with
        | none => plain
        | some ([single], after) =>
            match (WordPiece.marks? single).bind rangeMembers? with
            | none => plain
            | some members =>
                let ends := spreadUpTo steps after
                members.flatMap fun member => ends.map (member.map WordPiece.mark ++ ·)
        | some (alternatives, after) =>
            let ends := spreadUpTo steps after
            (alternatives.flatMap (spreadUpTo steps)).flatMap fun start => ends.map (start ++ ·)

/-- Has the word an unquoted brace? -/
def hasBrace (word : Word) : Bool :=
  word.any fun
    | .text characters false => characters.contains '\x7b'
    | _ => false

/-- The words that a word stands for. -/
def spreadBraces (word : Word) : List Word :=
  if hasBrace word then
    let pieces := WordPiece.ofWord word
    (spreadUpTo (pieces.length + 1) pieces).map WordPiece.toWord
  else [word]

/-- The texts that a text with braces stands for. -/
def spreadTexts (text : String) : List String :=
  (spreadUpTo (text.length + 1) (text.toList.map .mark)).map fun pieces =>
    String.ofList ((WordPiece.marks? pieces).getD [])

example : spreadTexts "a\x7bb,c\x7b1..2\x7d\x7dd" = ["abd", "ac1d", "ac2d"] := by decide +kernel

end TestAmplification.Shell
