

/-!
# Shell patterns

Patterns of the plain dialect, and the patterns with choices that the extended dialect has as well.
-/

set_option autoImplicit false

/-!
## Shell patterns

In a pattern `*` matches any characters, `?` one character, and brackets one
character out of a set. A character that was quoted stands for itself.
-/

namespace TestAmplification.Shell

/-- A character of an expanded word, and whether it was quoted. -/
abbrev Glyph := Char × Bool

/-! ### Sets of characters -/

/-- A member of a set of characters. -/
inductive SetMember where
  /-- The characters from one to another. -/
  | range (low high : Char)
  /-- A class of characters by its name. -/
  | named (name : List Char)
deriving DecidableEq, Inhabited

/-- Is the character of the plain alphabet printed with ink? -/
def isGraphic (character : Char) : Bool :=
  '!' ≤ character && character ≤ '~'

/-- Does the class with a name hold a character? -/
def classHolds (name : List Char) (character : Char) : Bool :=
  match String.ofList name with
  | "digit" => character.isDigit
  | "lower" => character.isLower
  | "upper" => character.isUpper
  | "alpha" => character.isAlpha
  | "alnum" => character.isAlphanum
  | "space" => character == ' ' || ('\t' ≤ character && character ≤ '\r')
  | "blank" => character == ' ' || character == '\t'
  | "xdigit" =>
      character.isDigit || ('a' ≤ character && character ≤ 'f')
        || ('A' ≤ character && character ≤ 'F')
  | "punct" => isGraphic character && !character.isAlphanum
  | "graph" => isGraphic character
  | "print" => character == ' ' || isGraphic character
  | "cntrl" => character < ' ' || character == '\x7f'
  | _ => false

/-- The names of the classes of characters. -/
def classNames : List String :=
  ["digit", "lower", "upper", "alpha", "alnum", "space", "blank", "xdigit", "punct", "graph",
    "print", "cntrl"]

/-- Is a character one that the member stands for? -/
def SetMember.holds (character : Char) : SetMember → Bool
  | range low high => low ≤ character && character ≤ high
  | named name => classHolds name character

/-- The name of a class at the start of the glyphs after `[:`, and what follows
its end. -/
def takeClass (glyphs : List Glyph) : Option (List Char × List Glyph) :=
  let name := (glyphs.takeWhile fun glyph => glyph.1.isAlpha).map Prod.fst
  match glyphs.drop name.length with
  | (':', _) :: (']', _) :: rest => some (name, rest)
  | _ => none

/-- The members of a set up to its closing bracket, and what follows it. The first
member may be a bracket. -/
def takeMembers : Nat → Bool → List Glyph → Option (List SetMember × List Glyph)
  | 0, _, _ => none
  | _ + 1, _, [] => none
  | steps + 1, isFirst, (character, quoted) :: rest =>
      if character = ']' && !quoted && !isFirst then some ([], rest)
      else
        let after (member : SetMember) (rest : List Glyph) :
            Option (List SetMember × List Glyph) :=
          (takeMembers steps false rest).map fun (members, others) => (member :: members, others)
        let single : Option (List SetMember × List Glyph) :=
          match rest with
          | ('-', false) :: (high, highQuoted) :: others =>
              if high = ']' && !highQuoted then after (.range character character) rest
              else after (.range character high) others
          | _ => after (.range character character) rest
        match character, rest with
        | '[', (':', _) :: inner =>
            match takeClass inner with
            | some (name, others) => after (.named name) others
            | none => single
        | _, _ => single

/-- The set at the start of a pattern after its opening bracket: whether it is
turned around, its members, and what follows. -/
def takeSet (pattern : List Glyph) : Option (Bool × List SetMember × List Glyph) :=
  let (turned, inner) :=
    match pattern with
    | ('!', false) :: rest | ('^', false) :: rest => (true, rest)
    | _ => (false, pattern)
  (takeMembers (inner.length + 1) true inner).map fun (members, rest) => (turned, members, rest)

/-! ### Matching -/

/-- Does the pattern match all characters? The first argument bounds the number
of steps. -/
def matchesUpTo : Nat → List Glyph → List Char → Bool
  | 0, _, _ => false
  | _ + 1, [], characters => characters.isEmpty
  | steps + 1, ('*', false) :: pattern, characters =>
      matchesUpTo steps pattern characters ||
        match characters with
        | [] => false
        | _ :: rest => matchesUpTo steps (('*', false) :: pattern) rest
  | steps + 1, glyph :: pattern, characters =>
      match characters with
      | [] => false
      | character :: rest =>
          if glyph == ('?', false) then matchesUpTo steps pattern rest
          else if glyph == ('[', false) then
            match takeSet pattern with
            | some (turned, members, pattern) =>
                (members.any (·.holds character) != turned) && matchesUpTo steps pattern rest
            | none => character == '[' && matchesUpTo steps pattern rest
          else character == glyph.1 && matchesUpTo steps pattern rest

/-- Does the pattern match all characters? -/
def matchesPattern (pattern : List Glyph) (characters : List Char) : Bool :=
  matchesUpTo (pattern.length + characters.length + 1) pattern characters

/-- Does the pattern hold a character with a special meaning? -/
def isSpecialPattern : List Glyph → Bool
  | [] => false
  | (character, isQuoted) :: rest =>
      (!isQuoted && (['*', '?'].contains character || (character == '[' && rest.contains (']', false))))
        || isSpecialPattern rest

/-- The pattern that a plain text is, where a backslash quotes what follows. -/
def patternOfRow : List Char → List Glyph
  | '\\' :: character :: rest => (character, true) :: patternOfRow rest
  | character :: rest => (character, false) :: patternOfRow rest
  | [] => []

/-- The characters without the shortest or longest start that passes a test. -/
def removeStartBy (longest : Bool) (passes : List Char → Bool) (characters : List Char) :
    List Char :=
  let lengths := List.range (characters.length + 1)
  let lengths := if longest then lengths.reverse else lengths
  match lengths.find? fun length => passes (characters.take length) with
  | some length => characters.drop length
  | none => characters

/-- The characters without the shortest or longest end that passes a test. -/
def removeEndBy (longest : Bool) (passes : List Char → Bool) (characters : List Char) : List Char :=
  let lengths := List.range (characters.length + 1)
  let lengths := if longest then lengths else lengths.reverse
  match lengths.find? fun length => passes (characters.drop length) with
  | some length => characters.take length
  | none => characters

/-- The characters without the shortest or longest match of a pattern at their
start. -/
def removeStart (longest : Bool) (pattern : List Glyph) (characters : List Char) : List Char :=
  removeStartBy longest (matchesPattern pattern) characters

/-- The characters without the shortest or longest match of a pattern at their
end. -/
def removeEnd (longest : Bool) (pattern : List Glyph) (characters : List Char) : List Char :=
  removeEndBy longest (matchesPattern pattern) characters

end TestAmplification.Shell

/-!
## Patterns with choices

In such a pattern a mark in front of parentheses says how often one of the patterns
between them may stand there: `@` once, `?` at most once, `+` at least once, `*` any
number of times; `!` stands for a text that none of them matches.

A pattern is tried from all the places at once that the part before it can end at.
-/

namespace TestAmplification.Shell

/-- A part of a pattern. -/
inductive PatternPart where
  /-- A character that stands for itself. -/
  | character (character : Char)
  /-- Any character. -/
  | single
  /-- Any characters. -/
  | many
  /-- One character of a set, or one outside of it. -/
  | set (isTurned : Bool) (members : List SetMember)
  /-- A choice between patterns after a mark. -/
  | choice (mark : Char) (patterns : List (List PatternPart))
deriving Inhabited

namespace PatternPart

/-! ### Reading -/

/-- Cuts the inside of parentheses into its alternatives, up to the closing one, with so many
open ones inside; the present alternative comes last first. -/
def takeAlternatives : Nat → List Glyph → List Glyph → Option (List (List Glyph) × List Glyph)
  | _, _, [] => none
  | depth, before, glyph :: rest =>
      let after (depth : Nat) : Option (List (List Glyph) × List Glyph) :=
        takeAlternatives depth (glyph :: before) rest
      if glyph = ('(', false) then after (depth + 1)
      else if glyph = (')', false) then
        if depth = 0 then some ([before.reverse], rest) else after (depth - 1)
      else if glyph = ('|', false) && depth = 0 then
        (takeAlternatives 0 [] rest).map fun (others, rest) => (before.reverse :: others, rest)
      else after depth

/-- The parts of a pattern, in at most so many steps. -/
def ofGlyphsUpTo : Nat → List Glyph → List PatternPart
  | 0, _ | _ + 1, [] => []
  | steps + 1, (mark, false) :: ('(', false) :: rest =>
      match if ['?', '*', '+', '@', '!'].contains mark then takeAlternatives 0 [] rest else none with
      | some (alternatives, rest) =>
          choice mark (alternatives.map (ofGlyphsUpTo steps)) :: ofGlyphsUpTo steps rest
      | none =>
          (if mark = '*' then many else if mark = '?' then single else character mark)
            :: ofGlyphsUpTo steps (('(', false) :: rest)
  | steps + 1, glyph :: rest =>
      if glyph = ('*', false) then many :: ofGlyphsUpTo steps rest
      else if glyph = ('?', false) then single :: ofGlyphsUpTo steps rest
      else if glyph = ('[', false) then
        match takeSet rest with
        | some (isTurned, members, rest) => set isTurned members :: ofGlyphsUpTo steps rest
        | none => character '[' :: ofGlyphsUpTo steps rest
      else character glyph.1 :: ofGlyphsUpTo steps rest

/-- The parts of a pattern. -/
def ofGlyphs (pattern : List Glyph) : List PatternPart :=
  ofGlyphsUpTo (pattern.length + 1) pattern

/-! ### Matching -/

/-- The places behind characters that a step leads to, again and again from the given ones on,
at most so many times. -/
def closure (step : List Nat → List Nat) : Nat → List Nat → List Nat
  | 0, places => places
  | rounds + 1, places =>
      let more := (step places).filter fun place => !places.contains place
      if more.isEmpty then places else closure step rounds (places ++ more.eraseDups)

/-- The places where a match of the parts may end that starts at one of some places, in at most
so many steps. -/
def endsUpTo (characters : Array Char) : Nat → List PatternPart → List Nat → List Nat
  | 0, _, _ => []
  | _ + 1, [], places => places
  | steps + 1, part :: rest, places =>
      let after (passes : Char → Bool) : List Nat :=
        (places.filter fun place => (characters[place]?.map passes).getD false).map (· + 1)
      let placesFrom (place : Nat) : List Nat :=
        (List.range (characters.size + 1 - place)).map (· + place)
      let chosen (patterns : List (List PatternPart)) (places : List Nat) : List Nat :=
        (patterns.flatMap fun pattern => endsUpTo characters steps pattern places).eraseDups
      let places :=
        match part with
        | character wanted => after (· == wanted)
        | single => after fun _ => true
        | many => (places.foldl min (characters.size + 1) |> placesFrom)
        | set isTurned members => after fun found => members.any (·.holds found) != isTurned
        | choice mark patterns =>
            if mark = '@' then chosen patterns places
            else if mark = '?' then (places ++ chosen patterns places).eraseDups
            else if mark = '*' then closure (chosen patterns) (characters.size + 1) places
            else if mark = '+' then
              closure (chosen patterns) (characters.size + 1) (chosen patterns places)
            else
              (places.flatMap fun place =>
                let refused := chosen patterns [place]
                (placesFrom place).filter fun ending => !refused.contains ending).eraseDups
      if places.isEmpty then [] else endsUpTo characters steps rest places

end PatternPart

/-- Does the pattern hold a choice? -/
def hasChoice : List Glyph → Bool
  | (mark, false) :: ('(', false) :: rest =>
      ['?', '*', '+', '@', '!'].contains mark || hasChoice (('(', false) :: rest)
  | _ :: rest => hasChoice rest
  | [] => false

/-- Does the pattern, which may hold choices, match all characters? -/
def matchesChoices (pattern : List Glyph) (characters : List Char) : Bool :=
  let parts := PatternPart.ofGlyphs pattern
  (PatternPart.endsUpTo characters.toArray (pattern.length + 2) parts [0]).contains characters.length

/-- How patterns are read: with choices or without, and whether capital and small letters are
the same. -/
structure MatchStyle where
  /-- Are there choices? -/
  hasChoices : Bool := false
  /-- Are capital and small letters the same? -/
  ignoresCase : Bool := false
deriving Inhabited

/-- A pattern and characters as they are compared in a style. -/
def MatchStyle.prepared (style : MatchStyle) (pattern : List Glyph) (characters : List Char) :
    List Glyph × List Char :=
  if style.ignoresCase then
    (pattern.map fun glyph => (glyph.1.toLower, glyph.2), characters.map Char.toLower)
  else (pattern, characters)

/-- The parts of a pattern in a style. -/
def MatchStyle.parts (style : MatchStyle) (pattern : List Glyph) : List PatternPart :=
  PatternPart.ofGlyphs (if style.hasChoices then pattern
    else pattern.map fun glyph => if glyph.1 = '(' then ('(', true) else glyph)

/-- Does the pattern match all characters in the given style? -/
def MatchStyle.accepts (style : MatchStyle) (pattern : List Glyph) (characters : List Char) : Bool :=
  let (pattern, characters) := style.prepared pattern characters
  if style.hasChoices && hasChoice pattern then matchesChoices pattern characters
  else matchesPattern pattern characters

example : matchesChoices ("!(b|c)+(d)".toList.map (·, false)) "abdd".toList = true := by
  decide +kernel

end TestAmplification.Shell
