import TestAmplification.Shell.Utility.Awk.State

/-!
# Formats and patterns of `awk`

A format holds directives, each of which takes a value. A regular expression is written with
the escapes of texts, and a brace stands for itself unless it bounds a repetition.
-/

set_option autoImplicit false

namespace TestAmplification.Shell.Awk

/-! ## Formats -/

/-- Why a format cannot be used. -/
inductive FormatFault where
  /-- There are not enough values. -/
  | missing
  /-- The directive with a number does not exist. -/
  | improper (number : Nat)
deriving Inhabited

/-- A format under way: what it made so far, the last character first, and the values that are
left. -/
structure Formatted where
  /-- What was made. -/
  made : Row := []
  /-- The values that are left. -/
  values : List Value
  /-- The number of directives so far. -/
  directives : Nat := 0

/-- Takes a value. -/
def Formatted.take (formatted : Formatted) : Except FormatFault (Value × Formatted) :=
  match formatted.values with
  | [] => .error .missing
  | value :: rest => .ok (value, { formatted with values := rest })

/-- A number in a directive: digits, or a value for a star. -/
def takeWidth (row : Row) (formatted : Formatted) :
    Except FormatFault (Option Int × Row × Formatted) :=
  match row with
  | '*' :: rest => do
      let (value, formatted) ← formatted.take
      return (some (wordOf value.toNumber), rest, formatted)
  | row =>
      let digits := row.takeWhile Char.isDigit
      .ok (if digits.isEmpty then none else some (Text.digitsValue digits), row.drop digits.length,
        formatted)

/-- A value in the way of a directive, if that exists. -/
def valueRow? (textOf : Value → Row) (directive : Directive) (value : Value) : Option Row :=
  let letter := directive.letter
  if letter = 's' then
    let row := textOf value
    some (directive.fill ((directive.precision.map row.take).getD row))
  else if letter = 'c' then
    let character :=
      match value with
      | .number number => Char.ofNat ((wordOf number) % 256).toNat
      | value => (textOf value).head?.getD '\x00'
    some (directive.fill [character])
  else if letter = 'd' || letter = 'i' then
    some (wholeRow { directive with letter := 'd' } (wordOf value.toNumber))
  else if ['o', 'u', 'x', 'X'].contains letter then
    some (wholeRow directive (wordOf value.toNumber))
  else if ['e', 'E', 'f', 'F', 'g', 'G', 'a', 'A'].contains letter then
    some (floatingRow doubleExactness directive (floatingOf value.toNumber))
  else none

/-- Uses the directive behind a percent sign. The answer is what follows it. -/
def useDirective (textOf : Value → Row) (row : Row) (formatted : Formatted) :
    Except FormatFault (Row × Formatted) := do
  let flags := row.takeWhile ['-', '+', ' ', '#', '0'].contains
  let (width, rest, formatted) ← takeWidth (row.drop flags.length) formatted
  let (precision, rest, formatted) ←
    match rest with
    | '.' :: rest => do
        let (size, rest, formatted) ← takeWidth rest formatted
        let size := size.getD 0
        pure (if size < 0 then none else some size.toNat, rest, formatted)
    | rest => pure (none, rest, formatted)
  let rest := rest.dropWhile ['h', 'l', 'L', 'q', 'j', 't', 'z'].contains
  let width := width.getD 0
  let number := formatted.directives + 1
  match rest with
  | [] => .error (.improper number)
  | letter :: rest =>
      let directive : Directive := {
        flags := if width < 0 then '-' :: flags else flags, width := width.natAbs, precision, letter }
      let (value, formatted) ← formatted.take
      if (valueRow? textOf directive value).isNone then .error (.improper number)
      let made := (valueRow? textOf directive value).getD []
      return (rest, { formatted with made := made.reverse ++ formatted.made, directives := number })

/-- Uses a format, at most so many characters of it. What was made comes with the fault. -/
def formatUpTo (textOf : Value → Row) : Nat → Row → Formatted → Row × Option FormatFault
  | 0, _, formatted | _ + 1, [], formatted => (formatted.made.reverse, none)
  | steps + 1, '%' :: '%' :: rest, formatted =>
      formatUpTo textOf steps rest { formatted with made := '%' :: formatted.made }
  | steps + 1, '%' :: rest, formatted =>
      match useDirective textOf rest formatted with
      | .ok (rest, formatted) => formatUpTo textOf steps rest formatted
      | .error fault => (formatted.made.reverse, some fault)
  | steps + 1, character :: rest, formatted =>
      formatUpTo textOf steps rest { formatted with made := character :: formatted.made }

/-- The format that numbers have unless another one is set. -/
def plainFormat : Row :=
  rowOf "%.6g"

/-- A number in a format. -/
def numberRow (format : Row) (number : Float) : Row :=
  if format = plainFormat then
    floatingRow doubleExactness { flags := [], width := 0, precision := some 6, letter := 'g' }
      (floatingOf number)
  else
    (formatUpTo (fun _ => []) (format.length + 1) format { values := [.number number] }).1

/-- The text of a value, where a format is used for numbers that are not whole. -/
def valueRow (format : Row) (value : Value) : Row :=
  value.toRow (numberRow format)

/-- Values in a format. What was made comes with the fault. -/
def formatRow (conversion format : Row) (values : List Value) : Row × Option FormatFault :=
  formatUpTo (valueRow conversion) (format.length + 1) format { values }

/-! ## Patterns -/

/-- Does a repetition bounded by numbers begin here, behind its brace? -/
def isBound (row : Row) : Bool :=
  let inner := row.takeWhile (· != '\x7d')
  inner.length < row.length && (Regex.bounds? inner).isSome

/-- What a backslash and a character stand for in a pattern. -/
def patternEscape (character : Char) : Row :=
  match letterEscape? character with
  | some escaped => [escaped]
  | none => if character.isAlphanum || character == '_' then [character] else ['\\', character]

/-- The members of a set, cut off at its end, with what follows it. A closing bracket and a hyphen
that were escaped come apart from the others. -/
def takeMembers : Nat → Row → Row × Bool × Bool × Row
  | 0, row => ([], false, false, row)
  | _ + 1, [] => ([], false, false, [])
  | _ + 1, ']' :: rest => ([], false, false, rest)
  | steps + 1, '\\' :: ']' :: rest =>
      let (members, _, hasHyphen, rest) := takeMembers steps rest
      (members, true, hasHyphen, rest)
  | steps + 1, '\\' :: '-' :: rest =>
      let (members, hasBracket, _, rest) := takeMembers steps rest
      (members, hasBracket, true, rest)
  | steps + 1, '\\' :: character :: rest =>
      let octal := ((character :: rest).take 3).takeWhile isOctalDigit
      if !octal.isEmpty then
        let (members, marks) := takeMembers steps ((character :: rest).drop octal.length)
        (Char.ofNat (octalValue octal % 256) :: members, marks)
      else
        let (members, marks) := takeMembers steps rest
        ((letterEscape? character).getD character :: members, marks)
  | steps + 1, '[' :: ':' :: rest =>
      let name := rest.takeWhile Char.isAlpha
      let others := rest.drop name.length
      let (closing, others) :=
        if others.take 2 == [':', ']'] then ([':', ']'], others.drop 2) else ([], others)
      let (members, marks) := takeMembers steps others
      (['[', ':'] ++ name ++ closing ++ members, marks)
  | steps + 1, character :: rest =>
      let (members, marks) := takeMembers steps rest
      (character :: members, marks)

/-- A set behind its bracket, written without escapes, and what follows it. -/
def takeSet (row : Row) : Row × Row :=
  let (turned, row) :=
    match row with
    | '^' :: rest => (['^'], rest)
    | row => ([], row)
  let (isFirst, row) :=
    match row with
    | ']' :: rest => (true, rest)
    | row => (false, row)
  let (members, hasBracket, hasHyphen, rest) := takeMembers (row.length + 1) row
  ('[' :: turned ++ (if isFirst || hasBracket then [']'] else []) ++ members
    ++ (if hasHyphen then ['-'] else []) ++ [']'], rest)

/-- A pattern written without the escapes of texts, in at most so many steps. The number is that of
the groups that are open, and the flag says whether something stands in front that could be
repeated. A closing parenthesis without an opening one stands for itself. -/
def plainPattern : Nat → Nat → Bool → Row → Row
  | 0, _, _, row => row
  | _ + 1, _, _, [] => []
  | _ + 1, _, _, ['\\'] => ['\\', '\\']
  | steps + 1, groups, _, '\\' :: character :: rest =>
      let octal := ((character :: rest).take 3).takeWhile isOctalDigit
      if !octal.isEmpty then
        ['\\', Char.ofNat (octalValue octal % 256)]
          ++ plainPattern steps groups true ((character :: rest).drop octal.length)
      else patternEscape character ++ plainPattern steps groups true rest
  | steps + 1, groups, _, '[' :: rest =>
      if (rest.drop 1).contains ']' then
        let (set, others) := takeSet rest
        set ++ plainPattern steps groups true others
      else '[' :: rest
  | steps + 1, groups, isBehind, '\x7b' :: rest =>
      if isBehind && isBound rest then '\x7b' :: plainPattern steps groups true rest
      else '\\' :: '\x7b' :: plainPattern steps groups true rest
  | steps + 1, groups, _, '(' :: rest => '(' :: plainPattern steps (groups + 1) false rest
  | steps + 1, 0, _, ')' :: rest => '\\' :: ')' :: plainPattern steps 0 true rest
  | steps + 1, groups + 1, _, ')' :: rest => ')' :: plainPattern steps groups true rest
  | steps + 1, groups, _, character :: rest =>
      character :: plainPattern steps groups (!(['|', '^'].contains character)) rest

/-- The expression without groups, which nothing refers to. -/
def withoutGroups : Regex → Regex
  | .seq first second => .seq (withoutGroups first) (withoutGroups second)
  | .either first second => .either (withoutGroups first) (withoutGroups second)
  | .repeated least most inner => .repeated least most (withoutGroups inner)
  | .group _ inner => withoutGroups inner
  | regex => regex

/-- What is wrong with a pattern. -/
def patternFault : RegexFault → String
  | .openBracket => "bad class -- [], [^] or ["
  | .openGroup => "missing ')'"
  | .closedGroup => "missing '('"
  | _ => "missing operand"

/-- The expression of a pattern, or the message about it. -/
def regexOf (pattern : Row) : Except Row Regex :=
  let plain := plainPattern (pattern.length + 1) 0 false pattern
  match Regex.parse { isExtended := true, isLenient := false } plain with
  | .ok regex => .ok (withoutGroups regex)
  | .error fault =>
      .error (rowOf ("regular expression compile failed (" ++ patternFault fault ++ ")\n") ++ pattern)

end TestAmplification.Shell.Awk
