import TestAmplification.Shell.Row
import TestAmplification.Shell.Script.Pattern

/-!
# Regular expressions

The expressions of line tools. A search finds the first place where the expression
matches, and there the longest match.

How far a match can reach is worked out for all places at once: a set of places goes
in, and the set of places that the expression can lead to comes out. What the groups
of an expression matched is looked for afterwards, when the end is known; there a
repetition takes as much as it can. An expression that refers back to a group can
only be matched in that second way.
-/

set_option autoImplicit false

namespace TestAmplification.Shell

/-- A regular expression. -/
inductive Regex where
  /-- Nothing at all. -/
  | empty
  /-- One given character. -/
  | single (character : Char)
  /-- Any character. -/
  | any
  /-- A character in a set, or outside of it. -/
  | set (turned : Bool) (members : List SetMember)
  /-- The start of the line. -/
  | start
  /-- The end of the line. -/
  | finish
  /-- The edge of a word, or a place that is none. -/
  | edge (isEdge : Bool)
  /-- The start of a word, or its end. -/
  | wordSide (isStart : Bool)
  /-- One expression after the other. -/
  | seq (first second : Regex)
  /-- Either of two expressions. -/
  | either (first second : Regex)
  /-- An expression, repeated within bounds. -/
  | repeated (least : Nat) (most : Option Nat) (inner : Regex)
  /-- A group with a number. -/
  | group (number : Nat) (inner : Regex)
  /-- What a group matched. -/
  | again (number : Nat)
deriving DecidableEq, Inhabited

/-- Why a text is no expression. -/
inductive RegexFault where
  /-- A bracket has no end. -/
  | openBracket
  /-- A group has no end. -/
  | openGroup
  /-- A group has no start. -/
  | closedGroup
  /-- The bounds of a repetition have no end. -/
  | openBounds
  /-- The bounds of a repetition make no sense. -/
  | badBounds
  /-- There is nothing to repeat. -/
  | nothingBefore
  /-- The end of a range comes before its start. -/
  | badRange
  /-- There is no class of that name. -/
  | badClass
  /-- There is no such group. -/
  | badReference
  /-- Nothing follows a backslash. -/
  | lastBackslash
  /-- The bounds of a repetition are too great. -/
  | tooBig
  /-- The name of a class stands alone in its brackets. -/
  | bareClass
deriving DecidableEq, Inhabited

/-- The text of a fault. -/
def RegexFault.message : RegexFault → String
  | openBracket => "Unmatched [, [^, [:, [., or [="
  | openGroup => "Unmatched ( or \\("
  | closedGroup => "Unmatched ) or \\)"
  | openBounds => "Unmatched \\\x7b"
  | badBounds => "Invalid content of \\\x7b\\\x7d"
  | nothingBefore => "Invalid preceding regular expression"
  | badRange => "Invalid range end"
  | badClass => "Invalid character class name"
  | badReference => "Invalid back reference"
  | lastBackslash => "Trailing backslash"
  | tooBig => "Regular expression too big"
  | bareClass => "character class syntax is [[:space:]], not [:space:]"

/-- How expressions are written. -/
structure RegexStyle where
  /-- Are operators plain characters, which a backslash turns into themselves? -/
  isExtended : Bool
  /-- Do operators stand for themselves, or for nothing, where they make no sense? -/
  isLenient : Bool := true
  /-- Is the name of a class refused if it stands alone in its brackets? -/
  refusesBareClass : Bool := false
deriving DecidableEq, Inhabited

/-- What an expression is matched against. -/
structure Subject where
  /-- The characters. -/
  characters : Array Char
  /-- Does case not matter? -/
  foldsCase : Bool := false
  /-- Does every line feed end a line? -/
  hasLines : Bool := false
deriving Inhabited

namespace Subject

/-- The number of characters. -/
def size (subject : Subject) : Nat :=
  subject.characters.size

/-- Are two characters the same here? -/
def same (subject : Subject) (first second : Char) : Bool :=
  if subject.foldsCase then first.toLower == second.toLower else first == second

/-- Is there a character of a word at the place? -/
def isWordAt (subject : Subject) (place : Nat) : Bool :=
  match subject.characters[place]? with
  | some character => character.isAlphanum || character == '_'
  | none => false

/-- Is there a character of a word before the place? -/
def isWordBefore (subject : Subject) (place : Nat) : Bool :=
  place > 0 && subject.isWordAt (place - 1)

/-- Does a line start at the place? -/
def isStart (subject : Subject) (place : Nat) : Bool :=
  place == 0 || (subject.hasLines && subject.characters[place - 1]? == some '\n')

/-- Does a line end at the place? -/
def isFinish (subject : Subject) (place : Nat) : Bool :=
  place ≥ subject.size || (subject.hasLines && subject.characters[place]? == some '\n')

end Subject

namespace Regex

/-! ## Single places -/

/-- Does an expression for one character match the one at a place? -/
def matchesAt (subject : Subject) (place : Nat) : Regex → Bool
  | single character =>
      (subject.characters[place]?.map (subject.same character)).getD false
  | any => decide (place < subject.size)
  | set turned members =>
      match subject.characters[place]? with
      | none => false
      | some character =>
          let held :=
            if subject.foldsCase then
              members.any fun member =>
                member.holds character.toLower || member.holds character.toUpper
            else members.any (·.holds character)
          held != turned
  | _ => false

/-- Does an expression for a place hold there? -/
def holdsAt (subject : Subject) (place : Nat) : Regex → Bool
  | empty => true
  | start => subject.isStart place
  | finish => subject.isFinish place
  | edge isEdge => (subject.isWordBefore place != subject.isWordAt place) == isEdge
  | wordSide isStart =>
      subject.isWordBefore place != isStart && subject.isWordAt place == isStart
  | _ => false

/-- Is the expression one for a single character? -/
def isSingle : Regex → Bool
  | single _ | any | set .. => true
  | _ => false

/-- Is the expression one for a place? -/
def isPlace : Regex → Bool
  | start | finish | edge _ | wordSide _ => true
  | _ => false

/-! ## Many places at once -/

/-- Places in order, each once. -/
abbrev Places := List Nat

/-- The places that are in either of two lists; those so far come last first. -/
def unitePlacesWith : Nat → Places → Places → Places → Places
  | 0, before, _, _ => before.reverse
  | _ + 1, before, [], second => before.reverse ++ second
  | _ + 1, before, first, [] => before.reverse ++ first
  | steps + 1, before, low :: first, high :: second =>
      if low < high then unitePlacesWith steps (low :: before) first (high :: second)
      else if high < low then unitePlacesWith steps (high :: before) (low :: first) second
      else unitePlacesWith steps (low :: before) first second

/-- The places that are in either of two lists. -/
def unitePlaces (first second : Places) : Places :=
  unitePlacesWith (first.length + second.length + 1) [] first second

/-- The places after one more character that matches. -/
def stepPlaces (subject : Subject) (regex : Regex) (places : Places) : Places :=
  places.filterMap fun place => if regex.matchesAt subject place then some (place + 1) else none

/-- The first place from one on where no character matches, at most so many places
further. -/
def runEnd (subject : Subject) (regex : Regex) : Nat → Nat → Nat
  | 0, place => place
  | steps + 1, place =>
      if regex.matchesAt subject place then runEnd subject regex steps (place + 1) else place

/-- Places from which characters that match were passed over, as many as one likes. The
next place that is not yet known to be reached is given. -/
def sweepPlaces (subject : Subject) (regex : Regex) (places : Places) : Places :=
  let (reached, _) := places.foldl (fun (reached, next) place =>
    if place < next then (reached, next)
    else
      let last := runEnd subject regex (subject.size - place) place
      ((List.range' place (last + 1 - place)).reverse ++ reached, last + 1)) (([], 0) : Places × Nat)
  reached.reverse

/-- The places reached by steps, at most so many, together with the start. -/
def closePlaces (step : Places → Places) : Nat → Places → Places
  | 0, places => places
  | count + 1, places =>
      let more := unitePlaces places (step places)
      if more.length == places.length then places else closePlaces step count more

/-- The places reached by exactly so many steps. -/
def repeatPlaces (step : Places → Places) : Nat → Places → Places
  | 0, places => places
  | count + 1, places => repeatPlaces step count (step places)

/-- The places that the expression can lead to from places. -/
def reach (subject : Subject) : Regex → Places → Places
  | seq first second, places => reach subject second (reach subject first places)
  | either first second, places =>
      unitePlaces (reach subject first places) (reach subject second places)
  | group _ inner, places => reach subject inner places
  | repeated least most inner, places =>
      let step := reach subject inner
      let places := repeatPlaces step least places
      match most with
      | none =>
          if inner.isSingle then sweepPlaces subject inner places
          else closePlaces step (subject.size + 1) places
      | some most => closePlaces step (most - least) places
  | regex, places =>
      if regex.isSingle then stepPlaces subject regex places
      else places.filter fun place => regex.holdsAt subject place

/-- May a match start at a place, as far as the first character tells? -/
def mayStart (subject : Subject) (place : Nat) : Regex → Bool
  | seq first _ => mayStart subject place first
  | either first second => mayStart subject place first || mayStart subject place second
  | group _ inner => mayStart subject place inner
  | repeated least _ inner => least == 0 || mayStart subject place inner
  | start => subject.isStart place
  | regex => !regex.isSingle || regex.matchesAt subject place

/-! ## Groups -/

/-- What the groups matched: for each number where it starts and ends. -/
abbrev Groups := List (Nat × Nat × Nat)

/-- Matches an expression from a place and goes on with what follows it. The first
argument bounds the number of steps. -/
def matchThen (subject : Subject) :
    Nat → Regex → Nat → Groups → (Nat → Groups → Option (Nat × Groups)) → Option (Nat × Groups)
  | 0, _, _, _, _ => none
  | steps + 1, .seq first second, place, groups, next =>
      matchThen subject steps first place groups fun place groups =>
        matchThen subject steps second place groups next
  | steps + 1, .either first second, place, groups, next =>
      matchThen subject steps first place groups next
        <|> matchThen subject steps second place groups next
  | steps + 1, .repeated least most inner, place, groups, next =>
      let stop := fun (_ : Unit) => if least = 0 then next place groups else none
      if most = some 0 then stop ()
      else
        (matchThen subject steps inner place groups fun later groups =>
          if later = place && least = 0 then none
          else
            matchThen subject steps (.repeated (least - 1) (most.map (· - 1)) inner) later groups
              next)
        <|> stop ()
  | steps + 1, .group number inner, place, groups, next =>
      matchThen subject steps inner place groups fun later groups =>
        next later ((number, place, later) :: groups.filter (·.1 != number))
  | _ + 1, .again number, place, groups, next =>
      match groups.lookup number with
      | none => none
      | some (low, high) =>
          let length := high - low
          let agrees := (List.range length).all fun offset =>
            match subject.characters[low + offset]?, subject.characters[place + offset]? with
            | some first, some second => subject.same first second
            | _, _ => false
          if agrees then next (place + length) groups else none
  | _ + 1, regex, place, groups, next =>
      if regex.isSingle then
        if regex.matchesAt subject place then next (place + 1) groups else none
      else if regex.holdsAt subject place then next place groups else none

/-- The size of an expression. -/
def size : Regex → Nat
  | .seq first second => size first + size second + 1
  | .either first second => size first + size second + 1
  | .repeated least _ inner => size inner + least + 1
  | .group _ inner => size inner + 1
  | _ => 1

/-- Does the expression refer back to a group? -/
def refersBack : Regex → Bool
  | .seq first second | .either first second => refersBack first || refersBack second
  | .repeated _ _ inner | .group _ inner => refersBack inner
  | .again _ => true
  | _ => false

/-- The number of groups. -/
def groupCount : Regex → Nat
  | .seq first second | .either first second => groupCount first + groupCount second
  | .repeated _ _ inner => groupCount inner
  | .group _ inner => groupCount inner + 1
  | _ => 0

/-! ## Searching -/

/-- A match: where it starts and ends, and what the groups matched. -/
structure Found where
  /-- Where it starts. -/
  start : Nat
  /-- Where it ends. -/
  finish : Nat
  /-- What the groups matched. -/
  groups : Groups := []
deriving DecidableEq, Inhabited

/-- The steps that are enough for a match. -/
def stepsFor (regex : Regex) (subject : Subject) : Nat :=
  (regex.size + 1) * (subject.size + 2) + 1

/-- The longest match at a place that ends where it may. -/
def matchEnding (regex : Regex) (subject : Subject) (mayEnd : Nat → Bool) (place : Nat) :
    Option Found :=
  let steps := regex.stepsFor subject
  if !regex.mayStart subject place then none
  else if regex.refersBack then
    (matchThen subject steps regex place [] fun last groups =>
      if mayEnd last then some (last, groups) else none).map
      fun (last, groups) => ⟨place, last, groups⟩
  else
    ((regex.reach subject [place]).filter mayEnd).getLast?.map fun last =>
      let groups :=
        if regex.groupCount = 0 then []
        else
          ((matchThen subject steps regex place [] fun later groups =>
            if later = last then some (later, groups) else none).map Prod.snd).getD []
      ⟨place, last, groups⟩

/-- The first match from a place on that starts and ends where it may, at most so many
places further. -/
def searchWithin (regex : Regex) (subject : Subject) (mayStartAt mayEnd : Nat → Bool) :
    Nat → Nat → Option Found
  | 0, _ => none
  | steps + 1, place =>
      if place > subject.size then none
      else
        match if mayStartAt place then regex.matchEnding subject mayEnd place else none with
        | some found => some found
        | none => searchWithin regex subject mayStartAt mayEnd steps (place + 1)

/-- The first match from a place on. -/
def search (regex : Regex) (subject : Subject) (place : Nat) : Option Found :=
  regex.searchWithin subject (fun _ => true) (fun _ => true) (subject.size + 1 - place) place

/-- Does the expression match anywhere? -/
def occursIn (regex : Regex) (subject : Subject) : Bool :=
  if regex.refersBack then (regex.search subject 0).isSome
  else
    !(regex.reach subject ((List.range (subject.size + 1)).filter fun place =>
      regex.mayStart subject place)).isEmpty

/-- All matches from a place on, each behind the one before it, at most so many. A
match of nothing right behind another match does not count. -/
def matchesUpTo (regex : Regex) (subject : Subject) : Nat → Nat → Option Nat → List Found
  | 0, _, _ => []
  | steps + 1, place, last =>
      match regex.search subject place with
      | none => []
      | some found =>
          if found.start = found.finish then
            let others := matchesUpTo regex subject steps (found.finish + 1) last
            if last = some found.start then others else found :: others
          else found :: matchesUpTo regex subject steps found.finish (some found.finish)

/-- All matches. -/
def allMatches (regex : Regex) (subject : Subject) : List Found :=
  regex.matchesUpTo subject (subject.size + 2) 0 none

/-! ## Reading -/

/-- Reads the members of a set up to its closing bracket, in at most so many
steps. -/
def takeListed : Nat → Bool → List Char → Except RegexFault (List SetMember × List Char)
  | 0, _, _ => .error .openBracket
  | _ + 1, _, [] => .error .openBracket
  | steps + 1, isFirst, character :: rest =>
      if character = ']' && !isFirst then .ok ([], rest)
      else
        let after (member : SetMember) (rest : List Char) :
            Except RegexFault (List SetMember × List Char) := do
          let (members, others) ← takeListed steps false rest
          return (member :: members, others)
        match character, rest with
        | '[', ':' :: inner =>
            let name := inner.takeWhile (· != ':')
            match inner.drop name.length with
            | ':' :: ']' :: others =>
                if classNames.contains (String.ofList name) then after (.named name) others
                else .error .badClass
            | _ => .error .openBracket
        | '[', '=' :: member :: '=' :: ']' :: others
        | '[', '.' :: member :: '.' :: ']' :: others => after (.range member member) others
        | low, '-' :: high :: others =>
            if high = ']' then after (.range low low) rest
            else if high < low then .error .badRange
            else after (.range low high) others
        | member, rest => after (.range member member) rest

/-- Is what stands in brackets the name of a class, with its colons? -/
def isBareClass (inner : List Char) : Bool :=
  inner.head? == some ':' && inner.getLast? == some ':' && inner.any (· != ':')
    && !(inner.any fun character => character == '-' || character == '[')

/-- Reads a set after its opening bracket. -/
def takeBracket (style : RegexStyle) (characters : List Char) :
    Except RegexFault (Regex × List Char) := do
  let (turned, inner) :=
    match characters with
    | '^' :: rest => (true, rest)
    | _ => (false, characters)
  let (members, rest) ← takeListed (inner.length + 1) true inner
  if style.refusesBareClass && isBareClass (inner.take (inner.length - rest.length - 1)) then
    throw .bareClass
  return (.set turned members, rest)

/-- The greatest bound of a repetition. -/
def mostRepetitions : Nat := 32767

/-- The numbers that bounds of a repetition are written with. -/
def bounds? (inner : List Char) : Option (Nat × Option Nat) := do
  match cutAtEach ',' inner with
  | [least] =>
      let least ← Text.digits? least
      return (least, some least)
  | [least, most] =>
      let least ← if least.isEmpty then some 0 else Text.digits? least
      if most.isEmpty then return (least, none)
      else return (least, some (← Text.digits? most))
  | _ => none

/-- The characters in front of the mark that ends bounds, and those behind it. -/
def cutBounds (isExtended : Bool) : List Char → Option (List Char × List Char)
  | [] => none
  | '\\' :: '\x7d' :: rest =>
      if isExtended then some (['\\'], rest) else some ([], rest)
  | character :: rest =>
      if isExtended && character = '\x7d' then some ([], rest)
      else (cutBounds isExtended rest).map fun (inner, others) => (character :: inner, others)

/-- The bounds of a repetition behind their opening mark, and what follows them.
Without them, the mark stands for itself. -/
def takeBounds (style : RegexStyle) (characters : List Char) :
    Except RegexFault (Option (Nat × Option Nat × List Char)) :=
  let mayBePlain := style.isExtended && style.isLenient
  match cutBounds style.isExtended characters with
  | none => if mayBePlain then .ok none else .error .openBounds
  | some (inner, rest) =>
      match bounds? inner with
      | none =>
          if mayBePlain && !inner.isEmpty && inner.count ',' < 2 then .ok none
          else .error .badBounds
      | some (least, most) =>
          if most.any (· < least) then .error .badBounds
          else if most.getD least > mostRepetitions then .error .tooBig
          else .ok (some (least, most, rest))

/-- A repetition mark at the start of the characters, and what follows it. -/
def takeMark (style : RegexStyle) (characters : List Char) :
    Except RegexFault (Option (Nat × Option Nat × List Char)) :=
  let only (isMeant : Bool) (least : Nat) (most : Option Nat) (rest : List Char) :=
    .ok (if isMeant then some (least, most, rest) else none)
  match characters with
  | '*' :: rest => only true 0 none rest
  | '+' :: rest => only style.isExtended 1 none rest
  | '?' :: rest => only style.isExtended 0 (some 1) rest
  | '\x7b' :: rest => if style.isExtended then takeBounds style rest else .ok none
  | '\\' :: '+' :: rest => only (!style.isExtended) 1 none rest
  | '\\' :: '?' :: rest => only (!style.isExtended) 0 (some 1) rest
  | '\\' :: '\x7b' :: rest => if style.isExtended then .ok none else takeBounds style rest
  | _ => .ok none

/-- Do the characters start with a mark that a basic expression cannot have behind
another one? -/
def startsWithSecondMark : List Char → Bool
  | '*' :: _ | '\\' :: '\x7b' :: _ => true
  | _ => false

/-- An expression with the repetition marks that follow it, at most so many. -/
def withMarks (style : RegexStyle) :
    Nat → Regex → List Char → Except RegexFault (Regex × List Char)
  | 0, regex, characters => .ok (regex, characters)
  | steps + 1, regex, characters => do
      match ← takeMark style characters with
      | some (least, most, rest) =>
          if !style.isExtended && !style.isLenient && startsWithSecondMark rest then
            throw .nothingBefore
          withMarks style steps (.repeated least most regex) rest
      | none => return (regex, characters)

/-- Are the characters at an operator that ends a branch? -/
def endsBranch (extended : Bool) : List Char → Bool
  | [] => true
  | '\\' :: mark :: _ => !extended && (mark == '|' || mark == ')')
  | mark :: _ => extended && (mark == '|' || mark == ')')

/-- What a letter behind a backslash stands for, if it stands for more than
itself. -/
def escapedAtom? (letter : Char) : Option Regex :=
  let word : List SetMember := [.named "alnum".toList, .range '_' '_']
  match letter with
  | 'n' => some (.single '\n')
  | 't' => some (.single '\t')
  | 'f' => some (.single '\x0c')
  | 'v' => some (.single '\x0b')
  | 'r' => some (.single '\r')
  | 's' => some (.set false [.named "space".toList])
  | 'S' => some (.set true [.named "space".toList])
  | 'w' => some (.set false word)
  | 'W' => some (.set true word)
  | 'b' => some (.edge true)
  | 'B' => some (.edge false)
  | '<' => some (.wordSide true)
  | '>' => some (.wordSide false)
  | '\x60' => some .start
  | '\'' => some .finish
  | _ => none

/-- What stands in front of an expression in its branch. -/
inductive Neighbour where
  /-- Nothing. -/
  | nothing
  /-- An expression for a place, which is not repeated. -/
  | place
  /-- Any other expression. -/
  | expression
deriving DecidableEq, Inhabited

mutual

/-- Reads branches between bars. The number is that of the next group, and the
answer gives the one after. -/
def takeBranches (style : RegexStyle) :
    Nat → Nat → List Char → Except RegexFault (Regex × Nat × List Char)
  | 0, _, _ => .error .openGroup
  | steps + 1, number, characters => do
      let (first, number, rest) ← takeBranch style steps number .nothing characters
      match style.isExtended, rest with
      | true, '|' :: rest =>
          let (second, number, rest) ← takeBranches style steps number rest
          return (.either first second, number, rest)
      | false, '\\' :: '|' :: rest =>
          let (second, number, rest) ← takeBranches style steps number rest
          return (.either first second, number, rest)
      | _, rest => return (first, number, rest)

/-- Reads a branch. -/
def takeBranch (style : RegexStyle) :
    Nat → Nat → Neighbour → List Char → Except RegexFault (Regex × Nat × List Char)
  | 0, _, _, _ => .error .openGroup
  | steps + 1, number, before, characters =>
      if endsBranch style.isExtended characters then .ok (.empty, number, characters)
      else do
        let (atom, number, rest) ← takeAtom style steps number before characters
        let isAlone :=
          atom.isPlace && if style.isLenient then !style.isExtended && atom == .start else true
        let (marked, rest) ←
          if isAlone then .ok (atom, rest) else withMarks style rest.length atom rest
        let (others, number, rest) ← takeBranch style steps number (if isAlone then .place else .expression) rest
        return (.seq marked others, number, rest)

/-- Reads the smallest expression at the start. -/
def takeAtom (style : RegexStyle) :
    Nat → Nat → Neighbour → List Char → Except RegexFault (Regex × Nat × List Char)
  | 0, _, _, _ => .error .openGroup
  | _ + 1, _, _, [] => .error .nothingBefore
  | steps + 1, number, before, character :: rest =>
      let isExtended := style.isExtended
      if character = '^' && (isExtended || before = .nothing) then .ok (.start, number, rest)
      else if character = '$' && (isExtended || endsBranch isExtended rest) then
        .ok (.finish, number, rest)
      else if character = '.' then .ok (.any, number, rest)
      else if character = '[' then do
        let (bracket, rest) ← takeBracket style rest
        return (bracket, number, rest)
      else if isExtended && character = '(' then do
        let (inner, next, rest) ← takeBranches style steps (number + 1) rest
        match rest with
        | ')' :: rest => .ok (.group number inner, next, rest)
        | _ => .error .openGroup
      else if isExtended && before ≠ .expression && ['*', '+', '?', '\x7b'].contains character then
        if !style.isLenient then .error .nothingBefore
        else do
          match ← takeMark style (character :: rest) with
          | some _ => return (.empty, number, character :: rest)
          | none => return (.single character, number, rest)
      else if character = '\\' then
        match rest with
        | [] => .error .lastBackslash
        | escaped :: rest =>
            if !isExtended && escaped = '(' then do
              let (inner, next, rest) ← takeBranches style steps (number + 1) rest
              match rest with
              | '\\' :: ')' :: rest => .ok (.group number inner, next, rest)
              | _ => .error .openGroup
            else if !isExtended && escaped = '\x7b' && before ≠ .expression && !style.isLenient then
              .error .nothingBefore
            else if escaped.isDigit && escaped ≠ '0' then
              let group := escaped.toNat - '0'.toNat
              if group < number then .ok (.again group, number, rest) else .error .badReference
            else .ok ((escapedAtom? escaped).getD (.single escaped), number, rest)
      else .ok (.single character, number, rest)

end

/-- Reads an expression, and further ones behind brackets that close nothing, at most so
many. -/
def parseFrom (style : RegexStyle) : Nat → Nat → List Char → Except RegexFault Regex
  | 0, _, _ => .error .closedGroup
  | steps + 1, number, characters => do
      let (regex, number, rest) ← takeBranches style (4 * characters.length + 4) number characters
      match rest with
      | [] => return regex
      | ')' :: others =>
          if style.isExtended && style.isLenient then
            let others ← parseFrom style steps number others
            return .seq regex (.seq (.single ')') others)
          else throw .closedGroup
      | _ => throw .closedGroup

/-- Reads an expression. -/
def parse (style : RegexStyle) (characters : List Char) : Except RegexFault Regex :=
  parseFrom style (characters.length + 1) 1 characters

end Regex

end TestAmplification.Shell
