import TestAmplification.Shell.Row
import TestAmplification.Shell.Script.Pattern
import TestAmplification.Shell.Script.Extended.Values
import TestAmplification.Shell.Script.Words
import TestAmplification.Shell.Utility.Escape
import TestAmplification.Shell.Utility.Quoting

/-!
# Parameters in the extended dialect

A parameter refers to one value or to several. A use of a parameter is made of each of the
values: a part of it, its matches of a pattern replaced, its letters changed. Several values
become fields of their own or are joined to one text.

How words inside the braces are worked out is a parameter here (`InnerWords`).
-/

set_option autoImplicit false

/-!
## Fields under way

The words of a command become fields. What is not quoted is split at separators:
blanks among them only end a field, and several count as one, while every other
separator ends a field even if it is empty. A blank next to such a separator
belongs to it.
-/

namespace TestAmplification.Shell

/-- Fields under way: those that are complete, the last one first, and the one
that is being built. -/
structure FieldDraft where
  /-- The complete fields, the last one first. -/
  complete : List (List Glyph) := []
  /-- The field that is being built, last character first, if one is begun. -/
  current : Option (List Glyph) := none
  /-- Was the last field ended by a blank, so that a separator may still belong
  to the same end? -/
  isLoose : Bool := false

namespace FieldDraft

/-- Completes the field that is being built. -/
def close (draft : FieldDraft) : FieldDraft :=
  match draft.current with
  | none => draft
  | some field => { complete := field.reverse :: draft.complete }

/-- Adds characters to the field that is being built, and begins one if there
is none. -/
def add (draft : FieldDraft) (quoted : Bool) (row : Row) : FieldDraft :=
  { draft with
    current := some (row.foldl (fun field character => (character, quoted) :: field)
      (draft.current.getD []))
    isLoose := false }

/-- Adds characters that are split into fields. -/
def addSplit (separators : List Char) (draft : FieldDraft) (row : Row) : FieldDraft :=
  row.foldl (fun draft character =>
    if !separators.contains character then draft.add false [character]
    else if [' ', '\t', '\n'].contains character then
      if draft.current.isSome then { draft.close with isLoose := true } else draft
    else if draft.isLoose then { draft with isLoose := false }
    else (draft.add false []).close) draft

/-- Adds values as fields of their own: the first continues the field that is
being built, and the last one stays open. -/
def addFields (draft : FieldDraft) : List Row → FieldDraft
  | [] => draft
  | [row] => draft.add true row
  | row :: rest => addFields (draft.add true row).close rest

/-- Adds values that are split into fields, each of them apart from the next. -/
def addSplitFields (separators : List Char) (draft : FieldDraft) : List Row → FieldDraft
  | [] => draft
  | [row] => draft.addSplit separators row
  | row :: rest => addSplitFields separators (draft.addSplit separators row).close rest

/-- All fields. -/
def fields (draft : FieldDraft) : List (List Glyph) :=
  draft.close.complete.reverse

/-- All characters in a single field. -/
def glyphs (draft : FieldDraft) : List Glyph :=
  draft.fields.flatten

/-- All characters. -/
def row (draft : FieldDraft) : Row :=
  draft.glyphs.map Prod.fst

end FieldDraft

example : ((({} : FieldDraft).addSplit [',', ' '] "a , b,,c,".toList).fields.map
    (·.map Prod.fst)).map String.ofList = ["a", "b", "", "c"] := by decide +kernel

end TestAmplification.Shell

namespace TestAmplification.Shell

open Session

/-- What a word stands in: whether its unquoted parts are split into fields, and whether
unquoted texts are split as well. -/
structure WordContext where
  /-- Are unquoted values split into fields? -/
  splits : Bool
  /-- Does the word stand inside braces, so that unquoted texts are split like
  values? -/
  isInner : Bool := false

/-- How words inside braces are worked out. -/
structure InnerWords where
  /-- The glyphs of a word as a single field. -/
  glyphs : Word → Session (List Glyph)
  /-- Adds a word to a draft. -/
  add : WordContext → Word → FieldDraft → Session FieldDraft

/-- The text of a word. -/
def InnerWords.row (words : InnerWords) (word : Word) : Session Row := do
  return (← words.glyphs word).map Prod.fst

/-! ## What parameters refer to -/

/-- How many values there are, and how they come together. -/
inductive Togetherness where
  /-- There is one value at most. -/
  | single
  /-- Each value is a field of its own. -/
  | separate
  /-- The values are joined to one text. -/
  | joined
deriving DecidableEq, Inhabited

/-- What a parameter refers to. -/
structure Referent where
  /-- The parameter as it stands in messages. -/
  name : Row
  /-- The values. -/
  values : List Row
  /-- How they come together. -/
  together : Togetherness := .single
  /-- The variable and the place in it, if it is one. -/
  place : Option (String × Option ElementKey) := none
deriving Inhabited

/-- Several values. -/
def severalValues (name : Row) (isJoined : Bool) (values : List Row) : Referent :=
  { name, values, together := if isJoined then .joined else .separate }

/-- The value of a parameter by its name. -/
def referentOfName (name : String) : Session Referent := do
  let shell ← get
  if name = "@" || name = "*" then return severalValues (rowOf name) (name = "*") shell.positional
  else
    return {
      name := rowOf name
      values := (← parameterRow? name).toList
      place := if isName name.toList then some (name, none) else none }

/-- All elements of a list. -/
def referentOfList (name : String) (isJoined : Bool) : Session Referent := do
  let values := ((elementsOf? (← get) name).map Elements.values).getD []
  return severalValues (rowOf name ++ (if isJoined then rowOf "[*]" else rowOf "[@]")) isJoined values

/-- An element of a list by the text of its index. -/
def referentOfElement (name : String) (index : Row) : Session Referent := do
  let shown := rowOf name ++ ['['] ++ index ++ [']']
  let shell ← get
  if isKeyedList shell name then
    return {
      name := shown
      values := ((elementsOf? shell name).bind (·.get? (.key index))).toList
      place := some (name, some (.key index)) }
  else
    let number ← reckon none index
    let elements := (elementsOf? (← get) name).getD (.indexed [])
    let number := if number < 0 then number + elements.nextNumber else number
    if number < 0 then
      warn (rowOf name ++ rowOf ": bad array subscript")
      return { name := shown, values := [] }
    else
      let key := ElementKey.number number.toNat
      return { name := shown, values := (elements.get? key).toList, place := some (name, some key) }

/-- What a text names: a parameter, an element or a list. -/
def referentOfText (text : Row) : Session Referent := do
  let name := text.takeWhile continuesName
  match isName name, text.drop name.length with
  | true, '[' :: rest =>
      let index := rest.dropLast
      if index = ['@'] || index = ['*'] then referentOfList (String.ofList name) (index = ['*'])
      else referentOfElement (String.ofList name) index
  | _, _ => referentOfName (String.ofList text)

/-- What a parameter refers to. -/
def referentOf (words : InnerWords) : ParameterSource → Session Referent
  | .named name => referentOfName name
  | .elements name isJoined => referentOfList name isJoined
  | .element name index => do referentOfElement name (← words.row index)
  | .indices name isJoined => do
      let entries := ((elementsOf? (← get) name).map Elements.entries).getD []
      return severalValues (rowOf name) isJoined (entries.map fun entry => entry.1.row)
  | .names start isJoined => do
      let names := (((← get).bindings.map Prod.fst).filter fun name => start.isPrefixOf name).mergeSort
        fun first second => decide (first ≤ second)
      return severalValues (rowOf start) isJoined (names.map rowOf)
  | .indirect source => do
      let shell ← get
      let reference :=
        match source with
        | .named name => (shell.binding? name).filter Variable.isReference
        | _ => none
      match reference with
      | some { value, .. } => return { name := [], values := value.toList }
      | none =>
          let referent ← referentOf words source
          match referent.values.head? with
          | none | some [] => giveUpPlainly (referent.name ++ rowOf ": invalid indirect expansion")
          | some text => referentOfText text

/-! ## Uses of values -/

/-- How patterns are read. -/
def matchStyle (shell : ShellState) : MatchStyle where
  hasChoices := shell.isSet "extglob"

/-- The longest match of a pattern that starts at a place: the place behind it. -/
def longestMatch? (parts : List PatternPart) (characters : Array Char) (steps place : Nat) :
    Option Nat :=
  (PatternPart.endsUpTo characters steps parts [place]).foldl (fun best ending =>
    some (max (best.getD 0) ending)) none

/-- A replacement for a match: an ampersand that is not quoted stands for the match. -/
def replacementFor (replacement : List Glyph) (matched : Row) : Row :=
  replacement.flatMap fun glyph => if glyph = ('&', false) then matched else [glyph.1]

/-- The characters from a place on with the matches of a pattern replaced, in at most so many
steps. -/
def replaceFrom (everywhere : Bool) (parts : List PatternPart) (size : Nat)
    (replacement : List Glyph) (characters : Array Char) : Nat → Nat → Row
  | 0, _ => []
  | steps + 1, place =>
      if place ≥ characters.size then []
      else
        match longestMatch? parts characters size place with
        | some ending =>
            let row := replacementFor replacement (characters.extract place ending).toList
            if !everywhere then row ++ (characters.extract ending characters.size).toList
            else if ending > place then
              row ++ replaceFrom everywhere parts size replacement characters steps ending
            else
              row ++ characters[place]?.toList
                ++ replaceFrom everywhere parts size replacement characters steps (place + 1)
        | none =>
            characters[place]?.toList
              ++ replaceFrom everywhere parts size replacement characters steps (place + 1)

/-- The value with matches of a pattern replaced. -/
def replaceMatches (style : MatchStyle) (place : MatchPlace) (pattern replacement : List Glyph)
    (value : Row) : Row :=
  let parts := style.parts pattern
  let size := pattern.length + 2
  let characters := value.toArray
  if pattern.isEmpty && (place = .first || place = .every) then value
  else
    match place with
    | .start =>
        match longestMatch? parts characters size 0 with
        | some ending => replacementFor replacement (value.take ending) ++ value.drop ending
        | none => value
    | .finish =>
        match (List.range (value.length + 1)).find? fun place =>
            (PatternPart.endsUpTo characters size parts [place]).contains value.length with
        | some place => value.take place ++ replacementFor replacement (value.drop place)
        | none => value
    | _ =>
        if value.isEmpty then
          if (PatternPart.endsUpTo characters size parts [0]).contains 0 then
            replacementFor replacement []
          else []
        else replaceFrom (place = .every) parts size replacement characters (value.length + 1) 0

/-- The value with the first letter or all letters changed that match a pattern. -/
def recase (style : MatchStyle) (change : LetterChange) (everywhere : Bool) (pattern : List Glyph)
    (value : Row) : Row :=
  let changed (letter : Char) : Char :=
    if pattern.isEmpty || style.accepts pattern [letter] then change.applied letter else letter
  if everywhere then value.map changed
  else value.take 1 |>.map changed |> (· ++ value.drop 1)

/-- The letters for the marks of a variable. -/
def markLetters (binding : Variable) : Row :=
  let marks := [('a', (binding.elements.map fun elements => !elements.isKeyed).getD false),
    ('A', (binding.elements.map Elements.isKeyed).getD false), ('i', binding.isNumber),
    ('n', binding.isReference), ('r', binding.isFixed), ('x', binding.isExported),
    ('l', binding.letters == some .lowered), ('u', binding.letters == some .raised)]
  marks.filterMap fun (letter, isOn) => if isOn then some letter else none

/-- The elements of a list as a script would write them. -/
def elementsRow (elements : Elements) : Row :=
  let entry (key : ElementKey) (value : Row) : Row :=
    let index :=
      match key with
      | .number number => natRow number
      | .key key => if hasMeaning key || !key.all isPrinted || key.isEmpty then betweenDoubleQuotes key else key
    ['['] ++ index ++ rowOf "]=" ++ betweenDoubleQuotes value
  let entries := elements.entries.map fun (key, value) => entry key value
  ['('] ++ joinWith [' '] entries ++ (if elements.isKeyed && !entries.isEmpty then [' '] else []) ++ [')']

/-- The command that makes a variable what it is. -/
def declarationRow (name : String) (binding : Variable) : Row :=
  let letters := markLetters binding
  let start := rowOf "declare -" ++ (if letters.isEmpty then ['-'] else letters) ++ [' '] ++ rowOf name
  match binding.elements, binding.value with
  | some elements, _ => start ++ ['='] ++ elementsRow elements
  | none, some value => start ++ ['='] ++ betweenDoubleQuotes value
  | none, none => start

/-- The value in the form that a letter stands for, with the variable that it is in. -/
def formedRow (letter : Char) (name : String) (binding : Variable) (value : Row) : Row :=
  match letter with
  | 'U' => value.map Char.toUpper
  | 'u' => (value.take 1).map Char.toUpper ++ value.drop 1
  | 'L' => value.map Char.toLower
  | 'E' => unescapeKnown quotationRule (value.length + 1) value
  | 'A' =>
      let letters := markLetters binding
      if letters.isEmpty then rowOf name ++ ['='] ++ reusable value
      else rowOf "declare -" ++ letters ++ [' '] ++ rowOf name ++ ['='] ++ reusable value
  | 'a' => markLetters binding
  | 'Q' | 'K' | 'k' => reusable value
  | _ => value

/-- A part of some items from a position on, which counts from the end if it is negative. Without
an answer the length is no length. -/
def partOf {α : Type} (mayEndEarly : Bool) (items : List α) (start : Int) (length : Option Int) :
    Option (List α) :=
  let start := if start < 0 then start + items.length else start
  if start < 0 || start > items.length then some []
  else
    let items := items.drop start.toNat
    match length with
    | none => some items
    | some length =>
        if length ≥ 0 then some (items.take length.toNat)
        else if !mayEndEarly || length + items.length < 0 then none
        else some (items.take (length + items.length).toNat)

/-! ## Adding values to fields -/

/-- Adds a value to a draft. -/
def addValue (context : WordContext) (quoted : Bool) (draft : FieldDraft) (row : Row) :
    Session FieldDraft := do
  if quoted || !context.splits then return draft.add quoted row
  else return draft.addSplit (← get).separators row

/-- Values joined to one text. -/
def joinedValues (shell : ShellState) (values : List Row) : Row :=
  joinWith (match shell.value? "IFS" with
    | some characters => characters.take 1
    | none => [' ']) values

/-- Adds values to a draft in the way in which they come together. -/
def addValues (context : WordContext) (together : Togetherness) (quoted : Bool) (draft : FieldDraft)
    (values : List Row) : Session FieldDraft := do
  let shell ← get
  match together with
  | .single =>
      match values with
      | [] => return if quoted then draft.add true [] else draft
      | value :: _ => addValue context quoted draft value
  | .separate =>
      if !context.splits then
        return if values.isEmpty && !quoted then draft else draft.add quoted (joinWith [' '] values)
      else if quoted then return draft.addFields values
      else return draft.addSplitFields shell.separators values
  | .joined =>
      if quoted then return draft.add true (joinedValues shell values)
      else if context.splits then return draft.addSplitFields shell.separators values
      else return draft.add false (joinedValues shell values)

/-- Has the referent no usable value? With a colon an empty value is not usable. -/
def Referent.isUnset (referent : Referent) (colon : Bool) : Bool :=
  referent.values.isEmpty
    || (colon && (match referent.together with
      | .single => referent.values.all List.isEmpty
      | _ => referent.values = [[]]))

/-- Leaves the script when a parameter without a value is used, if that is wanted. -/
def refuseUnset (referent : Referent) : Session Unit := do
  if referent.values.isEmpty && referent.together = .single && (← get).has 'u' then
    let mark := if referent.name.all Char.isDigit then ['$'] else []
    endWith (mark ++ referent.name ++ rowOf ": unbound variable")

/-- The part of what a parameter refers to. Of the positional parameters the name of the script
is the one at zero. -/
def Referent.part (referent : Referent) (startText : Row) (length : Option Row) :
    Session (List Row) := do
  let start ← reckon none startText
  let count ← length.mapM (reckon none)
  let shell ← get
  let refuse : Session (List Row) :=
    giveUpPlainly (length.getD [] ++ rowOf ": substring expression < 0")
  let chosen (values : Option (List Row)) : Session (List Row) :=
    match values with
    | some values => return values
    | none => refuse
  if referent.together = .single then
    match referent.values with
    | [] => return []
    | value :: _ => chosen ((partOf true value start count).map fun part => [part])
  else if referent.name = ['@'] || referent.name = ['*'] then
    chosen (partOf false (shell.name :: shell.positional) start count)
  else
    let elements := (elementsOf? shell (String.ofList (referent.name.takeWhile continuesName))).getD
      (.indexed [])
    match elements with
    | .indexed entries =>
        let first := if start < 0 then start + elements.nextNumber else start
        let later := if first < 0 then [] else entries.filter fun entry => decide (first ≤ entry.1)
        chosen (partOf false (later.map Prod.snd) 0 count)
    | .keyed _ => chosen (partOf false elements.values (max 0 (start - 1)) count)

/-- Adds a use of a parameter to a draft. -/
def addUse (words : InnerWords) (context : WordContext) (source : ParameterSource)
    (use : ParameterUse) (quoted : Bool) (draft : FieldDraft) : Session FieldDraft := do
  let inner : WordContext := { context with isInner := true }
  match use with
  | .unknown text => giveUpPlainly (text ++ rowOf ": bad substitution")
  | _ => pure ()
  let referent ← referentOf words source
  let add (values : List Row) : Session FieldDraft :=
    addValues context referent.together quoted draft values
  let each (change : Row → Row) : Session FieldDraft := do
    refuseUnset referent
    Act.workOn (referent.values.foldl (fun size value => size + value.length) 0)
    add (referent.values.map change)
  match use with
  | .value =>
      refuseUnset referent
      add referent.values
  | .length =>
      refuseUnset referent
      match referent.together with
      | .single => addValue context quoted draft (natRow (referent.values.head?.getD []).length)
      | _ => addValue context quoted draft (natRow referent.values.length)
  | .orWord colon word =>
      if referent.isUnset colon then words.add inner word draft else add referent.values
  | .orAssign colon word =>
      if referent.isUnset colon then
        match referent.place with
        | some (name, key) =>
            let row ← words.row word
            store name key false row
            addValue context quoted draft row
        | none =>
            let mark := if referent.name.all Char.isDigit then ['$'] else []
            giveUpPlainly (mark ++ referent.name ++ rowOf ": cannot assign in this way")
      else add referent.values
  | .wordIfSet colon word =>
      if referent.isUnset colon then
        return if quoted && referent.together = .single then draft.add true [] else draft
      else words.add inner word draft
  | .orFail colon word =>
      if referent.isUnset colon then
        let message ← words.row word
        let message :=
          if !message.isEmpty then message
          else if colon then rowOf "parameter null or not set"
          else rowOf "parameter not set"
        endWith (referent.name ++ rowOf ": " ++ message)
      else add referent.values
  | .withoutStart longest pattern =>
      let pattern ← words.glyphs pattern
      each (removeStartBy longest ((matchStyle (← get)).accepts pattern))
  | .withoutEnd longest pattern =>
      let pattern ← words.glyphs pattern
      each (removeEndBy longest ((matchStyle (← get)).accepts pattern))
  | .part start length =>
      refuseUnset referent
      add (← referent.part (← words.row start) (← length.mapM words.row))
  | .replaced place pattern replacement =>
      let pattern ← words.glyphs pattern
      let replacement ← words.glyphs replacement
      each (replaceMatches (matchStyle (← get)) place pattern replacement)
  | .recased change everywhere pattern =>
      let pattern ← words.glyphs pattern
      each (recase (matchStyle (← get)) change everywhere pattern)
  | .formed letter =>
      let shell ← get
      let name := String.ofList (referent.name.takeWhile continuesName)
      let binding := (shell.binding? (shell.target name)).getD {}
      match letter, referent.together, binding.elements with
      | 'A', .separate, some _ | 'A', .joined, some _ => add [declarationRow name binding]
      | 'K', _, some elements | 'k', _, some elements =>
          if referent.together = .single then each (formedRow letter name binding)
          else
            add [joinWith [' '] (elements.entries.flatMap fun (key, value) =>
              [key.row, betweenDoubleQuotes value])]
      | 'a', _, _ =>
          if (shell.binding? (shell.target name)).isNone then add []
          else addValue context quoted draft (markLetters binding)
      | _, _, _ => each (formedRow letter name binding)
  | .unknown _ => return draft

end TestAmplification.Shell
