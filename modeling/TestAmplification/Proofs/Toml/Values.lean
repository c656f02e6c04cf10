import TestAmplification.Proofs.Text.Decimal
import TestAmplification.Proofs.Toml.Texts
import TestAmplification.Toml.Reader

/-!
# Reading the values that were written

A value that stands at the end of its line is read back (`Denotes`): a truth value
(`denotes_boolValue`), a whole number of 64 bits with a sign (`denotes_decimal`), a text
(`denotes_textValue`) and a list of texts (`denotes_listValue`), whether the list stays on the line
or has a line for every element.

The digits of a number are tried as a moment and as a number with a point first; both fail, since
after the digits the line ends (`moment_digits`, `pointedFloat_decimal`).
-/

set_option autoImplicit false

namespace TestAmplification.Toml

open Scan

variable {rest : List Char}

/-- What is written at the end of a line is read as the value. -/
def Denotes (written : String) (value : Value) : Prop :=
  ∀ rest, Toml.value (depthLimit - 1) (written.toList ++ '\n' :: rest) = some (value, '\n' :: rest)

/-! ## Truth values -/

theorem denotes_boolValue (value : Bool) : Denotes (boolValue value) (.bool value) := by
  intro rest
  cases value <;> rfl

/-! ## Digits that are no moment -/

/-- Digits at the end of a line. -/
def DigitsThenEnd (characters : List Char) : Prop :=
  ∃ digits rest, (∀ digit ∈ digits, Text.isDigit digit = true) ∧ characters = digits ++ '\n' :: rest

theorem DigitsThenEnd.head_ne {characters : List Char} (ended : DigitsThenEnd characters)
    {mark : Char} (noDigit : Text.isDigit mark = false) (noFeed : mark ≠ '\n') :
    characters.head? ≠ some mark := by
  obtain ⟨digits, rest, allDigits, rfl⟩ := ended
  cases digits with
  | nil => simpa using noFeed.symm
  | cons first others =>
      have firstDigit := allDigits first List.mem_cons_self
      rw [List.cons_append, List.head?_cons, Ne, Option.some.injEq]
      rintro rfl
      rw [firstDigit] at noDigit
      contradiction

theorem exactly_digits {characters : List Char} (ended : DigitsThenEnd characters) (count : Nat) :
    exactly Text.isDigit count characters = none ∨
      ∃ taken left, exactly Text.isDigit count characters = some (taken, left) ∧
        DigitsThenEnd left := by
  induction count generalizing characters with
  | zero => exact .inr ⟨[], characters, rfl, ended⟩
  | succ count ih =>
      obtain ⟨digits, rest, allDigits, rfl⟩ := ended
      cases digits with
      | nil => exact .inl rfl
      | cons first others =>
          obtain ⟨firstDigit, othersDigits⟩ := List.forall_mem_cons.1 allDigits
          rw [exactly, List.cons_append, bind_of_some (nextIf_cons firstDigit _)]
          obtain fails | ⟨taken, left, read, ended⟩ := ih ⟨others, rest, othersDigits, rfl⟩
          · exact .inl (bind_of_none fails)
          · exact .inr ⟨first :: taken, left, bind_of_some read, ended⟩

/-- A bounded number with a mark after it cannot be read from digits alone. -/
theorem bounded_mark {characters : List Char} (ended : DigitsThenEnd characters) {mark : Char}
    (noDigit : Text.isDigit mark = false) (noFeed : mark ≠ '\n') (count least greatest : Nat)
    (next : Nat → Scan Unit) :
    (do
      let number ← bounded count least greatest
      expect [mark]
      next number : Scan Unit) characters = none := by
  cases read : bounded count least greatest characters with
  | none => exact bind_of_none read
  | some scanned =>
      obtain ⟨number, left⟩ := scanned
      rw [bind_of_some read]
      refine bind_of_none (expect_cons_of_head_ne ?_)
      rw [bounded] at read
      obtain fails | ⟨taken, after, counted, ended⟩ := exactly_digits ended count
      · rw [bind_of_none fails] at read
        contradiction
      · rw [bind_of_some counted] at read
        have same : after = left := by
          split at read
          · exact congrArg Prod.snd (Option.some.inj read)
          · contradiction
        rw [← same]
        exact ended.head_ne noDigit noFeed

theorem moment_digits {characters : List Char} (ended : DigitsThenEnd characters) :
    moment characters = none := by
  have noDate : date characters = none := bounded_mark ended rfl (by decide) 4 0 9999 _
  have noTime : time characters = none := bounded_mark ended rfl (by decide) 2 0 23 _
  rw [moment, orElse_of_none (bind_of_none noDate), noTime]

/-! ## Whole numbers -/

theorem sign_digits {characters : List Char} (ended : DigitsThenEnd characters) :
    sign characters = some ([], characters) := by
  rw [sign, peek_bind]
  refine congrFun (?_ : _ = (pure [] : Scan (List Char))) characters
  split
  · next isPlus => exact absurd isPlus (ended.head_ne rfl (by decide))
  · next isMinus => exact absurd isMinus (ended.head_ne rfl (by decide))
  · rfl

theorem digitsThenEnd_decimal (number : Nat) (rest : List Char) :
    DigitsThenEnd (Text.decimalDigits number ++ '\n' :: rest) :=
  ⟨_, rest, fun _ => Text.isDigit_of_mem_decimalDigits, rfl⟩

theorem digitGroups_decimal (number : Nat) (rest : List Char) :
    digitGroups Text.isDigit (Text.decimalDigits number ++ '\n' :: rest) =
      some (Text.decimalDigits number, '\n' :: rest) := by
  have ends : EndsRun Text.isDigit ('\n' :: rest) := endsRun_cons.2 rfl
  have noGroup : Turns (do expect ['_']; runOfSome Text.isDigit) ('\n' :: rest) [] ('\n' :: rest) :=
    .stop (bind_of_none (expect_cons_of_head_ne (by simp)))
  rw [digitGroups, bind_of_some (runOfSome_append (Text.decimalDigits_ne_nil number)
      (fun _ => Text.isDigit_of_mem_decimalDigits) ends), bind_of_some noGroup.repeated,
    List.flatten_nil, List.append_nil]
  rfl

theorem wholeDigits_decimal (number : Nat) (rest : List Char) :
    wholeDigits (Text.decimalDigits number ++ '\n' :: rest) =
      some (([], Text.decimalDigits number), '\n' :: rest) := by
  rw [wholeDigits, bind_of_some (sign_digits (digitsThenEnd_decimal number rest)), peek_bind]
  by_cases zero : number = 0
  · subst zero
    rfl
  · have noZero : (Text.decimalDigits number ++ '\n' :: rest).head? ≠ some '0' := by
      cases digits : Text.decimalDigits number with
      | nil => exact absurd digits (Text.decimalDigits_ne_nil number)
      | cons first others => simpa using Text.head_decimalDigits zero digits
    have grouped : (do return ([], ← digitGroups Text.isDigit) : Scan (List Char × List Char))
        (Text.decimalDigits number ++ '\n' :: rest) =
          some (([], Text.decimalDigits number), '\n' :: rest) :=
      bind_of_some (digitGroups_decimal number rest)
    refine (congrFun ?_ _).trans grouped
    split
    · next isZero => exact absurd isZero noZero
    · rfl

theorem pointedFloat_decimal (number : Nat) (rest : List Char) :
    pointedFloat (Text.decimalDigits number ++ '\n' :: rest) = none := by
  have noFraction : fraction ('\n' :: rest) = none :=
    bind_of_none (expect_cons_of_head_ne (by simp))
  have noExponent : exponent ('\n' :: rest) = none := rfl
  rw [pointedFloat, bind_of_some (wholeDigits_decimal number rest)]
  show (optional fraction >>= _ : Scan Unit) _ = _
  rw [bind_of_some (optional_of_none noFraction), bind_of_some (optional_of_none noExponent)]
  rfl

theorem specialFloat_digits {characters : List Char} (ended : DigitsThenEnd characters) :
    specialFloat characters = none := by
  have noInfinity : expect ['i', 'n', 'f'] characters = none :=
    expect_cons_of_head_ne (ended.head_ne rfl (by decide))
  have noNumber : expect ['n', 'a', 'n'] characters = none :=
    expect_cons_of_head_ne (ended.head_ne rfl (by decide))
  rw [specialFloat, bind_of_some (sign_digits ended), orElse_of_none noInfinity, noNumber]

theorem decimalInteger_decimal {number : Nat} (small : number ≤ Text.greatestSigned64)
    (rest : List Char) : decimalInteger (Text.decimalDigits number ++ '\n' :: rest) =
      some ((number : Int), '\n' :: rest) := by
  rw [decimalInteger, bind_of_some (wholeDigits_decimal number rest)]
  simp only [Text.digitsValue_decimalDigits]
  rw [if_neg (by decide), if_pos small]
  rfl

theorem integer_decimal {number : Nat} (small : number ≤ Text.greatestSigned64)
    (rest : List Char) : integer (Text.decimalDigits number ++ '\n' :: rest) =
      some ((number : Int), '\n' :: rest) := by
  rw [← decimalInteger_decimal small rest, integer, get_bind]
  by_cases zero : number = 0
  · subst zero
    rfl
  · cases digits : Text.decimalDigits number with
    | nil => exact absurd digits (Text.decimalDigits_ne_nil number)
    | cons first others =>
        -- a letter for the base needs a zero in front
        have noZero := Text.head_decimalDigits zero digits
        refine congrFun ?_ _
        split
        · next isHex => exact absurd (List.cons.inj isHex).1 noZero
        · next isOctal => exact absurd (List.cons.inj isOctal).1 noZero
        · next isBinary => exact absurd (List.cons.inj isBinary).1 noZero
        · rfl

theorem numberOrMoment_decimal {number : Nat} (small : number ≤ Text.greatestSigned64)
    (rest : List Char) : numberOrMoment (Text.decimalDigits number ++ '\n' :: rest) =
      some (.integer number, '\n' :: rest) := by
  have ended := digitsThenEnd_decimal number rest
  have spelled {scanner : Scan Unit} (fails : scanner (Text.decimalDigits number ++ '\n' :: rest) =
      none) : spelling scanner (Text.decimalDigits number ++ '\n' :: rest) = none := by
    rw [spelling, get_bind, bind_of_none fails]
  rw [numberOrMoment, orElse_of_none (map_of_none (spelled (moment_digits ended))),
    orElse_of_none (map_of_none (spelled (pointedFloat_decimal number rest))),
    orElse_of_none (map_of_none (spelled (specialFloat_digits ended))),
    map_of_some (integer_decimal small rest)]

/-- **A whole number** of 64 bits with a sign is read. -/
theorem denotes_decimal {number : Nat} (small : number ≤ Text.greatestSigned64) :
    Denotes (Text.decimal number) (.integer number) := by
  intro rest
  have ended := digitsThenEnd_decimal number rest
  have noStart (mark : Char) (noDigit : Text.isDigit mark = false) (noFeed : mark ≠ '\n') :=
    ended.head_ne noDigit noFeed
  rw [Text.decimal, String.toList_ofList, ← numberOrMoment_decimal small rest]
  show valueAround _ _ = _
  rw [valueAround, peek_bind]
  refine congrFun ?_ _
  split
  · next isText => exact absurd isText (noStart _ rfl (by decide))
  · next isText => exact absurd isText (noStart _ rfl (by decide))
  · next isArray => exact absurd isArray (noStart _ rfl (by decide))
  · next isTable => exact absurd isTable (noStart _ rfl (by decide))
  · next isTrue => exact absurd isTrue (noStart _ rfl (by decide))
  · next isFalse => exact absurd isFalse (noStart _ rfl (by decide))
  · rfl

/-! ## Texts -/

/-- A text starts with a quote or with an apostrophe. -/
theorem textValue_cons (text : String) : ∃ first others,
    (textValue text).toList = first :: others ∧ (first = '"' ∨ first = '\'') := by
  rw [textValue, String.toList_ofList]
  cases formOf text.toList with
  | basic => exact ⟨_, _, rfl, .inl rfl⟩
  | literal => exact ⟨_, _, rfl, .inr rfl⟩
  | longBasic => exact ⟨_, _, rfl, .inl rfl⟩
  | longLiteral => exact ⟨_, _, rfl, .inr rfl⟩

/-- What may follow a text: it lengthens no run of quotes. -/
def FollowsText (rest : List Char) : Prop :=
  EndsRun (· == '"') rest ∧ EndsRun (· == '\'') rest

theorem valueAround_textValue (inner : Option (Scan Value)) (text : String)
    (follows : FollowsText rest) :
    valueAround inner ((textValue text).toList ++ rest) = some (.text text, rest) := by
  have read : (Value.text <$> anyText : Scan Value) ((textValue text).toList ++ rest) =
      some (.text text, rest) :=
    map_of_some (anyText_textValue text follows.1 follows.2)
  obtain ⟨first, others, written, isQuote⟩ := textValue_cons text
  rw [← read, written]
  obtain rfl | rfl := isQuote <;> rfl

/-- **A text** is read. -/
theorem denotes_textValue (text : String) : Denotes (textValue text) (.text text) := fun _ =>
  valueAround_textValue _ text ⟨endsRun_cons.2 rfl, endsRun_cons.2 rfl⟩

/-! ## Lists of texts -/

/-- Neither a blank nor a comment nor a line end starts here. -/
def Solid (characters : List Char) : Prop :=
  ∀ first ∈ characters.head?,
    isBlank first = false ∧ first ≠ '#' ∧ first ≠ '\n' ∧ first ≠ '\r'

theorem Solid.head_ne {characters : List Char} (solid : Solid characters) {mark : Char}
    (isMark : mark = '#' ∨ mark = '\n' ∨ mark = '\r') : characters.head? ≠ some mark := by
  intro starts
  obtain ⟨-, noComment, noFeed, noReturn⟩ := solid mark starts
  obtain rfl | rfl | rfl := isMark
  · exact noComment rfl
  · exact noFeed rfl
  · exact noReturn rfl

theorem solid_textValue (text : String) (rest : List Char) :
    Solid ((textValue text).toList ++ rest) := by
  obtain ⟨first, others, written, isQuote⟩ := textValue_cons text
  rw [written]
  intro character member
  obtain rfl : first = character := by simpa using member
  obtain rfl | rfl := isQuote <;> decide

theorem comment_of_head_ne {characters : List Char} (noMark : characters.head? ≠ some '#') :
    comment characters = none :=
  bind_of_none (expect_cons_of_head_ne noMark)

theorem newline_solid (solid : Solid rest) : newline rest = none :=
  newline_of_head_ne (solid.head_ne (.inr (.inl rfl))) (solid.head_ne (.inr (.inr rfl)))

theorem spaceOrLine_blanks (blanks : List Char)
    (allBlank : ∀ blank ∈ blanks, isBlank blank = true) (solid : Solid rest) :
    spaceOrLine (blanks ++ rest) = if blanks.isEmpty then none else some ((), rest) := by
  have ends : EndsRun isBlank rest := fun first member => (solid first member).1
  rw [spaceOrLine, bind_of_some (run_append allBlank ends),
    bind_of_some (isNext_of_none (comment_of_head_ne (solid.head_ne (.inl rfl)))),
    bind_of_some (isNext_of_none (newline_solid solid))]
  cases blanks.isEmpty <;> rfl

theorem spaceOrLine_newline (rest : List Char) : spaceOrLine ('\n' :: rest) = some ((), rest) := by
  have ends : EndsRun isBlank ('\n' :: rest) := endsRun_cons.2 rfl
  have ended : newline ('\n' :: rest) = some ((), rest) := orElse_of_some (expect_cons _ rest)
  rw [spaceOrLine, bind_of_some (run_of_ends ends),
    bind_of_some (isNext_of_none (comment_of_head_ne (by simp))),
    bind_of_some (isNext_of_some ended)]
  rfl

theorem turns_solid (solid : Solid rest) : Turns spaceOrLine rest [] rest :=
  .stop (spaceOrLine_blanks [] (by simp) solid)

theorem spaceAndLines_of_turns {characters : List Char} {passed : List Unit}
    (turns : Turns spaceOrLine characters passed rest) :
    spaceAndLines characters = some ((), rest) := by
  rw [spaceAndLines, bind_of_some turns.repeated]
  rfl

theorem spaceAndLines_solid (solid : Solid rest) : spaceAndLines rest = some ((), rest) :=
  spaceAndLines_of_turns (turns_solid solid)

theorem spaceAndLines_newline (solid : Solid rest) :
    spaceAndLines ('\n' :: rest) = some ((), rest) :=
  spaceAndLines_of_turns
    (.again (spaceOrLine_newline rest) (Nat.lt_succ_self _) (turns_solid solid))

theorem spaceAndLines_indent (solid : Solid rest) :
    spaceAndLines ('\n' :: ' ' :: ' ' :: ' ' :: ' ' :: rest) = some ((), rest) := by
  have indent : spaceOrLine (' ' :: ' ' :: ' ' :: ' ' :: rest) = some ((), rest) :=
    spaceOrLine_blanks [' ', ' ', ' ', ' '] (by simp [isBlank]) solid
  refine spaceAndLines_of_turns (.again (spaceOrLine_newline _) (Nat.lt_succ_self _)
    (.again indent ?_ (turns_solid solid)))
  simp only [List.length_cons]
  omega

/-- An element of an array and whether a comma follows it. -/
def element (value : Scan Value) : Scan (Value × Bool) := do
  spaceAndLines
  let element ← value
  spaceAndLines
  let separated ← isNext (expect [','])
  return (element, separated)

theorem arrayOf_of_turns {inner : Scan Value} {characters left : List Char}
    {elements : List (Value × Bool)} (turns : Turns (element inner) characters elements left)
    (closed : spaceAndLines left = some ((), ']' :: rest))
    (separated : elements.dropLast.all Prod.snd = true) :
    arrayOf inner ('[' :: characters) = some (elements.map Prod.fst, rest) := by
  rw [arrayOf, bind_of_some (expect_cons _ _)]
  show (repeated (element inner) >>= _ : Scan (List Value)) _ = _
  rw [bind_of_some turns.repeated, bind_of_some closed, bind_of_some (expect_cons _ _),
    if_pos separated]
  rfl

theorem listValue_cons (texts : List String) :
    ∃ others, (listValue texts).toList = '[' :: others := by
  cases texts with
  | nil => exact ⟨[']'], rfl⟩
  | cons text others =>
      cases others <;> simp [listValue]

/-- A line of a list of several lines. -/
def listLine (text : String) : List Char :=
  ' ' :: ' ' :: ' ' :: ' ' :: ((textValue text).toList ++ [',', '\n'])

theorem solid_mark {mark : Char} (isMark : mark = ',' ∨ mark = ']') : Solid (mark :: rest) := by
  intro first member
  obtain rfl : mark = first := by simpa using member
  obtain rfl | rfl := isMark <;> decide

/-- A scanner for the elements of lists: it reads texts, and it does not take the end of the list
for an element. -/
structure TakesTexts (inner : Scan Value) : Prop where
  text : ∀ text rest, FollowsText rest →
    inner ((textValue text).toList ++ rest) = some (.text text, rest)
  closing : ∀ rest, inner (']' :: rest) = none

namespace TakesTexts

variable {inner : Scan Value} (takes : TakesTexts inner)

include takes

theorem element_closing (characters : List Char)
    (opened : spaceAndLines characters = some ((), ']' :: rest)) :
    element inner characters = none := by
  rw [element, bind_of_some opened, bind_of_none (takes.closing rest)]

theorem element_separated (text : String) {characters : List Char}
    (opened : spaceAndLines characters = some ((), (textValue text).toList ++ ',' :: rest)) :
    element inner characters = some ((.text text, true), rest) := by
  have follows : FollowsText (',' :: rest) := ⟨endsRun_cons.2 rfl, endsRun_cons.2 rfl⟩
  rw [element, bind_of_some opened, bind_of_some (takes.text text _ follows),
    bind_of_some (spaceAndLines_solid (solid_mark (.inl rfl))),
    bind_of_some (isNext_of_some (expect_cons _ _))]
  rfl

theorem element_last (text : String) (rest : List Char) :
    element inner ((textValue text).toList ++ ']' :: rest) =
      some ((.text text, false), ']' :: rest) := by
  have follows : FollowsText (']' :: rest) := ⟨endsRun_cons.2 rfl, endsRun_cons.2 rfl⟩
  rw [element, bind_of_some (spaceAndLines_solid (solid_textValue text _)),
    bind_of_some (takes.text text _ follows),
    bind_of_some (spaceAndLines_solid (solid_mark (.inr rfl))),
    bind_of_some (isNext_of_none (expect_cons_of_head_ne (by simp)))]
  rfl

/-- A line of a list of several lines gives an element with a comma. -/
theorem turns_lines (texts : List String) (rest : List Char) :
    Turns (element inner) ('\n' :: (texts.flatMap listLine ++ ']' :: rest))
      (texts.map fun text => (.text text, true)) ('\n' :: ']' :: rest) := by
  induction texts with
  | nil =>
      exact .stop (takes.element_closing _ (spaceAndLines_newline (solid_mark (.inr rfl))))
  | cons text others ih =>
      have line : listLine text ++ (others.flatMap listLine ++ ']' :: rest) =
          ' ' :: ' ' :: ' ' :: ' ' :: ((textValue text).toList ++
            ',' :: '\n' :: (others.flatMap listLine ++ ']' :: rest)) := by
        simp [listLine]
      rw [List.flatMap_cons, List.append_assoc, line]
      refine .again (takes.element_separated text (spaceAndLines_indent
        (solid_textValue text _))) ?_ ih
      simp only [List.length_cons, List.length_append]
      omega

/-- **The elements of a list** are read, on one line or on several. -/
theorem arrayOf_listValue (texts : List String) (rest : List Char) :
    arrayOf inner ((listValue texts).toList ++ rest) = some (texts.map .text, rest) := by
  have closing : spaceAndLines (']' :: rest) = some ((), ']' :: rest) :=
    spaceAndLines_solid (solid_mark (.inr rfl))
  have stopped : Turns (element inner) (']' :: rest) [] (']' :: rest) :=
    .stop (takes.element_closing _ closing)
  cases texts with
  | nil => exact arrayOf_of_turns stopped closing rfl
  | cons text others =>
      cases others with
      | nil =>
          have written : (listValue [text]).toList ++ rest =
              '[' :: ((textValue text).toList ++ ']' :: rest) := by
            simp [listValue]
          have shorter :
              (']' :: rest).length < ((textValue text).toList ++ ']' :: rest).length := by
            obtain ⟨first, others, opened, -⟩ := textValue_cons text
            simp only [opened, List.length_append, List.length_cons]
            omega
          rw [written]
          exact arrayOf_of_turns (.again (takes.element_last text rest) shorter stopped) closing rfl
      | cons next more =>
          have written : (listValue (text :: next :: more)).toList ++ rest =
              '[' :: '\n' :: ((text :: next :: more).flatMap listLine ++ ']' :: rest) := by
            simp [listValue, listLine, List.flatMap_map]
            rfl
          rw [written, arrayOf_of_turns (takes.turns_lines _ rest)
            (spaceAndLines_newline (solid_mark (.inr rfl))) ?_, List.map_map]
          · rfl
          · rw [List.all_eq_true]
            intro pair member
            obtain ⟨_, -, rfl⟩ := List.mem_map.1 (List.dropLast_subset _ member)
            rfl

end TakesTexts

theorem takesTexts_value (levels : Nat) : TakesTexts (value levels) := by
  cases levels with
  | zero => exact ⟨fun text _ follows => valueAround_textValue none text follows, fun _ => rfl⟩
  | succ levels =>
      exact ⟨fun text _ follows => valueAround_textValue (some _) text follows, fun _ => rfl⟩

/-- **A list of texts** is read. -/
theorem denotes_listValue (texts : List String) :
    Denotes (listValue texts) (.array (texts.map .text)) := by
  intro rest
  have read := (takesTexts_value (depthLimit - 2)).arrayOf_listValue texts ('\n' :: rest)
  obtain ⟨others, opened⟩ := listValue_cons texts
  rw [opened] at read ⊢
  exact map_of_some read

end TestAmplification.Toml
