import TestAmplification.Proofs.Text.Scan
import TestAmplification.Toml.Printer
import TestAmplification.Toml.Scalar

/-!
# Reading the texts that were written

A text is read back from each of its forms (`anyText_textValue`), whatever characters it holds, as
long as what follows does not start with a quote or an apostrophe.

A part of a text is an escape or a run of characters that stand for themselves. In a text of
several lines there are also line feeds and up to two quotes in a row between the parts; quotes at
the end of the text join the closing ones, which is why a text is followed through `LongBody` with
the number of quotes directly before. Both ways to write such a text lead to such a body, the one
with escapes for every text and the one without for a text with at most two apostrophes in a row.
-/

set_option autoImplicit false

namespace TestAmplification.Toml

open Scan

variable {character quote : Char} {characters rest : List Char}

/-! ## Characters -/

theorem isCommentCharacter_iff :
    isCommentCharacter character = true ↔ isControl character = false ∧ character ≠ '\n' := by
  by_cases isTab : character = '\t'
  · subst isTab
    decide
  · by_cases isFeed : character = '\n'
    · subst isFeed
      decide
    · simp [isCommentCharacter, isControl, isTab, isFeed]

theorem isBasicCharacter_iff :
    isBasicCharacter character = true ↔
      isControl character = false ∧ character ≠ '\n' ∧ character ≠ '"' ∧ character ≠ '\\' := by
  simp only [isBasicCharacter, Bool.and_eq_true, isCommentCharacter_iff, decide_eq_true_iff,
    and_assoc]

theorem isLiteralCharacter_iff :
    isLiteralCharacter character = true ↔
      isControl character = false ∧ character ≠ '\n' ∧ character ≠ '\'' := by
  simp only [isLiteralCharacter, Bool.and_eq_true, isCommentCharacter_iff, decide_eq_true_iff,
    and_assoc]

/-! ## Escapes -/

/-- What stands after a backslash is read as the character. -/
def IsEscape (code : List Char) (character : Char) : Prop :=
  ∀ rest, escaped (code ++ rest) = some (character, rest)

theorem hexValue_fourUpperDigits : ∀ number < 0x80, (fourUpperDigits number).length = 4 ∧
    (fourUpperDigits number).all isHexDigit = true ∧
      Text.hexValue (fourUpperDigits number) = number := by
  decide +kernel

theorem isEscape_codePoint (control : isControl character = true) :
    IsEscape ('u' :: fourUpperDigits character.toNat) character := by
  have small : character.toNat < 0x80 := by
    simp only [isControl, Bool.or_eq_true, Bool.and_eq_true, decide_eq_true_iff,
      beq_iff_eq] at control
    omega
  obtain ⟨four, hex, value⟩ := hexValue_fourUpperDigits _ small
  intro rest
  have digits : exactly isHexDigit 4 (fourUpperDigits character.toNat ++ rest) =
      some (fourUpperDigits character.toNat, rest) := by
    rw [← four]
    exact exactly_append (List.all_eq_true.1 hex) rest
  have point : character.toNat.isValidChar := character.valid
  rw [List.cons_append, escaped, bind_of_some (next_cons _ _)]
  show codePoint 4 _ = _
  rw [codePoint, bind_of_some digits, value, if_pos point, Char.ofNat_toNat]
  rfl

/-- A character is written as an escape or stands for itself. -/
theorem escapeOther_cases (noQuote : character ≠ '"') (noFeed : character ≠ '\n') :
    (∃ code, escapeOther character = '\\' :: code ∧ IsEscape code character) ∨
      (escapeOther character = [character] ∧ isBasicCharacter character = true) := by
  unfold escapeOther
  split
  · next isBackslash =>
      subst isBackslash
      exact .inl ⟨['\\'], rfl, fun _ => rfl⟩
  split
  · next isBackspace =>
      subst isBackspace
      exact .inl ⟨['b'], rfl, fun _ => rfl⟩
  split
  · next isTab =>
      subst isTab
      exact .inl ⟨['t'], rfl, fun _ => rfl⟩
  split
  · next isFormFeed =>
      subst isFormFeed
      exact .inl ⟨['f'], rfl, fun _ => rfl⟩
  split
  · next isReturn =>
      subst isReturn
      exact .inl ⟨['r'], rfl, fun _ => rfl⟩
  split
  · next control => exact .inl ⟨_, rfl, isEscape_codePoint control⟩
  · next noBackslash _ _ _ _ noControl =>
      refine .inr ⟨rfl, isBasicCharacter_iff.2 ⟨?_, noFeed, noQuote, noBackslash⟩⟩
      exact Bool.eq_false_iff.2 noControl

theorem escapeBasic_cases (character : Char) :
    (∃ code, escapeBasic character = '\\' :: code ∧ IsEscape code character) ∨
      (escapeBasic character = [character] ∧ isBasicCharacter character = true) := by
  unfold escapeBasic
  split
  · next isQuote =>
      subst isQuote
      exact .inl ⟨['"'], rfl, fun _ => rfl⟩
  split
  · next isFeed =>
      subst isFeed
      exact .inl ⟨['n'], rfl, fun _ => rfl⟩
  · next noQuote noFeed => exact escapeOther_cases noQuote noFeed

/-! ## Basic texts on one line -/

theorem basicPart_escape {code : List Char} (escape : IsEscape code character)
    (rest : List Char) : basicPart ('\\' :: (code ++ rest)) = some ([character], rest) := by
  rw [basicPart, peek_bind]
  show (expect ['\\'] >>= _ : Scan (List Char)) _ = _
  rw [bind_of_some (expect_cons _ _), bind_of_some (escape rest)]
  rfl

theorem basicPart_of_head_ne (noBackslash : characters.head? ≠ some '\\') :
    basicPart characters = runOfSome isBasicCharacter characters := by
  rw [basicPart, peek_bind]
  refine congrFun ?_ characters
  split
  · next isBackslash => exact absurd isBackslash noBackslash
  · rfl

theorem basicPart_run (first : Char) (others : List Char)
    (passed : isBasicCharacter first = true) :
    basicPart (first :: others) =
      some (first :: others.takeWhile isBasicCharacter, others.dropWhile isBasicCharacter) := by
  have noBackslash : (first :: others).head? ≠ some '\\' := by
    rw [List.head?_cons, Ne, Option.some.injEq]
    exact (isBasicCharacter_iff.1 passed).2.2.2
  rw [basicPart_of_head_ne noBackslash, runOfSome_cons passed]

theorem turns_basicPart (characters rest : List Char) :
    ∃ parts, Turns basicPart (characters.flatMap escapeBasic ++ '"' :: rest) parts
      ('"' :: rest) ∧ parts.flatten = characters := by
  induction characters with
  | nil => exact ⟨[], .stop rfl, rfl⟩
  | cons first others ih =>
      obtain ⟨parts, turns, flat⟩ := ih
      rw [List.flatMap_cons, List.append_assoc]
      obtain ⟨code, written, escape⟩ | ⟨written, passed⟩ := escapeBasic_cases first
      · rw [written, List.cons_append]
        refine ⟨[first] :: parts, .again (basicPart_escape escape _) ?_ turns, ?_⟩
        · simp only [List.length_cons, List.length_append]
          omega
        · rw [List.flatten_cons, flat, List.singleton_append]
      · obtain ⟨joined, joinedTurns, joinedFlat⟩ := turns.cons_run basicPart_run passed
        rw [written, List.singleton_append]
        exact ⟨joined, joinedTurns, by rw [joinedFlat, flat]⟩

theorem basicText_writeIn (characters rest : List Char) :
    basicText (writeIn .basic characters ++ rest) = some (String.ofList characters, rest) := by
  obtain ⟨parts, turns, flat⟩ := turns_basicPart characters rest
  have opened : writeIn .basic characters ++ rest =
      '"' :: (characters.flatMap escapeBasic ++ '"' :: rest) := by
    simp [writeIn]
  rw [opened, basicText, bind_of_some (expect_cons _ _), bind_of_some turns.repeated,
    bind_of_some (expect_cons _ rest), flat]
  rfl

/-! ## Literal texts on one line -/

theorem literalText_writeIn (plain : ∀ character ∈ characters, isLiteralCharacter character = true)
    (rest : List Char) :
    literalText (writeIn .literal characters ++ rest) = some (String.ofList characters, rest) := by
  have opened : writeIn .literal characters ++ rest = '\'' :: (characters ++ '\'' :: rest) := by
    simp [writeIn]
  have ends : EndsRun isLiteralCharacter ('\'' :: rest) := endsRun_cons.2 rfl
  rw [opened, literalText, bind_of_some (expect_cons _ _), bind_of_some (run_append plain ends),
    bind_of_some (expect_cons _ rest)]
  rfl

/-! ## Texts of several lines -/

/-- A scanner for the parts of a text of several lines: it takes runs of the characters that stand
for themselves, and neither a quote nor a line feed. -/
structure TakesParts (quote : Char) (passes : Char → Bool) (part : Scan (List Char)) : Prop where
  takesRun : ∀ first others, passes first = true →
    part (first :: others) = some (first :: others.takeWhile passes, others.dropWhile passes)
  failsOn : ∀ first others, first = quote ∨ first = '\n' → part (first :: others) = none
  quote_ne : quote ≠ '\n' ∧ quote ≠ '\r' ∧ quote ≠ '\\'
  passes_ne : ∀ first, passes first = true → first ≠ quote ∧ first ≠ '\n' ∧ first ≠ '\r'

/-- A text of several lines as it is written and as it is meant, where so many quotes stand
directly before. -/
inductive LongBody (quote : Char) (passes : Char → Bool) (part : Scan (List Char)) :
    Nat → List Char → List Char → Prop where
  | done {quotes : Nat} : LongBody quote passes part quotes [] []
  | quote {quotes : Nat} {written text : List Char} (few : quotes < 2)
      (body : LongBody quote passes part (quotes + 1) written text) :
      LongBody quote passes part quotes (quote :: written) (quote :: text)
  | feed {quotes : Nat} {written text : List Char}
      (body : LongBody quote passes part 0 written text) :
      LongBody quote passes part quotes ('\n' :: written) ('\n' :: text)
  | plain {quotes : Nat} {character : Char} {written text : List Char}
      (passed : passes character = true) (body : LongBody quote passes part 0 written text) :
      LongBody quote passes part quotes (character :: written) (character :: text)
  | escape {quotes : Nat} {character : Char} {code written text : List Char}
      (read : ∀ rest, part ('\\' :: (code ++ rest)) = some ([character], rest))
      (body : LongBody quote passes part 0 written text) :
      LongBody quote passes part quotes ('\\' :: (code ++ written)) (character :: text)

/-- What stands between the opening and the closing quotes, part by part. -/
abbrev longPiece (quote : Char) (part : Scan (List Char)) : Scan (List Char) :=
  part <|> lineFeed <|> loneQuotes quote

section Long

variable {passes : Char → Bool} {part : Scan (List Char)}

theorem newline_of_head_ne (noFeed : characters.head? ≠ some '\n')
    (noReturn : characters.head? ≠ some '\r') : newline characters = none := by
  rw [newline, orElse_of_none (expect_cons_of_head_ne noFeed), expect_cons_of_head_ne noReturn]

theorem lineFeed_cons (rest : List Char) : lineFeed ('\n' :: rest) = some (['\n'], rest) := by
  have ended : newline ('\n' :: rest) = some ((), rest) := orElse_of_some (expect_cons _ rest)
  rw [lineFeed, bind_of_some ended]
  rfl

theorem lineFeed_of_head_ne (noFeed : characters.head? ≠ some '\n')
    (noReturn : characters.head? ≠ some '\r') : lineFeed characters = none := by
  rw [lineFeed, bind_of_none (newline_of_head_ne noFeed noReturn)]

theorem all_quotes (quotes : Nat) :
    ∀ character ∈ List.replicate quotes quote, (character == quote) = true := by
  intro character member
  rw [List.eq_of_mem_replicate member, beq_self_eq_true]

theorem loneQuotes_replicate {quotes : Nat} (one : 0 < quotes)
    (ends : EndsRun (· == quote) rest) :
    loneQuotes quote (List.replicate quotes quote ++ rest) =
      if quotes ≤ 2 then some (List.replicate quotes quote, rest) else none := by
  have someQuotes : List.replicate quotes quote ≠ [] := by
    rw [Ne, List.replicate_eq_nil_iff]
    omega
  rw [loneQuotes, bind_of_some (runOfSome_append someQuotes (all_quotes quotes) ends),
    List.length_replicate]
  split <;> rfl

namespace TakesParts

variable (takes : TakesParts quote passes part)

include takes

theorem longPiece_quotes {quotes : Nat} (one : 0 < quotes) (ends : EndsRun (· == quote) rest) :
    longPiece quote part (List.replicate quotes quote ++ rest) =
      if quotes ≤ 2 then some (List.replicate quotes quote, rest) else none := by
  obtain ⟨others, rfl⟩ := Nat.exists_eq_succ_of_ne_zero (Nat.ne_of_gt one)
  rw [← loneQuotes_replicate one ends, List.replicate_succ, List.cons_append, longPiece,
    orElse_of_none (takes.failsOn _ _ (.inl rfl)), orElse_of_none]
  refine lineFeed_of_head_ne ?_ ?_
  · simpa using takes.quote_ne.1
  · simpa using takes.quote_ne.2.1

theorem longPiece_feed (rest : List Char) :
    longPiece quote part ('\n' :: rest) = some (['\n'], rest) := by
  rw [longPiece, orElse_of_none (takes.failsOn _ _ (.inr rfl)), orElse_of_some (lineFeed_cons rest)]

theorem longPiece_run (first : Char) (others : List Char) (passed : passes first = true) :
    longPiece quote part (first :: others) =
      some (first :: others.takeWhile passes, others.dropWhile passes) :=
  orElse_of_some (takes.takesRun first others passed)

end TakesParts

/-- These characters before the closing quotes are taken part by part and mean the text. Quotes at
their end stay before the closing ones. -/
def TakenAs (quote : Char) (part : Scan (List Char)) (rest characters text : List Char) : Prop :=
  ∃ parts trailing, trailing ≤ 2 ∧
    Turns (longPiece quote part) (characters ++ (List.replicate 3 quote ++ rest)) parts
      (List.replicate (trailing + 3) quote ++ rest) ∧
    parts.flatten ++ List.replicate trailing quote = text

namespace TakenAs

variable {text : List Char} (takes : TakesParts quote passes part)

include takes

theorem feed (taken : TakenAs quote part rest characters text) :
    TakenAs quote part rest ('\n' :: characters) ('\n' :: text) := by
  obtain ⟨parts, trailing, small, turns, rfl⟩ := taken
  exact ⟨['\n'] :: parts, trailing, small,
    .again (takes.longPiece_feed _) (Nat.lt_succ_self _) turns, rfl⟩

theorem plain (taken : TakenAs quote part rest characters text)
    (passed : passes character = true) :
    TakenAs quote part rest (character :: characters) (character :: text) := by
  obtain ⟨parts, trailing, small, turns, rfl⟩ := taken
  obtain ⟨joined, joinedTurns, joinedFlat⟩ := turns.cons_run takes.longPiece_run passed
  exact ⟨joined, trailing, small, joinedTurns, by rw [joinedFlat]; rfl⟩

/-- One or two quotes before other characters are a part by themselves. -/
theorem quotes {first : Char} (taken : TakenAs quote part rest (first :: characters) text)
    (other : first ≠ quote) {quotes : Nat} (few : quotes ≤ 2) :
    TakenAs quote part rest (List.replicate quotes quote ++ first :: characters)
      (List.replicate quotes quote ++ text) := by
  obtain ⟨parts, trailing, small, turns, rfl⟩ := taken
  cases quotes with
  | zero => exact ⟨parts, trailing, small, turns, rfl⟩
  | succ others =>
      have ends : EndsRun (· == quote)
          (first :: (characters ++ (List.replicate 3 quote ++ rest))) :=
        endsRun_cons.2 (beq_eq_false_iff_ne.2 other)
      have read := takes.longPiece_quotes (Nat.succ_pos others) ends
      rw [if_pos few] at read
      refine ⟨_ :: parts, trailing, small, ?_, List.append_assoc _ _ _⟩
      rw [List.append_assoc]
      refine .again read ?_ turns
      simp only [List.length_append, List.length_replicate, List.length_cons]
      omega

end TakenAs

theorem TakenAs.escape {code text : List Char} (taken : TakenAs quote part rest characters text)
    (read : ∀ rest, part ('\\' :: (code ++ rest)) = some ([character], rest)) :
    TakenAs quote part rest ('\\' :: (code ++ characters)) (character :: text) := by
  obtain ⟨parts, trailing, small, turns, rfl⟩ := taken
  refine ⟨[character] :: parts, trailing, small, ?_, rfl⟩
  rw [List.cons_append, List.append_assoc]
  refine .again (orElse_of_some (read _)) ?_ turns
  simp only [List.length_cons, List.length_append]
  omega

/-- **A text of several lines is taken part by part.** -/
theorem LongBody.takenAs (takes : TakesParts quote passes part) {quotes : Nat}
    {written text : List Char} (body : LongBody quote passes part quotes written text)
    (few : quotes ≤ 2) (ends : EndsRun (· == quote) rest) :
    TakenAs quote part rest (List.replicate quotes quote ++ written)
      (List.replicate quotes quote ++ text) := by
  induction body with
  | @done quotes =>
      refine ⟨[], quotes, few, ?_, (List.append_nil _).symm⟩
      rw [List.append_nil, ← List.append_assoc, List.replicate_append_replicate]
      refine .stop ?_
      rw [takes.longPiece_quotes (by omega) ends, if_neg (by omega)]
  | @quote quotes written text fewer _ ih =>
      have moved : ∀ more : List Char, List.replicate quotes quote ++ quote :: more =
          List.replicate (quotes + 1) quote ++ more := by
        intro more
        rw [List.replicate_succ', List.append_assoc, List.singleton_append]
      rw [moved, moved]
      exact ih fewer
  | feed _ ih => exact ((ih (Nat.zero_le 2)).feed takes).quotes takes takes.quote_ne.1.symm few
  | plain passed _ ih =>
      exact ((ih (Nat.zero_le 2)).plain takes passed).quotes takes (takes.passes_ne _ passed).1 few
  | escape read _ ih =>
      exact ((ih (Nat.zero_le 2)).escape read).quotes takes takes.quote_ne.2.2.symm few

theorem closingQuotes_replicate {trailing : Nat} (few : trailing ≤ 2)
    (ends : EndsRun (· == quote) rest) :
    closingQuotes quote (List.replicate (trailing + 3) quote ++ rest) =
      some (List.replicate trailing quote, rest) := by
  have count : (decide (3 ≤ trailing + 3) && decide (trailing + 3 ≤ 5)) = true := by
    simp only [Bool.and_eq_true, decide_eq_true_iff]
    omega
  rw [closingQuotes, bind_of_some (run_append (all_quotes _) ends), List.length_replicate,
    if_pos count, List.drop_replicate]
  rfl

/-- A text without line feeds is not taken for one that starts on the next line. -/
theorem LongBody.newline_fails (takes : TakesParts quote passes part) {quotes : Nat}
    {written text : List Char} (body : LongBody quote passes part quotes written text)
    (oneLine : '\n' ∉ text) (rest : List Char) : newline (written ++ quote :: rest) = none := by
  cases body with
  | done | quote =>
      refine newline_of_head_ne ?_ ?_
      · simpa using takes.quote_ne.1
      · simpa using takes.quote_ne.2.1
  | feed => exact absurd List.mem_cons_self oneLine
  | plain passed =>
      refine newline_of_head_ne ?_ ?_
      · simpa using (takes.passes_ne _ passed).2.1
      · simpa using (takes.passes_ne _ passed).2.2
  | escape => exact newline_of_head_ne (by simp) (by simp)

/-- **A text between three quotes is read.** -/
theorem longText_between (takes : TakesParts quote passes part) {written text : List Char}
    (body : LongBody quote passes part 0 written text) (ends : EndsRun (· == quote) rest) :
    longText quote part (between [quote, quote, quote] text written ++ rest) =
      some (String.ofList text, rest) := by
  obtain ⟨parts, trailing, few, turns, flat⟩ := body.takenAs takes (Nat.zero_le 2) ends
  have opened : optional newline ((if text.contains '\n' then ['\n'] else []) ++
      (written ++ ([quote, quote, quote] ++ rest))) =
        some (if text.contains '\n' then some () else none,
          written ++ ([quote, quote, quote] ++ rest)) := by
    split
    · exact optional_of_some (orElse_of_some (expect_cons _ _))
    · next oneLine =>
        refine optional_of_none (body.newline_fails takes ?_ _)
        simpa using oneLine
  rw [between, longText, List.append_assoc, List.append_assoc, List.append_assoc,
    bind_of_some (expect_append _ _), bind_of_some opened]
  show (repeated (longPiece quote part) >>= _ : Scan String)
    (List.replicate 0 quote ++ written ++ (List.replicate 3 quote ++ rest)) = _
  rw [bind_of_some turns.repeated, bind_of_some (closingQuotes_replicate few ends), flat]
  rfl

/-- A text of several lines starts with three quotes. -/
theorem longText_of_short {body : List Char} (start : EndsRun (· == quote) body)
    (ends : EndsRun (· == quote) rest) :
    longText quote part (quote :: (body ++ quote :: rest)) = none := by
  rw [longText, bind_of_none (expect_eq_none ?_)]
  rintro ⟨others, opened⟩
  cases body with
  | nil =>
      obtain rfl : quote :: others = rest := by simpa using opened
      simp at ends
  | cons first more =>
      obtain ⟨rfl, -⟩ : quote = first ∧ quote :: others = more ++ quote :: rest := by
        simpa using opened
      simp at start

end Long

/-! ### With escapes -/

/-- Neither a blank nor a line end is an escape. -/
theorem IsEscape.head {first : Char} {others : List Char}
    (escape : IsEscape (first :: others) character) :
    isBlank first = false ∧ first ≠ '\n' ∧ first ≠ '\r' := by
  have ne_of_fails : ∀ other, escaped (other :: others ++ []) = none → first ≠ other := by
    rintro other fails rfl
    rw [escape []] at fails
    contradiction
  refine ⟨?_, ne_of_fails _ rfl, ne_of_fails _ rfl⟩
  simp [isBlank, ne_of_fails ' ' rfl, ne_of_fails '\t' rfl]

theorem joinedLine_escape {code : List Char} (escape : IsEscape code character)
    (rest : List Char) : joinedLine ('\\' :: (code ++ rest)) = none := by
  cases code with
  | nil => exact absurd ((escape []).symm.trans (rfl : escaped [] = none)) (Option.some_ne_none _)
  | cons first others =>
      obtain ⟨noBlank, noFeed, noReturn⟩ := escape.head
      have ends : EndsRun isBlank (first :: (others ++ rest)) := endsRun_cons.2 noBlank
      have passed : blanks (first :: (others ++ rest)) = some ((), first :: (others ++ rest)) := by
        rw [blanks, bind_of_some (run_of_ends ends)]
        rfl
      rw [joinedLine, bind_of_some (expect_cons _ _), List.cons_append, bind_of_some passed,
        bind_of_none (newline_of_head_ne (by simpa using noFeed) (by simpa using noReturn))]

theorem joinedLine_of_head_ne (noBackslash : characters.head? ≠ some '\\') :
    joinedLine characters = none := by
  rw [joinedLine, bind_of_none (expect_cons_of_head_ne noBackslash)]

theorem takesParts_basic : TakesParts '"' isBasicCharacter (joinedLine <|> basicPart) where
  takesRun first others passed := by
    have noBackslash : (first :: others).head? ≠ some '\\' := by
      simpa using (isBasicCharacter_iff.1 passed).2.2.2
    rw [orElse_of_none (joinedLine_of_head_ne noBackslash), basicPart_run first others passed]
  failsOn first others other := by
    have noBackslash : (first :: others).head? ≠ some '\\' := by
      obtain rfl | rfl := other <;> simp
    have ends : EndsRun isBasicCharacter (first :: others) := by
      obtain rfl | rfl := other <;> exact endsRun_cons.2 rfl
    rw [orElse_of_none (joinedLine_of_head_ne noBackslash), basicPart_of_head_ne noBackslash,
      runOfSome_of_ends ends]
  quote_ne := by decide
  passes_ne first passed := by
    obtain ⟨noControl, noFeed, noQuote, -⟩ := isBasicCharacter_iff.1 passed
    refine ⟨noQuote, noFeed, ?_⟩
    rintro rfl
    exact absurd noControl (by decide)

/-- Every third quote of a run is escaped, and so are the characters that cannot stand for
themselves. -/
theorem longBody_escapeLong (characters : List Char) {quotes : Nat} (few : quotes ≤ 2) :
    LongBody '"' isBasicCharacter (joinedLine <|> basicPart) quotes
      (escapeLong quotes characters) characters := by
  have escaped {code : List Char} {character : Char} (escape : IsEscape code character)
      (rest : List Char) : (joinedLine <|> basicPart : Scan (List Char)) ('\\' :: (code ++ rest)) =
        some ([character], rest) := by
    rw [orElse_of_none (joinedLine_escape escape rest), basicPart_escape escape rest]
  induction characters generalizing quotes with
  | nil => exact .done
  | cons first others ih =>
      rw [escapeLong]
      split
      · next isQuote =>
          subst isQuote
          split
          · exact .escape (escaped (show IsEscape ['"'] '"' from fun _ => rfl)) (ih (Nat.zero_le 2))
          · exact .quote (by omega) (ih (by omega))
      split
      · next isFeed =>
          subst isFeed
          exact .feed (ih (Nat.zero_le 2))
      · next noQuote noFeed =>
          obtain ⟨code, written, escape⟩ | ⟨written, passed⟩ := escapeOther_cases noQuote noFeed
          · rw [written, List.cons_append]
            exact .escape (escaped escape) (ih (Nat.zero_le 2))
          · rw [written]
            exact .plain passed (ih (Nat.zero_le 2))

/-! ### Without escapes -/

theorem takesParts_literal :
    TakesParts '\'' isLiteralCharacter (runOfSome isLiteralCharacter) where
  takesRun first others passed := runOfSome_cons passed others
  failsOn first others other := by
    refine runOfSome_of_ends (endsRun_cons.2 ?_)
    obtain rfl | rfl := other <;> rfl
  quote_ne := by decide
  passes_ne first passed := by
    obtain ⟨noControl, noFeed, noQuote⟩ := isLiteralCharacter_iff.1 passed
    refine ⟨noQuote, noFeed, ?_⟩
    rintro rfl
    exact absurd noControl (by decide)

theorem le_longestRunAfter (character : Char) (current : Nat) (characters : List Char) :
    current ≤ longestRunAfter character current characters := by
  induction characters generalizing current with
  | nil => exact Nat.le_refl current
  | cons first others ih =>
      rw [longestRunAfter]
      split
      · exact Nat.le_of_succ_le (ih (current + 1))
      · exact Nat.le_max_left _ _

theorem longBody_self (characters : List Char) {quotes : Nat}
    (plain : ∀ character ∈ characters, isControl character = false)
    (few : longestRunAfter '\'' quotes characters ≤ 2) :
    LongBody '\'' isLiteralCharacter (runOfSome isLiteralCharacter) quotes characters
      characters := by
  induction characters generalizing quotes with
  | nil => exact .done
  | cons first others ih =>
      obtain ⟨firstPlain, othersPlain⟩ := List.forall_mem_cons.1 plain
      rw [longestRunAfter] at few
      split at few
      · next isQuote =>
          subst isQuote
          have more := le_longestRunAfter '\'' (quotes + 1) others
          exact .quote (by omega) (ih othersPlain few)
      · next noQuote =>
          have rest := ih othersPlain (Nat.le_trans (Nat.le_max_right _ _) few)
          by_cases isFeed : first = '\n'
          · subst isFeed
            exact .feed rest
          · exact .plain (isLiteralCharacter_iff.2 ⟨firstPlain, isFeed, noQuote⟩) rest

/-! ## Texts in their forms -/

theorem formOf_literal (literal : formOf characters = .literal) :
    ∀ character ∈ characters, isLiteralCharacter character = true := by
  simp only [formOf] at literal
  split at literal
  · contradiction
  split at literal
  · next plain =>
      simp only [Bool.and_eq_true, Bool.not_eq_true', List.any_eq_false, List.contains_eq_mem,
        decide_eq_false_iff_not] at plain
      obtain ⟨⟨noControl, oneLine⟩, noQuote⟩ := plain
      intro character member
      refine isLiteralCharacter_iff.2 ⟨Bool.eq_false_iff.2 (noControl character member), ?_, ?_⟩
      · rintro rfl
        exact oneLine member
      · rintro rfl
        exact noQuote member
  · repeat' split at literal
    all_goals contradiction

theorem formOf_longLiteral (longLiteral : formOf characters = .longLiteral) :
    (∀ character ∈ characters, isControl character = false) ∧ longestRun '\'' characters ≤ 2 := by
  simp only [formOf] at longLiteral
  split at longLiteral
  · contradiction
  split at longLiteral
  · contradiction
  split at longLiteral
  · contradiction
  split at longLiteral
  · next runs =>
      simp only [Bool.and_eq_true, Bool.not_eq_true', List.any_eq_false, decide_eq_true_iff] at runs
      exact ⟨fun character member => Bool.eq_false_iff.2 (runs.1 character member), runs.2⟩
  · split at longLiteral <;> contradiction

/-- A text in single quotes does not open with three of them. -/
theorem longText_basic (characters : List Char) (noQuote : EndsRun (· == '"') rest)
    (part : Scan (List Char)) : longText '"' part (writeIn .basic characters ++ rest) = none := by
  have start : EndsRun (· == '"') (characters.flatMap escapeBasic) := by
    cases characters with
    | nil => exact endsRun_nil
    | cons first others =>
        obtain ⟨code, written, -⟩ | ⟨written, passed⟩ := escapeBasic_cases first
        · rw [List.flatMap_cons, written, List.cons_append, endsRun_cons]
          rfl
        · rw [List.flatMap_cons, written, List.singleton_append, endsRun_cons]
          exact beq_eq_false_iff_ne.2 (isBasicCharacter_iff.1 passed).2.2.1
  have opened : writeIn .basic characters ++ rest =
      '"' :: (characters.flatMap escapeBasic ++ '"' :: rest) := by
    simp [writeIn]
  rw [opened, longText_of_short start noQuote]

theorem longText_literal
    (plain : ∀ character ∈ characters, isLiteralCharacter character = true)
    (noApostrophe : EndsRun (· == '\'') rest) (part : Scan (List Char)) :
    longText '\'' part (writeIn .literal characters ++ rest) = none := by
  have start : EndsRun (· == '\'') characters := fun first member =>
    beq_eq_false_iff_ne.2 (isLiteralCharacter_iff.1 (plain first (List.mem_of_head? member))).2.2
  have opened : writeIn .literal characters ++ rest = '\'' :: (characters ++ '\'' :: rest) := by
    simp [writeIn]
  rw [opened, longText_of_short start noApostrophe]

/-- A text that opens with an apostrophe is in none of the forms with quotes. -/
theorem anyText_apostrophe (others : List Char) :
    anyText ('\'' :: others) =
      (longText '\'' (runOfSome isLiteralCharacter) <|> literalText) ('\'' :: others) := by
  have noLong : longText '"' (joinedLine <|> basicPart) ('\'' :: others) = none := by
    rw [longText, bind_of_none (expect_cons_of_head_ne (by simp))]
  have noBasic : basicText ('\'' :: others) = none := by
    rw [basicText, bind_of_none (expect_cons_of_head_ne (by simp))]
  rw [anyText, orElse_of_none noLong, orElse_of_none noBasic]

/-- **A text in its form is read.** What follows must not lengthen a run of quotes. -/
theorem anyText_textValue (text : String) (noQuote : EndsRun (· == '"') rest)
    (noApostrophe : EndsRun (· == '\'') rest) :
    anyText ((textValue text).toList ++ rest) = some (text, rest) := by
  obtain ⟨characters, rfl⟩ : ∃ characters, text = String.ofList characters :=
    ⟨text.toList, String.ofList_toList.symm⟩
  rw [textValue, String.toList_ofList, String.toList_ofList]
  cases form : formOf characters with
  | longBasic =>
      exact orElse_of_some (longText_between takesParts_basic
        (longBody_escapeLong characters (Nat.zero_le 2)) noQuote)
  | basic =>
      rw [anyText, orElse_of_none (longText_basic characters noQuote _)]
      exact orElse_of_some (basicText_writeIn characters rest)
  | longLiteral =>
      obtain ⟨plain, few⟩ := formOf_longLiteral form
      have read := longText_between takesParts_literal (longBody_self characters plain few)
        noApostrophe
      exact (anyText_apostrophe _).trans (orElse_of_some read)
  | literal =>
      have plain := formOf_literal form
      refine (anyText_apostrophe _).trans ?_
      exact (orElse_of_none (longText_literal plain noApostrophe _)).trans
        (literalText_writeIn plain rest)

end TestAmplification.Toml
