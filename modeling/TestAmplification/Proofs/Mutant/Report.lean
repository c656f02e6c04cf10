import Mathlib.Data.List.Forall2
import TestAmplification.Mutant.Report
import TestAmplification.Proofs.Text.Decimal
import TestAmplification.Proofs.Text.Search

/-!
# The grammar of mutation reports

A record is a line that is cut at its first six commas; the text behind the sixth one may hold
commas of its own. It stands for an outcome when its fifth field is the numeral of a number of 32
bits and its sixth field names a state (`Record.StandsFor`). A line that is not blank stands for
one outcome, or it is refused for one reason (`outcomeOf_eq_ok_iff`, `outcomeOf_eq_error_iff`).

A report is read exactly when every line that is not blank is a record, and then its outcomes are
those of the records in their order. Otherwise the first refused line is reported, by its number
among all lines. So what a report says is said line by line: reading two reports one below the
other is reading one after the other (`parse_reads_records`).
-/

set_option autoImplicit false

namespace TestAmplification

open Text (IsNumeral trimChars)

/-! ## States and killing tests -/

namespace MutantState

theorem ofName?_eq_some_iff {name : String} {state : MutantState} :
    ofName? name = some state ↔ state.name = name := by
  constructor
  · intro found
    simpa using List.find?_some found
  · rintro rfl
    exact ofName?_name state

theorem parse_eq_ok_iff {raw : List Char} {state : MutantState} :
    parse (String.ofList raw) = .ok state ↔ trimChars raw = state.name.toList := by
  rw [parse, Text.trim, String.toList_ofList]
  cases found : ofName? (String.ofList (trimChars raw)) with
  | none =>
      refine ⟨by simp, fun same => ?_⟩
      rw [same, String.ofList_toList, ofName?_name] at found
      cases found
  | some known =>
      have same := congrArg String.toList (ofName?_eq_some_iff.1 found)
      rw [String.toList_ofList] at same
      rw [Except.ok.injEq, ← same]
      refine ⟨fun equal => equal ▸ rfl, fun named => ?_⟩
      have sameName := ofName?_eq_some_iff.2 (String.toList_inj.1 named)
      exact Option.some.inj (sameName.symm.trans (ofName?_name state))

theorem parse_eq_error_iff {raw : List Char} {message : String} :
    parse (String.ofList raw) = .error message ↔
      (∀ state : MutantState, trimChars raw ≠ state.name.toList) ∧
        message = "unknown mutant state `" ++ String.ofList (trimChars raw) ++ "`" := by
  cases parsed : parse (String.ofList raw) with
  | ok state =>
      refine ⟨by simp, fun refused => ?_⟩
      exact absurd (parse_eq_ok_iff.1 parsed) (refused.1 state)
  | error text =>
      have unknown : ∀ state : MutantState, trimChars raw ≠ state.name.toList := by
        intro state named
        rw [parse_eq_ok_iff.2 named] at parsed
        cases parsed
      have wording : text = "unknown mutant state `" ++ String.ofList (trimChars raw) ++ "`" := by
        rw [parse, Text.trim, String.toList_ofList] at parsed
        split at parsed
        · cases parsed
        · exact (Except.error.inj parsed).symm
      rw [Except.error.injEq, wording]
      exact ⟨fun same => ⟨unknown, same.symm⟩, fun refused => refused.2.symm⟩

end MutantState

/-- Blanks around the description of a killing test do not count. -/
theorem KillingTest.ofText?_trimChars (raw : List Char) :
    ofText? (String.ofList (trimChars raw)) = ofText? (String.ofList raw) := by
  rw [ofText?, ofText?, String.toList_ofList, String.toList_ofList, Text.trimChars_trimChars]

/-- The error in a report that starts so many lines further down. -/
def MutationReportError.movedDown (lines : Nat) :
    MutationReportError → MutationReportError
  | .malformed number message => .malformed (number + lines) message
  | error => error

namespace MutationReport

/-! ## Records -/

/-- A line that is cut at its first six commas. -/
structure Record where
  /-- The source file. -/
  file : List Char
  /-- The class. -/
  className : List Char
  /-- The operator. -/
  operator : List Char
  /-- The place in the class. -/
  location : List Char
  /-- The source line. -/
  line : List Char
  /-- The state. -/
  state : List Char
  /-- What follows the sixth comma, if there is one. -/
  killingTest : Option (List Char)

namespace Record

/-- The fields in front of the sixth comma. -/
def front (record : Record) : List (List Char) :=
  [record.file, record.className, record.operator, record.location, record.line, record.state]

/-- All fields. -/
def fields (record : Record) : List (List Char) :=
  record.front ++ record.killingTest.toList

/-- The record is the line: its fields with commas between them give the line, and none of the
fields in front of the sixth comma holds one. -/
structure IsLine (record : Record) (line : List Char) : Prop where
  joined : [','].intercalate record.fields = line
  noComma : ∀ field ∈ record.front, ',' ∉ field

/-- The record stands for the outcome. Blanks around the fields do not count. -/
structure StandsFor (record : Record) (outcome : MutantOutcome) : Prop where
  operator : outcome.mutant.operator = String.ofList (trimChars record.operator)
  className : outcome.mutant.className = String.ofList (trimChars record.className)
  location : outcome.mutant.location = String.ofList (trimChars record.location)
  line : IsNumeral (trimChars record.line) outcome.mutant.line.toNat
  state : trimChars record.state = outcome.state.name.toList
  killingTest : outcome.killingTest =
    record.killingTest.bind fun raw => KillingTest.ofText? (String.ofList raw)

theorem isLine_iff {record : Record} {line : List Char} :
    record.IsLine line ↔ Text.fields ',' separators line = record.fields := by
  have front : record.fields.take separators = record.front := by
    simp [separators, fields, Record.front]
  have few : record.fields.length ≤ separators + 1 := by
    cases killer : record.killingTest <;> simp [fields, Record.front, killer, separators]
  rw [Text.fields_eq_iff]
  constructor
  · rintro ⟨joined, noComma⟩
    exact ⟨by simp [fields, Record.front], few, front ▸ noComma, joined⟩
  · intro areFields
    exact ⟨areFields.joined, front ▸ areFields.absent⟩

/-- A text of at least six fields is a record. -/
theorem exists_isLine {line : List Char} (enough : 6 ≤ (Text.fields ',' separators line).length) :
    ∃ record : Record, record.IsLine line := by
  have few := (@Text.areFields_fields ',' separators line).few
  simp only [isLine_iff]
  generalize Text.fields ',' separators line = parts at enough few
  rcases parts with _ | ⟨file, _ | ⟨className, _ | ⟨operator, _ | ⟨location, _ | ⟨number,
    _ | ⟨state, rest⟩⟩⟩⟩⟩⟩
  case cons.cons.cons.cons.cons.cons =>
    rcases rest with _ | ⟨killer, _ | ⟨more, others⟩⟩
    · exact ⟨⟨file, className, operator, location, number, state, none⟩, rfl⟩
    · exact ⟨⟨file, className, operator, location, number, state, some killer⟩, rfl⟩
    · simp only [separators, List.length_cons] at few
      omega
  all_goals simp at enough

end Record

/-- The line is a record of the outcome. -/
def IsRecordOf (line : List Char) (outcome : MutantOutcome) : Prop :=
  ∃ record : Record, record.IsLine line ∧ record.StandsFor outcome

/-- The line is no record, for a reason that the message gives: it has too few fields, its fifth
field is no number of 32 bits, or its sixth field is no state. -/
inductive IsRefused (line : List Char) : String → Prop where
  | fewFields {fields : List (List Char)} (some : fields ≠ [])
      (joined : [','].intercalate fields = line) (noComma : ∀ field ∈ fields, ',' ∉ field)
      (few : fields.length < 6) :
      IsRefused line ("expected at least 6 fields, found " ++ Text.decimal fields.length)
  | noNumber {record : Record} (isLine : record.IsLine line)
      (noNumeral : ∀ number < UInt32.size, ¬ IsNumeral (trimChars record.line) number) :
      IsRefused line ("invalid line number `" ++ String.ofList (trimChars record.line) ++ "`")
  | noState {record : Record} {number : Nat} (isLine : record.IsLine line)
      (small : number < UInt32.size) (numeral : IsNumeral (trimChars record.line) number)
      (unknown : ∀ state : MutantState, trimChars record.state ≠ state.name.toList) :
      IsRefused line ("unknown mutant state `" ++ String.ofList (trimChars record.state) ++ "`")

/-- What the fields of a record say, without the blanks around them. -/
theorem outcomeOf_fieldsOf {record : Record} {line : List Char} (isLine : record.IsLine line) :
    outcomeOf (fieldsOf line) =
      match Text.word32? (trimChars record.line) with
      | none => .error ("invalid line number `" ++ String.ofList (trimChars record.line) ++ "`")
      | some number =>
          match MutantState.parse (String.ofList (trimChars record.state)) with
          | .error message => .error message
          | .ok state => .ok {
              mutant := {
                operator := String.ofList (trimChars record.operator)
                className := String.ofList (trimChars record.className)
                location := String.ofList (trimChars record.location)
                line := number }
              state
              killingTest :=
                record.killingTest.bind fun raw => KillingTest.ofText? (String.ofList raw) } := by
  have killer : ((record.killingTest.toList.map trimChars).head?.bind fun raw =>
      KillingTest.ofText? (String.ofList raw)) =
        record.killingTest.bind fun raw => KillingTest.ofText? (String.ofList raw) := by
    cases record.killingTest with
    | none => rfl
    | some raw =>
        rw [Option.toList_some, List.map_singleton, List.head?_cons, Option.bind_some,
          Option.bind_some, KillingTest.ofText?_trimChars]
  have trimmed : fieldsOf line =
      trimChars record.file :: trimChars record.className :: trimChars record.operator ::
        trimChars record.location :: trimChars record.line :: trimChars record.state ::
          record.killingTest.toList.map trimChars := by
    simp only [fieldsOf, Record.isLine_iff.1 isLine, Record.fields, Record.front,
      List.cons_append, List.nil_append, List.map_cons]
  cases read : Text.word32? (trimChars record.line) with
  | none => simp only [trimmed, outcomeOf, read]
  | some number =>
      cases parsed : MutantState.parse (String.ofList (trimChars record.state)) with
      | error message => simp only [trimmed, outcomeOf, read, parsed]
      | ok state => simp only [trimmed, outcomeOf, read, parsed, killer]

theorem outcomeOf_of_isRecordOf {line : List Char} {outcome : MutantOutcome}
    (isRecordOf : IsRecordOf line outcome) : outcomeOf (fieldsOf line) = .ok outcome := by
  obtain ⟨record, isLine, standsFor⟩ := isRecordOf
  have state := (@MutantState.parse_eq_ok_iff (trimChars record.state) _).2
    ((Text.trimChars_trimChars _).trans standsFor.state)
  rw [outcomeOf_fieldsOf isLine, Text.word32?_eq_some_iff.2 standsFor.line]
  simp only [state, ← standsFor.operator, ← standsFor.className, ← standsFor.location,
    ← standsFor.killingTest]

theorem outcomeOf_of_isRefused {line : List Char} {message : String}
    (isRefused : IsRefused line message) : outcomeOf (fieldsOf line) = .error message := by
  cases isRefused with
  | @fewFields fields some joined noComma few =>
      have cut : Text.fields ',' separators line = fields :=
        Text.fields_eq_iff.2 ⟨some, by simp only [separators]; omega,
          fun field member => noComma field (List.mem_of_mem_take member), joined⟩
      rw [fieldsOf, cut, outcomeOf.eq_def]
      split
      · next fits =>
          have := congrArg List.length fits
          simp at this
          omega
      · rw [List.length_map]
  | noNumber isLine noNumeral =>
      rw [outcomeOf_fieldsOf isLine, Text.word32?_eq_none_iff.2 noNumeral]
  | @noState record number isLine small numeral unknown =>
      have read : Text.word32? (trimChars record.line) = some (UInt32.ofNat number) :=
        Text.word32?_eq_some_iff.2 (by rwa [UInt32.toNat_ofNat_of_lt' small])
      have state := (@MutantState.parse_eq_error_iff (trimChars record.state) _).2
        ⟨by simpa only [Text.trimChars_trimChars] using unknown, rfl⟩
      rw [outcomeOf_fieldsOf isLine, read]
      simp only [state, Text.trimChars_trimChars]

/-- **Every line is a record or refused.** -/
theorem isRecordOf_or_isRefused (line : List Char) :
    (∃ outcome, IsRecordOf line outcome) ∨ ∃ message, IsRefused line message := by
  by_cases enough : 6 ≤ (Text.fields ',' separators line).length
  · obtain ⟨record, isLine⟩ := Record.exists_isLine enough
    cases read : Text.word32? (trimChars record.line) with
    | none => exact .inr ⟨_, .noNumber isLine (Text.word32?_eq_none_iff.1 read)⟩
    | some number =>
        have numeral := Text.word32?_eq_some_iff.1 read
        by_cases known : ∃ state : MutantState, trimChars record.state = state.name.toList
        · obtain ⟨state, named⟩ := known
          exact .inl ⟨⟨⟨_, _, _, number⟩, state, _⟩, record, isLine,
            ⟨rfl, rfl, rfl, numeral, named, rfl⟩⟩
        · exact .inr ⟨_, .noState isLine number.toNat_lt numeral (not_exists.1 known)⟩
  · have areFields := @Text.areFields_fields ',' separators line
    rw [Nat.not_le] at enough
    have all : (Text.fields ',' separators line).take separators =
        Text.fields ',' separators line := List.take_of_length_le (Nat.le_of_lt enough)
    exact .inr ⟨_, .fewFields areFields.some areFields.joined (all ▸ areFields.absent) enough⟩

theorem outcomeOf_eq_ok_iff {line : List Char} {outcome : MutantOutcome} :
    outcomeOf (fieldsOf line) = .ok outcome ↔ IsRecordOf line outcome := by
  refine ⟨fun read => ?_, outcomeOf_of_isRecordOf⟩
  rcases isRecordOf_or_isRefused line with ⟨other, isRecordOf⟩ | ⟨message, isRefused⟩
  · have same := outcomeOf_of_isRecordOf isRecordOf
    rw [read] at same
    exact Except.ok.inj same ▸ isRecordOf
  · rw [outcomeOf_of_isRefused isRefused] at read
    cases read

theorem outcomeOf_eq_error_iff {line : List Char} {message : String} :
    outcomeOf (fieldsOf line) = .error message ↔ IsRefused line message := by
  refine ⟨fun refused => ?_, outcomeOf_of_isRefused⟩
  rcases isRecordOf_or_isRefused line with ⟨outcome, isRecordOf⟩ | ⟨other, isRefused⟩
  · rw [outcomeOf_of_isRecordOf isRecordOf] at refused
    cases refused
  · have same := outcomeOf_of_isRefused isRefused
    rw [refused] at same
    exact Except.error.inj same ▸ isRefused

/-- The line has the form of a record: six fields at least, a number of 32 bits in the fifth place
and the name of a state in the sixth. -/
def IsRecord (line : List Char) : Prop :=
  ∃ record : Record, record.IsLine line ∧
    (∃ number < UInt32.size, IsNumeral (trimChars record.line) number) ∧
    ∃ state : MutantState, trimChars record.state = state.name.toList

theorem isRecord_iff {line : List Char} : IsRecord line ↔ ∃ outcome, IsRecordOf line outcome := by
  constructor
  · rintro ⟨record, isLine, ⟨number, small, numeral⟩, state, named⟩
    refine ⟨⟨⟨_, _, _, UInt32.ofNat number⟩, state, _⟩, record, isLine,
      ⟨rfl, rfl, rfl, ?_, named, rfl⟩⟩
    rwa [UInt32.toNat_ofNat_of_lt' small]
  · rintro ⟨outcome, record, isLine, standsFor⟩
    exact ⟨record, isLine, ⟨_, outcome.mutant.line.toNat_lt, standsFor.line⟩, _, standsFor.state⟩

theorem not_isRecord_iff {line : List Char} :
    ¬ IsRecord line ↔ ∃ message, IsRefused line message := by
  rw [isRecord_iff]
  constructor
  · exact (isRecordOf_or_isRefused line).resolve_left
  · rintro ⟨message, isRefused⟩ ⟨outcome, isRecordOf⟩
    have read := outcomeOf_of_isRecordOf isRecordOf
    rw [outcomeOf_of_isRefused isRefused] at read
    cases read

/-! ## Lines one after the other -/

/-- Nothing but blanks is in the line. -/
abbrev isEmptyLine (line : List Char) : Bool :=
  line.all Text.isBlank

theorem isBlankLine_eq (line : List Char) : isBlankLine line = isEmptyLine line := by
  rw [Bool.eq_iff_iff, isBlankLine, List.isEmpty_iff, Text.trimChars_eq_nil_iff, List.all_eq_true]
  rfl

variable {number : Nat} {line : List Char}

theorem outcomesFrom_cons_of_empty (isEmpty : isEmptyLine line = true) (rest : List (List Char)) :
    outcomesFrom number (line :: rest) = outcomesFrom (number + 1) rest := by
  rw [outcomesFrom, isBlankLine_eq, if_pos isEmpty]

theorem outcomesFrom_cons_of_isRecordOf {outcome : MutantOutcome}
    (notEmpty : ¬ isEmptyLine line = true) (isRecordOf : IsRecordOf line outcome)
    (rest : List (List Char)) :
    outcomesFrom number (line :: rest) = (outcomesFrom (number + 1) rest).map (outcome :: ·) := by
  rw [outcomesFrom, isBlankLine_eq, if_neg notEmpty, outcomeOf_of_isRecordOf isRecordOf]

theorem outcomesFrom_cons_of_isRefused {message : String} (notEmpty : ¬ isEmptyLine line = true)
    (isRefused : IsRefused line message) (rest : List (List Char)) :
    outcomesFrom number (line :: rest) = .error (.malformed number message) := by
  rw [outcomesFrom, isBlankLine_eq, if_neg notEmpty, outcomeOf_of_isRefused isRefused]

/-- **One outcome for each record.** Lines are read exactly when all that are not blank are records;
the outcomes are those of the records in their order. -/
theorem outcomesFrom_eq_ok_iff {lines : List (List Char)} {outcomes : List MutantOutcome} :
    outcomesFrom number lines = .ok outcomes ↔
      List.Forall₂ IsRecordOf (lines.filter fun line => !isEmptyLine line) outcomes := by
  induction lines generalizing number outcomes with
  | nil =>
      rw [outcomesFrom, Except.ok.injEq, List.filter_nil, List.forall₂_nil_left_iff]
      exact eq_comm
  | cons line rest ih =>
      by_cases isEmpty : isEmptyLine line = true
      · rw [outcomesFrom_cons_of_empty isEmpty, ih, List.filter_cons_of_neg (by simp [isEmpty])]
      rw [List.filter_cons_of_pos (by simpa using isEmpty), List.forall₂_cons_left_iff]
      rcases isRecordOf_or_isRefused line with ⟨outcome, isRecordOf⟩ | ⟨message, isRefused⟩
      · rw [outcomesFrom_cons_of_isRecordOf isEmpty isRecordOf]
        constructor
        · intro read
          cases later : outcomesFrom (number + 1) rest with
          | error error =>
              rw [later] at read
              cases read
          | ok others =>
              rw [later] at read
              exact ⟨outcome, others, isRecordOf, ih.1 later, (Except.ok.inj read).symm⟩
        · rintro ⟨first, others, isRecordOfFirst, later, rfl⟩
          have same := outcomeOf_of_isRecordOf isRecordOf
          rw [outcomeOf_of_isRecordOf isRecordOfFirst] at same
          rw [ih.2 later, Except.ok.inj same]
          rfl
      · rw [outcomesFrom_cons_of_isRefused isEmpty isRefused]
        refine ⟨by simp, ?_⟩
        rintro ⟨outcome, others, isRecordOf, -⟩
        exact absurd (isRecord_iff.2 ⟨outcome, isRecordOf⟩)
          (not_isRecord_iff.2 ⟨message, isRefused⟩)

/-- **Lines are read exactly when** all that are not blank are records. -/
theorem exists_outcomesFrom_iff {lines : List (List Char)} :
    (∃ outcomes, outcomesFrom number lines = .ok outcomes) ↔
      ∀ line ∈ lines, isEmptyLine line = true ∨ IsRecord line := by
  simp only [outcomesFrom_eq_ok_iff]
  have pairs : ∀ records : List (List Char),
      (∃ outcomes, List.Forall₂ IsRecordOf records outcomes) ↔
        ∀ line ∈ records, IsRecord line := by
    intro records
    induction records with
    | nil => exact ⟨by simp, fun _ => ⟨[], .nil⟩⟩
    | cons line rest ih =>
        rw [List.forall_mem_cons, ← ih, isRecord_iff]
        constructor
        · rintro ⟨_, isRecordOf | ⟨isRecordOf, later⟩⟩
          exact ⟨⟨_, isRecordOf⟩, _, later⟩
        · rintro ⟨⟨outcome, isRecordOf⟩, outcomes, later⟩
          exact ⟨outcome :: outcomes, .cons isRecordOf later⟩
  rw [pairs]
  simp only [List.mem_filter, Bool.not_eq_true', and_imp, or_iff_not_imp_left, Bool.not_eq_true]

/-- **Lines below other lines** are read after them, with the numbers that they have there. -/
theorem outcomesFrom_append (front rest : List (List Char)) :
    outcomesFrom number (front ++ rest) =
      (outcomesFrom number front).bind fun outcomes =>
        (outcomesFrom (number + front.length) rest).map (outcomes ++ ·) := by
  induction front generalizing number with
  | nil =>
      rw [List.nil_append, outcomesFrom]
      cases outcomesFrom number rest <;> simp [Except.bind, Except.map]
  | cons line front ih =>
      have further : number + (line :: front).length = number + 1 + front.length := by
        rw [List.length_cons]
        omega
      rw [List.cons_append, further]
      by_cases isEmpty : isEmptyLine line = true
      · rw [outcomesFrom_cons_of_empty isEmpty, outcomesFrom_cons_of_empty isEmpty, ih]
      rcases isRecordOf_or_isRefused line with ⟨outcome, isRecordOf⟩ | ⟨message, isRefused⟩
      · rw [outcomesFrom_cons_of_isRecordOf isEmpty isRecordOf,
          outcomesFrom_cons_of_isRecordOf isEmpty isRecordOf, ih]
        cases outcomesFrom (number + 1) front with
        | error error => rfl
        | ok outcomes => cases outcomesFrom (number + 1 + front.length) rest <;> rfl
      · rw [outcomesFrom_cons_of_isRefused isEmpty isRefused,
          outcomesFrom_cons_of_isRefused isEmpty isRefused]
        rfl

theorem outcomesFrom_add (moved : Nat) (lines : List (List Char)) :
    outcomesFrom (number + moved) lines =
      (outcomesFrom number lines).mapError (MutationReportError.movedDown moved) := by
  induction lines generalizing number with
  | nil => rfl
  | cons line rest ih =>
      have next : number + moved + 1 = number + 1 + moved := by omega
      by_cases isEmpty : isEmptyLine line = true
      · rw [outcomesFrom_cons_of_empty isEmpty, outcomesFrom_cons_of_empty isEmpty, next, ih]
      rcases isRecordOf_or_isRefused line with ⟨outcome, isRecordOf⟩ | ⟨message, isRefused⟩
      · rw [outcomesFrom_cons_of_isRecordOf isEmpty isRecordOf,
          outcomesFrom_cons_of_isRecordOf isEmpty isRecordOf, next, ih]
        cases outcomesFrom (number + 1) rest <;> rfl
      · rw [outcomesFrom_cons_of_isRefused isEmpty isRefused,
          outcomesFrom_cons_of_isRefused isEmpty isRefused]
        rfl

/-! ## The first refused line -/

/-- The line with this number, counted from one, is the first that is neither blank nor a record,
and the message says why it is refused. -/
def FirstRefused (lines : List (List Char)) (number : Nat) (message : String) : Prop :=
  ∃ before line after, lines = before ++ line :: after ∧ number = before.length + 1 ∧
    (∀ earlier ∈ before, isEmptyLine earlier = true ∨ IsRecord earlier) ∧
    isEmptyLine line = false ∧ IsRefused line message

theorem outcomesFrom_of_firstRefused {lines : List (List Char)} {message : String}
    (firstRefused : FirstRefused lines number message) :
    outcomesFrom 1 lines = .error (.malformed number message) := by
  obtain ⟨before, line, after, rfl, rfl, earlier, notEmpty, isRefused⟩ := firstRefused
  obtain ⟨outcomes, read⟩ := exists_outcomesFrom_iff.2 earlier
  rw [outcomesFrom_append, read, outcomesFrom_cons_of_isRefused (by simp [notEmpty]) isRefused,
    Nat.add_comm]
  rfl

/-- All lines are blank or records, or there is a first one that is not. -/
theorem read_or_firstRefused (lines : List (List Char)) :
    (∀ line ∈ lines, isEmptyLine line = true ∨ IsRecord line) ∨
      ∃ number message, FirstRefused lines number message := by
  induction lines with
  | nil => exact .inl (by simp)
  | cons line rest ih =>
      by_cases here : isEmptyLine line = true ∨ IsRecord line
      · refine ih.imp (fun later => List.forall_mem_cons.2 ⟨here, later⟩) ?_
        rintro ⟨_, message, before, refused, after, rfl, rfl, earlier, notEmpty, isRefused⟩
        exact ⟨_, message, line :: before, refused, after, rfl, rfl,
          List.forall_mem_cons.2 ⟨here, earlier⟩, notEmpty, isRefused⟩
      · obtain ⟨notEmpty, noRecord⟩ := not_or.1 here
        obtain ⟨message, isRefused⟩ := not_isRecord_iff.1 noRecord
        exact .inr ⟨1, message, [], line, rest, rfl, rfl, by simp, by simpa using notEmpty,
          isRefused⟩

/-- **The first refused line** is what is reported. -/
theorem outcomesFrom_eq_error_iff {lines : List (List Char)} {error : MutationReportError} :
    outcomesFrom 1 lines = .error error ↔
      ∃ number message, error = .malformed number message ∧ FirstRefused lines number message := by
  constructor
  · intro failed
    rcases read_or_firstRefused lines with read | ⟨number, message, firstRefused⟩
    · obtain ⟨outcomes, read⟩ := exists_outcomesFrom_iff.2 read
      rw [failed] at read
      cases read
    · have same := outcomesFrom_of_firstRefused firstRefused
      rw [failed] at same
      exact ⟨number, message, Except.error.inj same, firstRefused⟩
  · rintro ⟨number, message, rfl, firstRefused⟩
    exact outcomesFrom_of_firstRefused firstRefused

/-! ## Reports one below the other -/

/-- A carriage return at the end of a line makes no difference. -/
theorem outcomesFrom_carriageReturn (line : List Char) :
    outcomesFrom number [line ++ ['\r']] = outcomesFrom number [line] := by
  have isBlank : Text.isBlank '\r' = true := by decide
  have sameFields : fieldsOf (line ++ ['\r']) = fieldsOf line :=
    Text.map_trimChars_fields_append isBlank (by decide) separators line
  have sameBlank : isBlankLine (line ++ ['\r']) = isBlankLine line :=
    congrArg List.isEmpty (Text.trimChars_append_blank isBlank line)
  simp only [outcomesFrom, sameFields, sameBlank]

/-- The line feed behind a report makes no difference to it. -/
theorem parse_append_newLine (content : String) :
    outcomesFrom 1 (Text.lineChars (content.toList ++ ['\n'])) = parse content := by
  rw [parse]
  rcases Text.lineChars_append_feed content.toList with same | empty | ⟨front, line, last, cut⟩
  · rw [same]
  · have nothing : ∀ number, outcomesFrom number [[]] = .ok [] := fun number => rfl
    rw [empty, outcomesFrom_append, nothing]
    cases outcomesFrom 1 (Text.lineChars content.toList) with
    | error error => rfl
    | ok outcomes => simp [Except.bind, Except.map]
  · rw [last, cut, outcomesFrom_append, outcomesFrom_append]
    simp only [outcomesFrom_carriageReturn]

/-- **Reading a report.** A report is read exactly when every line that is not blank is a record,
and then it has one outcome for each record, in order. Otherwise the first line that is refused is
reported, with its number among all lines and the reason. A report below another one is read after
it; its errors are as many lines further down as stand above it. -/
theorem parse_reads_records (content : String) :
    ((∃ outcomes, parse content = .ok outcomes) ↔
      ∀ line ∈ Text.lineChars content.toList, isEmptyLine line = true ∨ IsRecord line) ∧
    (∀ outcomes, parse content = .ok outcomes ↔
      List.Forall₂ IsRecordOf
        ((Text.lineChars content.toList).filter fun line => !isEmptyLine line) outcomes) ∧
    (∀ error, parse content = .error error ↔
      ∃ number message, error = .malformed number message ∧
        FirstRefused (Text.lineChars content.toList) number message) ∧
    ∀ second, parse (content ++ "\n" ++ second) =
      (parse content).bind fun outcomes =>
        ((parse second).mapError (MutationReportError.movedDown
          (Text.lineChars (content ++ "\n").toList).length)).map (outcomes ++ ·) := by
  refine ⟨exists_outcomesFrom_iff, fun _ => outcomesFrom_eq_ok_iff,
    fun _ => outcomesFrom_eq_error_iff, fun second => ?_⟩
  have apart : (content ++ "\n" ++ second).toList = content.toList ++ '\n' :: second.toList := by
    simp
  have above : (content ++ "\n").toList = content.toList ++ ['\n'] := by simp
  rw [parse, apart, Text.lineChars_append_newLine, outcomesFrom_append, parse_append_newLine, above,
    outcomesFrom_add, ← parse]

end MutationReport

end TestAmplification
