import Mathlib.Data.List.Forall2
import TestAmplification.Proofs.Toml.Values

/-!
# Reading the sections that were written

A document of sections, each with its header and its keys, is read as the table of these sections
(`parse?_writeSections`), if every written value denotes a value and neither two headers nor two
keys of a section are the same.

The lines are followed one after another (`Lines`): a line with a key adds an entry to the table
under the last header (`line_entry`), and a header puts that table away and opens an empty one
(`line_header`). What a draft has put away and what stands under its last header are together the
tables that it stands for (`Draft.StandsFor`).
-/

set_option autoImplicit false

namespace TestAmplification.Toml

open Scan

variable {rest : List Char} {draft : Draft}

/-! ## Names -/

/-- A name that needs no quotes. -/
def IsBare (name : String) : Prop :=
  name ≠ "" ∧ name.toList.all isBareCharacter = true

instance (name : String) : Decidable (IsBare name) :=
  inferInstanceAs (Decidable (_ ∧ _))

theorem IsBare.toList_eq {name : String} (bare : IsBare name) : ∃ first others,
    name.toList = first :: others ∧ isBareCharacter first = true := by
  cases characters : name.toList with
  | nil => exact absurd (String.toList_eq_nil_iff.1 characters) bare.1
  | cons first others =>
      refine ⟨first, others, rfl, List.all_eq_true.1 bare.2 first ?_⟩
      rw [characters]
      exact List.mem_cons_self

theorem IsBare.head_ne {name : String} (bare : IsBare name) {mark : Char}
    (noBare : isBareCharacter mark = false) : (name.toList ++ rest).head? ≠ some mark := by
  obtain ⟨first, others, characters, passed⟩ := bare.toList_eq
  rw [characters, List.cons_append, List.head?_cons, Ne, Option.some.injEq]
  rintro rfl
  rw [passed] at noBare
  contradiction

theorem keyName_bare {name : String} (bare : IsBare name) (ends : EndsRun isBareCharacter rest) :
    keyName (name.toList ++ rest) = some (name, rest) := by
  have notEmpty : name.toList ≠ [] := mt String.toList_eq_nil_iff.1 bare.1
  have read : (do return String.ofList (← runOfSome isBareCharacter) : Scan String)
      (name.toList ++ rest) = some (name, rest) := by
    rw [bind_of_some (runOfSome_append notEmpty (List.all_eq_true.1 bare.2) ends),
      String.ofList_toList]
    rfl
  rw [keyName, peek_bind]
  refine (congrFun ?_ _).trans read
  split
  · next isQuote => exact absurd isQuote (bare.head_ne rfl)
  · next isApostrophe => exact absurd isApostrophe (bare.head_ne rfl)
  · rfl

theorem blanks_append (taken : List Char) (allBlank : ∀ blank ∈ taken, isBlank blank = true)
    (ends : EndsRun isBlank rest) : blanks (taken ++ rest) = some ((), rest) := by
  rw [blanks, bind_of_some (run_append allBlank ends)]
  rfl

theorem blanks_of_ends (ends : EndsRun isBlank rest) : Toml.blanks rest = some ((), rest) :=
  blanks_append [] (by simp) ends

theorem isBlank_of_isBareCharacter {character : Char}
    (passed : isBareCharacter character = true) : isBlank character = false := by
  by_contra blank
  simp only [isBlank, Bool.or_eq_true, beq_iff_eq, Bool.not_eq_false] at blank
  obtain rfl | rfl := blank <;> exact absurd passed (by decide)

theorem IsBare.endsRun_isBlank {name : String} (bare : IsBare name) :
    EndsRun isBlank (name.toList ++ rest) := by
  obtain ⟨first, others, characters, passed⟩ := bare.toList_eq
  rw [characters]
  exact endsRun_cons.2 (isBlank_of_isBareCharacter passed)

/-- A bare name is a key, up to the mark that ends it. -/
theorem key_bare {name : String} (bare : IsBare name) (taken : List Char)
    (allBlank : ∀ blank ∈ taken, isBlank blank = true) {mark : Char}
    (isMark : mark = '=' ∨ mark = ']') (rest : List Char) :
    key (name.toList ++ (taken ++ mark :: rest)) = some (([], name), mark :: rest) := by
  have noBlank : EndsRun isBlank (mark :: rest) := by
    obtain rfl | rfl := isMark <;> exact endsRun_cons.2 rfl
  have ends : EndsRun isBareCharacter (taken ++ mark :: rest) := by
    cases taken with
    | nil => obtain rfl | rfl := isMark <;> exact endsRun_cons.2 rfl
    | cons blank others =>
        refine endsRun_cons.2 (Bool.eq_false_iff.2 fun passed => ?_)
        have isBlank := allBlank blank List.mem_cons_self
        rw [isBlank_of_isBareCharacter passed] at isBlank
        contradiction
  have named : spacedName (name.toList ++ (taken ++ mark :: rest)) = some (name, mark :: rest) := by
    rw [spacedName, bind_of_some (blanks_of_ends bare.endsRun_isBlank),
      bind_of_some (keyName_bare bare ends), bind_of_some (blanks_append taken allBlank noBlank)]
    rfl
  have single : Turns (do expect ['.']; spacedName) (mark :: rest) [] (mark :: rest) := by
    refine .stop (bind_of_none (expect_cons_of_head_ne ?_))
    obtain rfl | rfl := isMark <;> simp
  rw [key, bind_of_some named, bind_of_some single.repeated]
  rfl

/-! ## Lines -/

theorem restOfLine_newline (rest : List Char) : restOfLine ('\n' :: rest) = some ((), rest) := by
  have noBlank : EndsRun isBlank ('\n' :: rest) := endsRun_cons.2 rfl
  rw [restOfLine, bind_of_some (blanks_of_ends noBlank),
    bind_of_some (optional_of_none (comment_of_head_ne (by simp)))]
  rfl

theorem line_newline (draft : Draft) (rest : List Char) :
    line draft ('\n' :: rest) = some (draft, rest) :=
  rfl

/-- A value does not start with a blank. -/
theorem Denotes.endsRun_isBlank {written : String} {value : Value}
    (denotes : Denotes written value) : EndsRun isBlank (written.toList ++ '\n' :: rest) := by
  cases characters : written.toList with
  | nil => exact endsRun_cons.2 rfl
  | cons first others =>
      have read := denotes rest
      rw [characters] at read
      refine endsRun_cons.2 (Bool.eq_false_iff.2 fun blank => ?_)
      simp only [isBlank, Bool.or_eq_true, beq_iff_eq] at blank
      have fails : Toml.value (depthLimit - 1) (first :: (others ++ '\n' :: rest)) = none := by
        obtain rfl | rfl := blank <;> rfl
      rw [List.cons_append, fails] at read
      contradiction

/-- A key with its value, as it is written. -/
def entryLine (entry : String × String) : List Char :=
  entry.1.toList ++ ([' '] ++ '=' :: ' ' :: (entry.2.toList ++ ['\n']))

theorem keyWith_entry {entry : String × String} {value : Value} (bare : IsBare entry.1)
    (denotes : Denotes entry.2 value) (rest : List Char) :
    keyWith (Toml.value (depthLimit - 1)) (entryLine entry ++ rest) =
      some ((([], entry.1), value), '\n' :: rest) := by
  have written : entryLine entry ++ rest =
      entry.1.toList ++ ([' '] ++ '=' :: ([' '] ++ (entry.2.toList ++ '\n' :: rest))) := by
    simp [entryLine]
  rw [written, keyWith, bind_of_some (key_bare bare [' '] (by simp [isBlank]) (.inl rfl) _),
    bind_of_some (expect_cons _ _),
    bind_of_some (blanks_append [' '] (by simp [isBlank]) denotes.endsRun_isBlank),
    bind_of_some (denotes rest)]
  rfl

theorem addValue_fresh {key : String} (value : Value) (fresh : draft.current.find? key = none) :
    draft.addValue [] key value =
      some { draft with current := draft.current ++ [(key, .leaf value)] } := by
  have added : draft.current.addValue [] key value =
      some (draft.current ++ [(key, .leaf value)]) := by
    rw [Entries.addValue, Entries.changeAt, fresh]
    rfl
  rw [Draft.addValue, added]
  rfl

/-- A line with a key adds an entry to the table under the last header. -/
theorem line_entry {entry : String × String} {value : Value} (bare : IsBare entry.1)
    (denotes : Denotes entry.2 value) (fresh : draft.current.find? entry.1 = none)
    (rest : List Char) :
    line draft (entryLine entry ++ rest) =
      some ({ draft with current := draft.current ++ [(entry.1, .leaf value)] }, rest) := by
  have noStart {mark : Char} (noBare : isBareCharacter mark = false) (others : List Char) :
      entryLine entry ++ rest ≠ mark :: others := by
    rw [entryLine, List.append_assoc]
    exact fun starts => bare.head_ne noBare (congrArg List.head? starts)
  have read : (do
      let entry ← keyWith (Toml.value (depthLimit - 1))
      restOfLine
      draft.addValue entry.1.1 entry.1.2 entry.2 : Scan Draft) (entryLine entry ++ rest) =
        some ({ draft with current := draft.current ++ [(entry.1, .leaf value)] }, rest) := by
    rw [bind_of_some (keyWith_entry bare denotes rest), bind_of_some (restOfLine_newline rest),
      addValue_fresh value fresh]
    rfl
  rw [line, get_bind]
  refine (congrFun ?_ _).trans read
  split
  · next isComment => exact absurd isComment (noStart rfl _)
  · next isHeader => exact absurd isHeader (noStart rfl _)
  · next isHeader => exact absurd isHeader (noStart rfl _)
  · next isEnd => exact absurd isEnd (noStart rfl _)
  · next isEnd => exact absurd isEnd (noStart rfl _)
  · rfl

theorem line_header {header : String} (bare : IsBare header) (rest : List Char) {opened : Draft}
    (opens : draft.openTable [header] = some opened) :
    line draft ('[' :: (header.toList ++ ']' :: '\n' :: rest)) = some (opened, rest) := by
  have named := key_bare bare [] (by simp) (.inr rfl) ('\n' :: rest)
  rw [List.nil_append] at named
  have read : (do
      expect ['[']
      let name ← key
      expect [']']
      restOfLine
      draft.openTable (name.1 ++ [name.2]) : Scan Draft)
        ('[' :: (header.toList ++ ']' :: '\n' :: rest)) = some (opened, rest) := by
    rw [bind_of_some (expect_cons _ _), bind_of_some named, bind_of_some (expect_cons _ _),
      bind_of_some (restOfLine_newline rest)]
    show (liftM (draft.openTable [header]) : Scan Draft) rest = _
    rw [opens]
    rfl
  rw [← read, line, get_bind]
  obtain ⟨first, others, characters, passed⟩ := bare.toList_eq
  rw [characters, List.cons_append]
  refine congrFun ?_ _
  split
  · next isComment => exact absurd (List.cons.inj isComment).1 (by decide)
  · next isElement =>
      -- a bare name does not start with a bracket
      have bracket : first = '[' := (List.cons.inj (List.cons.inj isElement).2).1
      rw [bracket] at passed
      contradiction
  · rfl
  · next isEnd => exact absurd (List.cons.inj isEnd).1 (by decide)
  · next isEnd => exact absurd (List.cons.inj isEnd).1 (by decide)
  · next noHeader _ _ => exact absurd rfl (noHeader _)

/-! ## Line after line -/

/-- Lines that lead from one draft to another. -/
inductive Lines : Draft → List Char → Draft → Prop where
  | done {draft : Draft} : Lines draft [] draft
  | line {draft next last : Draft} {characters rest : List Char}
      (noBlank : EndsRun isBlank characters) (read : line draft characters = some (next, rest))
      (shorter : rest.length < characters.length) (lines : Lines next rest last) :
      Lines draft characters last

theorem Lines.linesUpTo_eq {characters : List Char} {last : Draft}
    (lines : Lines draft characters last) {count : Nat} (enough : characters.length ≤ count) :
    linesUpTo count draft characters = some (last, []) := by
  induction lines generalizing count with
  | done => cases count <;> rfl
  | @line draft next last characters rest noBlank read shorter lines ih =>
      cases count with
      | zero => exact absurd shorter (by omega)
      | succ count =>
          have more : (do linesUpTo count (← Toml.line draft) : Scan Draft) characters =
              some (last, []) := by
            rw [bind_of_some read, ih (by omega)]
          rw [linesUpTo, bind_of_some (blanks_of_ends noBlank), ← more]
          cases characters with
          | nil => exact absurd shorter (Nat.not_lt_zero _)
          | cons first others => rfl

/-- **The lines of a document** lead from the empty draft to the one that it stands for. -/
theorem parse?_of_lines {text : String} {last : Draft} (lines : Lines {} text.toList last)
    (noMark : text.toList.head? ≠ some '\uFEFF') : parse? text = last.toValue := by
  have read : document text.toList = some (last, []) := by
    rw [document, bind_of_some (optional_of_none (expect_cons_of_head_ne noMark))]
    exact lines.linesUpTo_eq (Nat.le_succ _)
  rw [parse?, whole, read]
  rfl

/-! ## Sections -/

/-- The entries of a table with these values. -/
def leaves (fields : List (String × Value)) : Entries :=
  fields.map fun field => (field.1, .leaf field.2)

/-- A written entry and the key and the value that it stands for. -/
def WrittenAs (entry : String × String) (field : String × Value) : Prop :=
  entry.1 = field.1 ∧ IsBare entry.1 ∧ Denotes entry.2 field.2

theorem lookup_fresh {β : Type} {entries : List (String × β)} {key : String}
    (fresh : key ∉ entries.map Prod.fst) : entries.lookup key = none := by
  rw [List.lookup_eq_none_iff]
  intro entry member
  rw [bne_iff_ne]
  rintro rfl
  exact fresh (List.mem_map_of_mem member)

theorem put_fresh {entries : Entries} {key : String} (fresh : key ∉ entries.map Prod.fst)
    (node : Node) : entries.put key node = entries ++ [(key, node)] := by
  induction entries with
  | nil => rfl
  | cons entry others ih =>
      rw [List.map_cons, List.mem_cons, not_or] at fresh
      rw [Entries.put, if_neg (mt eq_of_beq (Ne.symm fresh.1)), ih fresh.2]
      rfl

theorem lines_entries {entries : List (String × String)} {fields : List (String × Value)}
    (written : List.Forall₂ WrittenAs entries fields)
    (distinct : (draft.current.map Prod.fst ++ fields.map Prod.fst).Nodup) {last : Draft}
    (lines : Lines { draft with current := draft.current ++ leaves fields } rest last) :
    Lines draft (entries.flatMap entryLine ++ rest) last := by
  induction written generalizing draft with
  | nil =>
      rw [leaves, List.map_nil, List.append_nil] at lines
      exact lines
  | @cons entry field entries fields head tail ih =>
      obtain ⟨same, bare, denotes⟩ := head
      have fresh : entry.1 ∉ draft.current.map Prod.fst := fun member =>
        (List.nodup_append.1 distinct).2.2 _ member _ List.mem_cons_self same
      rw [List.flatMap_cons, List.append_assoc]
      refine .line ?_ (line_entry bare denotes (lookup_fresh fresh) _) ?_ (ih ?_ ?_)
      · rw [entryLine, List.append_assoc]
        exact bare.endsRun_isBlank
      · simp only [entryLine, List.length_append, List.length_cons]
        omega
      · rw [List.map_append, same, List.append_assoc]
        exact distinct
      · rw [List.append_assoc, same]
        exact lines

/-- Tables under headers of their own. -/
def openedTables (tables : List (String × List (String × Value))) : Entries :=
  tables.map fun table => (table.1, .table false false (leaves table.2))

theorem keys_openedTables (tables : List (String × List (String × Value))) :
    (openedTables tables).map Prod.fst = tables.map Prod.fst := by
  rw [openedTables, List.map_map]
  rfl

/-- These tables are the document when it ends here. -/
def Draft.StandsFor (draft : Draft) (tables : List (String × List (String × Value))) : Prop :=
  draft.finish = some (openedTables tables)

namespace Draft

variable {tables : List (String × List (String × Value))} {header : String}

/-- The draft under a header, with these entries so far. -/
def under (tables : List (String × List (String × Value))) (header : String)
    (fields : List (String × Value)) : Draft where
  root := openedTables tables
  path := [header]
  current := leaves fields

theorem StandsFor.openTable (stands : draft.StandsFor tables)
    (fresh : header ∉ tables.map Prod.fst) :
    draft.openTable [header] = some (under tables header []) := by
  rw [← keys_openedTables] at fresh
  rw [Draft.openTable, stands, Option.bind_eq_bind, Option.bind_some, nodeAt, Entries.find?,
    lookup_fresh fresh]
  rfl

theorem standsFor_under (fields : List (String × Value)) (fresh : header ∉ tables.map Prod.fst) :
    (under tables header fields).StandsFor (tables ++ [(header, fields)]) := by
  rw [← keys_openedTables] at fresh
  show some ((openedTables tables).put header (.table false false (leaves fields))) = _
  rw [put_fresh fresh, openedTables, openedTables, List.map_append]
  rfl

end Draft

/-- A written section and the table that it stands for. -/
def WrittenSection (written : String × List (String × String))
    (table : String × List (String × Value)) : Prop :=
  written.1 = table.1 ∧ IsBare written.1 ∧ List.Forall₂ WrittenAs written.2 table.2 ∧
    (table.2.map Prod.fst).Nodup

/-- The lines of a section. -/
def sectionLines (written : String × List (String × String)) : List Char :=
  '[' :: (written.1.toList ++ ']' :: '\n' :: written.2.flatMap entryLine)

theorem lines_section {written : String × List (String × String)}
    {table : String × List (String × Value)} {tables : List (String × List (String × Value))}
    (stands : draft.StandsFor tables) (is : WrittenSection written table)
    (fresh : table.1 ∉ tables.map Prod.fst) {last : Draft}
    (lines : Lines (.under tables table.1 table.2) rest last) :
    Lines draft (sectionLines written ++ rest) last := by
  obtain ⟨same, bare, entries, distinct⟩ := is
  have opened : sectionLines written ++ rest =
      '[' :: (written.1.toList ++ ']' :: '\n' :: (written.2.flatMap entryLine ++ rest)) := by
    simp [sectionLines]
  rw [opened]
  refine .line (endsRun_cons.2 rfl) (line_header bare _ (stands.openTable (same ▸ fresh))) ?_ ?_
  · simp only [List.length_cons, List.length_append]
    omega
  · rw [same]
    refine lines_entries entries ?_ ?_
    · exact distinct
    · exact lines

theorem lines_sections {written : List (String × List (String × String))}
    {tables opened : List (String × List (String × Value))}
    (sections : List.Forall₂ WrittenSection written tables) (stands : draft.StandsFor opened)
    (distinct : ((opened ++ tables).map Prod.fst).Nodup) :
    ∃ last, Lines draft (written.flatMap fun part => '\n' :: sectionLines part) last ∧
      last.StandsFor (opened ++ tables) := by
  induction sections generalizing draft opened with
  | nil =>
      rw [List.append_nil]
      exact ⟨draft, .done, stands⟩
  | @cons part table parts tables head tail ih =>
      have fresh : table.1 ∉ opened.map Prod.fst := by
        rw [List.map_append] at distinct
        exact fun member => (List.nodup_append.1 distinct).2.2 _ member _ List.mem_cons_self rfl
      rw [List.append_cons] at distinct ⊢
      obtain ⟨last, lines, standsLast⟩ := ih (Draft.standsFor_under table.2 fresh) distinct
      refine ⟨last, ?_, standsLast⟩
      refine .line (endsRun_cons.2 rfl) (line_newline draft _) (Nat.lt_succ_self _) ?_
      exact lines_section stands head fresh lines

theorem toList_writeSection (written : String × List (String × String)) :
    (writeSection written.1 written.2).toList = sectionLines written := by
  have lines : (written.2.map fun entry => entry.1 ++ " = " ++ entry.2 ++ "\n").flatMap
      String.toList = written.2.flatMap entryLine := by
    simp [List.flatMap_map]
    rfl
  simp [writeSection, sectionLines, lines]

theorem toList_writeSections (first : String × List (String × String))
    (others : List (String × List (String × String))) :
    (writeSections (first :: others)).toList =
      sectionLines first ++ others.flatMap fun part => '\n' :: sectionLines part := by
  induction others generalizing first with
  | nil =>
      rw [writeSections, List.map_cons, List.map_nil, String.intercalate_singleton,
        toList_writeSection, List.flatMap_nil, List.append_nil]
  | cons next others ih =>
      have step : writeSections (first :: next :: others) =
          writeSection first.1 first.2 ++ "\n" ++ writeSections (next :: others) :=
        String.intercalate_cons_cons
      rw [step, String.toList_append, String.toList_append, toList_writeSection, ih,
        List.append_assoc, List.flatMap_cons]
      rfl

theorem entriesToValues_leaves (fields : List (String × Value)) :
    entriesToValues (leaves fields) = fields := by
  induction fields with
  | nil => rfl
  | cons field others ih =>
      rw [leaves, List.map_cons, entriesToValues]
      exact congrArg (field :: ·) ih

theorem entriesToValues_openedTables (tables : List (String × List (String × Value))) :
    entriesToValues (openedTables tables) = tables.map fun table => (table.1, .table table.2) := by
  induction tables with
  | nil => rfl
  | cons table others ih =>
      rw [openedTables, List.map_cons, entriesToValues, Node.toValue, entriesToValues_leaves,
        List.map_cons]
      exact congrArg (_ :: ·) ih

/-- **Sections** are read as the table of these sections. -/
theorem parse?_writeSections {written : List (String × List (String × String))}
    {tables : List (String × List (String × Value))}
    (sections : List.Forall₂ WrittenSection written tables)
    (distinct : (tables.map Prod.fst).Nodup) :
    parse? (writeSections written) =
      some (.table (tables.map fun table => (table.1, .table table.2))) := by
  have empty : Draft.StandsFor {} [] := rfl
  obtain ⟨last, lines, noMark, stands⟩ : ∃ last, Lines {} (writeSections written).toList last ∧
      (writeSections written).toList.head? ≠ some '\uFEFF' ∧ last.StandsFor tables := by
    cases sections with
    | nil => exact ⟨{}, .done, by decide, empty⟩
    | @cons first table others tables head tail =>
        have opened : (Draft.under [] table.1 table.2).StandsFor [table] :=
          Draft.standsFor_under table.2 List.not_mem_nil
        obtain ⟨last, lines, stands⟩ := lines_sections tail opened distinct
        rw [toList_writeSections]
        exact ⟨last, lines_section empty head List.not_mem_nil lines, by simp [sectionLines],
          stands⟩
  rw [parse?_of_lines lines noMark, Draft.toValue, stands, Option.bind_eq_bind, Option.bind_some,
    entriesToValues_openedTables]
  rfl

end TestAmplification.Toml
