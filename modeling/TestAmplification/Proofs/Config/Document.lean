import TestAmplification.Proofs.Config.Fields
import TestAmplification.Proofs.Toml.Sections

/-!
# Configurations survive their documents

A section of a configuration is a list of slots (`Slot`): a key for every field, with what is
written there and the value that it denotes when the field is chosen. The document of a
configuration holds what is written in its slots (`sections_eq`), it is read as the table of their
values, and this table is read as the configuration (`ofValue?_table`).

So a configuration is written, unless a number exceeds the format, and it is read back with every
field as it was, whatever characters its texts hold (`toToml_round_trips`).
-/

set_option autoImplicit false

namespace TestAmplification.Config

open Toml (Value Denotes IsBare WrittenAs WrittenSection)

/-! ## Slots -/

/-- A key of a section, with what is written under it and the value that this denotes. -/
abbrev Slot := String × Option (String × Value)

namespace Slot

/-- The written entries of slots. -/
def entries (slots : List Slot) : List (String × String) :=
  slots.filterMap fun slot => slot.2.map fun content => (slot.1, content.1)

/-- The values in slots. -/
def values (slots : List Slot) : List (String × Value) :=
  slots.filterMap fun slot => slot.2.map fun content => (slot.1, content.2)

/-- The slot of a field that is written if it is chosen. -/
def ofChoice {α : Type} (key : String) (write : α → String) (value : α → Value)
    (choice : Option α) : Slot :=
  (key, choice.map fun chosen => (write chosen, value chosen))

/-- The slot of a text. -/
def ofText (key : String) (choice : Option String) : Slot :=
  ofChoice key Toml.textValue .text choice

/-- The slot of a list of texts, which is always written. -/
def ofList (key : String) (texts : List String) : Slot :=
  (key, some (Toml.listValue texts, .array (texts.map .text)))

/-- The slot of a number. -/
def ofWord64 (key : String) (choice : Option UInt64) : Slot :=
  ofChoice key writeWord64 (fun number => .integer number.toNat) choice

/-- The key needs no quotes, and what is written denotes the value. -/
def Readable (slot : Slot) : Prop :=
  IsBare slot.1 ∧ ∀ content, slot.2 = some content → Denotes content.1 content.2

variable {α : Type} {key : String}

theorem readable_ofChoice {write : α → String} {value : α → Value} (choice : Option α)
    (bare : IsBare key) (denotes : ∀ chosen, choice = some chosen →
      Denotes (write chosen) (value chosen)) : Readable (ofChoice key write value choice) := by
  refine ⟨bare, fun content isContent => ?_⟩
  obtain ⟨chosen, isChosen, rfl⟩ := Option.map_eq_some_iff.1 isContent
  exact denotes chosen isChosen

theorem readable_ofText (bare : IsBare key) (choice : Option String) :
    Readable (ofText key choice) :=
  readable_ofChoice choice bare fun chosen _ => Toml.denotes_textValue chosen

theorem readable_ofList (bare : IsBare key) (texts : List String) :
    Readable (ofList key texts) := by
  refine ⟨bare, fun content isContent => ?_⟩
  obtain rfl := Option.some.inj isContent
  exact Toml.denotes_listValue texts

theorem readable_ofWord64 (bare : IsBare key) {choice : Option UInt64}
    (small : ∀ number, choice = some number → number.toNat ≤ Text.greatestSigned64) :
    Readable (ofWord64 key choice) :=
  readable_ofChoice choice bare fun number isChosen => Toml.denotes_decimal (small number isChosen)

theorem entries_ofChoice_cons (key : String) (write : α → String) (value : α → Value)
    (choice : Option α) (others : List Slot) :
    entries (ofChoice key write value choice :: others) =
      entry key write choice ++ entries others := by
  cases choice <;> rfl

theorem entries_ofList_cons (key : String) (texts : List String) (others : List Slot) :
    entries (ofList key texts :: others) = [(key, Toml.listValue texts)] ++ entries others :=
  rfl

theorem writtenAs_values {slots : List Slot} (readable : ∀ slot ∈ slots, Readable slot) :
    List.Forall₂ WrittenAs (entries slots) (values slots) := by
  induction slots with
  | nil => exact .nil
  | cons slot others ih =>
      obtain ⟨first, rest⟩ := List.forall_mem_cons.1 readable
      obtain ⟨key, content⟩ := slot
      cases content with
      | none => exact ih rest
      | some content => exact .cons ⟨rfl, first.1, first.2 content rfl⟩ (ih rest)

theorem keys_values_sublist (slots : List Slot) :
    ((values slots).map Prod.fst).Sublist (slots.map Prod.fst) := by
  induction slots with
  | nil => exact .slnil
  | cons slot others ih =>
      obtain ⟨key, content⟩ := slot
      cases content with
      | none => exact ih.cons key
      | some content => exact ih.cons_cons key

theorem lookup_values {slots : List Slot} (distinct : (slots.map Prod.fst).Nodup) {slot : Slot}
    (member : slot ∈ slots) : (values slots).lookup slot.1 = slot.2.map Prod.snd := by
  induction slots with
  | nil => exact absurd member List.not_mem_nil
  | cons head others ih =>
      obtain ⟨key, content⟩ := head
      obtain ⟨fresh, distinctOthers⟩ := List.nodup_cons.1 distinct
      obtain rfl | member := List.mem_cons.1 member
      · cases content with
        | none =>
            exact Toml.lookup_fresh fun found =>
              fresh ((keys_values_sublist others).subset found)
        | some content => exact List.lookup_cons_self
      · have other : slot.1 ≠ key := by
          intro same
          rw [← same] at fresh
          exact fresh (List.mem_map.2 ⟨slot, member, rfl⟩)
        rw [← ih distinctOthers member]
        cases content with
        | none => rfl
        | some content =>
            refine List.lookup_cons.trans ?_
            rw [beq_eq_false_iff_ne.2 other]
            rfl

/-- **The values in slots** are found under their keys. -/
theorem sectionFields?_values {slots : List Slot} {keys : List String}
    (named : slots.map Prod.fst = keys) (distinct : keys.Nodup) :
    sectionFields? keys (.table (values slots)) =
      some (slots.map fun slot => slot.2.map Prod.snd) := by
  subst named
  rw [sectionFields?, List.map_map]
  refine congrArg some (List.map_congr_left fun slot member => ?_)
  exact lookup_values distinct member

end Slot

/-! ## The slots of a configuration -/

/-- The slots of the section about the amplification. -/
def amplificationSlots (config : AmplificationConfig) : List Slot :=
  [.ofChoice "max_iterations" (fun number : UInt32 => Text.decimal number.toNat)
      (fun number => .integer number.toNat) config.maxIterations,
    .ofChoice "pre_amplification" Toml.boolValue .bool config.preAmplification,
    .ofText "test_prefix" config.testPrefix]

/-- The slots of the section about compiling and running tests. -/
def executionSlots (config : ExecutionConfig) : List Slot :=
  [.ofText "compile_command" config.compileCommand,
    .ofList "compile_args" config.compileArgs,
    .ofText "test_command" config.testCommand,
    .ofList "test_args" config.testArgs,
    .ofText "test_source_dir" config.testSourceDir,
    .ofText "classes_dir" config.classesDir,
    .ofText "test_classes_dir" config.testClassesDir,
    .ofText "classpath" config.classpath,
    .ofWord64 "timeout_secs" config.timeoutSecs]

/-- The slots of the section about mutation analysis. -/
def mutationSlots (config : MutationConfig) : List Slot :=
  [.ofText "command" config.command,
    .ofList "args" config.args,
    .ofText "target_tests_prefix" config.targetTestsPrefix,
    .ofText "target_classes" config.targetClasses,
    .ofText "report_dir" config.reportDir,
    .ofText "baseline_path" config.baselinePath,
    .ofWord64 "timeout_secs" config.timeoutSecs]

/-- The slots of the section about the output. -/
def outputSlots (config : OutputConfig) : List Slot :=
  [.ofText "directory" config.directory]

/-- The slots of a configuration, section by section. -/
def slots (config : Config) : List (String × List Slot) :=
  [("amplification", amplificationSlots config.amplification),
    ("execution", executionSlots config.execution),
    ("mutation", mutationSlots config.mutation),
    ("output", outputSlots config.output)]

/-- **The document of a configuration** holds what is written in its slots. -/
theorem sections_eq (config : Config) :
    config.sections = config.slots.map fun part => (part.1, Slot.entries part.2) := by
  have nothing : Slot.entries [] = [] := rfl
  simp only [sections, slots, amplificationSlots, executionSlots, mutationSlots, outputSlots,
    Slot.ofText, Slot.ofWord64, Slot.entries_ofChoice_cons, Slot.entries_ofList_cons, nothing,
    List.map_cons, List.map_nil, List.append_nil, List.append_assoc]

/-- The time limits are whole numbers of the format. -/
def HasWritableTimeouts (config : Config) : Prop :=
  (∀ seconds, config.execution.timeoutSecs = some seconds →
      seconds.toNat ≤ Text.greatestSigned64) ∧
    ∀ seconds, config.mutation.timeoutSecs = some seconds → seconds.toNat ≤ Text.greatestSigned64

theorem readable_slots {config : Config} (writable : config.HasWritableTimeouts) :
    ∀ part ∈ config.slots, ∀ slot ∈ part.2, slot.Readable := by
  have small (number : UInt32) : number.toNat ≤ Text.greatestSigned64 :=
    Nat.le_trans (Nat.le_of_lt number.toNat_lt) (by decide)
  have iterations := Slot.readable_ofChoice config.amplification.maxIterations
    (show IsBare "max_iterations" by decide) fun number _ => Toml.denotes_decimal (small number)
  have preAmplification := Slot.readable_ofChoice config.amplification.preAmplification
    (show IsBare "pre_amplification" by decide) fun chosen _ => Toml.denotes_boolValue chosen
  have bare : IsBare "timeout_secs" := by decide
  have executionSeconds := Slot.readable_ofWord64 bare writable.1
  have mutationSeconds := Slot.readable_ofWord64 bare writable.2
  simp (disch := decide) only [slots, amplificationSlots, executionSlots, mutationSlots,
    outputSlots, List.forall_mem_cons, List.not_mem_nil, Slot.readable_ofText, Slot.readable_ofList,
    iterations, preAmplification, executionSeconds, mutationSeconds, false_implies, implies_true,
    and_true]

/-- The table that a configuration is written as. -/
def table (config : Config) : Value :=
  .table (config.slots.map fun part => (part.1, .table (Slot.values part.2)))

theorem nodup_fieldKeys (part : Section) : part.fieldKeys.Nodup := by
  cases part <;> decide

theorem nodup_slots (config : Config) :
    (config.slots.map Prod.fst).Nodup ∧ ∀ part ∈ config.slots, (part.2.map Prod.fst).Nodup := by
  refine ⟨show sectionKeys.Nodup by decide, ?_⟩
  simp only [slots, List.forall_mem_cons]
  exact ⟨nodup_fieldKeys .amplification, nodup_fieldKeys .execution, nodup_fieldKeys .mutation,
    nodup_fieldKeys .output, fun _ member => absurd member List.not_mem_nil⟩

/-- **The document of a configuration** is read as its table. -/
theorem parse?_sections {config : Config} (writable : config.HasWritableTimeouts) :
    Toml.parse? (Toml.writeSections config.sections) = some config.table := by
  obtain ⟨distinct, distinctKeys⟩ := config.nodup_slots
  have bare : ∀ part ∈ config.slots, IsBare part.1 := by
    intro part member
    have named : part.1 ∈ sectionKeys := List.mem_map_of_mem member
    exact (by decide : ∀ key ∈ sectionKeys, IsBare key) _ named
  have written : List.Forall₂ WrittenSection config.sections
      (config.slots.map fun part => (part.1, Slot.values part.2)) := by
    rw [sections_eq, List.forall₂_map_left_iff, List.forall₂_map_right_iff, List.forall₂_same]
    intro part member
    exact ⟨rfl, bare part member, Slot.writtenAs_values (readable_slots writable part member),
      (distinctKeys part member).sublist (Slot.keys_values_sublist part.2)⟩
  have read := Toml.parse?_writeSections written (by rwa [List.map_map])
  rw [List.map_map] at read
  exact read

/-! ## Reading the slots -/

section

variable {α : Type}

theorem chosen?_ofChoice {read : Value → Option α} {value : α → Value}
    (reads : ∀ chosen, read (value chosen) = some chosen) (key : String) (write : α → String)
    (choice : Option α) :
    chosen? read ((Slot.ofChoice key write value choice).2.map Prod.snd) = some choice := by
  cases choice with
  | none => rfl
  | some chosen =>
      show (read (value chosen)).map some = _
      rw [reads]
      rfl

theorem text?_text (text : String) : text? (.text text) = some text :=
  rfl

theorem bool?_bool (value : Bool) : bool? (.bool value) = some value :=
  rfl

theorem chosen?_ofText (key : String) (choice : Option String) :
    chosen? text? ((Slot.ofText key choice).2.map Prod.snd) = some choice :=
  chosen?_ofChoice text?_text key _ choice

theorem word64?_toNat (number : UInt64) : word64? (.integer number.toNat) = some number := by
  have bounds : (0 : Int) ≤ number.toNat ∧ (number.toNat : Int) ≤ Text.greatestWord64 :=
    ⟨Int.natCast_nonneg _, Int.ofNat_le.2 (Nat.le_pred_of_lt number.toNat_lt)⟩
  rw [word64?, if_pos bounds, Int.toNat_natCast, UInt64.ofNat_toNat]

theorem word32?_toNat (number : UInt32) : word32? (.integer number.toNat) = some number := by
  have bounds : (0 : Int) ≤ number.toNat ∧ (number.toNat : Int) ≤ Text.greatestWord32 :=
    ⟨Int.natCast_nonneg _, Int.ofNat_le.2 (Nat.le_pred_of_lt number.toNat_lt)⟩
  rw [word32?, if_pos bounds, Int.toNat_natCast, UInt32.ofNat_toNat]

theorem chosen?_ofWord64 (key : String) (choice : Option UInt64) :
    chosen? word64? ((Slot.ofWord64 key choice).2.map Prod.snd) = some choice :=
  chosen?_ofChoice word64?_toNat key _ choice

theorem listed?_ofList (key : String) (texts : List String) :
    listed? text? ((Slot.ofList key texts).2.map Prod.snd) = some texts := by
  show (texts.map Value.text).mapM text? = some texts
  induction texts with
  | nil => rfl
  | cons text others ih =>
      rw [List.map_cons, List.mapM_cons, ih]
      rfl

end

/-! ## Reading the sections -/

theorem amplificationOf?_values (config : AmplificationConfig) :
    amplificationOf? (.table (Slot.values (amplificationSlots config))) = some config := by
  have named : (amplificationSlots config).map Prod.fst = Section.amplification.fieldKeys := rfl
  have fields := Slot.sectionFields?_values named (nodup_fieldKeys .amplification)
  rw [Section.fieldKeys] at fields
  rw [amplificationOf?, fields]
  simp only [amplificationSlots, List.map_cons, List.map_nil, chosen?_ofText,
    chosen?_ofChoice word32?_toNat, chosen?_ofChoice bool?_bool]
  rfl

theorem executionOf?_values (config : ExecutionConfig) :
    executionOf? (.table (Slot.values (executionSlots config))) = some config := by
  have named : (executionSlots config).map Prod.fst = Section.execution.fieldKeys := rfl
  have fields := Slot.sectionFields?_values named (nodup_fieldKeys .execution)
  rw [Section.fieldKeys] at fields
  rw [executionOf?, fields]
  simp only [executionSlots, List.map_cons, List.map_nil, chosen?_ofText, listed?_ofList,
    chosen?_ofWord64]
  rfl

theorem mutationOf?_values (config : MutationConfig) :
    mutationOf? (.table (Slot.values (mutationSlots config))) = some config := by
  have named : (mutationSlots config).map Prod.fst = Section.mutation.fieldKeys := rfl
  have fields := Slot.sectionFields?_values named (nodup_fieldKeys .mutation)
  rw [Section.fieldKeys] at fields
  rw [mutationOf?, fields]
  simp only [mutationSlots, List.map_cons, List.map_nil, chosen?_ofText, listed?_ofList,
    chosen?_ofWord64]
  rfl

theorem outputOf?_values (config : OutputConfig) :
    outputOf? (.table (Slot.values (outputSlots config))) = some config := by
  have named : (outputSlots config).map Prod.fst = Section.output.fieldKeys := rfl
  have fields := Slot.sectionFields?_values named (nodup_fieldKeys .output)
  rw [Section.fieldKeys] at fields
  rw [outputOf?, fields]
  simp only [outputSlots, List.map_cons, List.map_nil, chosen?_ofText]
  rfl

/-- **The table of a configuration** is read as the configuration. -/
theorem ofValue?_table (config : Config) : ofValue? config.table = some config := by
  have sections : sectionFields? ["amplification", "execution", "mutation", "output"] config.table =
      some (config.slots.map fun part => some (.table (Slot.values part.2))) := rfl
  rw [ofValue?, sections]
  simp only [slots, List.map_cons, List.map_nil, sectionOr?, amplificationOf?_values,
    executionOf?_values, mutationOf?_values, outputOf?_values]
  rfl

/-- **A configuration that was written** is read back. -/
theorem ofToml_writeSections {config : Config} (valid : config.validate = .ok ())
    (writable : config.HasWritableTimeouts) :
    ofToml (Toml.writeSections config.sections) = .ok config := by
  have parsed : parseLayer "<string>" (Toml.writeSections config.sections) = .ok config := by
    rw [parseLayer, parse?_sections writable, Option.bind_some, ofValue?_table]
  rw [ofToml, parsed]
  show (config.validate >>= _ : Except ConfigError Config) = _
  rw [valid]
  rfl

/-! ## Writing -/

theorem isWritable_of_small {number : Option UInt64}
    (small : ∀ seconds, number = some seconds → seconds.toNat ≤ Text.greatestSigned64) :
    isWritable number = true := by
  cases number with
  | none => rfl
  | some seconds => exact decide_eq_true (small seconds rfl)

/-- **Configurations survive their documents.** A configuration that passes its checks, with time
limits of at most 63 bits, is written, and it is read back from its document with every field as it
was, whatever characters its texts hold. -/
theorem toToml_round_trips {config : Config} (valid : config.validate = .ok ())
    (writable : config.HasWritableTimeouts) :
    ∃ document, config.toToml = .ok document ∧ ofToml document = .ok config := by
  refine ⟨Toml.writeSections config.sections, ?_, ofToml_writeSections valid writable⟩
  rw [toToml, isWritable_of_small writable.1, isWritable_of_small writable.2]
  rfl

/-- A configuration with texts in all four forms. -/
def quotedConfig : Config where
  amplification := {
    maxIterations := some 7
    preAmplification := some false
    testPrefix := some "it's" }
  execution := {
    compileCommand := some "C:\\javac"
    testArgs := ["\"\"\"", "a\n'b'", "\\\n\"\"\""]
    timeoutSecs := some 60 }
  mutation := { args := ["it's \"both\"\x07"] }

theorem quotedConfig_round_trips :
    quotedConfig.validate = .ok () ∧ quotedConfig.HasWritableTimeouts ∧
      ∃ document, quotedConfig.toToml = .ok document ∧ ofToml document = .ok quotedConfig := by
  have valid : quotedConfig.validate = .ok () := rfl
  have writable : quotedConfig.HasWritableTimeouts := by
    refine ⟨fun seconds isSeconds => ?_, fun seconds isSeconds => by contradiction⟩
    have sixty : (60 : UInt64) = seconds := Option.some.inj isSeconds
    subst sixty
    decide
  exact ⟨valid, writable, toToml_round_trips valid writable⟩

end TestAmplification.Config
