import TestAmplification.Proofs.Text.Search
import TestAmplification.Tooling.Launch

/-!
# Filling in templates

A template is an argument that is put together from literals and placeholders, where neither the
literals nor the names have braces. The placeholders of an argument are filled in variable by
variable, each in the text that the one before left. For a template whose values have no braces
either this is the same as filling in all of them at once (`fillInAll_asText`): a placeholder starts
at every opening brace and ends at the next closing one, so none is found that was not written as
one, and what is filled in is a literal for the variables that follow.

Which value a name has is said by the first variable with that name. The order of the variables
matters only where a name comes twice (`CommandLine.expanded_fills_in_at_once`).
-/

set_option autoImplicit false

namespace TestAmplification

/-! ## Templates -/

/-- A text without braces. -/
structure PlainText where
  text : String
  noOpening : '{' ∉ text.toList
  noClosing : '}' ∉ text.toList

/-- A part of a template. -/
inductive Segment where
  | literal (text : PlainText)
  /-- The placeholder of a name. -/
  | blank (name : PlainText)

namespace Segment

/-- The text of a part. -/
def text : Segment → String
  | literal text => text.text
  | blank name => placeholder name.text

/-- The text of a part, with the value of its name in place of a placeholder, if it has one. -/
def filled (value? : String → Option String) : Segment → String
  | literal text => text.text
  | blank name => (value? name.text).getD (placeholder name.text)

/-- The part after one name has got a value. -/
def given (name value : PlainText) : Segment → Segment
  | literal text => literal text
  | blank other => if other.text = name.text then literal value else blank other

end Segment

/-- The argument that a template is written as. -/
def asText (template : List Segment) : String :=
  String.join (template.map Segment.text)

/-- The template with the values of all names in place at once. A placeholder whose name has no
value stays. -/
def filledIn (value? : String → Option String) (template : List Segment) : String :=
  String.join (template.map (Segment.filled value?))

/-- The variables with the names and values, which have no braces. -/
def variablesOf (assigned : List (PlainText × PlainText)) : Variables :=
  assigned.map fun (name, value) => (name.text, value.text)

/-! ## One variable -/

theorem toList_placeholder (name : String) :
    (placeholder name).toList = '{' :: (name.toList ++ ['}']) := by
  simp [placeholder]

/-- At an opening brace no placeholder starts but the one that is written there. -/
theorem name_eq_of_starts {name other : PlainText} {back : List Char}
    (starts : '{' :: (name.text.toList ++ ['}']) <+:
      '{' :: (other.text.toList ++ '}' :: back)) :
    other.text = name.text := by
  obtain ⟨reach, whole⟩ := starts
  simp only [List.cons_append, List.cons.injEq, true_and, List.append_assoc, List.nil_append]
    at whole
  -- both names end where the first closing brace is found
  have cut := Text.cutFirst_append name.noClosing reach
  rw [whole, Text.cutFirst_append other.noClosing] at cut
  exact String.toList_inj.1 (Prod.mk.inj (Option.some.inj cut)).1

/-- Filling in goes from part to part. -/
theorem replaceChars_segment (name value : PlainText) (segment : Segment) (back : List Char) :
    Text.replaceChars (placeholder name.text).toList value.text.toList
        (segment.text.toList ++ back) =
      (segment.given name value).text.toList ++
        Text.replaceChars (placeholder name.text).toList value.text.toList back := by
  rw [toList_placeholder]
  cases segment with
  | literal text => exact Text.replaceChars_append text.noOpening back
  | blank other =>
      have written : (Segment.blank other).text.toList = '{' :: (other.text.toList ++ ['}']) :=
        toList_placeholder _
      by_cases same : other.text = name.text
      · rw [written, Segment.given, if_pos same, same]
        exact Text.replaceChars_pattern_append back
      · -- the opening brace stays, and no other one follows up to the end of the placeholder
        have notHere : ¬ '{' :: (name.text.toList ++ ['}']) <+:
            '{' :: (other.text.toList ++ ['}'] ++ back) := fun starts =>
          same (name_eq_of_starts (by simpa using starts))
        have absent : '{' ∉ other.text.toList ++ ['}'] := by simp [other.noOpening]
        rw [Segment.given, if_neg same, written, List.cons_append,
          Text.replaceChars_cons_of_not_prefix notHere, Text.replaceChars_append absent,
          List.cons_append]

theorem toList_asText_cons (segment : Segment) (rest : List Segment) :
    (asText (segment :: rest)).toList = segment.text.toList ++ (asText rest).toList := by
  simp [asText]

theorem fillIn_asText (name value : PlainText) (template : List Segment) :
    fillIn (asText template) name.text value.text =
      asText (template.map (Segment.given name value)) := by
  have characters : Text.replaceChars (placeholder name.text).toList value.text.toList
      (asText template).toList = (asText (template.map (Segment.given name value))).toList := by
    induction template with
    | nil => rfl
    | cons segment rest ih =>
        rw [toList_asText_cons, replaceChars_segment, ih, List.map_cons, toList_asText_cons]
  rw [fillIn, Text.replace, characters, String.ofList_toList]

/-! ## All variables -/

theorem Segment.filled_none (segment : Segment) :
    segment.filled (fun _ => none) = segment.text := by
  cases segment <;> rfl

/-- A name that has got its value is settled, whatever value it would have later. -/
theorem Segment.filled_given (value? : String → Option String) (name value : PlainText)
    (segment : Segment) :
    (segment.given name value).filled value? =
      segment.filled fun other => if other = name.text then some value.text else value? other := by
  cases segment with
  | literal text => rfl
  | blank other =>
      by_cases same : other.text = name.text <;> simp [Segment.given, Segment.filled, same]

theorem lookup_cons_eq_ite (name value : String) (rest : Variables) (other : String) :
    ((name, value) :: rest).lookup other =
      if other = name then some value else rest.lookup other := by
  by_cases same : other = name
  · simp [same]
  · rw [if_neg same, List.lookup_cons, beq_false_of_ne same]

/-- **Variable by variable is all at once**, if the variables have no braces. -/
theorem fillInAll_asText (assigned : List (PlainText × PlainText)) (template : List Segment) :
    fillInAll (variablesOf assigned) (asText template) =
      filledIn (fun name => (variablesOf assigned).lookup name) template := by
  induction assigned generalizing template with
  | nil =>
      have none : (fun name => (variablesOf []).lookup name) = fun _ => none := rfl
      rw [none, filledIn, funext Segment.filled_none]
      rfl
  | cons entry rest ih =>
      obtain ⟨name, value⟩ := entry
      have values (other : String) :
          (variablesOf ((name, value) :: rest)).lookup other =
            if other = name.text then some value.text else (variablesOf rest).lookup other :=
        lookup_cons_eq_ite name.text value.text (variablesOf rest) other
      have one : fillInAll (variablesOf ((name, value) :: rest)) (asText template) =
          fillInAll (variablesOf rest) (fillIn (asText template) name.text value.text) := rfl
      rw [one, fillIn_asText, ih, filledIn, filledIn, List.map_map]
      simp only [Function.comp_def, Segment.filled_given, values]

section

variable {placeholders others : Variables} (distinct : (placeholders.map Prod.fst).Nodup)

include distinct

/-- With distinct names, a name has the value that it is listed with. -/
theorem lookup_eq_some_iff_mem {name value : String} :
    placeholders.lookup name = some value ↔ (name, value) ∈ placeholders := by
  induction placeholders with
  | nil => simp
  | cons entry rest ih =>
      obtain ⟨other, its⟩ := entry
      obtain ⟨unlike, distinct⟩ := List.nodup_cons.1 distinct
      rw [lookup_cons_eq_ite]
      by_cases same : name = other
      · have unlisted : (other, value) ∉ rest := fun listed =>
          unlike (List.mem_map.2 ⟨(other, value), listed, rfl⟩)
        simp [same, unlisted, eq_comm]
      · simp [same, ih distinct]

/-- With distinct names, their order makes no difference to the values. -/
theorem lookup_of_perm (reordered : others.Perm placeholders) (name : String) :
    others.lookup name = placeholders.lookup name := by
  have alsoDistinct : (others.map Prod.fst).Nodup :=
    (reordered.map Prod.fst).nodup_iff.2 distinct
  ext value
  rw [lookup_eq_some_iff_mem distinct, lookup_eq_some_iff_mem alsoDistinct, reordered.mem_iff]

end

/-- **Filling in a command line is filling in all names at once.** Where the arguments are written
as templates, each placeholder of a name that is listed becomes the value of the name, and the
others stay, as the literals and the rest of the command line do. If the names are distinct, every
order of the variables gives the same command line. -/
theorem CommandLine.expanded_fills_in_at_once (command : CommandLine)
    (templates : List (List Segment)) (written : command.arguments = templates.map asText)
    (assigned : List (PlainText × PlainText)) :
    command.expanded (variablesOf assigned) = { command with
      arguments := templates.map (filledIn fun name => (variablesOf assigned).lookup name) } ∧
    (((variablesOf assigned).map Prod.fst).Nodup →
      ∀ others : List (PlainText × PlainText), others.Perm assigned →
        command.expanded (variablesOf others) = command.expanded (variablesOf assigned)) := by
  have expanded (assigned : List (PlainText × PlainText)) :
      command.expanded (variablesOf assigned) = { command with
        arguments := templates.map (filledIn fun name => (variablesOf assigned).lookup name) } := by
    simp only [CommandLine.expanded, written, List.map_map, Function.comp_def, fillInAll_asText]
  refine ⟨expanded assigned, fun distinct others reordered => ?_⟩
  have reorderedTexts : (variablesOf others).Perm (variablesOf assigned) := reordered.map _
  rw [expanded, expanded]
  simp only [lookup_of_perm distinct reorderedTexts]

/-- Two placeholders side by side and one without a value, with the variables in either order. -/
theorem CommandLine.classpath_filled_in :
    let jar : PlainText × PlainText :=
      (⟨"jar", by decide, by decide⟩, ⟨"a.jar:", by decide, by decide⟩)
    let classes : PlainText × PlainText :=
      (⟨"classes", by decide, by decide⟩, ⟨"target", by decide, by decide⟩)
    let template : List Segment := [.literal ⟨"-cp=", by decide, by decide⟩, .blank jar.1,
      .blank classes.1, .blank ⟨"suite", by decide, by decide⟩]
    let command : CommandLine :=
      ⟨"javac", ["-cp=\x7bjar\x7d\x7bclasses\x7d\x7bsuite\x7d"], none⟩
    command.arguments = [template].map asText ∧
      ((variablesOf [jar, classes]).map Prod.fst).Nodup ∧ [classes, jar].Perm [jar, classes] ∧
      command.expanded (variablesOf [jar, classes]) =
        ⟨"javac", ["-cp=a.jar:target\x7bsuite\x7d"], none⟩ ∧
      command.expanded (variablesOf [classes, jar]) =
        ⟨"javac", ["-cp=a.jar:target\x7bsuite\x7d"], none⟩ := by
  intro jar classes template command
  have written : command.arguments = [template].map asText := by decide +kernel
  have distinct : ((variablesOf [jar, classes]).map Prod.fst).Nodup := by decide +kernel
  have reordered : [classes, jar].Perm [jar, classes] := .swap jar classes []
  obtain ⟨atOnce, anyOrder⟩ :=
    command.expanded_fills_in_at_once [template] written [jar, classes]
  have filled : [template].map (filledIn fun name => (variablesOf [jar, classes]).lookup name) =
      ["-cp=a.jar:target\x7bsuite\x7d"] := by decide +kernel
  rw [filled] at atOnce
  exact ⟨written, distinct, reordered, atOnce,
    (anyOrder distinct [classes, jar] reordered).trans atOnce⟩

end TestAmplification
