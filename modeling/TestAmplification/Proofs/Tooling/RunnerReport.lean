import TestAmplification.Proofs.Json.Layout
import TestAmplification.Proofs.Table
import TestAmplification.Proofs.Test.Identity
import TestAmplification.Tooling.TestRunner

/-!
# Runner reports survive the noise around them

A runner prints what it likes before its report and, as long as no line of it starts with a brace,
behind it. The last line that starts with a brace is then the report (`line?_of_report`). The names
in it are the written forms of test identities, and such a name is read as the identity again when
no blank and no `#` in it is taken for something else (`TestId.parse_render`).

The main result, `parse_report`, puts the two together: a report that lists the members of two
sets, in any order and as often as it likes, is read as the two sets.
-/

set_option autoImplicit false

namespace TestAmplification

namespace RunnerReport

/-! ## The line of the report -/

/-- The line does not look like a report. -/
def IsNoise (line : List Char) : Prop :=
  (Text.trimChars line).head? ≠ some '\x7b'

instance (line : List Char) : Decidable (IsNoise line) :=
  inferInstanceAs (Decidable (_ ≠ _))

/-- Lines of noise, each after a line feed, have no line that looks like a report. -/
theorem noise_lineChars {following : List (List Char)} (first : List Char)
    (noFeed : ∀ line ∈ first :: following, '\n' ∉ line)
    (noise : ∀ line ∈ first :: following, IsNoise line) :
    ∀ line ∈ (Text.lineChars (first ++ following.flatMap ('\n' :: ·))).map Text.trimChars,
      line.head? ≠ some '\x7b' := by
  induction following generalizing first with
  | nil =>
      by_cases empty : first = []
      · subst empty
        nofun
      · rw [List.flatMap_nil, List.append_nil,
          Text.lineChars_of_noFeed (noFeed first List.mem_cons_self) empty]
        simpa [IsNoise] using noise first List.mem_cons_self
  | cons next others ih =>
      have later := ih next (fun line member => noFeed line (List.mem_cons_of_mem _ member))
        fun line member => noise line (List.mem_cons_of_mem _ member)
      rw [List.flatMap_cons, List.cons_append,
        Text.map_trimChars_lineChars (noFeed first List.mem_cons_self)]
      exact List.forall_mem_cons.2 ⟨noise first List.mem_cons_self, later⟩

/-- The output ends with the line and lines of noise behind it. -/
theorem map_trimChars_lineChars_noise {line : List Char} {following : List (List Char)}
    (noFeed : '\n' ∉ line) (some : line ≠ [])
    (noFeeds : ∀ other ∈ following, '\n' ∉ other) (noise : ∀ other ∈ following, IsNoise other) :
    ∃ others, (Text.lineChars (line ++ following.flatMap ('\n' :: ·))).map Text.trimChars =
        Text.trimChars line :: others ∧
      ∀ other ∈ others, other.head? ≠ Option.some '\x7b' := by
  cases following with
  | nil =>
      refine ⟨[], ?_, nofun⟩
      rw [List.flatMap_nil, List.append_nil, Text.lineChars_of_noFeed noFeed some]
      rfl
  | cons next others =>
      refine ⟨_, ?_, noise_lineChars next noFeeds noise⟩
      rw [List.flatMap_cons, List.cons_append, Text.map_trimChars_lineChars noFeed]

/-- What stands before the report is nothing, or ends with its line. -/
def EndsLine (before : List Char) : Prop :=
  before = [] ∨ ∃ front, before = front ++ ['\n']

/-- **The last line that looks like a report is found**, whatever stands before it. -/
theorem line?_of_noise {before line : List Char} {following : List (List Char)}
    (endsLine : EndsLine before) (noFeed : '\n' ∉ line)
    (looksLikeReport : (Text.trimChars line).head? = some '\x7b')
    (noFeeds : ∀ other ∈ following, '\n' ∉ other) (noise : ∀ other ∈ following, IsNoise other) :
    line? (String.ofList (before ++ line ++ following.flatMap ('\n' :: ·))) =
      some (Text.trimChars line) := by
  have nonempty : line ≠ [] := by
    rintro rfl
    exact absurd looksLikeReport nofun
  obtain ⟨others, fromLine, noReport⟩ :=
    map_trimChars_lineChars_noise noFeed nonempty noFeeds noise
  have whole : ∃ earlier, (Text.lineChars (before ++ line ++ following.flatMap ('\n' :: ·))).map
      Text.trimChars = earlier ++ Text.trimChars line :: others := by
    rcases endsLine with rfl | ⟨front, rfl⟩
    · exact ⟨[], by simpa using fromLine⟩
    · refine ⟨(Text.lineChars (front ++ ['\n'])).map Text.trimChars, ?_⟩
      rw [List.append_assoc, List.append_assoc, List.singleton_append,
        Text.lineChars_append_newLine, List.map_append, fromLine]
  obtain ⟨earlier, whole⟩ := whole
  have none : others.reverse.find? (fun other => other.head? == some '\x7b') = none := by
    simpa using noReport
  rw [line?, String.toList_ofList, List.map_reverse, whole]
  simp [none, looksLikeReport]

/-! ## The report -/

/-- The value lists the written forms of the members of the set: each of them at least once, and
nothing else. -/
def Lists (value : Json) (tests : KeySet TestId) : Prop :=
  ∃ names, Json.list? Json.text? value = some names ∧
    ∀ name, name ∈ names ↔ ∃ id, tests.contains id = true ∧ id.render = name

/-- The line is an object whose two lists name the tests that ran and those that failed. It may
have members of other names, whatever they hold. -/
inductive Reports (line : List Char) (result : ExecutionResult) : Prop where
  | object {members : List (List Char × Json)} {named : List (String × Json)}
      {testsRun failures : Json} (spells : Json.Spells line (.spaced (.object members)))
      (names : Json.namedMembers? members = some named)
      (ran : named.filter (fun member => member.1 == "tests_run") = [("tests_run", testsRun)])
      (failed : named.filter (fun member => member.1 == "failures") = [("failures", failures)])
      (listsRun : Lists testsRun result.testsRun) (listsFailed : Lists failures result.failures)

/-- The written forms of identities list the set of these identities. -/
theorem lists_map_render (ids : List TestId) :
    Lists (.array (ids.map fun id => Json.ofText id.render)) (KeySet.ofList ids) := by
  refine ⟨ids.map TestId.render, ?_, fun name => ?_⟩
  · have texts := Json.restores_text.list?_map (ids.map TestId.render)
    rw [List.map_map] at texts
    exact texts
  · simp [KeySet.contains_ofList]

theorem allBlank_of_isBlanks {blanks : List Char} (isBlanks : Json.IsBlanks blanks) :
    Text.AllBlank blanks := by
  intro character member
  have blank := isBlanks character member
  simp only [Json.isBlank, Bool.or_eq_true, beq_iff_eq] at blank
  rcases blank with ((rfl | rfl) | rfl) | rfl <;> decide

/-- An object on a line is trimmed to what is between its braces, and these. -/
theorem trimChars_object {line : List Char} {members : List (List Char × Json)}
    (spells : Json.Spells line (.spaced (.object members))) :
    (Text.trimChars line).head? = some '\x7b' ∧
      Json.Spells (Text.trimChars line) (.spaced (.object members)) := by
  cases spells with
  | @spaced before characters after _ blanksBefore spelled blanksAfter =>
      have alone := spelled.alone
      cases spelled with
      | @object inside _ _ =>
          have isTrimmed : Text.IsTrimmed ('\x7b' :: inside ++ ['}']) := by
            constructor
            · intro first same
              obtain rfl : '\x7b' = first := by simpa using same
              decide
            · intro last same
              rw [List.getLast?_concat] at same
              obtain rfl := Option.some.inj same
              decide
          rw [Text.trimChars_between (allBlank_of_isBlanks blanksBefore) isTrimmed
            (allBlank_of_isBlanks blanksAfter)]
          exact ⟨rfl, alone⟩

/-- The identities of the written forms of a set's members are its members. -/
theorem ofList_identities {tests : KeySet TestId} {names : List String}
    (legible : ∀ id, tests.contains id = true → id.Legible)
    (listed : ∀ name, name ∈ names ↔ ∃ id, tests.contains id = true ∧ id.render = name)
    (suite : String) : KeySet.ofList (identities suite names) = tests := by
  refine KeySet.ext_contains fun id => ?_
  rw [KeySet.contains_ofList, identities, List.mem_filterMap]
  constructor
  · rintro ⟨name, member, read⟩
    obtain ⟨other, inTests, rfl⟩ := (listed name).1 member
    rw [TestId.parse_render (legible other inTests)] at read
    obtain rfl := Option.some.inj read
    exact inTests
  · intro inTests
    exact ⟨id.render, (listed _).2 ⟨id, inTests, rfl⟩, TestId.parse_render (legible id inTests) suite⟩

/-- **A report is read as what it reports**, whatever surrounds it: any text that is empty or ends
its line before it, and lines behind it none of which looks like a report. The lists may name a
test twice and in any order, and the suite that names without one would get does not matter. -/
theorem parse_report {before line : List Char} {following : List (List Char)}
    {result : ExecutionResult} (reports : Reports line result)
    (legible : ∀ id, result.testsRun.contains id = true ∨ result.failures.contains id = true →
      id.Legible)
    (endsLine : EndsLine before) (noFeed : '\n' ∉ line)
    (noFeeds : ∀ other ∈ following, '\n' ∉ other) (noise : ∀ other ∈ following, IsNoise other)
    (suite : String) :
    parse (String.ofList (before ++ line ++ following.flatMap ('\n' :: ·))) suite = .ok result := by
  cases reports with
  | @object members named testsRun failures spells namesThere ran failed listsRun listsFailed =>
      obtain ⟨looksLikeReport, trimmed⟩ := trimChars_object spells
      obtain ⟨runNames, runTexts, runListed⟩ := listsRun
      obtain ⟨failedNames, failedTexts, failedListed⟩ := listsFailed
      have names : names? (.object members) = some (runNames, failedNames) := by
        simp [names?, listNames, Json.fieldValues?, namesThere, Json.memberValue?, ran, failed,
          Json.withDefault?, runTexts, failedTexts]
      rw [parse, line?_of_noise endsLine noFeed looksLikeReport noFeeds noise]
      simp only [Json.parse?_of_spells trimmed, Option.bind_some, names, ExecutionResult.ofLists]
      rw [ofList_identities (fun id inside => legible id (.inl inside)) runListed,
        ofList_identities (fun id inside => legible id (.inr inside)) failedListed]

/-- A report after a line that is no JSON at all, with a test named twice and a member that no one
asked for. -/
theorem parse_report_amid_noise :
    parse "loading\n\x7bnot yet\n\x7b\"tests_run\":[\"T#b\",\"T#a\",\"T#b\"],\"failures\":[\"T#b\"],\"seconds\":3\x7d\nbye\n"
      "Other" = .ok (.ofLists [⟨"T", "b"⟩, ⟨"T", "a"⟩, ⟨"T", "b"⟩] [⟨"T", "b"⟩]) := by
  let runs : List TestId := [⟨"T", "b"⟩, ⟨"T", "a"⟩, ⟨"T", "b"⟩]
  let failures : List TestId := [⟨"T", "b"⟩]
  let list := fun ids : List TestId => Json.array (ids.map fun id => Json.ofText id.render)
  let named := [("tests_run", list runs), ("failures", list failures), ("seconds", Json.ofNat 3)]
  have wellSpelled : ∀ member ∈ named, Json.WellSpelled member.2 := by
    have lists : ∀ ids, Json.WellSpelled (list ids) := fun ids =>
      Json.wellSpelled_array_map ids fun id _ => Json.wellSpelled_ofText id.render
    simpa [named] using ⟨lists runs, lists failures, Json.wellSpelled_ofNat 3⟩
  have reports : Reports (Json.ofMembers named).compactChars (.ofLists runs failures) :=
    .object (Json.spells_compact (Json.wellSpelled_ofMembers wellSpelled)).alone
      (Json.namedMembers?_map_spell named) (by simp [named]; rfl) (by simp [named]; rfl)
      (lists_map_render runs) (lists_map_render failures)
  have legible : ∀ id, (KeySet.ofList runs).contains id = true ∨
      (KeySet.ofList failures).contains id = true → id.Legible := by
    have all : ∀ id ∈ runs ++ failures, id.Legible := by decide
    intro id inside
    rw [KeySet.contains_ofList, KeySet.contains_ofList] at inside
    exact all id (List.mem_append.2 inside)
  have output : "loading\n\x7bnot yet\n\x7b\"tests_run\":[\"T#b\",\"T#a\",\"T#b\"],\"failures\":[\"T#b\"],\"seconds\":3\x7d\nbye\n" =
      String.ofList ("loading\n\x7bnot yet\n".toList ++ (Json.ofMembers named).compactChars ++
        ["bye".toList, []].flatMap ('\n' :: ·)) := by
    decide +kernel
  have endsLine : EndsLine "loading\n\x7bnot yet\n".toList :=
    .inr ⟨"loading\n\x7bnot yet".toList, by decide⟩
  rw [output]
  exact parse_report reports legible endsLine (by decide +kernel) (by decide) (by decide) "Other"

end RunnerReport

end TestAmplification
