import TestAmplification.Mutant.KillingTest
import TestAmplification.Proofs.Text.Search

/-!
# The spellings of a killing test

A report may spell one test in four ways (`Spells`): by the method with its suite in parentheses, by
the same with the suite in front of the method as well, by the qualified name, and by a path of
segments in brackets. A reader that does not know which one it has before it tries the four forms
one after the other. Every spelling comes to the identity of the test all the same
(`spellings_denote`), since none of them has the form that is tried before its own.

* Only a path holds the tag of a segment. Its tags stand where they were put: a tag does not start
  inside another one, and a segment is over at the first closing bracket.
* Only the spellings with the suite in parentheses hold an opening one. What stands in front of it
  is the method, or the suite, a dot and the method. As a method has no dots, it does not start with
  the suite and a dot by itself.
* In the qualified name, the last dot is the one in front of the method.
-/

set_option autoImplicit false

namespace TestAmplification.KillingTest

open Text (AllBlank IsTrimmed trimChars isBlank)

/-! ## Names -/

/-- A name without blanks, parentheses and square brackets, and with a character at least. -/
structure IsName (characters : List Char) : Prop where
  some : characters ≠ []
  noBlank : ∀ character ∈ characters, isBlank character = false
  noMark : ∀ mark ∈ ['(', ')', '[', ']'], mark ∉ characters

instance (characters : List Char) : Decidable (IsName characters) :=
  decidable_of_iff (characters ≠ [] ∧ characters.any isBlank = false ∧
      ['(', ')', '[', ']'].any characters.contains = false)
    ⟨fun parts => ⟨parts.1, by simpa using parts.2.1, by simpa using parts.2.2⟩,
      fun isName => ⟨isName.some, by simpa using isName.noBlank, by simpa using isName.noMark⟩⟩

/-- The identity has a name of a suite and a name of a method, the latter without dots. -/
structure IsNamed (id : TestId) : Prop where
  suite : IsName id.suite.toList
  method : IsName id.method.toList
  noDot : '.' ∉ id.method.toList

/-- The tag of the segment in front of the suite. -/
def engineTag : List Char := ['[', 'e', 'n', 'g', 'i', 'n', 'e', ':']

/-- The three segments of a path with what stands in front of them and behind them. -/
def pathOf (front engine suite method arguments back : List Char) : List Char :=
  front ++ (engineTag ++ (engine ++ ']' :: '/' :: (classTag ++ (suite ++ ']' :: '/' ::
    (methodTag ++ (method ++ '(' :: (arguments ++ ')' :: ']' :: back)))))))

/-- The spellings of a test. -/
inductive Spells (id : TestId) : List Char → Prop where
  /-- The method, and its suite in parentheses. -/
  | inSuite : Spells id (id.method.toList ++ '(' :: (id.suite.toList ++ [')']))
  /-- The qualified name of the method, and its suite in parentheses. -/
  | qualifiedInSuite : Spells id
      (id.suite.toList ++ '.' :: id.method.toList ++ '(' :: (id.suite.toList ++ [')']))
  /-- The qualified name of the method. -/
  | qualified : Spells id (id.suite.toList ++ '.' :: id.method.toList)
  /-- A path of segments, where neither the engine nor what stands in front holds one of the tags.
  -/
  | path {front engine : List Char} (arguments back : List Char)
      (noTag : ∀ tag ∈ [classTag, methodTag], ¬ tag <:+: front ∧ ¬ tag <:+: engine) :
      Spells id (pathOf front engine id.suite.toList id.method.toList arguments back)

variable {raw front back : List Char}

/-! ## The single forms -/

/-- A text with a character that is no letter of the word does not say that there is no test. -/
theorem saysNone_eq_false (character : Char) (member : character ∈ raw)
    (noLetter : character.toLower ∉ ['n', 'o', 'n', 'e']) : saysNone raw = false := by
  have some : raw.isEmpty = false := by
    rw [List.isEmpty_eq_false_iff_exists_mem]
    exact ⟨character, member⟩
  have otherWord : raw.map Char.toLower ≠ ['n', 'o', 'n', 'e'] := fun same =>
    noLetter (same ▸ List.mem_map_of_mem member)
  rw [saysNone, some, Bool.false_or, beq_eq_false_iff_ne]
  exact otherWord

/-- A text without brackets has no segments. -/
theorem segment?_of_noBracket {tag : List Char} (noBracket : '[' ∉ raw) :
    segment? ('[' :: tag) raw = none := by
  rw [segment?, Text.cutAt_eq_none_iff.2 (Text.not_infix_of_not_mem noBracket), Option.bind_none]

/-- A segment goes from its tag to the first closing bracket. -/
theorem segment?_append {tag value : List Char} (once : '[' ∉ tag)
    (absent : ¬ '[' :: tag <:+: front) (noBracket : ']' ∉ value) (back : List Char) :
    segment? ('[' :: tag) (front ++ ('[' :: tag ++ (value ++ ']' :: back))) = some value := by
  rw [segment?, Text.cutAt_append once absent, Option.bind_some]
  simp only [Text.cutFirst_append noBracket, Option.map_some]

theorem withoutClosing_append (isName : IsName raw) : withoutClosing (raw ++ [')']) = raw := by
  have noClosing : raw.reverse.dropWhile (· == ')') = raw.reverse := by
    rw [List.dropWhile_eq_self_iff]
    intro some isClosing
    have member : raw.reverse[0] ∈ raw := List.mem_reverse.1 (List.getElem_mem some)
    exact isName.noMark ')' (by simp) (beq_iff_eq.1 isClosing ▸ member)
  rw [withoutClosing, List.reverse_append, List.reverse_singleton, List.singleton_append,
    List.dropWhile_cons_of_pos (by simp), noClosing, List.reverse_reverse]

theorem beforeParenthesis_append (noParenthesis : '(' ∉ front) (back : List Char) :
    beforeParenthesis (front ++ '(' :: back) = front := by
  have all : ∀ character ∈ front, (character != '(') = true := fun character member =>
    bne_iff_ne.2 fun same => noParenthesis (same ▸ member)
  rw [beforeParenthesis, List.takeWhile_append_of_pos all, List.takeWhile_cons_of_neg (by simp),
    List.append_nil]

/-- The qualified name of a method is that of the method. -/
theorem unqualified_append (suite method : List Char) :
    unqualified suite (suite ++ '.' :: method) = method := by
  have qualified : suite ++ '.' :: method = suite ++ ['.'] ++ method := by simp
  have starts : Text.withoutStart? (suite ++ ['.']) (suite ++ ['.'] ++ method) = some method := by
    rw [Text.withoutStart?, if_pos (by simp), List.drop_left]
  rw [unqualified, qualified, starts]

/-- A name without dots is not qualified. -/
theorem unqualified_of_noDot {method : List Char} (noDot : '.' ∉ method) (suite : List Char) :
    unqualified suite method = method := by
  have notStart : ¬ (suite ++ ['.']).isPrefixOf method := by
    rw [List.isPrefixOf_iff_prefix]
    exact fun starts => noDot (starts.subset (by simp))
  have noStart : Text.withoutStart? (suite ++ ['.']) method = none := if_neg notStart
  rw [unqualified, noStart, Text.afterLast, Text.cutLast_eq_none noDot]

/-! ## Paths -/

/-- A tag does not start in a segment with another tag. -/
theorem infix_of_infix_segment {kind other : Char} {tag otherTag value : List Char}
    (different : kind ≠ other) (noBracket : ']' ∉ '[' :: kind :: tag)
    (once : '[' ∉ other :: otherTag) (absent : ¬ '[' :: kind :: tag <:+: value)
    (inside : '[' :: kind :: tag <:+: '[' :: other :: otherTag ++ (value ++ ']' :: '/' :: back)) :
    '[' :: kind :: tag <:+: back := by
  rcases List.infix_cons_iff.1 inside with here | later
  · exact absurd (List.cons_prefix_cons.1 (List.cons_prefix_cons.1 here).2).1 different
  · have behindTag := Text.infix_of_infix_append once later
    rcases Text.infix_or_infix_of_separator noBracket behindTag with within | behind
    · exact absurd within absent
    · exact Text.infix_of_infix_append (by decide : '[' ∉ ['/']) behind

section

variable {engine : List Char} (suite method arguments back : List Char)

/-- In a path, the tag of the suite stands first in front of the suite. -/
theorem segment?_classTag_pathOf (absent : ¬ classTag <:+: front)
    (absentToo : ¬ classTag <:+: engine) (noBracket : ']' ∉ suite) :
    segment? classTag (pathOf front engine suite method arguments back) = some suite := by
  have inFront : ¬ classTag <:+: front ++ (engineTag ++ (engine ++ [']', '/'])) := by
    intro inside
    rcases Text.infix_or_infix_of_opener (by decide) inside with within | behind
    · exact absent within
    · have nowhere := infix_of_infix_segment (by decide) (by decide) (by decide) absentToo behind
      exact absurd nowhere (by decide)
  have found := segment?_append (by decide) inFront noBracket
    ('/' :: (methodTag ++ (method ++ '(' :: (arguments ++ ')' :: ']' :: back))))
  rw [← found, pathOf]
  simp only [List.append_assoc, List.cons_append, List.nil_append]
  rfl

/-- In a path, the tag of the method stands first in front of the method. -/
theorem segment?_methodTag_pathOf (absent : ¬ methodTag <:+: front)
    (absentToo : ¬ methodTag <:+: engine) (noOpening : '[' ∉ suite) (noBracket : ']' ∉ method) :
    ∃ rest, segment? methodTag (pathOf front engine suite method arguments back) =
      some (method ++ '(' :: rest) := by
  have inFront : ¬ methodTag <:+:
      front ++ (engineTag ++ (engine ++ ']' :: '/' :: (classTag ++ (suite ++ [']', '/'])))) := by
    intro inside
    rcases Text.infix_or_infix_of_opener (by decide) inside with within | behind
    · exact absent within
    · have inClass := infix_of_infix_segment (by decide) (by decide) (by decide) absentToo behind
      have nowhere := infix_of_infix_segment (by decide) (by decide) (by decide)
        (Text.not_infix_of_not_mem noOpening) inClass
      exact absurd nowhere (by decide)
  obtain ⟨rest, others, cut, noBracketRest⟩ :=
    List.eq_append_cons_of_mem (by simp : ']' ∈ arguments ++ ')' :: ']' :: back)
  have noBracketValue : ']' ∉ method ++ '(' :: rest := by simp [noBracket, noBracketRest]
  refine ⟨rest, ?_⟩
  have found := segment?_append (by decide) inFront noBracketValue others
  rw [← found, pathOf, cut]
  simp only [List.append_assoc, List.cons_append, List.nil_append]
  rfl

end

/-! ## Every spelling -/

variable {id : TestId}

theorem identity?_toList (named : IsNamed id) :
    identity? id.suite.toList id.method.toList = some id := by
  rw [identity?, if_neg (by simpa using named.method.some), String.ofList_toList,
    String.ofList_toList]

/-- A text without brackets is read by its first opening parenthesis, or else by its last dot. -/
theorem ofTrimmed?_of_noBracket (present : saysNone raw = false) (noBracket : '[' ∉ raw) :
    ofTrimmed? raw =
      match Text.cutFirst '(' raw with
      | some (name, tail) =>
          identity? (withoutClosing tail) (unqualified (withoutClosing tail) name)
      | none => (Text.cutLast '.' raw).bind fun (suite, method) => identity? suite method := by
  rw [ofTrimmed?, present, methodTag, segment?_of_noBracket noBracket]
  rfl

/-- The names of a test in a text without segments. -/
theorem ofTrimmed?_of_parenthesis (named : IsNamed id) {name : List Char}
    (noMark : ∀ mark ∈ ['(', '['], mark ∉ name)
    (isMethod : unqualified id.suite.toList name = id.method.toList) :
    ofTrimmed? (name ++ '(' :: (id.suite.toList ++ [')'])) = some id := by
  have noBracket : '[' ∉ name ++ '(' :: (id.suite.toList ++ [')']) := by
    simp [noMark '[' (by simp), named.suite.noMark '[' (by simp)]
  rw [ofTrimmed?_of_noBracket (saysNone_eq_false '(' (by simp) (by decide))
    noBracket, Text.cutFirst_append (noMark '(' (by simp))]
  simp only [withoutClosing_append named.suite, isMethod, identity?_toList named]

theorem qualified_noMark (named : IsNamed id) :
    ∀ mark ∈ ['(', '['], mark ∉ id.suite.toList ++ '.' :: id.method.toList := by
  intro mark isMark
  have inMarks : mark ∈ ['(', ')', '[', ']'] := by
    rcases List.mem_pair.1 isMark with rfl | rfl <;> decide
  have noDot : mark ≠ '.' := by
    rcases List.mem_pair.1 isMark with rfl | rfl <;> decide
  simp [named.suite.noMark mark inMarks, named.method.noMark mark inMarks, noDot]

theorem ofTrimmed?_qualified (named : IsNamed id) :
    ofTrimmed? (id.suite.toList ++ '.' :: id.method.toList) = some id := by
  have noMark := qualified_noMark named
  rw [ofTrimmed?_of_noBracket (saysNone_eq_false '.' (by simp) (by decide))
    (noMark '[' (by simp)), Text.cutFirst_eq_none_iff.2 (noMark '(' (by simp))]
  simp only [Text.cutLast_append named.noDot, Option.bind_some, identity?_toList named]

theorem ofTrimmed?_pathOf (named : IsNamed id) {engine : List Char} (arguments : List Char)
    (noTag : ∀ tag ∈ [classTag, methodTag], ¬ tag <:+: front ∧ ¬ tag <:+: engine) :
    ofTrimmed? (pathOf front engine id.suite.toList id.method.toList arguments back) = some id := by
  have present :
      saysNone (pathOf front engine id.suite.toList id.method.toList arguments back) = false :=
    saysNone_eq_false '[' (by simp [pathOf, engineTag]) (by decide)
  obtain ⟨noClass, noClassToo⟩ := noTag classTag (by simp)
  obtain ⟨noMethod, noMethodToo⟩ := noTag methodTag (by simp)
  have suite := segment?_classTag_pathOf id.suite.toList id.method.toList arguments back
    noClass noClassToo (named.suite.noMark ']' (by simp))
  obtain ⟨rest, method⟩ := segment?_methodTag_pathOf id.suite.toList id.method.toList arguments
    back noMethod noMethodToo (named.suite.noMark '[' (by simp))
    (named.method.noMark ']' (by simp))
  rw [ofTrimmed?, present, method, suite]
  simp only [beforeParenthesis_append (named.method.noMark '(' (by simp)), Option.getD_some,
    identity?_toList named, Bool.false_eq_true, if_false]

/-- A name, or what is put together from names and marks other than blanks, is trimmed. -/
theorem isTrimmed_of_noBlank (noBlank : ∀ character ∈ raw, isBlank character = false) :
    IsTrimmed raw where
  starts first isFirst := noBlank first (List.mem_of_mem_head? isFirst)
  ends last isLast := noBlank last (List.mem_of_mem_getLast? isLast)

/-- Trimming a path takes blanks from its surroundings. -/
theorem trimChars_pathOf {front engine suite method arguments back : List Char} :
    trimChars (pathOf front engine suite method arguments back) =
      pathOf (Text.trimStart front) engine suite method arguments (Text.trimEnd back) := by
  let inside := engineTag.tail ++ (engine ++ ']' :: '/' :: (classTag ++ (suite ++
    ']' :: '/' :: (methodTag ++ (method ++ '(' :: (arguments ++ [')']))))))
  have around : ∀ front back : List Char, pathOf front engine suite method arguments back =
      front ++ ('[' :: inside ++ [']']) ++ back := by
    intro front back
    simp [pathOf, inside, engineTag]
  rw [around, around]
  refine Text.trimChars_around ⟨?_, ?_⟩ (by simp) front back
  · intro first isFirst
    obtain rfl := Option.some.inj isFirst
    decide
  · intro last isLast
    rw [List.getLast?_concat] at isLast
    obtain rfl := Option.some.inj isLast
    decide

/-- **The spellings of a killing test.** Whichever of its four spellings a report uses, with any
blanks around it, it is read as the test. -/
theorem spellings_denote (named : IsNamed id) {spelling before after : List Char}
    (spells : Spells id spelling) (blanksBefore : AllBlank before) (blanksAfter : AllBlank after) :
    ofText? (String.ofList (before ++ spelling ++ after)) = some id := by
  rw [ofText?, String.toList_ofList]
  have noBlank : ∀ character, character ∈ id.suite.toList ∨ character ∈ id.method.toList ∨
      character ∈ ['.', '(', ')'] → isBlank character = false := by
    rintro character (inSuite | inMethod | isMark)
    · exact named.suite.noBlank character inSuite
    · exact named.method.noBlank character inMethod
    · rcases List.mem_cons.1 isMark with rfl | isParenthesis
      · decide
      · rcases List.mem_pair.1 isParenthesis with rfl | rfl <;> decide
  have trimmed : ∀ raw : List Char, (∀ character ∈ raw, character ∈ id.suite.toList ∨
      character ∈ id.method.toList ∨ character ∈ ['.', '(', ')']) →
      trimChars (before ++ raw ++ after) = raw := fun raw parts =>
    Text.trimChars_between blanksBefore
      (isTrimmed_of_noBlank fun character member => noBlank character (parts character member))
      blanksAfter
  cases spells with
  | inSuite =>
      rw [trimmed _ (by simp; tauto)]
      refine ofTrimmed?_of_parenthesis named (fun mark isMark => ?_)
        (unqualified_of_noDot named.noDot _)
      exact named.method.noMark mark (by revert isMark; simp; tauto)
  | qualifiedInSuite =>
      rw [trimmed _ (by simp; tauto)]
      exact ofTrimmed?_of_parenthesis named (qualified_noMark named) (unqualified_append _ _)
  | qualified =>
      rw [trimmed _ (by simp; tauto)]
      exact ofTrimmed?_qualified named
  | @path front engine arguments back noTag =>
      have absorbed :
          before ++ pathOf front engine id.suite.toList id.method.toList arguments back ++ after =
            pathOf (before ++ front) engine id.suite.toList id.method.toList arguments
            (back ++ after) := by
        simp [pathOf]
      rw [absorbed, trimChars_pathOf]
      refine ofTrimmed?_pathOf named arguments fun tag isTag => ⟨?_, (noTag tag isTag).2⟩
      have noOpening : '[' ∉ before := fun member => absurd (blanksBefore _ member) (by decide)
      intro inside
      obtain ⟨letters, rfl⟩ : ∃ letters, tag = '[' :: letters := by
        rcases List.mem_pair.1 isTag with rfl | rfl <;> exact ⟨_, rfl⟩
      have untrimmed := inside.trans (List.dropWhile_suffix _).isInfix
      exact (noTag _ isTag).1 (Text.infix_of_infix_append noOpening untrimmed)

/-- The spelling of a method in a path, with blanks around it. -/
theorem testAdd_in_path :
    let id : TestId := ⟨"com.acme.CalcTest", "testAdd"⟩
    IsNamed id ∧
      ofText? " CalcTest.[engine:jupiter]/[class:com.acme.CalcTest]/[method:testAdd(int)]:1\t" =
        some id := by
  intro id
  have named : IsNamed id := ⟨by decide, by decide, by decide⟩
  have spells : Spells id (pathOf "CalcTest.".toList "jupiter".toList id.suite.toList
      id.method.toList "int".toList ":1".toList) :=
    .path _ _ (by decide)
  have denoted := spellings_denote named spells (show AllBlank [' '] by decide)
    (show AllBlank ['\t'] by decide)
  have written : String.ofList ([' '] ++ pathOf "CalcTest.".toList "jupiter".toList id.suite.toList
      id.method.toList "int".toList ":1".toList ++ ['\t']) =
        " CalcTest.[engine:jupiter]/[class:com.acme.CalcTest]/[method:testAdd(int)]:1\t" := by
    decide +kernel
  rw [written] at denoted
  exact ⟨named, denoted⟩

end TestAmplification.KillingTest
