import Mathlib.Data.List.TakeWhile
import TestAmplification.Files.Path

/-!
# The steps of a path

A path leads further by its names other than dots (`Path.steps`); doubled slashes and dots are
passed over. Joining a path and a name adds one step (`steps_join`), and the parent of a path has
all steps but the last and starts at the same place (`exists_parent?`). These two facts are all
that is needed of how paths are written.
-/

set_option autoImplicit false

namespace TestAmplification.Path

/-! ## Names between slashes -/

theorem splitNames_ne_nil (characters : List Char) : splitNames characters ≠ [] := by
  rw [splitNames.eq_def]
  split
  · exact List.cons_ne_nil _ _
  · exact List.cons_ne_nil _ _
  · split <;> exact List.cons_ne_nil _ _

/-- A character other than a slash belongs to the first name. -/
theorem splitNames_cons {character : Char} (noSlash : character ≠ '/') (rest : List Char) :
    splitNames (character :: rest) =
      (character :: (splitNames rest).headD []) :: (splitNames rest).tail := by
  rw [splitNames]
  · cases splitNames rest <;> rfl
  · exact noSlash

theorem splitNames_append_slash (front back : List Char) :
    splitNames (front ++ '/' :: back) = splitNames front ++ splitNames back := by
  induction front with
  | nil => rfl
  | cons character rest ih =>
      by_cases slash : character = '/'
      · subst slash
        simp [splitNames, ih]
      · obtain ⟨name, others, split⟩ := List.exists_cons_of_ne_nil (splitNames_ne_nil rest)
        rw [List.cons_append, splitNames_cons slash, splitNames_cons slash, ih, split]
        rfl

theorem splitNames_of_noSlash {characters : List Char} (noSlash : '/' ∉ characters) :
    splitNames characters = [characters] := by
  induction characters with
  | nil => rfl
  | cons character rest ih =>
      obtain ⟨notFirst, notLater⟩ := List.ne_and_not_mem_of_not_mem_cons noSlash
      rw [splitNames_cons (Ne.symm notFirst), ih notLater]
      rfl

/-- What has no slash ends the last name. -/
theorem getLast?_splitNames_append {back : List Char} (noSlash : '/' ∉ back) (front : List Char) :
    ∃ name, (splitNames (front ++ back)).getLast? = some (name ++ back) := by
  induction front with
  | nil => exact ⟨[], by rw [List.nil_append, splitNames_of_noSlash noSlash]; rfl⟩
  | cons character rest ih =>
      obtain ⟨name, last⟩ := ih
      obtain ⟨first, others, split⟩ := List.exists_cons_of_ne_nil (splitNames_ne_nil (rest ++ back))
      rw [split] at last
      by_cases slash : character = '/'
      · subst slash
        refine ⟨name, ?_⟩
        rw [List.cons_append, splitNames, split, List.getLast?_cons_cons, last]
      · rw [List.cons_append, splitNames_cons slash, split]
        cases others with
        | nil => exact ⟨character :: name, by simpa using last⟩
        | cons second others => exact ⟨name, by simpa using last⟩

/-! ## Steps -/

/-- The names that lead further. -/
def stepChars (characters : List Char) : List (List Char) :=
  (splitNames characters).filter fun name => !name.isEmpty && name != ['.']

/-- The names of a path that lead further. -/
def steps (path : Path) : List String :=
  (stepChars path.toList).map String.ofList

theorem steps_eq_filter (path : Path) : steps path = (names path).filter (· != ".") := by
  have dot : ∀ name : List Char, (String.ofList name != ".") = (name != ['.']) := by
    intro name
    rw [Bool.eq_iff_iff, bne_iff_ne, bne_iff_ne, ne_eq, ne_eq, ← String.toList_inj,
      String.toList_ofList]
    rfl
  simp only [steps, stepChars, names, List.filter_map, List.filter_filter, Function.comp_def, dot]
  congr 2
  funext name
  exact Bool.and_comm _ _

theorem stepChars_append_slash (front back : List Char) :
    stepChars (front ++ '/' :: back) = stepChars front ++ stepChars back := by
  rw [stepChars, splitNames_append_slash, List.filter_append]
  rfl

theorem stepChars_slash (characters : List Char) :
    stepChars ('/' :: characters) = stepChars characters :=
  stepChars_append_slash [] characters

/-- A name that is no slash inside, not empty and no dot. -/
theorem stepChars_of_noSlash {name : List Char} (noSlash : '/' ∉ name) :
    stepChars name = if name ∈ [[], ['.']] then [] else [name] := by
  rw [stepChars, splitNames_of_noSlash noSlash]
  split
  · next idle =>
      rcases List.mem_cons.1 idle with rfl | dot
      · rfl
      · obtain rfl := List.mem_singleton.1 dot
        rfl
  · next step =>
      have notEmpty : name ≠ [] := fun same => step (by simp [same])
      have notDot : name ≠ ['.'] := fun same => step (by simp [same])
      simp [notEmpty, notDot]

/-- A path has no more steps than characters. -/
theorem length_steps_le (path : Path) : (steps path).length ≤ path.length := by
  have bound : ∀ characters : List Char, (stepChars characters).length ≤ characters.length := by
    intro characters
    induction characters with
    | nil => exact Nat.le_refl 0
    | cons character rest ih =>
        by_cases slash : character = '/'
        · subst slash
          rw [stepChars_slash]
          exact Nat.le_succ_of_le ih
        · obtain ⟨name, others, split⟩ := List.exists_cons_of_ne_nil (splitNames_ne_nil rest)
          have more : (stepChars (character :: rest)).length ≤ (stepChars rest).length + 1 := by
            rw [stepChars, stepChars, splitNames_cons slash, split, List.headD_cons, List.tail_cons]
            grind
          exact more.trans (Nat.succ_le_succ ih)
  rw [steps, List.length_map, ← String.length_toList]
  exact bound path.toList

/-- The characters of a name stand in the path. -/
theorem mem_of_mem_names {path : Path} {name : String} (member : name ∈ names path)
    {character : Char} (inside : character ∈ name.toList) : character ∈ path.toList := by
  have all : ∀ characters : List Char, ∀ part ∈ splitNames characters, part ⊆ characters := by
    intro characters
    induction characters with
    | nil => simp [splitNames]
    | cons first rest ih =>
        by_cases slash : first = '/'
        · subst slash
          intro part inParts
          rcases List.mem_cons.1 inParts with rfl | later
          · exact List.nil_subset _
          · exact List.Subset.trans (ih part later) (List.subset_cons_self _ _)
        · obtain ⟨name, others, split⟩ := List.exists_cons_of_ne_nil (splitNames_ne_nil rest)
          rw [splitNames_cons slash, split]
          rw [split] at ih
          intro part inParts
          rcases List.mem_cons.1 inParts with rfl | later
          · exact List.cons_subset_cons _ (ih name List.mem_cons_self)
          · exact List.Subset.trans (ih part (List.mem_cons_of_mem _ later)) (List.subset_cons_self _ _)
  obtain ⟨part, inParts, rfl⟩ := List.mem_map.1 member
  rw [String.toList_ofList] at inside
  exact all _ part (List.mem_filter.1 inParts).1 inside

/-- No name has a slash. -/
theorem slash_not_mem_splitNames {characters name : List Char}
    (member : name ∈ splitNames characters) : '/' ∉ name := by
  induction characters generalizing name with
  | nil => simp_all [splitNames]
  | cons first rest ih =>
      by_cases slash : first = '/'
      · subst slash
        rw [splitNames] at member
        rcases List.mem_cons.1 member with rfl | later
        · exact List.not_mem_nil
        · exact ih later
      · obtain ⟨next, others, split⟩ := List.exists_cons_of_ne_nil (splitNames_ne_nil rest)
        rw [splitNames_cons slash, split] at member
        rw [split] at ih
        rcases List.mem_cons.1 member with rfl | later
        · exact List.not_mem_cons_of_ne_of_not_mem (Ne.symm slash) (ih List.mem_cons_self)
        · exact ih (List.mem_cons_of_mem _ later)

/-! ## Joining -/

/-- The name of something in a directory: not empty, without slashes and no dots. -/
structure Ordinary (name : String) : Prop where
  nonempty : name ≠ ""
  noSlash : '/' ∉ name.toList
  notDot : name ≠ "."
  notDots : name ≠ ".."

/-- Every step of a path without `..` is the name of something. -/
theorem ordinary_of_mem_steps {path : Path} (straight : ".." ∉ names path) {name : String}
    (member : name ∈ steps path) : Ordinary name := by
  rw [steps_eq_filter] at member
  obtain ⟨inNames, notDot⟩ := List.mem_filter.1 member
  obtain ⟨characters, inFilter, rfl⟩ := List.mem_map.1 inNames
  obtain ⟨inSplit, nonempty⟩ := List.mem_filter.1 inFilter
  refine ⟨?_, ?_, by simpa using notDot, ?_⟩
  · simpa using nonempty
  · rw [String.toList_ofList]
    exact slash_not_mem_splitNames inSplit
  · rintro dots
    exact straight (dots ▸ inNames)

/-- The names of a text. -/
def nameChars (characters : List Char) : List (List Char) :=
  (splitNames characters).filter fun name => !name.isEmpty

theorem names_eq (path : Path) : names path = (nameChars path.toList).map String.ofList :=
  rfl

theorem nameChars_append_slash (front back : List Char) :
    nameChars (front ++ '/' :: back) = nameChars front ++ nameChars back := by
  rw [nameChars, splitNames_append_slash, List.filter_append]
  rfl

section

variable {name : String} (ordinary : Ordinary name) (base : Path)

include ordinary

theorem Ordinary.toList_ne_nil : name.toList ≠ [] := by
  simpa using ordinary.nonempty

theorem Ordinary.not_isAbsolute : isAbsolute name = false := by
  cases characters : name.toList with
  | nil => simp [isAbsolute, characters]
  | cons first rest =>
      have noSlash := ordinary.noSlash
      rw [characters] at noSlash
      have different : first ≠ '/' := Ne.symm (List.ne_and_not_mem_of_not_mem_cons noSlash).1
      simp [isAbsolute, characters, different]

/-- A joined path is the name alone or ends with a slash and the name. -/
theorem toList_join :
    (base = "" ∧ join base name = name) ∨
      ∃ front, (join base name).toList = front ++ '/' :: name.toList ∧
        nameChars front = nameChars base.toList := by
  by_cases empty : base = ""
  · left
    subst empty
    simp [join, ordinary.not_isAbsolute]
  · right
    by_cases ends : base.toList.getLast? = some '/'
    · obtain ⟨front, characters⟩ := List.getLast?_eq_some_iff.1 ends
      refine ⟨front, ?_, ?_⟩
      · simp [join, ordinary.not_isAbsolute, characters]
      · rw [characters, nameChars_append_slash]
        exact (List.append_nil _).symm
    · refine ⟨base.toList, ?_, rfl⟩
      have notEmpty : base.isEmpty = false := by simpa using empty
      simp [join, ordinary.not_isAbsolute, ends, notEmpty]

theorem Ordinary.nameChars_toList : nameChars name.toList = [name.toList] := by
  have notEmpty : name.toList.isEmpty = false := by simpa using ordinary.toList_ne_nil
  rw [nameChars, splitNames_of_noSlash ordinary.noSlash]
  simp [notEmpty]

/-- **A joined path has one name more.** -/
theorem names_join : names (join base name) = names base ++ [name] := by
  rcases toList_join ordinary base with ⟨rfl, same⟩ | ⟨front, characters, sameNames⟩
  · rw [same, names_eq, names_eq, ordinary.nameChars_toList]
    simp [nameChars, splitNames]
  · rw [names_eq, names_eq, characters, nameChars_append_slash, sameNames,
      ordinary.nameChars_toList]
    simp

theorem steps_join : steps (join base name) = steps base ++ [name] := by
  rw [steps_eq_filter, steps_eq_filter, names_join ordinary base, List.filter_append]
  simp [ordinary.notDot]

theorem isAbsolute_join : isAbsolute (join base name) = isAbsolute base := by
  have relative := ordinary.not_isAbsolute
  by_cases empty : base = ""
  · subst empty
    simpa [join, isAbsolute] using relative
  · obtain ⟨first, rest, characters⟩ :=
      List.exists_cons_of_ne_nil (mt String.toList_eq_nil_iff.1 empty)
    unfold join
    rw [if_neg (by simp [relative])]
    split <;> simp [isAbsolute, characters]

theorem join_ne_empty : join base name ≠ "" := by
  intro empty
  have none := names_join ordinary base
  rw [empty] at none
  exact absurd none (by simp [names, splitNames])

/-- A joined path ends with the name. -/
theorem getLast?_splitNames_join :
    (splitNames (join base name).toList).getLast? = some name.toList := by
  rcases toList_join ordinary base with ⟨rfl, same⟩ | ⟨front, characters, -⟩
  · rw [same, splitNames_of_noSlash ordinary.noSlash]
    rfl
  · rw [characters, splitNames_append_slash, splitNames_of_noSlash ordinary.noSlash,
      List.getLast?_concat]

end

/-- Joining keeps an absolute path as it is. -/
theorem join_of_isAbsolute {path : Path} (absolute : isAbsolute path = true) (base : Path) :
    join base path = path :=
  if_pos absolute

/-- A relative path follows a base directly, or behind a slash. -/
theorem join_of_relative {path : Path} (relative : isAbsolute path = false) (base : Path) :
    join base path = base ++ path ∧ (base = "" ∨ base.toList.getLast? = some '/') ∨
      join base path = base ++ "/" ++ path ∧ base ≠ "" := by
  rw [join, if_neg (by simp [relative])]
  split
  · next direct => exact .inl ⟨rfl, by simpa using direct⟩
  · next behindSlash =>
      rw [Bool.or_eq_true, not_or] at behindSlash
      exact .inr ⟨rfl, by simpa using behindSlash.1⟩

/-- **A joined path has the names of both.** -/
theorem names_join_of_relative {path : Path} (relative : isAbsolute path = false) (base : Path) :
    names (join base path) = names base ++ names path := by
  rw [names_eq, names_eq, names_eq, ← List.map_append]
  rcases join_of_relative relative base with ⟨same, rfl | slash⟩ | ⟨same, -⟩
  · rw [same, String.toList_append]
    rfl
  · obtain ⟨front, characters⟩ := List.getLast?_eq_some_iff.1 slash
    rw [same, String.toList_append, characters, List.append_assoc, List.singleton_append,
      nameChars_append_slash, nameChars_append_slash, List.append_assoc]
    rfl
  · rw [same, String.toList_append, String.toList_append, List.append_assoc]
    exact congrArg _ (nameChars_append_slash ..)

/-- A joined path is relative only if both are. -/
theorem isAbsolute_join_eq (base path : Path) :
    isAbsolute (join base path) = (isAbsolute path || isAbsolute base) := by
  cases absolute : isAbsolute path with
  | true => rw [join_of_isAbsolute absolute, absolute, Bool.true_or]
  | false =>
      rw [Bool.false_or]
      rcases join_of_relative absolute base with ⟨same, rfl | slash⟩ | ⟨same, some⟩
      · rw [same, String.empty_append, absolute]
        rfl
      · obtain ⟨first, rest, characters⟩ : ∃ first rest, base.toList = first :: rest :=
          List.exists_cons_of_ne_nil fun none => by simp [none] at slash
        simp [same, isAbsolute, characters]
      · obtain ⟨first, rest, characters⟩ :=
          List.exists_cons_of_ne_nil (mt String.toList_eq_nil_iff.1 some)
        simp [same, isAbsolute, characters]

/-- Only the empty path is relative and without names. -/
theorem eq_empty_of_names_eq_nil {path : Path} (relative : isAbsolute path = false)
    (none : names path = []) : path = "" := by
  refine String.toList_eq_nil_iff.1 (Classical.byContradiction fun some => ?_)
  obtain ⟨first, rest, characters⟩ := List.exists_cons_of_ne_nil some
  have noSlash : first ≠ '/' := by
    rintro rfl
    simp [isAbsolute, characters] at relative
  rw [names_eq, List.map_eq_nil_iff, characters, nameChars, splitNames_cons noSlash] at none
  simp at none

/-- A path with nothing joined ends with a slash. -/
theorem getLast?_join_empty {base : Path} (some : base ≠ "") :
    (join base "").toList.getLast? = Option.some '/' := by
  rcases @join_of_relative "" rfl base with ⟨same, empty | slash⟩ | ⟨same, -⟩
  · exact absurd empty some
  · rw [same, String.append_empty, slash]
  · have slash : "/".toList = ['/'] := rfl
    rw [same, String.append_empty, String.toList_append, slash, List.getLast?_concat]

/-! ## Parents -/

/-- The last name of a reversed path, reversed. -/
def lastReversed (reversed : List Char) : List Char :=
  reversed.takeWhile (· != '/')

theorem slash_not_mem_lastReversed (reversed : List Char) : '/' ∉ lastReversed reversed := by
  intro member
  simpa using List.mem_takeWhile_imp member

/-- A path ends with its last name, and a slash in front of it if anything stands there. -/
theorem reverse_eq (reversed : List Char) :
    dropName reversed = [] ∧ reversed.reverse = (lastReversed reversed).reverse ∨
      reversed.reverse = (dropName reversed).reverse ++ '/' :: (lastReversed reversed).reverse := by
  have parts : lastReversed reversed ++ reversed.dropWhile (· != '/') = reversed :=
    List.takeWhile_append_dropWhile
  cases rest : reversed.dropWhile (· != '/') with
  | nil =>
      rw [rest, List.append_nil] at parts
      exact .inl ⟨by simp [dropName, rest], by rw [parts]⟩
  | cons first others =>
      have slash : first = '/' := by
        have stops := List.head?_dropWhile_not (· != '/') reversed
        simpa [rest] using stops
      subst slash
      rw [rest] at parts
      right
      calc reversed.reverse
          = (lastReversed reversed ++ '/' :: others).reverse := by rw [parts]
        _ = (dropName reversed).reverse ++ '/' :: (lastReversed reversed).reverse := by
          simp [dropName, rest]

theorem stepChars_reverse (reversed : List Char) :
    stepChars reversed.reverse =
      stepChars (dropName reversed).reverse ++ stepChars (lastReversed reversed).reverse := by
  rcases reverse_eq reversed with ⟨none, whole⟩ | whole
  · rw [whole, none]
    rfl
  · rw [whole, stepChars_append_slash]

theorem stepChars_lastReversed (reversed : List Char) :
    stepChars (lastReversed reversed).reverse =
      if lastReversed reversed ∈ [[], ['.']] then [] else [(lastReversed reversed).reverse] := by
  have noSlash : '/' ∉ (lastReversed reversed).reverse := by
    simpa using slash_not_mem_lastReversed reversed
  have reverse_mem : ∀ name : List Char, name.reverse ∈ [[], ['.']] ↔ name ∈ [[], ['.']] := by
    intro name
    simp only [List.mem_cons, List.not_mem_nil, or_false, List.reverse_eq_iff]
    rfl
  rw [stepChars_of_noSlash noSlash]
  simp only [reverse_mem]

/-- Empty names and dots at the end are no steps. -/
theorem stepChars_dropIdle (reversed : List Char) :
    stepChars (dropIdle reversed).reverse = stepChars reversed.reverse := by
  induction reversed using dropIdle.induct with
  | case1 => rw [dropIdle]
  | case2 character rest idle ih =>
      have noStep : stepChars (lastReversed (character :: rest)).reverse = [] := by
        rw [stepChars_lastReversed]
        exact if_pos idle
      rw [dropIdle, if_pos idle, ih, stepChars_reverse (character :: rest), noStep, List.append_nil]
  | case3 character rest step => rw [dropIdle, if_neg step]

theorem last_dropIdle (reversed : List Char) :
    dropIdle reversed = [] ∨ lastReversed (dropIdle reversed) ∉ [[], ['.']] := by
  induction reversed using dropIdle.induct with
  | case1 => exact .inl (by rw [dropIdle])
  | case2 character rest idle ih => rwa [dropIdle, if_pos idle]
  | case3 character rest step => exact .inr (by rwa [dropIdle, if_neg step])

theorem dropName_suffix (reversed : List Char) : dropName reversed <:+ reversed :=
  (List.drop_suffix _ _).trans (List.dropWhile_suffix _)

theorem dropIdle_suffix (reversed : List Char) : dropIdle reversed <:+ reversed := by
  induction reversed using dropIdle.induct with
  | case1 => simp [dropIdle]
  | case2 character rest idle ih =>
      rw [dropIdle, if_pos idle]
      exact ih.trans (dropName_suffix _)
  | case3 character rest step => simp [dropIdle, step]

/-- What is in front of the names is no step, also when names at the end are dropped. -/
theorem stepChars_anchor (characters : List Char) {front : List Char}
    (isFront : front <+: characters.drop (anchorLength characters)) :
    stepChars (characters.take (anchorLength characters) ++ front) = stepChars front := by
  unfold anchorLength at isFront ⊢
  split at isFront
  · exact stepChars_slash front
  · obtain rfl : front = [] := List.prefix_nil.1 isFront
    rfl
  · next rest =>
      cases front with
      | nil => rfl
      | cons first others =>
          obtain rfl : first = '/' := (List.cons_prefix_cons.1 isFront).1
          exact (stepChars_append_slash ['.'] others).trans (stepChars_slash others).symm
  · rfl

theorem nameChars_of_noSlash {name : List Char} (noSlash : '/' ∉ name) (some : name ≠ []) :
    nameChars name = [name] := by
  rw [nameChars, splitNames_of_noSlash noSlash]
  simp [some]

/-- The last name stays the last one behind what is in front of the names. -/
theorem getLast?_nameChars_anchor (characters : List Char) {front last : List Char}
    (isFront : front <+: characters.drop (anchorLength characters))
    (isLast : lastReversed front.reverse = last.reverse) (isName : last ≠ []) :
    (nameChars (characters.take (anchorLength characters) ++ front)).getLast? = some last := by
  have noSlash : '/' ∉ last := by simpa [isLast] using slash_not_mem_lastReversed front.reverse
  have alone : nameChars last = [last] := nameChars_of_noSlash noSlash isName
  have parts := reverse_eq front.reverse
  rw [isLast, List.reverse_reverse, List.reverse_reverse] at parts
  rcases parts with ⟨-, rfl⟩ | whole
  · unfold anchorLength at isFront ⊢
    split at isFront
    · exact congrArg List.getLast? ((nameChars_append_slash [] front).trans alone)
    · exact absurd (List.prefix_nil.1 isFront) isName
    · next rest =>
        cases front with
        | nil => exact absurd rfl isName
        | cons first others =>
            obtain rfl : first = '/' := (List.cons_prefix_cons.1 isFront).1
            exact absurd List.mem_cons_self noSlash
    · rw [List.take_zero, List.nil_append, alone]
      rfl
  · rw [whole, ← List.append_assoc, nameChars_append_slash, alone, List.getLast?_concat]

/-- The path is the parent of the other one: it has all its steps but the last, starts where the
other one does, is a beginning of it, and does not end with a dot that comes behind a step. -/
structure IsParent (parent path : Path) : Prop where
  steps_eq : steps parent = (steps path).dropLast
  isAbsolute_eq : isAbsolute parent = isAbsolute path
  beginning : parent.toList <+: path.toList
  endsInStep : steps parent = [] ∨ (names parent).getLast? ≠ some "."

/-- What is in front of the names says whether the path is absolute, and it stays there. -/
theorem head?_anchor (characters : List Char) {front : List Char}
    (isFront : front <+: characters.drop (anchorLength characters)) :
    ((characters.take (anchorLength characters) ++ front).head? == some '/') =
      (characters.head? == some '/') := by
  unfold anchorLength at isFront ⊢
  split at isFront
  · rfl
  · rfl
  · rfl
  · next noSlash _ _ =>
      cases front with
      | nil =>
          cases characters with
          | nil => rfl
          | cons first rest =>
              have different : first ≠ '/' := fun same => noSlash rest (by rw [same])
              simp [different]
      | cons first others =>
          obtain ⟨rest, rfl⟩ := isFront
          rfl

/-- **The parent of a path with a step** has all steps but the last. -/
theorem exists_parent? {path : Path} (some : steps path ≠ []) :
    ∃ parent, parent? path = Option.some parent ∧ IsParent parent path := by
  let characters := path.toList
  let anchor := characters.take (anchorLength characters)
  let body := dropIdle (characters.drop (anchorLength characters)).reverse
  let front := (dropIdle (dropName body)).reverse
  have bodySteps : stepChars body.reverse = stepChars characters := by
    rw [stepChars_dropIdle, List.reverse_reverse]
    have anchored := stepChars_anchor characters List.prefix_rfl
    rw [List.take_append_drop] at anchored
    exact anchored.symm
  have isFront : front <+: characters.drop (anchorLength characters) := by
    have suffix :
        dropIdle (dropName body) <:+ (characters.drop (anchorLength characters)).reverse :=
      (dropIdle_suffix _).trans ((dropName_suffix _).trans (dropIdle_suffix _))
    simpa [front] using List.reverse_prefix.2 suffix
  have bodySome : body ≠ [] := by
    intro none
    rw [none] at bodySteps
    exact some (by rw [steps, ← bodySteps]; rfl)
  have isName : lastReversed body ∉ [[], ['.']] := (last_dropIdle _).resolve_left bodySome
  refine ⟨String.ofList (anchor ++ front), ?_, ?_, ?_, ?_, ?_⟩
  · have notEmpty : body.isEmpty = false := by simpa using bodySome
    simp only [parent?]
    exact if_neg (by simp [characters, body, notEmpty])
  · have lastStep : stepChars (lastReversed body).reverse = [(lastReversed body).reverse] := by
      rw [stepChars_lastReversed, if_neg isName]
    have all : stepChars characters = stepChars front ++ [(lastReversed body).reverse] := by
      rw [← bodySteps, stepChars_reverse, lastStep, stepChars_dropIdle]
    rw [steps, String.toList_ofList, stepChars_anchor characters isFront]
    simp [steps, characters, all]
  · rw [isAbsolute, String.toList_ofList, head?_anchor characters isFront]
    rfl
  · rw [String.toList_ofList]
    have whole := (List.prefix_append_right_inj anchor).2 isFront
    rwa [List.take_append_drop] at whole
  · rcases last_dropIdle (dropName body) with none | isStep
    · left
      rw [steps, String.toList_ofList, stepChars_anchor characters isFront]
      simp only [front, none]
      rfl
    · right
      have isLast : lastReversed front.reverse =
          (lastReversed (dropIdle (dropName body))).reverse.reverse := by
        rw [List.reverse_reverse, List.reverse_reverse]
      have notEmpty : (lastReversed (dropIdle (dropName body))).reverse ≠ [] := by
        intro none
        exact isStep (by simp [List.reverse_eq_nil_iff.1 none])
      rw [names_eq, String.toList_ofList, List.getLast?_map,
        getLast?_nameChars_anchor characters isFront isLast notEmpty, Option.map_some]
      intro dot
      have isDot : (lastReversed (dropIdle (dropName body))).reverse = ['.'] := by
        simpa using congrArg String.toList (Option.some.inj dot)
      exact isStep (by simp [List.reverse_eq_iff.1 isDot])

end TestAmplification.Path
