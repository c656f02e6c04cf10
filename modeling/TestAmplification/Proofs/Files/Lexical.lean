import TestAmplification.Proofs.Files.Views

/-!
# Places as paths are written

Where a path leads can be worked out without a tree: a dot stays, and `..` goes one directory up
(`Path.placeFrom`). Links can make a difference. In a tree without any, a path that leads somewhere
leads to that place (`FileTree.eq_placeFrom_of_locateWith`).

A relative path may go up beyond the directory that it starts in. If it never does, then it has a
way (`Path.way?`), and from every directory it leads there and then along this way
(`Path.placeFrom_join_of_way`). If it does, then it gets from a directory to the same place as from
another one beside it, and that cannot be below both (`Path.exists_not_below`).
-/

set_option autoImplicit false

namespace TestAmplification

/-! ## Names -/

namespace Place

/-- Where a name leads from a place, by the way it is written. -/
def further (here : Place) (name : String) : Place :=
  if name = "." then here
  else if name = ".." then here.dropLast
  else here ++ [name]

/-- The way with one more name; nothing if that leads up beyond its start. -/
def further? (way : Place) (name : String) : Option Place :=
  if name = ".." ∧ way = [] then none else some (way.further name)

variable {way goal next : Place} {name : String} {names : List String}

/-- A way goes on alike below every place. -/
theorem further_append (goesOn : way.further? name = some next) (root : Place) :
    (root ++ way).further name = root ++ next := by
  unfold further? at goesOn
  split at goesOn
  · cases goesOn
  · next inside =>
      obtain rfl := Option.some.inj goesOn
      by_cases dot : name = "."
      · simp [further, dot]
      · by_cases dots : name = ".."
        · have notStart : way ≠ [] := fun start => inside ⟨dots, start⟩
          simp [further, dots, List.dropLast_append_of_ne_nil notStart]
        · simp [further, dot, dots]

theorem foldl_further_of_some (goesOn : names.foldlM further? way = some goal) (root : Place) :
    names.foldl further (root ++ way) = root ++ goal := by
  induction names generalizing way with
  | nil =>
      obtain rfl : way = goal := Option.some.inj goesOn
      rfl
  | cons name others ih =>
      rw [List.foldlM_cons] at goesOn
      obtain ⟨next, first, later⟩ := Option.bind_eq_some_iff.1 goesOn
      rw [List.foldl_cons, further_append first, ih later]

/-- Names that lead up beyond the start of a way forget how the place above it ends. -/
theorem foldl_further_of_none (leaves : names.foldlM further? way = none) :
    ∃ rest : List String, ∀ root : Place,
      names.foldl further (root ++ way) = rest.foldl further root.dropLast := by
  induction names generalizing way with
  | nil => cases leaves
  | cons name others ih =>
      rw [List.foldlM_cons] at leaves
      cases first : way.further? name with
      | none =>
          obtain ⟨rfl, rfl⟩ : name = ".." ∧ way = [] := by
            simpa [further?] using first
          exact ⟨others, fun root => by simp [further]⟩
      | some next =>
          rw [first] at leaves
          obtain ⟨rest, same⟩ := @ih next leaves
          exact ⟨rest, fun root => by rw [List.foldl_cons, further_append first, same root]⟩

/-- Without `..`, names only lead deeper. -/
theorem foldl_further_of_straight (straight : ".." ∉ names) (here : Place) :
    names.foldl further here = here ++ names.filter (· != ".") := by
  induction names generalizing here with
  | nil => exact (List.append_nil here).symm
  | cons name others ih =>
      obtain ⟨notDots, straight⟩ := List.ne_and_not_mem_of_not_mem_cons straight
      rw [List.foldl_cons, ih straight]
      by_cases dot : name = "."
      · simp [further, dot]
      · simp [further, dot, Ne.symm notDots]

end Place

/-! ## Paths -/

namespace Path

open FileTree

/-- The place that a path leads to from a directory, by the way it is written. -/
def placeFrom (base : Place) (path : Path) : Place :=
  (names path).foldl Place.further (startOf base path)

/-- The way that a relative path leads along from any directory; nothing if it leads up beyond that
directory on the way. -/
def way? (path : Path) : Option Place :=
  if isAbsolute path then none else (names path).foldlM Place.further? []

variable {base : Place} {path root : Path} {way : Place}

theorem isAbsolute_of_way? (hasWay : way? path = some way) : isAbsolute path = false := by
  unfold way? at hasWay
  split at hasWay
  · cases hasWay
  · next relative => simpa using relative

theorem join_empty (path : Path) : join "" path = path := by
  unfold join
  split
  · rfl
  · exact String.empty_append

theorem placeFrom_of_isAbsolute (absolute : isAbsolute path = true) (base : Place) :
    placeFrom base path = placeFrom [] path := by
  rw [placeFrom, placeFrom, startOf, startOf, if_pos absolute, if_pos absolute]

theorem placeFrom_join (relative : isAbsolute path = false) (base : Place) (root : Path) :
    placeFrom base (join root path) = (names path).foldl Place.further (placeFrom base root) := by
  have start : startOf base (join root path) = startOf base root := by
    simp only [startOf, isAbsolute_join_eq, relative, Bool.false_or]
  rw [placeFrom, names_join_of_relative relative, List.foldl_append, start]
  rfl

theorem placeFrom_of_straight (straight : ".." ∉ names path) (base : Place) :
    placeFrom base path = startOf base path ++ steps path := by
  rw [placeFrom, Place.foldl_further_of_straight straight, steps_eq_filter]

/-- **A path with a way** leads along it from where the path before it leads to. -/
theorem placeFrom_join_of_way (hasWay : way? path = some way) (base : Place) (root : Path) :
    placeFrom base (join root path) = placeFrom base root ++ way := by
  have relative := isAbsolute_of_way? hasWay
  rw [way?, if_neg (by simp [relative])] at hasWay
  rw [placeFrom_join relative]
  simpa using Place.foldl_further_of_some hasWay (placeFrom base root)

/-- **A path without a way** does not lead below every directory. -/
theorem exists_not_below (noWay : way? path = none) :
    ∃ base : Place, ¬ (base <+: placeFrom base path ∧ placeFrom base path ≠ base) := by
  cases absolute : isAbsolute path with
  | true =>
      exact ⟨placeFrom [] path, fun below => below.2 (placeFrom_of_isAbsolute absolute _)⟩
  | false =>
      rw [way?, if_neg (by simp [absolute])] at noWay
      obtain ⟨rest, same⟩ := Place.foldl_further_of_none noWay
      have meets : ∀ name : String, placeFrom [name] path = rest.foldl Place.further [] := by
        intro name
        rw [placeFrom, startOf, if_neg (by simp [absolute])]
        simpa using same [name]
      by_contra always
      have below : ∀ name : String, [name] <+: rest.foldl Place.further [] := fun name =>
        meets name ▸ (Classical.not_not.1 (not_exists.1 always [name])).1
      -- Two directories beside one another would be on the way to the same place.
      have onWay : ["a"] <+: ["b"] :=
        List.prefix_of_prefix_length_le (below "a") (below "b") (Nat.le_refl 1)
      exact absurd onWay (by decide)

/-- A path that is not written like the one of a directory ends with a name. -/
theorem getLast?_names (written : namesDirectory path = false) :
    ∃ name, name ≠ "." ∧ (names path).getLast? = some name := by
  obtain ⟨front, last, split⟩ : ∃ front last, splitNames path.toList = front ++ [last] :=
    (List.eq_nil_or_concat' _).resolve_left (splitNames_ne_nil _)
  rw [namesDirectory, split, List.getLast?_concat] at written
  have notEmpty : last ≠ [] := by
    rintro rfl
    cases written
  have notDot : last ≠ ['.'] := by
    rintro rfl
    cases written
  refine ⟨String.ofList last, ?_, ?_⟩
  · rw [ne_eq, ← String.toList_inj, String.toList_ofList]
    exact notDot
  · simp [names, split, notEmpty]

/-- An ordinary name is its own way. -/
theorem Ordinary.way?_eq {name : String} (ordinary : Ordinary name) : way? name = some [name] := by
  have names : names name = [name] := by
    rw [names_eq, ordinary.nameChars_toList]
    simp
  rw [way?, if_neg (by simp [ordinary.not_isAbsolute]), names]
  simp [Place.further?, Place.further, ordinary.notDot, ordinary.notDots]

end Path

/-! ## Trees without links -/

namespace FileTree

variable {tree : FileTree} {base here next goal : Place} {path : Path} {name : String}
  {names : List String}

theorem eq_further_of_enter (entered : tree.enter here name = .ok next) :
    next = here.further name := by
  unfold enter at entered
  split at entered
  · cases entered
  · unfold Place.further
    split at entered
    · next dot => rw [if_pos dot, Except.ok.inj entered]
    · next noDot =>
        rw [if_neg noDot]
        split at entered
        · next dots => rw [if_pos dots, Except.ok.inj entered]
        · next noDots =>
            rw [if_neg noDots]
            split at entered
            · cases entered
            · split at entered
              · cases entered
              · exact (Except.ok.inj entered).symm
  · cases entered

/-- Without links, names lead where they say. -/
theorem eq_foldl_of_walk (plain : tree.Plain) {jump : Place → Path → Except FileFault Place}
    {followsLast : Bool} (leads : tree.walk jump followsLast here names = .ok goal) :
    goal = names.foldl Place.further here := by
  induction names generalizing here with
  | nil => exact (Except.ok.inj leads).symm
  | cons name others ih =>
      rw [walk] at leads
      cases entered : tree.enter here name with
      | error fault =>
          rw [entered] at leads
          cases leads
      | ok next =>
          have later : tree.walk jump followsLast next others = .ok goal := by
            rw [entered] at leads
            simp only at leads
            split at leads
            · next target link => exact absurd link (plain.node?_ne_link next target)
            · exact leads
          rw [ih later, eq_further_of_enter entered, List.foldl_cons]

/-- **Without links**, a path leads where it says. -/
theorem eq_placeFrom_of_locateWith (plain : tree.Plain) {followsLast : Bool}
    (leads : tree.locateWith followsLast base path = .ok goal) : goal = path.placeFrom base := by
  rw [locateWith_eq_walk (fault?_of_locateWith leads)] at leads
  exact eq_foldl_of_walk plain leads

/-- A path without `..` that is not written like the one of a directory leads to something in a
directory. -/
theorem Leads.of_straight (straight : ".." ∉ Path.names path)
    (written : namesDirectory path = false) (base : Place) :
    ∃ front name, Leads base path (startOf base path) (front ++ [name]) ∧
      path.placeFrom base = startOf base path ++ front ++ [name] := by
  obtain ⟨last, notDot, ends⟩ := Path.getLast?_names written
  have isStep : last ∈ Path.steps path := by
    rw [Path.steps_eq_filter, List.mem_filter]
    exact ⟨List.mem_of_getLast? ends, by simpa using notDot⟩
  obtain ⟨front, name, steps⟩ : ∃ front name, Path.steps path = front ++ [name] :=
    (List.eq_nil_or_concat' _).resolve_left (List.ne_nil_of_mem isStep)
  refine ⟨front, name, ⟨rfl, steps, fun other member => ?_, .inr ?_⟩, ?_⟩
  · exact Path.ordinary_of_mem_steps straight (steps ▸ member)
  · rw [ends]
    exact fun same => notDot (Option.some.inj same)
  · rw [Path.placeFrom_of_straight straight, steps, List.append_assoc]

/-- A path that leads somewhere leads into a directory that is there. -/
theorem Leads.of_locateWith {front : List String} {followsLast : Bool} (plain : tree.Plain)
    (leads : Leads base path here (front ++ [name])) (start : tree.HasDirectory here)
    (located : tree.locateWith followsLast base path = .ok goal) :
    path.fault? = none ∧ tree.HasDirectory (here ++ front) ∧
      ¬ name.utf8ByteSize > longestName ∧ goal = here ++ front ++ [name] := by
  have noFault := fault?_of_locateWith located
  by_cases directory : tree.HasDirectory (here ++ front)
  · rw [leads.locateWith_of_directory plain noFault followsLast directory] at located
    split at located
    · cases located
    · next short => exact ⟨noFault, directory, short, (Except.ok.inj located).symm⟩
  · obtain ⟨fault, -, stops⟩ :=
      leads.locateWith_of_not_directory plain noFault followsLast start directory
    cases stops.symm.trans located

end FileTree

end TestAmplification
