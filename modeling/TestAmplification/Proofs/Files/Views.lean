import TestAmplification.Proofs.Files.Plain

/-!
# A path seen from two places

An absolute path leads to the same from everywhere. A relative one starts where it is seen from, so
somebody who went along the first names of a path and then follows the path again from there goes
along these names twice. That comes to the same if the names lead back to the place that was reached
by them (`SeenAlike.of_returns`), as `..` and a name can do, or links. Where there are no links and
a path goes straight, it only ever leads further (`locate_eq_ok`), so the names must lead nowhere at
all (`locate_eq_iff`).
-/

set_option autoImplicit false

namespace TestAmplification

namespace FileTree

variable {tree : FileTree} {base place goal : Place} {path root : Path}
  {front rest names : List String}

/-- From both places the path leads to the same, and so it does to what stands at the path
itself. -/
structure SeenAlike (tree : FileTree) (base place : Place) (path : Path) : Prop where
  locate : tree.locate place path = tree.locate base path
  locateSelf : tree.locateSelf place path = tree.locateSelf base path

theorem SeenAlike.of_isAbsolute (absolute : Path.isAbsolute path = true) :
    SeenAlike tree base place path := by
  have start : startOf place path = startOf base path := by
    rw [startOf, startOf, if_pos absolute, if_pos absolute]
  constructor <;> simp only [FileTree.locate, FileTree.locateSelf, locateWith, start]

/-! ## Walking in two parts -/

section

variable {jump : Place → Path → Except FileFault Place} {followsLast : Bool} {here : Place}

/-- A link at the end of the first names is followed, since there are more. -/
theorem walk_append (some : rest ≠ []) :
    tree.walk jump followsLast here (front ++ rest) =
      (tree.walk jump true here front).bind fun middle =>
        tree.walk jump followsLast middle rest := by
  induction front generalizing here with
  | nil => rfl
  | cons name others ih =>
      have notLast : (others ++ rest).isEmpty = false := by
        rw [List.isEmpty_eq_false_iff]
        exact fun none => some (List.append_eq_nil_iff.1 none).2
      rw [List.cons_append, walk, walk]
      cases tree.enter here name with
      | error fault => rfl
      | ok next =>
          simp only [notLast, Bool.false_and, Bool.not_true, Bool.and_false]
          split
          · next target link =>
              simp only [Bool.false_eq_true, if_false]
              cases jump here target with
              | error fault => rfl
              | ok middle => exact ih
          · exact ih

/-- A dot leads nowhere, and a name other than `..` leads to what has that name. -/
theorem eq_of_enter {name : String} {next : Place} (notBack : ".." ≠ name)
    (entered : tree.enter here name = .ok next) :
    next = here ++ [name].filter (· != ".") := by
  unfold enter at entered
  split at entered
  · cases entered
  · by_cases dot : name = "."
    · rw [if_pos dot] at entered
      simp [dot, ← Except.ok.inj entered]
    · rw [if_neg dot, if_neg (Ne.symm notBack)] at entered
      split at entered
      · cases entered
      · split at entered
        · cases entered
        · simp [dot, ← Except.ok.inj entered]
  · cases entered

/-- Dots lead nowhere. -/
theorem eq_of_walk_dots (dots : ∀ name ∈ names, name = ".")
    (leads : tree.walk jump followsLast here names = .ok goal) : goal = here := by
  induction names with
  | nil => exact (Except.ok.inj leads).symm
  | cons name others ih =>
      obtain rfl := dots name List.mem_cons_self
      refine ih (fun other member => dots other (List.mem_cons_of_mem _ member)) ?_
      rw [walk] at leads
      cases node : tree.node? here with
      | none => simp [enter, node] at leads
      | some kind =>
          cases kind with
          | directory => simpa [enter, node] using leads
          | _ => simp [enter, node] at leads

/-- Without links, names other than `..` lead further only. -/
theorem eq_append_of_walk (plain : tree.Plain) (straight : ".." ∉ names)
    (leads : tree.walk jump followsLast here names = .ok goal) :
    goal = here ++ names.filter (· != ".") := by
  induction names generalizing here with
  | nil => rw [← Except.ok.inj leads, List.filter_nil, List.append_nil]
  | cons name others ih =>
      obtain ⟨notBack, straightLater⟩ := List.ne_and_not_mem_of_not_mem_cons straight
      rw [walk] at leads
      cases entered : tree.enter here name with
      | error fault =>
          rw [entered] at leads
          cases leads
      | ok next =>
          have later : tree.walk jump followsLast next others = .ok goal := by
            rw [entered] at leads
            simp only at leads
            split at leads
            · next target link => exact absurd link (plain.node?_ne_link next target)
            · exact leads
          rw [ih straightLater later, eq_of_enter notBack entered, List.append_assoc,
            ← List.filter_append, List.singleton_append]

end

/-! ## Following a path again -/

theorem namesDirectory_of_slash (slash : path.toList.getLast? = some '/') :
    namesDirectory path = true := by
  obtain ⟨front, characters⟩ := List.getLast?_eq_some_iff.1 slash
  rw [namesDirectory, characters, Path.splitNames_append_slash, List.getLast?_append]
  rfl

theorem fault?_of_locateWith {followsLast : Bool}
    (leads : tree.locateWith followsLast base path = .ok goal) : path.fault? = none := by
  refine Option.eq_none_iff_forall_ne_some.2 fun fault isFault => ?_
  rw [locateWith_of_fault isFault] at leads
  cases leads

/-- **A path behind another one** is the same from the place that the other one leads to, if that
one leads back there. -/
theorem SeenAlike.of_returns (relative : Path.isAbsolute path = false)
    (rootRelative : Path.isAbsolute root = false)
    (behind : Path.names path = Path.names root ++ rest)
    (closed : rest = [] → namesDirectory path = true)
    (there : tree.locate base root = .ok place) (back : tree.locate place root = .ok place) :
    SeenAlike tree base place path := by
  have walks : ∀ start, tree.locate start root = .ok place →
      tree.walk (tree.leadsTo mostLinks) true start (Path.names root) = .ok place := by
    intro start leads
    have noFault : root.fault? = none := fault?_of_locateWith leads
    rw [FileTree.locate, locateWith_eq_walk noFault, startOf,
      if_neg (by simp [rootRelative])] at leads
    exact leads
  have same : ∀ followsLast, (rest = [] → followsLast = true) →
      tree.locateWith followsLast place path = tree.locateWith followsLast base path := by
    intro followsLast follows
    cases isFault : path.fault? with
    | some fault => rw [locateWith_of_fault isFault, locateWith_of_fault isFault]
    | none =>
        rw [locateWith_eq_walk isFault, locateWith_eq_walk isFault, startOf, startOf,
          if_neg (by simp [relative]), if_neg (by simp [relative]), behind]
        -- At the end of the path, a link that the root ends with must be followed as well.
        by_cases none : rest = []
        · rw [none, List.append_nil, follows none, walks place back, walks base there]
        · rw [walk_append none, walk_append none, walks place back, walks base there]
  exact ⟨same true fun _ => rfl, same _ closed⟩

/-- A relative path without `..` leads further by its steps. -/
theorem locate_eq_ok (plain : tree.Plain) (relative : Path.isAbsolute path = false)
    (straight : ".." ∉ Path.names path) (leads : tree.locate base path = .ok goal) :
    goal = base ++ Path.steps path := by
  have noFault : path.fault? = none := fault?_of_locateWith leads
  rw [locate, locateWith_eq_walk noFault, startOf, if_neg (by simp [relative])] at leads
  rw [Path.steps_eq_filter]
  exact eq_append_of_walk plain straight leads

/-- A relative path without steps stays where it is seen from. -/
theorem eq_of_locate (relative : Path.isAbsolute path = false) (nowhere : Path.steps path = [])
    (leads : tree.locate base path = .ok goal) : goal = base := by
  have noFault : path.fault? = none := fault?_of_locateWith leads
  rw [locate, locateWith_eq_walk noFault, startOf, if_neg (by simp [relative])] at leads
  rw [Path.steps_eq_filter, List.filter_eq_nil_iff] at nowhere
  exact eq_of_walk_dots (fun name member => by simpa using nowhere name member) leads

/-- **Without links**, a straight path behind another one leads to the same from the place that the
other one leads to just if the other one leads nowhere. -/
theorem locate_eq_iff (plain : tree.Plain) (relative : Path.isAbsolute path = false)
    (rootRelative : Path.isAbsolute root = false) (straight : ".." ∉ Path.names path)
    (behind : Path.names path = Path.names root ++ rest)
    (there : tree.locate base root = .ok place) (leads : tree.locate base path = .ok goal) :
    tree.locate place path = .ok goal ↔ Path.steps root = [] := by
  have rootStraight : ".." ∉ Path.names root := fun member =>
    straight (behind ▸ List.mem_append_left _ member)
  have placeEq := locate_eq_ok plain rootRelative rootStraight there
  constructor
  · intro again
    have first := locate_eq_ok plain relative straight leads
    have second := locate_eq_ok plain relative straight again
    rw [first, placeEq, List.append_left_inj] at second
    exact List.append_right_eq_self.1 second.symm
  · intro nowhere
    rw [placeEq, nowhere, List.append_nil]
    exact leads

end FileTree

end TestAmplification
