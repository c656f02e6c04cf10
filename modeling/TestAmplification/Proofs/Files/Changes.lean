import TestAmplification.Files.Disk
import TestAmplification.Proofs.Files.Plain
import TestAmplification.Proofs.Table

/-!
# Changes to trees without links

What the operations on files do to a plain tree. Making a directory adds the missing ones on the
way to it, or fails for what is in the way, and that depends on nothing but what is no directory
there and the lengths of names (`makeDirectoriesUpTo_spec`). Writing, removing a file and removing
a directory change what stands at the place of their path and below it, and leave everything else
alone (`Disk.write_does`, `Disk.removeFile_does`, `Disk.removeTree_does`). The tree stays a plain
one.
-/

set_option autoImplicit false

namespace TestAmplification

namespace FileTree

variable {tree : FileTree}

/-! ## Single places -/

theorem find?_put (place other : Place) (node : FileNode) :
    (tree.put place node).nodes.find? other =
      if other = place then some node else tree.nodes.find? other := by
  split
  · next same =>
      subst same
      exact tree.nodes.find?_insert_self other node
  · next different => exact tree.nodes.find?_insert_of_ne node different

/-- The tree without what stands at a place and below it. -/
def without (tree : FileTree) (place : Place) : FileTree :=
  (tree.eraseBelow place).erase place

theorem find?_eraseBelow (place other : Place) :
    (tree.eraseBelow place).nodes.find? other =
      if place <+: other ∧ other ≠ place then none else tree.nodes.find? other := by
  have prefix_iff : place.isPrefixOf other = true ↔ place <+: other := List.isPrefixOf_iff_prefix
  rw [eraseBelow, Table.find?_filter]
  by_cases gone : place <+: other ∧ other ≠ place
  · have notKept : (other == place || !place.isPrefixOf other) = false := by
      simp [prefix_iff.2 gone.1, gone.2]
    rw [if_pos gone]
    cases tree.nodes.find? other <;> simp [notKept]
  · have kept : (other == place || !place.isPrefixOf other) = true := by
      by_cases same : other = place
      · simp [same]
      · have outside : place.isPrefixOf other = false := by
          rw [Bool.eq_false_iff]
          exact fun isPrefix => gone ⟨prefix_iff.1 isPrefix, same⟩
        simp [outside]
    rw [if_neg gone]
    cases tree.nodes.find? other <;> simp [kept]

theorem find?_without (place other : Place) :
    (tree.without place).nodes.find? other =
      if place <+: other then none else tree.nodes.find? other := by
  rw [without, erase, Table.find?_filter, find?_eraseBelow]
  by_cases same : other = place
  · subst same
    cases tree.nodes.find? other <;> simp
  · have different : (other != place) = true := bne_iff_ne.2 same
    by_cases below : place <+: other
    · simp [below, same]
    · cases found : tree.nodes.find? other <;> simp [below, different]

/-- Nothing is in a directory that was made empty. -/
theorem namesIn_eraseBelow (place : Place) : (tree.eraseBelow place).namesIn place = [] := by
  have nothing : (tree.eraseBelow place).below place = [] := by
    refine List.filterMap_eq_nil_iff.2 fun entry member => if_neg ?_
    have kept := (List.mem_filter.1 member).2
    simp only [Bool.and_eq_true, bne_iff_ne]
    rintro ⟨below, different⟩
    simp [below, different] at kept
  rw [namesIn, nothing]
  rfl

/-- In a smaller tree everything has to stand in a directory still. -/
theorem Plain.smaller {smaller : FileTree} (plain : tree.Plain)
    (fewer : ∀ {place node}, smaller.nodes.find? place = some node →
      tree.nodes.find? place = some node)
    (inDirectory : ∀ {place node}, smaller.nodes.find? place = some node →
      smaller.nodes.find? place.dropLast = tree.nodes.find? place.dropLast) : smaller.Plain where
  named := fun found => plain.named (fewer found)
  noLink := fun found => plain.noLink (fewer found)
  inDirectory := fun found => (plain.inDirectory (fewer found)).imp_right (inDirectory found).trans

/-- What is put into a directory, and not in place of one, leaves the tree plain. -/
theorem Plain.put (plain : tree.Plain) {place : Place} {name : String} {node : FileNode}
    (directory : tree.HasDirectory place) (isName : IsName name)
    (vacant : ¬ tree.HasDirectory (place ++ [name]))
    (noLink : ∀ target, node ≠ .link target) :
    (tree.put (place ++ [name]) node).Plain := by
  have keeps : ∀ other, tree.HasDirectory other →
      (tree.put (place ++ [name]) node).HasDirectory other := by
    rintro other (root | found)
    · exact .inl root
    · refine .inr ?_
      rw [find?_put, if_neg, found]
      rintro rfl
      exact vacant (.inr found)
  refine ⟨?_, ?_, ?_⟩
  · intro other node' found
    rw [find?_put] at found
    split at found
    · next same =>
        subst same
        refine ⟨by simp, fun other member => ?_⟩
        rcases List.mem_append.1 member with inPlace | last
        · exact directory.isName plain other inPlace
        · rw [List.mem_singleton.1 last]
          exact isName
    · exact plain.named found
  · intro other target found
    rw [find?_put] at found
    split at found
    · exact noLink target (Option.some.inj found)
    · exact plain.noLink found
  · intro other node' found
    rw [find?_put] at found
    split at found
    · next same =>
        subst same
        rw [List.dropLast_concat]
        exact keeps _ directory
    · exact keeps _ (plain.inDirectory found)

/-- What is removed with everything below it leaves the tree plain. -/
theorem Plain.without (plain : tree.Plain) (place : Place) : (tree.without place).Plain := by
  have finds : ∀ {other node}, (tree.without place).nodes.find? other = some node →
      ¬ place <+: other ∧ tree.nodes.find? other = some node := by
    intro other node found
    rw [find?_without] at found
    split at found
    · exact absurd found nofun
    · next outside => exact ⟨outside, found⟩
  refine plain.smaller (fun found => (finds found).2) fun {other node} found => ?_
  rw [find?_without, if_neg]
  exact fun below => (finds found).1 (below.trans (List.dropLast_prefix _))

/-- A directory that is made empty leaves the tree plain. -/
theorem Plain.eraseBelow (plain : tree.Plain) (place : Place) : (tree.eraseBelow place).Plain := by
  have finds : ∀ {other node}, (tree.eraseBelow place).nodes.find? other = some node →
      ¬ (place <+: other ∧ other ≠ place) ∧ tree.nodes.find? other = some node := by
    intro other node found
    rw [find?_eraseBelow] at found
    split at found
    · exact absurd found nofun
    · next outside => exact ⟨outside, found⟩
  refine plain.smaller (fun found => (finds found).2) fun {other node} found => ?_
  rw [find?_eraseBelow, if_neg]
  rintro ⟨below, different⟩
  refine (finds found).1 ⟨below.trans (List.dropLast_prefix _), ?_⟩
  rintro rfl
  exact different (below.eq_of_length_le (List.dropLast_prefix other).length_le).symm

/-! ## Making directories -/

/-- All that changed is that missing directories on the way to the place are there. -/
def WayMade (tree made : FileTree) (place : Place) : Prop :=
  ∀ other, made.nodes.find? other = tree.nodes.find? other ∨
    tree.nodes.find? other = none ∧ made.nodes.find? other = some .directory ∧ other <+: place

theorem WayMade.unchanged {place : Place} : WayMade tree tree place := fun _ => .inl rfl

/-- One more directory at the end of the way. -/
theorem WayMade.put {made : FileTree} {place : Place} {name : String}
    (wayMade : WayMade tree made place) (missing : made.nodes.find? (place ++ [name]) = none) :
    WayMade tree (made.put (place ++ [name]) .directory) (place ++ [name]) := by
  intro other
  rw [find?_put]
  split
  · next same =>
      subst same
      rcases wayMade (place ++ [name]) with same | ⟨_, directory, _⟩
      · exact .inr ⟨same ▸ missing, rfl, List.prefix_rfl⟩
      · simp [missing] at directory
  · rcases wayMade other with same | ⟨none, directory, onWay⟩
    · exact .inl same
    · exact .inr ⟨none, directory, onWay.trans (List.prefix_append _ _)⟩

theorem WayMade.hasDirectory {made : FileTree} {place other : Place}
    (wayMade : WayMade tree made place) (directory : tree.HasDirectory other) :
    made.HasDirectory other := by
  rcases directory with root | found
  · exact .inl root
  · rcases wayMade other with same | ⟨none, _, _⟩
    · exact .inr (same ▸ found)
    · simp [none] at found

theorem WayMade.blocked_iff {made : FileTree} {place other : Place}
    (wayMade : WayMade tree made place) : made.Blocked other ↔ tree.Blocked other := by
  rcases wayMade other with same | ⟨none, directory, _⟩
  · simp [Blocked, same]
  · simp [Blocked, none, directory]

theorem WayMade.wayFault? {made : FileTree} {place here : Place} {names : List String}
    (wayMade : WayMade tree made place) : made.wayFault? here names = tree.wayFault? here names :=
  wayFault?_congr fun _ _ => wayMade.blocked_iff

theorem WayMade.append {made : FileTree} {here : Place} {front names : List String}
    (wayMade : WayMade tree made (here ++ front)) :
    WayMade tree made (here ++ (front ++ names)) := fun other =>
  (wayMade other).imp_right fun ⟨missing, directory, onWay⟩ =>
    ⟨missing, directory,
      onWay.trans ((List.prefix_append_right_inj here).2 (List.prefix_append _ _))⟩

theorem isDirectory_of_locate {base place : Place} {path : Path}
    (located : tree.locate base path = .ok place) :
    tree.isDirectory base path = true ↔ tree.node? place = some .directory := by
  have looked : tree.inspect base path = tree.checked path place := by
    rw [inspect, located]
    rfl
  rw [isDirectory, looked, checked]
  cases tree.node? place with
  | none => simp
  | some node => cases node <;> cases namesDirectory path <;> simp

theorem isDirectory_of_fault {base : Place} {path : Path} {fault : FileFault}
    (stops : tree.locate base path = .error fault) : tree.isDirectory base path = false := by
  have looked : tree.inspect base path = .error fault := by
    rw [inspect, stops]
    rfl
  rw [isDirectory, looked]

/-- What comes of making the directories that names lead to from a directory. -/
structure MakesWay (tree : FileTree) (here : Place) (names : List String)
    (outcome : FileTree × Except FileFault Unit) : Prop where
  plain : outcome.1.Plain
  kept : WayMade tree outcome.1 (here ++ names)
  result : outcome.2 =
    match tree.wayFault? here names with
    | none => .ok ()
    | some fault => .error fault
  directory : tree.wayFault? here names = none → outcome.1.HasDirectory (here ++ names)

/-- A fault is what is in the way, if the tree was left alone. -/
theorem MakesWay.of_fault (plain : tree.Plain) {here : Place} {names : List String}
    {fault : FileFault} (isFault : tree.wayFault? here names = some fault) :
    MakesWay tree here names (tree, .error fault) where
  plain := plain
  kept := .unchanged
  result := by rw [isFault]
  directory := by simp [isFault]

/-- A directory that is there already is as good as a new one. -/
theorem MakesWay.of_directory (plain : tree.Plain) {here : Place} {names : List String}
    (directory : tree.HasDirectory (here ++ names)) : MakesWay tree here names (tree, .ok ()) where
  plain := plain
  kept := .unchanged
  result := by rw [directory.wayFault? plain]
  directory := fun _ => directory

section

variable {made : FileTree} {here : Place} {front : List String} {name : String}

theorem MakesWay.openWay (madeFront : MakesWay tree here front (made, .ok ())) :
    tree.wayFault? here front = none := by
  have result := madeFront.result
  split at result
  · assumption
  · exact absurd result nofun

/-- A fault behind the directories that were made leaves them there. -/
theorem MakesWay.fault_behind {result : Except FileFault Unit} {fault : FileFault}
    (madeFront : MakesWay tree here front (made, result))
    (isFault : tree.wayFault? here (front ++ [name]) = some fault) :
    MakesWay tree here (front ++ [name]) (made, .error fault) where
  plain := madeFront.plain
  kept := madeFront.kept.append
  result := by rw [isFault]
  directory := by simp [isFault]

/-- In an existing directory one more is made, unless something is there. -/
theorem MakesWay.of_parent (madeFront : MakesWay tree here front (made, .ok ()))
    (isName : IsName name) (missing : made.nodes.find? (here ++ front ++ [name]) = none) :
    MakesWay tree here (front ++ [name])
      (made.put (here ++ front ++ [name]) .directory, .ok ()) := by
  have openWay := madeFront.openWay
  have free : ¬ tree.Blocked (here ++ front ++ [name]) := by
    rw [← madeFront.kept.blocked_iff]
    exact not_blocked_of_missing missing
  have openToo : tree.wayFault? here (front ++ [name]) = none := by
    rw [wayFault?_concat, openWay]
    simp only
    rw [wayFault?, if_neg (Nat.not_lt.2 isName.short), if_neg free]
    rfl
  refine ⟨?_, ?_, ?_, fun _ => ?_⟩
  · refine madeFront.plain.put (madeFront.directory openWay) isName ?_ fun _ => FileNode.noConfusion
    rintro (root | directory)
    · exact absurd root (by simp)
    · cases missing.symm.trans directory
  · rw [← List.append_assoc]
    exact madeFront.kept.put missing
  · rw [openToo]
  · rw [← List.append_assoc]
    exact .inr (by rw [find?_put, if_pos rfl])

end

theorem makeDirectory_of_locate {base place : Place} {path : Path}
    (located : tree.locateWith false base path = .ok place) :
    tree.makeDirectory base path =
      match tree.node? place with
      | some _ => .error .alreadyExists
      | none => .ok (tree.put place .directory) := by
  rw [makeDirectory, located]
  rfl

theorem makeDirectory_of_fault {base : Place} {path : Path} {fault : FileFault}
    (stops : tree.locateWith false base path = .error fault) :
    tree.makeDirectory base path = .error fault := by
  rw [makeDirectory, stops]
  rfl

/-- A path of dots leads nowhere else. -/
theorem walk_dots {jump : Place → Path → Except FileFault Place} {followsLast : Bool}
    {here : Place} (plain : tree.Plain) (directory : tree.HasDirectory here) {names : List String}
    (dots : ∀ name ∈ names, name = ".") : tree.walk jump followsLast here names = .ok here := by
  induction names with
  | nil => rfl
  | cons name rest ih =>
      obtain rfl := dots name List.mem_cons_self
      have rest := ih fun other member => dots other (List.mem_cons_of_mem _ member)
      simp [walk, enter, directory.node? plain, rest]

section

variable {base here : Place} {path : Path} {front : List String} {name : String}

/-- The parent of a path is without a fault where the path is, unless it is empty. -/
theorem fault?_of_beginning {parent : Path} (noFault : path.fault? = none)
    (beginning : parent.toList <+: path.toList) (some : parent ≠ "") : parent.fault? = none := by
  obtain ⟨-, noNul, short⟩ := Path.fault?_eq_none_iff.1 noFault
  obtain ⟨rest, whole⟩ := beginning
  have parts : path = parent ++ String.ofList rest := by
    rw [← String.toList_inj, String.toList_append, String.toList_ofList, whole]
  refine Path.fault?_eq_none_iff.2 ⟨some, fun inside => noNul ?_, ?_⟩
  · rw [← whole]
    exact List.mem_append_left _ inside
  · rw [parts, String.utf8ByteSize_append] at short
    exact (Nat.le_add_right _ _).trans short

/-- The parent of a path leads to the directory above. -/
theorem Leads.parent {parent : Path} (leads : Leads base path here (front ++ [name]))
    (isParent : Path.IsParent parent path) : Leads base parent here front where
  start := by rw [← leads.start, startOf, startOf, isParent.isAbsolute_eq]
  steps := by rw [isParent.steps_eq, leads.steps, List.dropLast_concat]
  ordinary := fun other member => leads.ordinary other (List.mem_append_left _ member)
  endsInStep := by
    have ends := isParent.endsInStep
    rwa [isParent.steps_eq, leads.steps, List.dropLast_concat] at ends

/-- A path without steps stays where it starts. -/
theorem Leads.locateWith_nil (plain : tree.Plain) (start : tree.HasDirectory here)
    (leads : Leads base path here []) (noFault : path.fault? = none) (followsLast : Bool) :
    tree.locateWith followsLast base path = .ok here := by
  have dots : ∀ other ∈ Path.names path, other = "." := by
    have none := leads.steps
    rw [Path.steps_eq_filter, List.filter_eq_nil_iff] at none
    exact fun other member => by simpa using none other member
  rw [locateWith_eq_walk noFault, leads.start]
  exact walk_dots plain start dots

/-- In an existing directory a directory is made, or there is one, or the attempt fails for good. -/
theorem Leads.makeDirectory_inside {made : FileTree} (start : tree.HasDirectory here)
    (leads : Leads base path here (front ++ [name])) (noFault : path.fault? = none)
    (madeFront : MakesWay tree here front (made, .ok ())) :
    (∃ more, made.makeDirectory base path = .ok more ∧
      MakesWay tree here (front ++ [name]) (more, .ok ())) ∨
    ∃ fault, fault ≠ .notFound ∧ made.makeDirectory base path = .error fault ∧
      MakesWay tree here (front ++ [name])
        (made, if made.isDirectory base path then .ok () else .error fault) := by
  have startToo : made.HasDirectory here := madeFront.kept.hasDirectory start
  have openWay := madeFront.openWay
  have directory := madeFront.directory openWay
  have located := fun follows =>
    leads.locateWith_of_directory madeFront.plain noFault follows directory
  have node := leads.node?_eq madeFront.plain noFault startToo
  by_cases long : name.utf8ByteSize > longestName
  · right
    simp only [if_pos long] at located
    have isFault : tree.wayFault? here (front ++ [name]) = some .nameTooLong := by
      rw [wayFault?_concat, openWay]
      exact if_pos long
    refine ⟨.nameTooLong, nofun, makeDirectory_of_fault (located false), ?_⟩
    rw [isDirectory_of_fault (located true)]
    exact madeFront.fault_behind isFault
  · simp only [if_neg long] at located
    have isName : IsName name :=
      { toOrdinary := leads.ordinary name (by simp)
        noNul := leads.isFree_names noFault name (by simp)
        short := Nat.not_lt.1 long }
    have attempt := makeDirectory_of_locate (located false)
    rw [node] at attempt
    cases found : made.nodes.find? (here ++ front ++ [name]) with
    | none =>
        rw [found] at attempt
        exact .inl ⟨_, attempt, madeFront.of_parent isName found⟩
    | some inside =>
        rw [found] at attempt node
        refine .inr ⟨.alreadyExists, nofun, attempt, ?_⟩
        by_cases isDirectory : inside = .directory
        · subst isDirectory
          rw [(isDirectory_of_locate (located true)).2 node]
          have there : made.HasDirectory (here ++ (front ++ [name])) := by
            rw [← List.append_assoc]
            exact .inr found
          have openToo := there.wayFault? madeFront.plain
          rw [madeFront.kept.wayFault?] at openToo
          exact ⟨madeFront.plain, madeFront.kept.append, by rw [openToo]; rfl, fun _ => there⟩
        · have isNone : made.isDirectory base path = false := by
            rw [Bool.eq_false_iff, ne_eq, isDirectory_of_locate (located true), node]
            exact fun same => isDirectory (Option.some.inj same)
          have blocked : tree.Blocked (here ++ front ++ [name]) :=
            madeFront.kept.blocked_iff.1 ⟨inside, found, isDirectory⟩
          have isFault : tree.wayFault? here (front ++ [name]) = some .alreadyExists := by
            rw [wayFault?_concat, openWay]
            simp only
            rw [FileTree.wayFault?, if_neg long, if_pos blocked]
            rfl
          rw [isNone]
          exact madeFront.fault_behind isFault

/-- **Making directories** adds the missing ones on the way, or fails for what is in the way. -/
theorem makeDirectoriesUpTo_spec (plain : tree.Plain) (start : tree.HasDirectory here)
    {names : List String} (leads : Leads base path here names)
    (usable : path = "" ∨ path.fault? = none) {limit : Nat} (enough : names.length < limit) :
    MakesWay tree here names (makeDirectoriesUpTo base limit tree path) := by
  -- from the end of the names: a directory that is missing is made in its parent
  induction names using List.reverseRecOn generalizing path limit with
  | nil =>
      obtain ⟨limit, rfl⟩ := Nat.exists_eq_succ_of_ne_zero (Nat.ne_of_gt enough)
      have isHere : tree.HasDirectory (here ++ []) := by rwa [List.append_nil]
      have done := MakesWay.of_directory plain isHere
      rcases usable with rfl | noFault
      · exact done
      · have located := leads.locateWith_nil plain start noFault
        have node := start.node? plain
        have stays : tree.isDirectory base path = true :=
          (isDirectory_of_locate (located true)).2 node
        have exists' : tree.makeDirectory base path = .error .alreadyExists := by
          rw [makeDirectory_of_locate (located false), node]
        have some : path.isEmpty = false := by
          simpa using (Path.fault?_eq_none_iff.1 noFault).1
        simpa [makeDirectoriesUpTo, some, exists', stays] using done
  | append_singleton front name ih =>
      obtain ⟨limit, rfl⟩ := Nat.exists_eq_succ_of_ne_zero (Nat.ne_of_gt (Nat.zero_lt_of_lt enough))
      have noFault : path.fault? = none := by
        refine usable.resolve_left ?_
        rintro rfl
        exact absurd leads.steps (by simp [Path.steps, Path.stepChars, Path.splitNames])
      have notEmpty : path.isEmpty = false := by
        simpa using (Path.fault?_eq_none_iff.1 noFault).1
      rw [makeDirectoriesUpTo, notEmpty, if_neg Bool.false_ne_true]
      by_cases directory : tree.HasDirectory (here ++ front)
      · have attempt :=
          leads.makeDirectory_inside start noFault (MakesWay.of_directory plain directory)
        rcases attempt with ⟨more, attempt, makes⟩ | ⟨fault, different, attempt, makes⟩
        · rwa [attempt]
        · rw [attempt]
          cases fault <;> first | exact absurd rfl different | exact makes
      · obtain ⟨fault, ends, stops⟩ :=
          leads.locateWith_of_not_directory plain noFault false start directory
        obtain ⟨_, -, stopsToo⟩ :=
          leads.locateWith_of_not_directory plain noFault true start directory
        have isNone := isDirectory_of_fault stopsToo
        have hasStep : Path.steps path ≠ [] := by
          rw [leads.steps]
          simp
        obtain ⟨parent, hasParent, isParent⟩ := Path.exists_parent? hasStep
        have madeFront := ih (leads.parent isParent)
          ((em (parent = "")).imp_right (fault?_of_beginning noFault isParent.beginning))
          (Nat.lt_of_succ_lt_succ (by simpa using enough) : front.length < limit)
        have concat := @wayFault?_concat tree here front name
        rw [makeDirectory_of_fault stops]
        generalize way : tree.wayFault? here front = wayFault at ends concat
        have result := madeFront.result
        rw [way] at result
        rcases outcome : makeDirectoriesUpTo base limit tree parent with ⟨made, answer⟩
        rw [outcome] at madeFront result
        cases ends with
        | nothing =>
            obtain rfl : answer = .ok () := result
            simp only [hasParent, outcome]
            have attempt := leads.makeDirectory_inside start noFault madeFront
            rcases attempt with ⟨more, attempt, makes⟩ | ⟨fault, -, attempt, makes⟩
            · rwa [attempt]
            · rwa [attempt]
        | early =>
            obtain rfl : answer = .error .nameTooLong := result
            simp only [hasParent, outcome]
            exact madeFront.fault_behind concat
        | long =>
            simp only [isNone]
            exact .of_fault plain concat
        | blocked notLong =>
            simp only [isNone]
            simp only [if_neg notLong] at concat
            exact .of_fault plain concat

end

/-! ## Edits -/

/-- What an operation does to a place and everything below it. -/
inductive Edit where
  | nothing
  | write (bytes : Text.Bytes)
  | remove

/-- The tree after an edit. -/
def Edit.apply (tree : FileTree) (place : Place) (clock : Int) : Edit → FileTree
  | nothing => tree
  | write bytes => tree.put place (.file bytes.toByteArray clock)
  | remove => tree.without place

/-- An edit changes nothing outside of its place. -/
theorem Edit.find?_apply {place other : Place} {clock : Int} (edit : Edit)
    (outside : ¬ place <+: other) :
    (edit.apply tree place clock).nodes.find? other = tree.nodes.find? other := by
  cases edit with
  | nothing => rfl
  | write bytes =>
      refine (find?_put _ _ _).trans (if_neg ?_)
      rintro rfl
      exact outside List.prefix_rfl
  | remove => exact (find?_without _ _).trans (if_neg outside)

/-- The mode of a place after an edit, where it is not the usual one: what is removed with
everything below it leaves no modes. -/
def Edit.modeAfter (place other : Place) (mode? : Option Nat) : Edit → Option Nat
  | remove => if place <+: other then none else mode?
  | _ => mode?

/-- An edit changes no mode outside of its place. -/
theorem Edit.modeAfter_eq {place other : Place} {mode? : Option Nat} (edit : Edit)
    (outside : ¬ place <+: other) : edit.modeAfter place other mode? = mode? := by
  cases edit with
  | remove => exact if_neg outside
  | _ => rfl

/-- What comes of writing a file, by its name, by what is there and by whether that may be
written. -/
def writing (name : String) (bytes : Text.Bytes) (allowed : Bool) (node : Option FileNode) :
    Except FileFault Unit × Edit :=
  if name.utf8ByteSize > longestName then (.error .nameTooLong, .nothing)
  else
    match node with
    | none => (.ok (), .write bytes)
    | some .directory => (.error .isADirectory, .nothing)
    | some .pipe => (if allowed then .ok () else .error .permissionDenied, .nothing)
    | some _ => if allowed then (.ok (), .write bytes) else (.error .permissionDenied, .nothing)

/-- What comes of removing a file, by its name and by what is there. -/
def removingFile (name : String) (node : Option FileNode) : Except FileFault Unit × Edit :=
  if name.utf8ByteSize > longestName then (.error .nameTooLong, .nothing)
  else
    match node with
    | some .directory => (.error .isADirectory, .nothing)
    | some _ => (.ok (), .remove)
    | none => (.error .notFound, .nothing)

/-- What comes of removing a directory, by its name and by what is there. -/
def removingTree (name : String) (node : Option FileNode) : Except FileFault Unit × Edit :=
  if name.utf8ByteSize > longestName then (.error .nameTooLong, .nothing)
  else
    match node with
    | some .directory => (.ok (), .remove)
    | some _ => (.error .notADirectory, .nothing)
    | none => (.error .notFound, .nothing)

end FileTree

namespace Disk

open FileTree

/-! ## Modes -/

section

variable {disk : Disk}

theorem mode_foldl_change {change : FileMark → FileMark}
    (keeps : ∀ mark, (change mark).mode = mark.mode) (names : List Place)
    (marks : Table Place FileMark) (other : Place) :
    (((names.foldl (fun marks name => marks.insert name (change ((marks.find? name).getD {})))
      marks).find? other).getD {}).mode = ((marks.find? other).getD {}).mode := by
  induction names generalizing marks with
  | nil => rfl
  | cons name rest ih =>
      rw [List.foldl_cons, ih]
      by_cases same : other = name
      · subst same
        rw [Table.find?_insert_self, Option.getD_some, keeps]
      · rw [Table.find?_insert_of_ne _ _ same]

/-- A change to marks that leaves their modes alone. -/
theorem mode?_changeMark {change : FileMark → FileMark}
    (keeps : ∀ mark, (change mark).mode = mark.mode) (place other : Place) :
    (disk.changeMark place change).mode? other = disk.mode? other :=
  mode_foldl_change keeps _ _ other

theorem mode?_stampParent (disk : Disk) (place other : Place) :
    (disk.stampParent place).mode? other = disk.mode? other := by
  rw [stampParent]
  exact mode?_changeMark (by exact fun _ => rfl) _ _

theorem mode?_create (place other : Place) (bytes : ByteArray) (changed : Int) :
    (disk.create place (.file bytes changed)).mode? other = disk.mode? other :=
  mode?_stampParent { disk with
    tree := disk.tree.put place (.file bytes changed), clock := disk.clock + 1 } place other

theorem mode?_forget (disk : Disk) (place other : Place) :
    (disk.forget place).mode? other = if place <+: other then none else disk.mode? other := by
  rw [mode?, mode?, markOf, markOf, forget, Table.find?_filter]
  by_cases below : place <+: other
  · rw [if_pos below]
    cases disk.marks.find? other <;> simp [List.isPrefixOf_iff_prefix.2 below]
  · have outside : place.isPrefixOf other = false := by
      rw [Bool.eq_false_iff]
      exact fun isPrefix => below (List.isPrefixOf_iff_prefix.1 isPrefix)
    rw [if_neg below]
    cases disk.marks.find? other with
    | none => rfl
    | some mark => simp [outside, Option.filter]

theorem mode?_erase (place other : Place) :
    (disk.erase place).mode? other = if place <+: other then none else disk.mode? other := by
  rw [erase, mode?_stampParent]
  exact mode?_forget { disk with
    tree := (disk.tree.eraseBelow place).erase place, clock := disk.clock + 1 } place other

/-- What is seen at a path says what is refused there. -/
theorem refuses_of_seen {path : Path} {place : Place} {node : FileNode}
    (looked : disk.tree.inspect disk.workingPlace path = .ok (place, some node))
    (right : FileRight) : disk.refuses right path = !disk.allows right place := by
  rw [refuses, looked]

/-- Whoever may do everything is refused nothing. -/
theorem refuses_of_superuser (user : disk.superuser = true) (right : FileRight) (path : Path) :
    disk.refuses right path = false := by
  unfold refuses allows
  split <;> simp [user]

end

/-! ## What becomes of a disk -/

/-- The disk has another tree after an operation, and perhaps other marks and another clock. -/
structure Becomes (disk after : Disk) (tree : FileTree) : Prop where
  tree : after.tree = tree
  workingPlace : after.workingPlace = disk.workingPlace
  shared : after.shared = disk.shared
  superuser : after.superuser = disk.superuser

theorem create_becomes (disk : Disk) (place : Place) (bytes : ByteArray) (changed : Int) :
    disk.Becomes (disk.create place (.file bytes changed))
      (disk.tree.put place (.file bytes changed)) :=
  ⟨rfl, rfl, rfl, rfl⟩

theorem namesOf_eq {disk : Disk} (unshared : disk.shared = []) (place : Place) :
    disk.namesOf place = [place] := by
  simp [namesOf, unshared]

theorem store_becomes {disk : Disk} (unshared : disk.shared = []) (place : Place)
    (bytes : ByteArray) (changed : Int) :
    disk.Becomes { disk.store place bytes changed with clock := disk.clock + 1 }
      (disk.tree.put place (.file bytes changed)) :=
  ⟨by simp [store, namesOf_eq unshared], rfl, rfl, rfl⟩

theorem forget_shared {disk : Disk} (unshared : disk.shared = []) (place : Place) :
    (disk.forget place).shared = disk.shared := by
  simp [forget, unshared]

theorem erase_becomes {disk : Disk} (unshared : disk.shared = []) (place : Place) :
    disk.Becomes (disk.erase place) (disk.tree.without place) :=
  ⟨rfl, rfl, by simp [erase, stampParent, changeMark, forget, unshared], rfl⟩

/-- An operation on a place comes out as said. -/
structure Does (disk : Disk) (place : Place) (outcome : Except FileFault Unit × Edit)
    (run : Except FileFault Unit × Disk) : Prop where
  result : run.1 = outcome.1
  becomes : disk.Becomes run.2 (outcome.2.apply disk.tree place disk.clock)
  modes : ∀ other, run.2.mode? other = outcome.2.modeAfter place other (disk.mode? other)
  plain : run.2.tree.Plain

theorem Does.of_unchanged {disk : Disk} (plain : disk.tree.Plain) (place : Place)
    (result : Except FileFault Unit) : disk.Does place (result, .nothing) (result, disk) :=
  ⟨rfl, ⟨rfl, rfl, rfl, rfl⟩, fun _ => rfl, plain⟩

/-! ## Runs of operations -/

theorem write_eq (disk : Disk) (path : Path) (bytes : Text.Bytes) :
    Disk.write path bytes disk =
      match disk.tree.placeToWrite disk.workingPlace path with
      | .error fault => (.error fault, disk)
      | .ok place =>
          if disk.refuses .write path then (.error .permissionDenied, disk)
          else
            (.ok (),
              match disk.tree.node? place with
              | none => disk.create place (.file bytes.toByteArray disk.clock)
              | some .pipe => disk
              | some _ =>
                  { disk.store place bytes.toByteArray disk.clock with
                    clock := disk.clock + 1 }) := by
  change (match disk.tree.placeToWrite disk.workingPlace path with
      | .error fault => (pure (.error fault) : StateM Disk (Except FileFault Unit))
      | .ok place => _) disk = _
  cases disk.tree.placeToWrite disk.workingPlace path with
  | error fault => rfl
  | ok place =>
      dsimp only
      cases disk.refuses .write path with
      | true => rfl
      | false =>
          cases disk.tree.node? place with
          | none => rfl
          | some node => cases node <;> rfl

theorem read_eq (disk : Disk) (path : Path) :
    Disk.read path disk =
      (if disk.refuses .read path then .error .permissionDenied
        else disk.tree.read disk.workingPlace path, disk) := by
  change ((if disk.refuses .read path then pure (.error .permissionDenied) else _ :
    StateM Disk (Except FileFault Text.Bytes))) disk = _
  cases disk.refuses .read path <;> rfl

/-- A file that cannot be written leaves the disk as it is. -/
theorem write_of_error {path : Path} {bytes : Text.Bytes} {disk : Disk} {fault : FileFault}
    (stops : (Disk.write path bytes disk).1 = .error fault) :
    (Disk.write path bytes disk).2 = disk := by
  rw [Disk.write_eq] at stops ⊢
  cases target : disk.tree.placeToWrite disk.workingPlace path with
  | error fault => rfl
  | ok place =>
      rw [target] at stops
      dsimp only at stops ⊢
      split at stops
      · next refused => rw [if_pos refused]
      · cases stops

theorem write_workingPlace (path : Path) (bytes : Text.Bytes) (disk : Disk) :
    (Disk.write path bytes disk).2.workingPlace = disk.workingPlace := by
  rw [Disk.write_eq]
  split
  · rfl
  · split
    · rfl
    · dsimp only
      split <;> rfl

theorem removeFile_eq (disk : Disk) (path : Path) :
    Disk.removeFile path disk =
      match disk.tree.placeToRemove disk.workingPlace path with
      | .error fault => (.error fault, disk)
      | .ok place => (.ok (), disk.erase place) := by
  simp only [Disk.removeFile, bind, StateT.bind, get, getThe, MonadStateOf.get, StateT.get, pure]
  cases disk.tree.placeToRemove disk.workingPlace path <;> rfl

theorem removeTree_eq (disk : Disk) (path : Path) :
    Disk.removeTree path disk =
      ((disk.tree.removeTree disk.workingPlace path).2,
        { (match disk.tree.treeToRemove? disk.workingPlace path with
            | some place => disk.forget place
            | none => disk) with
          tree := (disk.tree.removeTree disk.workingPlace path).1 }) := by
  simp only [Disk.removeTree, bind, StateT.bind, get, getThe, MonadStateOf.get, StateT.get, pure]
  cases disk.tree.treeToRemove? disk.workingPlace path <;> rfl

theorem removeTree_becomes {disk : Disk} (unshared : disk.shared = []) (path : Path) :
    (Disk.removeTree path disk).1 = (disk.tree.removeTree disk.workingPlace path).2 ∧
      disk.Becomes (Disk.removeTree path disk).2
        (disk.tree.removeTree disk.workingPlace path).1 := by
  rw [removeTree_eq]
  cases disk.tree.treeToRemove? disk.workingPlace path with
  | none => exact ⟨rfl, rfl, rfl, rfl, rfl⟩
  | some place => exact ⟨rfl, rfl, rfl, forget_shared unshared place, rfl⟩

theorem mode?_removeTree (disk : Disk) (path : Path) (other : Place) :
    (Disk.removeTree path disk).2.mode? other =
      match disk.tree.treeToRemove? disk.workingPlace path with
      | some place => if place <+: other then none else disk.mode? other
      | none => disk.mode? other := by
  rw [removeTree_eq]
  cases disk.tree.treeToRemove? disk.workingPlace path with
  | none => rfl
  | some place => exact mode?_forget _ place other

/-! ## Faults of paths -/

section

variable {disk : Disk} {path : Path} {fault : FileFault}

theorem write_does_of_fault (plain : disk.tree.Plain) (isFault : path.fault? = some fault)
    (place : Place) (bytes : Text.Bytes) :
    disk.Does place (.error fault, .nothing) (Disk.write path bytes disk) := by
  have target : disk.tree.placeToWrite disk.workingPlace path = .error fault := by
    rw [placeToWrite, inspect_of_fault isFault]
    rfl
  rw [Disk.write_eq, target]
  exact .of_unchanged plain place (.error fault)

theorem removeFile_does_of_fault (plain : disk.tree.Plain) (isFault : path.fault? = some fault)
    (place : Place) : disk.Does place (.error fault, .nothing) (Disk.removeFile path disk) := by
  have target : disk.tree.placeToRemove disk.workingPlace path = .error fault := by
    rw [placeToRemove, inspectSelf_of_fault isFault]
    rfl
  rw [Disk.removeFile_eq, target]
  exact .of_unchanged plain place (.error fault)

/-- A directory that is not found is not removed. -/
theorem removeTree_does_of_fault (plain : disk.tree.Plain) (unshared : disk.shared = [])
    (stops : disk.tree.inspectSelf disk.workingPlace path = .error fault) (place : Place) :
    disk.Does place (.error fault, .nothing) (Disk.removeTree path disk) := by
  obtain ⟨result, becomes⟩ := removeTree_becomes unshared path
  have outcome : disk.tree.removeTree disk.workingPlace path = (disk.tree, .error fault) := by
    unfold FileTree.removeTree
    rw [stops]
  have nothing : disk.tree.treeToRemove? disk.workingPlace path = none := by
    rw [treeToRemove?, stops]
  rw [outcome] at result becomes
  refine ⟨result, becomes, fun other => ?_, becomes.tree ▸ plain⟩
  rw [mode?_removeTree, nothing]
  rfl

theorem makeDirectories_of_fault (isFault : path.fault? = some fault) (some : path ≠ "") :
    Disk.makeDirectories path disk = (.error fault, disk) := by
  have notMissing := Path.fault?_ne_notFound isFault some
  have notEmpty : path.isEmpty = false := by simpa using some
  have fails : disk.tree.makeDirectory disk.workingPlace path = .error fault :=
    makeDirectory_of_fault (locateWith_of_fault isFault false)
  have isNone : disk.tree.isDirectory disk.workingPlace path = false :=
    isDirectory_of_fault (locateWith_of_fault isFault true)
  have made : disk.tree.makeDirectories disk.workingPlace path = (disk.tree, .error fault) := by
    rw [FileTree.makeDirectories, makeDirectoriesUpTo, notEmpty, fails]
    cases fault <;> first | exact absurd rfl notMissing | simp [isNone]
  change ((disk.tree.makeDirectories disk.workingPlace path).2,
    { disk with tree := (disk.tree.makeDirectories disk.workingPlace path).1 }) = _
  rw [made]

end

/-! ## Reading -/

section

variable {disk : Disk} {here : Place} {path : Path} {front : List String} {name : String}
  (plain : disk.tree.Plain) (leads : FileTree.Leads disk.workingPlace path here (front ++ [name]))
  (noFault : path.fault? = none) (written : namesDirectory path = false)
  (start : disk.tree.HasDirectory here)

include plain leads noFault written start

/-- **Reading** a file gives its bytes, or it may not be read. -/
theorem read_of_file {bytes : ByteArray} {changed : Int}
    (found : disk.tree.nodes.find? (here ++ front ++ [name]) = some (.file bytes changed)) :
    (Disk.read path disk).1 =
      if disk.allows .read (here ++ front ++ [name]) then .ok bytes.data.toList
      else .error .permissionDenied := by
  have looked := leads.inspect_of_find? plain noFault written start found
  have reads : disk.tree.read disk.workingPlace path = .ok bytes.data.toList := by
    rw [FileTree.read, looked]
    rfl
  rw [Disk.read_eq, refuses_of_seen looked, reads]
  cases disk.allows .read (here ++ front ++ [name]) <;> rfl

/-- The bytes that are there are read, if that is allowed, and nothing else is. -/
theorem toOption_read_of_leads :
    (Disk.read path disk).1.toOption =
      if disk.allows .read (here ++ front ++ [name]) then
        (disk.tree.nodes.find? (here ++ front ++ [name])).bind FileNode.bytes?
      else none := by
  have reads := leads.toOption_read plain noFault written start
  rw [Disk.read_eq]
  cases found : disk.tree.nodes.find? (here ++ front ++ [name]) with
  | none =>
      rw [found] at reads
      rcases leads.inspect_of_missing plain noFault written start found with missing | ⟨_, stops⟩
      · simp [refuses, missing, reads]
      · simp [refuses, stops, reads]
  | some node =>
      rw [found] at reads
      rw [refuses_of_seen (leads.inspect_of_find? plain noFault written start found)]
      cases disk.allows .read (here ++ front ++ [name])
      · rfl
      · exact reads

end

/-! ## In existing directories -/

section

variable {disk : Disk} {here : Place} {path : Path} {front : List String} {name : String}
  (plain : disk.tree.Plain) (unshared : disk.shared = [])
  (leads : FileTree.Leads disk.workingPlace path here (front ++ [name]))
  (noFault : path.fault? = none) (written : namesDirectory path = false)
  (start : disk.tree.HasDirectory here) (directory : disk.tree.HasDirectory (here ++ front))

include plain unshared leads noFault written start directory

/-- **Writing** puts a file into a directory, unless a directory is there or something that may not
be written. -/
theorem write_does (bytes : Text.Bytes) :
    disk.Does (here ++ front ++ [name])
      (writing name bytes (disk.allows .write (here ++ front ++ [name]))
        (disk.tree.nodes.find? (here ++ front ++ [name])))
      (Disk.write path bytes disk) := by
  have node := leads.node?_eq plain noFault start
  have looked := leads.inspect_of_directory plain noFault written start directory
  rw [Disk.write_eq, placeToWrite, refuses, looked]
  unfold writing
  by_cases long : name.utf8ByteSize > longestName
  · rw [if_pos long, if_pos long]
    exact .of_unchanged plain _ _
  · rw [if_neg long, if_neg long]
    have isName : IsName name :=
      { toOrdinary := leads.ordinary name (by simp)
        noNul := leads.isFree_names noFault name (by simp)
        short := Nat.not_lt.1 long }
    have put (vacant : disk.tree.nodes.find? (here ++ front ++ [name]) ≠ some .directory) :
        (disk.tree.put (here ++ front ++ [name]) (.file bytes.toByteArray disk.clock)).Plain :=
      plain.put directory isName (fun there => vacant (there.resolve_left (by simp))) fun _ =>
        FileNode.noConfusion
    cases found : disk.tree.nodes.find? (here ++ front ++ [name]) with
    | none =>
        rw [found] at node
        simp only [bind, Except.bind, written, Bool.false_eq_true, if_false, node]
        have becomes := disk.create_becomes (here ++ front ++ [name]) bytes.toByteArray disk.clock
        refine ⟨rfl, becomes, fun _ => mode?_create _ _ _ _, ?_⟩
        rw [becomes.tree]
        exact put (found ▸ nofun)
    | some inside =>
        rw [found] at node
        cases inside with
        | link target => exact absurd found plain.noLink
        | directory => exact .of_unchanged plain _ _
        | pipe =>
            simp only [bind, Except.bind, node]
            cases disk.allows .write (here ++ front ++ [name]) <;> exact .of_unchanged plain _ _
        | file before changed =>
            simp only [bind, Except.bind, node]
            cases disk.allows .write (here ++ front ++ [name]) with
            | false => exact .of_unchanged plain _ _
            | true =>
                have becomes :=
                  store_becomes unshared (here ++ front ++ [name]) bytes.toByteArray disk.clock
                refine ⟨rfl, becomes, fun _ => rfl, ?_⟩
                simp only [Bool.not_true, Bool.false_eq_true, if_false]
                rw [becomes.tree]
                exact put (found ▸ nofun)

/-- **Removing a file** removes what is there, unless it is a directory. -/
theorem removeFile_does :
    disk.Does (here ++ front ++ [name])
      (removingFile name (disk.tree.nodes.find? (here ++ front ++ [name])))
      (Disk.removeFile path disk) := by
  rw [Disk.removeFile_eq, placeToRemove,
    leads.inspectSelf_of_directory plain noFault written start directory]
  unfold removingFile
  by_cases long : name.utf8ByteSize > longestName
  · rw [if_pos long, if_pos long]
    exact .of_unchanged plain _ _
  · rw [if_neg long, if_neg long]
    cases found : disk.tree.nodes.find? (here ++ front ++ [name]) with
    | none => exact .of_unchanged plain _ _
    | some inside =>
        have removed : disk.Does (here ++ front ++ [name]) (.ok (), .remove)
            (.ok (), disk.erase (here ++ front ++ [name])) :=
          have becomes := erase_becomes unshared (here ++ front ++ [name])
          ⟨rfl, becomes, mode?_erase _, becomes.tree ▸ plain.without _⟩
        cases inside with
        | directory => exact .of_unchanged plain _ _
        | _ => exact removed

omit unshared in
theorem removeDirectory_cleared (short : ¬ name.utf8ByteSize > longestName)
    (found : disk.tree.nodes.find? (here ++ front ++ [name]) = some .directory) :
    (disk.tree.eraseBelow (here ++ front ++ [name])).removeDirectory disk.workingPlace path =
      .ok (disk.tree.without (here ++ front ++ [name])) := by
  have keeps : ∀ {other : Place}, other <+: here ++ front ++ [name] →
      disk.tree.HasDirectory other →
      (disk.tree.eraseBelow (here ++ front ++ [name])).HasDirectory other := by
    rintro other above (root | there)
    · exact .inl root
    · refine .inr ?_
      rw [find?_eraseBelow, if_neg, there]
      rintro ⟨below, different⟩
      exact different (above.eq_of_length_le below.length_le)
  have startToo := keeps
    ((List.prefix_append here front).trans (List.prefix_append _ _)) start
  have directoryToo := keeps (List.prefix_append _ _) directory
  have foundToo : (disk.tree.eraseBelow (here ++ front ++ [name])).nodes.find?
      (here ++ front ++ [name]) = some .directory := by
    rw [find?_eraseBelow, if_neg (fun gone => gone.2 rfl), found]
  have looked := leads.inspectSelf_of_directory (plain.eraseBelow _) noFault written startToo
    directoryToo
  rw [if_neg short, foundToo] at looked
  have noDot : (Path.names path).getLast? ≠ some "." := leads.endsInStep.resolve_left (by simp)
  have noDots : (Path.names path).getLast? ≠ some ".." := by
    intro ends
    have inSteps : ".." ∈ Path.steps path := by
      rw [Path.steps_eq_filter]
      exact List.mem_filter.2 ⟨List.mem_of_getLast? ends, by decide⟩
    exact (leads.ordinary ".." (leads.steps ▸ inSteps)).notDots rfl
  have empty : (disk.tree.eraseBelow (here ++ front ++ [name])).namesIn
      (here ++ front ++ [name]) = [] := namesIn_eraseBelow _
  have target : (disk.tree.eraseBelow (here ++ front ++ [name])).directoryToRemove
      disk.workingPlace path = .ok (here ++ front ++ [name]) := by
    rw [directoryToRemove, looked]
    simp [bind, Except.bind, noDot, noDots, empty, -List.append_assoc]
  rw [removeDirectory, target]
  rfl

/-- **Removing a directory** removes it with everything below it. -/
theorem removeTree_does :
    disk.Does (here ++ front ++ [name])
      (removingTree name (disk.tree.nodes.find? (here ++ front ++ [name])))
      (Disk.removeTree path disk) := by
  obtain ⟨result, becomes⟩ := removeTree_becomes unshared path
  have looked := leads.inspectSelf_of_directory plain noFault written start directory
  -- The tree and the modes follow one case analysis of what is there.
  have outcome : disk.tree.removeTree disk.workingPlace path =
        ((removingTree name (disk.tree.nodes.find? (here ++ front ++ [name]))).2.apply disk.tree
            (here ++ front ++ [name]) disk.clock,
          (removingTree name (disk.tree.nodes.find? (here ++ front ++ [name]))).1) ∧
      ∀ other, (Disk.removeTree path disk).2.mode? other =
        (removingTree name (disk.tree.nodes.find? (here ++ front ++ [name]))).2.modeAfter
          (here ++ front ++ [name]) other (disk.mode? other) := by
    simp only [mode?_removeTree]
    unfold FileTree.removeTree treeToRemove? removingTree
    rw [looked]
    by_cases long : name.utf8ByteSize > longestName
    · rw [if_pos long, if_pos long]
      exact ⟨rfl, fun _ => rfl⟩
    · rw [if_neg long, if_neg long]
      cases found : disk.tree.nodes.find? (here ++ front ++ [name]) with
      | none => exact ⟨rfl, fun _ => rfl⟩
      | some inside =>
          cases inside with
          | link target => exact absurd found plain.noLink
          | directory =>
              have removed :=
                removeDirectory_cleared plain leads noFault written start directory long found
              simp only [removed]
              exact ⟨rfl, fun _ => rfl⟩
          | _ => exact ⟨rfl, fun _ => rfl⟩
  rw [outcome.1] at result becomes
  refine ⟨result, becomes, outcome.2, ?_⟩
  rw [becomes.tree]
  unfold removingTree
  split
  · exact plain
  · split
    · exact plain.without _
    · exact plain
    · exact plain

end

end Disk

end TestAmplification
