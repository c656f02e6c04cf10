import TestAmplification.Files.Disk
import TestAmplification.Proofs.Files.Paths
import TestAmplification.Proofs.Table

/-!
# Trees without links

In a plain tree there are no links, and everything stands in a directory (`FileTree.Plain`). A path
without `..` then leads where its steps say (`walk_of_directory`), and where there is no such
directory, only what is no directory and names that are too long can tell why (`wayFault?`,
`walk_of_not_directory`). Faults that lie in how the path is written come first (`Path.fault?`).
-/

set_option autoImplicit false

namespace TestAmplification

/-! ## Faults of paths -/

/-- What is wrong with a path, whatever the tree: it is empty, it holds a character that no name
has, or it is too long. -/
def Path.fault? (path : Path) : Option FileFault :=
  if path.isEmpty then some .notFound
  else if path.toList.contains '\x00' then some .nulInName
  else if path.utf8ByteSize > FileTree.longestPath then some .nameTooLong
  else none

theorem Path.fault?_eq_none_iff {path : Path} :
    path.fault? = none ↔
      path ≠ "" ∧ '\x00' ∉ path.toList ∧ path.utf8ByteSize ≤ FileTree.longestPath := by
  unfold Path.fault?
  by_cases empty : path = ""
  · simp [empty]
  · by_cases nul : '\x00' ∈ path.toList
    · simp [empty, nul]
    · simp [empty, nul]

/-- Only the empty path leads to nothing because of how it is written. -/
theorem Path.fault?_ne_notFound {path : Path} {fault : FileFault}
    (isFault : path.fault? = some fault) (notEmpty : path ≠ "") : fault ≠ .notFound := by
  rintro rfl
  unfold Path.fault? at isFault
  split at isFault
  · next empty => exact notEmpty (by simpa using empty)
  · split at isFault
    · exact absurd (Option.some.inj isFault) nofun
    · split at isFault
      · exact absurd (Option.some.inj isFault) nofun
      · exact absurd isFault nofun

/-- The bytes that are read: those of a file, and none from a pipe. -/
def FileNode.bytes? : FileNode → Option Text.Bytes
  | .file bytes _ => some bytes.data.toList
  | .pipe => some []
  | _ => none

namespace FileTree

/-- A name that something in a tree can have. -/
structure IsName (name : String) : Prop extends Path.Ordinary name where
  noNul : '\x00' ∉ name.toList
  short : name.utf8ByteSize ≤ longestName

/-- There is a directory at the place; the root is one. -/
def HasDirectory (tree : FileTree) (place : Place) : Prop :=
  place = [] ∨ tree.nodes.find? place = some .directory

/-- There is a file at the place. -/
def HasFile (tree : FileTree) (place : Place) : Prop :=
  ∃ bytes changed, tree.nodes.find? place = some (.file bytes changed)

/-- There is something else than a directory at the place. -/
def Blocked (tree : FileTree) (place : Place) : Prop :=
  ∃ node, tree.nodes.find? place = some node ∧ node ≠ .directory

/-- When the file at a place was changed last. -/
def changedAt? (tree : FileTree) (place : Place) : Option Int :=
  match tree.nodes.find? place with
  | some (.file _ changed) => some changed
  | _ => none

theorem isSome_changedAt? {tree : FileTree} {place : Place} :
    (tree.changedAt? place).isSome = true ↔ tree.HasFile place := by
  unfold changedAt? HasFile
  cases tree.nodes.find? place with
  | none => simp
  | some node => cases node <;> simp

instance (tree : FileTree) (place : Place) : Decidable (tree.Blocked place) :=
  match found : tree.nodes.find? place with
  | some (.file ..) | some (.link _) | some .pipe => .isTrue ⟨_, found, nofun⟩
  | none | some .directory => .isFalse fun ⟨_, isNode, other⟩ => by simp_all

instance (tree : FileTree) (place : Place) : Decidable (tree.HasDirectory place) :=
  match found : tree.nodes.find? place with
  | some .directory => .isTrue (.inr found)
  | none | some (.file ..) | some (.link _) | some .pipe =>
      decidable_of_iff (place = [])
        ⟨.inl, fun directory => by simpa [HasDirectory, found] using directory⟩

/-- A tree without links in which everything stands in a directory. -/
structure Plain (tree : FileTree) : Prop where
  named : ∀ {place node}, tree.nodes.find? place = some node →
    place ≠ [] ∧ ∀ name ∈ place, IsName name
  noLink : ∀ {place target}, tree.nodes.find? place ≠ some (.link target)
  inDirectory : ∀ {place node}, tree.nodes.find? place = some node →
    tree.HasDirectory place.dropLast

section

variable {tree : FileTree}

theorem HasDirectory.not_blocked {place : Place} (plain : tree.Plain)
    (directory : tree.HasDirectory place) : ¬ tree.Blocked place := by
  rintro ⟨node, found, other⟩
  rcases directory with rfl | directory
  · exact (plain.named found).1 rfl
  · rw [directory] at found
    exact other (Option.some.inj found).symm

theorem not_blocked_of_missing {place : Place} (missing : tree.nodes.find? place = none) :
    ¬ tree.Blocked place := fun ⟨_, found, _⟩ => absurd (missing.symm.trans found) nofun

/-- Everything on the way to a directory is a directory. -/
theorem HasDirectory.of_front {place front : Place} (plain : tree.Plain)
    (directory : tree.HasDirectory place) (isFront : front <+: place) :
    tree.HasDirectory front := by
  obtain ⟨rest, rfl⟩ := isFront
  induction rest using List.reverseRecOn with
  | nil => simpa using directory
  | append_singleton rest name ih =>
      rw [← List.append_assoc] at directory
      rcases directory with none | directory
      · exact absurd none (by simp)
      · have above := plain.inDirectory directory
        rw [List.dropLast_concat] at above
        exact ih above

/-- Everything strictly on the way to something is a directory. -/
theorem Plain.hasDirectory_of_front {place front : Place} {node : FileNode} (plain : tree.Plain)
    (found : tree.nodes.find? place = some node) (isFront : front <+: place)
    (shorter : front ≠ place) : tree.HasDirectory front := by
  refine (plain.inDirectory found).of_front plain ?_
  obtain ⟨rest, rfl⟩ := isFront
  have some : rest ≠ [] := by
    rintro rfl
    exact shorter (List.append_nil _).symm
  rw [List.dropLast_append_of_ne_nil some]
  exact List.prefix_append _ _

/-- Nothing is below what is no directory. -/
theorem Plain.find?_eq_none {place front : Place} (plain : tree.Plain)
    (missing : ¬ tree.HasDirectory front) (isFront : front <+: place) (shorter : front ≠ place) :
    tree.nodes.find? place = none := by
  cases found : tree.nodes.find? place with
  | none => rfl
  | some node => exact absurd (plain.hasDirectory_of_front found isFront shorter) missing

/-! ## Nodes -/

/-- No name of the place holds the character that marks lost places. -/
def IsFree (place : Place) : Prop :=
  ∀ name ∈ place, '\x00' ∉ name.toList

theorem IsFree.not_isLost {place : Place} (free : IsFree place) : isLost place = false := by
  unfold isLost
  cases last : place.getLast? with
  | none => rfl
  | some name =>
      have noNul := free name (List.mem_of_getLast? last)
      have different : name.toList.getLast? ≠ some '\x00' := fun ends =>
        noNul (List.mem_of_getLast? ends)
      simpa using different

theorem HasDirectory.isName {place : Place} (plain : tree.Plain)
    (directory : tree.HasDirectory place) : ∀ name ∈ place, IsName name := by
  rcases directory with rfl | found
  · exact nofun
  · exact (plain.named found).2

theorem HasDirectory.isFree {place : Place} (plain : tree.Plain)
    (directory : tree.HasDirectory place) : IsFree place := fun name member =>
  (directory.isName plain name member).noNul

theorem HasDirectory.node? {place : Place} (plain : tree.Plain)
    (directory : tree.HasDirectory place) : tree.node? place = some .directory := by
  rcases directory with rfl | found
  · rfl
  · have notLost := (HasDirectory.isFree plain (.inr found)).not_isLost
    simp [FileTree.node?, notLost, found]

theorem node?_eq {place : Place} (free : IsFree place) (some : place ≠ []) :
    tree.node? place = tree.nodes.find? place := by
  simp [node?, free.not_isLost, some]

/-- No link stands anywhere. -/
theorem Plain.node?_ne_link (plain : tree.Plain) (place : Place) (target : Path) :
    tree.node? place ≠ some (.link target) := by
  unfold node?
  split
  · exact nofun
  · exact plain.noLink

/-! ## Walking -/

section

variable {jump : Place → Path → Except FileFault Place} {followsLast : Bool}

/-- Dots lead nowhere, unless one comes last. -/
theorem walk_filter {here : Place} {names : List String} (endsInStep : names.getLast? ≠ some ".") :
    tree.walk jump followsLast here names =
      tree.walk jump followsLast here (names.filter (· != ".")) := by
  induction names generalizing here with
  | nil => rfl
  | cons name rest ih =>
      have restEnds : rest.getLast? ≠ some "." := by
        cases rest with
        | nil => exact nofun
        | cons next others => simpa using endsInStep
      by_cases dot : name = "."
      · subst dot
        rw [List.filter_cons_of_neg (by decide), ← ih restEnds]
        cases rest with
        | nil => exact absurd rfl endsInStep
        | cons next others =>
            cases node : tree.node? here with
            | none => simp [walk, enter, node]
            | some node' => cases node' <;> simp [walk, enter, node]
      · have same : ∀ goal : Place, tree.walk jump followsLast goal rest =
            tree.walk jump followsLast goal (rest.filter (· != ".")) := fun goal => ih restEnds
        have isEmpty : (rest.filter (· != ".")).isEmpty = rest.isEmpty := by
          cases last : rest.getLast? with
          | none => rw [List.getLast?_eq_none_iff.1 last]; rfl
          | some name =>
              obtain ⟨front, rfl⟩ := List.getLast?_eq_some_iff.1 last
              have step : name ≠ "." := fun dot => restEnds (by rw [last, dot])
              rw [Bool.eq_iff_iff]
              simp [step]
        rw [List.filter_cons_of_pos (by simpa using dot), walk, walk]
        simp only [same, isEmpty]

/-- A name leads from a directory to what is in it. -/
theorem enter_directory (plain : tree.Plain) {here : Place} (directory : tree.HasDirectory here)
    {name : String} (ordinary : Path.Ordinary name) :
    tree.enter here name =
      if name.utf8ByteSize > longestName then .error .nameTooLong else .ok (here ++ [name]) := by
  simp [enter, directory.node? plain, ordinary.notDot, ordinary.notDots,
    (directory.isFree plain).not_isLost]

theorem walk_cons (plain : tree.Plain) {here : Place} (directory : tree.HasDirectory here)
    {name : String} (ordinary : Path.Ordinary name) (rest : List String) :
    tree.walk jump followsLast here (name :: rest) =
      if name.utf8ByteSize > longestName then .error .nameTooLong
      else tree.walk jump followsLast (here ++ [name]) rest := by
  rw [walk, enter_directory plain directory ordinary]
  by_cases long : name.utf8ByteSize > longestName
  · rw [if_pos long, if_pos long]
  · rw [if_neg long, if_neg long]
    simp only
    split
    · next target link => exact absurd link (plain.node?_ne_link _ target)
    · rfl

/-- A way that is no directory all along ends with a fault. -/
theorem walk_stuck {here : Place} (free : IsFree here)
    (missing : ¬ tree.HasDirectory here) (name : String) (rest : List String) :
    tree.walk jump followsLast here (name :: rest) =
      .error (if tree.Blocked here then .notADirectory else .notFound) := by
  have some : here ≠ [] := fun root => missing (.inl root)
  have node : tree.node? here = tree.nodes.find? here := node?_eq free some
  cases found : tree.nodes.find? here with
  | none =>
      rw [if_neg (not_blocked_of_missing found)]
      rw [found] at node
      simp [walk, enter, node]
  | some inside =>
      have other : inside ≠ .directory := by
        rintro rfl
        exact missing (.inr found)
      rw [if_pos ⟨inside, found, other⟩]
      rw [found] at node
      cases inside <;> simp [walk, enter, node] at other ⊢

/-- **In a directory** a name is found, if it is not too long. -/
theorem walk_of_directory (plain : tree.Plain) {here : Place} {front : List String}
    (ordinary : ∀ name ∈ front, Path.Ordinary name) (directory : tree.HasDirectory (here ++ front))
    (rest : List String) :
    tree.walk jump followsLast here (front ++ rest) =
      tree.walk jump followsLast (here ++ front) rest := by
  induction front generalizing here with
  | nil => rw [List.append_nil, List.nil_append]
  | cons first others ih =>
      have way : here ++ first :: others = here ++ [first] ++ others := List.append_cons _ _ _
      rw [way] at directory ⊢
      have next := directory.of_front plain (List.prefix_append _ _)
      have short := (next.isName plain first (by simp)).short
      rw [List.cons_append, walk_cons plain (next.of_front plain (List.prefix_append _ _))
        (ordinary first List.mem_cons_self), if_neg (Nat.not_lt.2 short)]
      exact ih (fun name member => ordinary name (List.mem_cons_of_mem _ member)) directory

/-! ## Ways -/

/-- What keeps directories from being made along names, from a directory on: something that is no
directory, or a name that is too long. -/
def wayFault? (tree : FileTree) : Place → List String → Option FileFault
  | _, [] => none
  | here, name :: rest =>
      if name.utf8ByteSize > longestName then some .nameTooLong
      else if tree.Blocked (here ++ [name]) then
        some (if rest.isEmpty then .alreadyExists else .notADirectory)
      else wayFault? tree (here ++ [name]) rest

/-- What is in the way depends on nothing but where it is blocked. -/
theorem wayFault?_congr {other : FileTree} {here : Place} {names : List String}
    (same : ∀ front, front <+: here ++ names → (tree.Blocked front ↔ other.Blocked front)) :
    tree.wayFault? here names = other.wayFault? here names := by
  induction names generalizing here with
  | nil => rfl
  | cons name rest ih =>
      have way : here ++ name :: rest = here ++ [name] ++ rest := List.append_cons _ _ _
      rw [way] at same
      simp only [wayFault?, same _ (List.prefix_append _ _), ih same]

/-- The way to a directory is open. -/
theorem HasDirectory.wayFault? (plain : tree.Plain) {here : Place} {names : List String}
    (directory : tree.HasDirectory (here ++ names)) : tree.wayFault? here names = none := by
  induction names generalizing here with
  | nil => rfl
  | cons name rest ih =>
      have way : here ++ name :: rest = here ++ [name] ++ rest := List.append_cons _ _ _
      rw [way] at directory
      have next := directory.of_front plain (List.prefix_append _ _)
      have short := (next.isName plain name (by simp)).short
      rw [FileTree.wayFault?, if_neg (Nat.not_lt.2 short), if_neg (next.not_blocked plain)]
      exact ih directory

/-- Below what is missing only long names are in the way. -/
theorem Plain.wayFault?_of_missing (plain : tree.Plain) {here : Place} {names : List String}
    (missing : tree.nodes.find? here = none) (notRoot : here ≠ []) :
    tree.wayFault? here names = none ∨ tree.wayFault? here names = some .nameTooLong := by
  induction names generalizing here with
  | nil => exact .inl rfl
  | cons name rest ih =>
      rw [FileTree.wayFault?]
      by_cases long : name.utf8ByteSize > longestName
      · exact .inr (if_pos long)
      · have below : tree.nodes.find? (here ++ [name]) = none := by
          refine plain.find?_eq_none ?_ (List.prefix_append _ _) (by simp)
          rintro (root | directory)
          · exact notRoot root
          · simp [missing] at directory
        rw [if_neg long, if_neg (not_blocked_of_missing below)]
        exact ih below (by simp)

/-- Only long names are too long. -/
theorem wayFault?_ne_nameTooLong {here : Place} {names : List String}
    (short : ∀ name ∈ names, name.utf8ByteSize ≤ longestName) :
    tree.wayFault? here names ≠ some .nameTooLong := by
  induction names generalizing here with
  | nil => exact nofun
  | cons name rest ih =>
      rw [wayFault?, if_neg (Nat.not_lt.2 (short name List.mem_cons_self))]
      split
      · split <;> exact nofun
      · exact ih fun other member => short other (List.mem_cons_of_mem _ member)

/-- What is in the way of one more name. -/
theorem wayFault?_concat {here : Place} {names : List String} {name : String} :
    tree.wayFault? here (names ++ [name]) =
      match tree.wayFault? here names with
      | some fault => some (if fault = .nameTooLong then .nameTooLong else .notADirectory)
      | none => tree.wayFault? (here ++ names) [name] := by
  induction names generalizing here with
  | nil => simp [wayFault?]
  | cons first others ih =>
      have way : here ++ first :: others = here ++ [first] ++ others := List.append_cons _ _ _
      rw [List.cons_append, wayFault?, wayFault?, ih, way]
      by_cases long : first.utf8ByteSize > longestName
      · simp [long]
      · by_cases blocked : tree.Blocked (here ++ [first])
        · by_cases last : others = [] <;> simp [long, blocked, last]
        · simp only [if_neg long, if_neg blocked]

/-- How a search along a way that is no directory ends, by what is in the way: a name that is too
long is met only if the search gets there. -/
inductive SearchEnds : Option FileFault → FileFault → Prop
  | nothing : SearchEnds none .notFound
  | early : SearchEnds (some .nameTooLong) .notFound
  | long : SearchEnds (some .nameTooLong) .nameTooLong
  | blocked {fault : FileFault} : fault ≠ .nameTooLong → SearchEnds (some fault) .notADirectory

/-- **Without the directory** a search finds what is in the way, or nothing. -/
theorem walk_of_not_directory (plain : tree.Plain) {here : Place} {front : List String}
    (start : tree.HasDirectory here) (ordinary : ∀ name ∈ front, Path.Ordinary name)
    (free : IsFree (here ++ front)) (missing : ¬ tree.HasDirectory (here ++ front))
    (name : String) (rest : List String) :
    ∃ fault, SearchEnds (tree.wayFault? here front) fault ∧
      tree.walk jump followsLast here (front ++ name :: rest) = .error fault := by
  induction front generalizing here with
  | nil =>
      rw [List.append_nil] at missing
      exact absurd start missing
  | cons first others ih =>
      have way : here ++ first :: others = here ++ [first] ++ others := List.append_cons _ _ _
      rw [way] at missing free
      rw [List.cons_append, walk_cons plain start (ordinary first List.mem_cons_self), wayFault?]
      by_cases long : first.utf8ByteSize > longestName
      · rw [if_pos long, if_pos long]
        exact ⟨_, .long, rfl⟩
      rw [if_neg long, if_neg long]
      by_cases directory : tree.HasDirectory (here ++ [first])
      · rw [if_neg (directory.not_blocked plain)]
        exact ih directory (fun other member => ordinary other (List.mem_cons_of_mem _ member))
          free missing
      · obtain ⟨next, others', split⟩ : ∃ next others', others ++ name :: rest = next :: others' :=
          List.exists_cons_of_ne_nil (by simp)
        have freeNext : IsFree (here ++ [first]) := fun other member =>
          free other (List.mem_append_left _ member)
        rw [split, walk_stuck freeNext directory]
        by_cases blocked : tree.Blocked (here ++ [first])
        · rw [if_pos blocked, if_pos blocked]
          exact ⟨_, .blocked (by split <;> exact nofun), rfl⟩
        · rw [if_neg blocked, if_neg blocked]
          have nothing : tree.nodes.find? (here ++ [first]) = none := by
            refine Option.eq_none_iff_forall_ne_some.2 fun node found => blocked ⟨node, found, ?_⟩
            rintro rfl
            exact directory (.inr found)
          rcases plain.wayFault?_of_missing nothing (by simp) with none | tooLong
          · rw [none]
            exact ⟨_, .nothing, rfl⟩
          · rw [tooLong]
            exact ⟨_, .early, rfl⟩

end

end

/-! ## Leading to places -/

/-- The path leads from a place by the names, and not in a roundabout way. -/
structure Leads (base : Place) (path : Path) (here : Place) (names : List String) : Prop where
  start : startOf base path = here
  steps : Path.steps path = names
  ordinary : ∀ name ∈ names, Path.Ordinary name
  endsInStep : names = [] ∨ (Path.names path).getLast? ≠ some "."

section

variable {tree : FileTree} {base here : Place} {path : Path} {front : List String} {name : String}

/-- A fault of a path keeps it from leading anywhere. -/
theorem locateWith_of_fault {fault : FileFault} (isFault : path.fault? = some fault)
    (followsLast : Bool) : tree.locateWith followsLast base path = .error fault := by
  unfold Path.fault? at isFault
  unfold locateWith
  split at isFault
  · next empty => rw [if_pos empty, Option.some.inj isFault]
  · next some =>
      rw [if_neg some]
      split at isFault
      · next nul => rw [if_pos nul, Option.some.inj isFault]
      · next noNul =>
          rw [if_neg noNul]
          split at isFault
          · next long => rw [if_pos long, Option.some.inj isFault]
          · exact absurd isFault nofun

/-- A path without a fault is followed name by name. -/
theorem locateWith_eq_walk (noFault : path.fault? = none) (followsLast : Bool) :
    tree.locateWith followsLast base path =
      tree.walk (tree.leadsTo mostLinks) followsLast (startOf base path) (Path.names path) := by
  obtain ⟨some, noNul, short⟩ := Path.fault?_eq_none_iff.1 noFault
  rw [locateWith, if_neg (by simpa using some), if_neg (by simpa using noNul),
    if_neg (Nat.not_lt.2 short)]

/-- No name of a path without a fault holds the character that no name has. -/
theorem isFree_steps (noFault : path.fault? = none) : IsFree (Path.steps path) := by
  intro name member inside
  rw [Path.steps_eq_filter] at member
  have inPath := Path.mem_of_mem_names (List.mem_filter.1 member).1 inside
  exact (Path.fault?_eq_none_iff.1 noFault).2.1 inPath

theorem IsFree.append {first second : Place} (free : IsFree first) (also : IsFree second) :
    IsFree (first ++ second) := fun name member =>
  (List.mem_append.1 member).elim (free name) (also name)

section

variable (plain : tree.Plain) (leads : Leads base path here (front ++ [name]))
  (noFault : path.fault? = none)

include leads noFault

theorem Leads.locateWith_eq (followsLast : Bool) :
    tree.locateWith followsLast base path =
      tree.walk (tree.leadsTo mostLinks) followsLast here (front ++ [name]) := by
  rw [locateWith_eq_walk noFault, walk_filter (leads.endsInStep.resolve_left (by simp)),
    ← Path.steps_eq_filter, leads.start, leads.steps]

theorem Leads.isFree_names : IsFree (front ++ [name]) :=
  leads.steps ▸ isFree_steps noFault

include plain

/-- **In a directory** a path leads to what is there. -/
theorem Leads.locateWith_of_directory (followsLast : Bool)
    (directory : tree.HasDirectory (here ++ front)) :
    tree.locateWith followsLast base path =
      if name.utf8ByteSize > longestName then .error .nameTooLong
      else .ok (here ++ front ++ [name]) := by
  rw [leads.locateWith_eq noFault, walk_of_directory plain
      (fun other member => leads.ordinary other (List.mem_append_left _ member)) directory,
    walk_cons plain directory (leads.ordinary name (by simp))]
  rfl

/-- **Without the directory** a path leads nowhere. -/
theorem Leads.locateWith_of_not_directory (followsLast : Bool) (start : tree.HasDirectory here)
    (missing : ¬ tree.HasDirectory (here ++ front)) :
    ∃ fault, SearchEnds (tree.wayFault? here front) fault ∧
      tree.locateWith followsLast base path = .error fault := by
  have free : IsFree (here ++ front) := (start.isFree plain).append fun other member =>
    leads.isFree_names noFault other (List.mem_append_left _ member)
  rw [leads.locateWith_eq noFault]
  exact walk_of_not_directory plain start
    (fun other member => leads.ordinary other (List.mem_append_left _ member)) free missing name []

theorem Leads.node?_eq (start : tree.HasDirectory here) :
    tree.node? (here ++ front ++ [name]) = tree.nodes.find? (here ++ front ++ [name]) := by
  have free : IsFree (here ++ (front ++ [name])) :=
    (start.isFree plain).append (leads.isFree_names noFault)
  rw [← List.append_assoc] at free
  exact FileTree.node?_eq free (by simp)

/-! ## Looking -/

section

variable (written : namesDirectory path = false)

include written

omit plain leads noFault in
theorem checked_eq (place : Place) :
    tree.checked path place = .ok (place, tree.node? place) := by
  unfold checked
  cases tree.node? place with
  | none => rfl
  | some node => cases node <;> simp [written]

theorem Leads.look_of_directory (followsLast : Bool) (start : tree.HasDirectory here)
    (directory : tree.HasDirectory (here ++ front)) :
    (tree.locateWith followsLast base path).bind (tree.checked path) =
      if name.utf8ByteSize > longestName then .error .nameTooLong
      else .ok (here ++ front ++ [name], tree.nodes.find? (here ++ front ++ [name])) := by
  rw [leads.locateWith_of_directory plain noFault followsLast directory,
    ← leads.node?_eq plain noFault start, ← checked_eq written]
  split <;> rfl

/-- **In a directory** one sees what is there. -/
theorem Leads.inspect_of_directory (start : tree.HasDirectory here)
    (directory : tree.HasDirectory (here ++ front)) :
    tree.inspect base path =
      if name.utf8ByteSize > longestName then .error .nameTooLong
      else .ok (here ++ front ++ [name], tree.nodes.find? (here ++ front ++ [name])) :=
  leads.look_of_directory plain noFault written true start directory

theorem Leads.inspectSelf_of_directory (start : tree.HasDirectory here)
    (directory : tree.HasDirectory (here ++ front)) :
    tree.inspectSelf base path =
      if name.utf8ByteSize > longestName then .error .nameTooLong
      else .ok (here ++ front ++ [name], tree.nodes.find? (here ++ front ++ [name])) :=
  leads.look_of_directory plain noFault written (namesDirectory path) start directory

/-- **What is there** is seen. -/
theorem Leads.inspect_of_find? (start : tree.HasDirectory here) {node : FileNode}
    (found : tree.nodes.find? (here ++ front ++ [name]) = some node) :
    tree.inspect base path = .ok (here ++ front ++ [name], some node) := by
  have above : tree.HasDirectory (here ++ front) :=
    plain.hasDirectory_of_front found (List.prefix_append _ _) (by simp)
  have short : name.utf8ByteSize ≤ longestName := ((plain.named found).2 name (by simp)).short
  rw [leads.inspect_of_directory plain noFault written start above, if_neg (Nat.not_lt.2 short),
    found]

/-- **What is missing** is not seen. -/
theorem Leads.inspect_of_missing (start : tree.HasDirectory here)
    (missing : tree.nodes.find? (here ++ front ++ [name]) = none) :
    tree.inspect base path = .ok (here ++ front ++ [name], none) ∨
      ∃ fault, tree.inspect base path = .error fault := by
  by_cases directory : tree.HasDirectory (here ++ front)
  · rw [leads.inspect_of_directory plain noFault written start directory, missing]
    split
    · exact .inr ⟨_, rfl⟩
    · exact .inl rfl
  · obtain ⟨fault, -, stops⟩ :=
      leads.locateWith_of_not_directory plain noFault true start directory
    refine .inr ⟨fault, ?_⟩
    rw [inspect, locate, stops]
    rfl

/-- The bytes that are there are read, and nothing else is. -/
theorem Leads.toOption_read (start : tree.HasDirectory here) :
    (tree.read base path).toOption =
      (tree.nodes.find? (here ++ front ++ [name])).bind FileNode.bytes? := by
  rw [FileTree.read]
  cases found : tree.nodes.find? (here ++ front ++ [name]) with
  | none =>
      rcases leads.inspect_of_missing plain noFault written start found with missing | ⟨_, stops⟩
      · rw [missing]
        rfl
      · rw [stops]
        rfl
  | some node =>
      rw [leads.inspect_of_find? plain noFault written start found]
      cases node with
      | link target => exact absurd found plain.noLink
      | _ => rfl

/-- When a file was changed last is seen, and of nothing else. -/
theorem Leads.lastChange?_eq (start : tree.HasDirectory here) :
    tree.lastChange? base path = tree.changedAt? (here ++ front ++ [name]) := by
  rw [lastChange?, changedAt?]
  cases found : tree.nodes.find? (here ++ front ++ [name]) with
  | none =>
      rcases leads.inspect_of_missing plain noFault written start found with missing | ⟨_, stops⟩
      · rw [missing]
      · rw [stops]
  | some node =>
      rw [leads.inspect_of_find? plain noFault written start found]
      cases node <;> rfl

/-- A directory is seen, and nothing else is seen as one. -/
theorem Leads.inspect_eq_directory_iff (start : tree.HasDirectory here) {place : Place} :
    tree.inspect base path = .ok (place, some .directory) ↔
      place = here ++ front ++ [name] ∧
        tree.nodes.find? (here ++ front ++ [name]) = some .directory := by
  cases found : tree.nodes.find? (here ++ front ++ [name]) with
  | none =>
      rcases leads.inspect_of_missing plain noFault written start found with missing | ⟨_, stops⟩
      · simp [missing]
      · simp [stops]
  | some node =>
      rw [leads.inspect_of_find? plain noFault written start found]
      simp [eq_comm, -List.append_assoc]

end

end

/-! ## Paths with faults -/

theorem inspect_of_fault {fault : FileFault} (isFault : path.fault? = some fault) :
    tree.inspect base path = .error fault := by
  rw [inspect, locate, locateWith_of_fault isFault]
  rfl

theorem inspectSelf_of_fault {fault : FileFault} (isFault : path.fault? = some fault) :
    tree.inspectSelf base path = .error fault := by
  rw [inspectSelf, locateSelf, locateWith_of_fault isFault]
  rfl

/-! ## Joined paths -/

/-- A joined path leads to something in the directory. -/
theorem Leads.join {directory : Path} (straight : ".." ∉ Path.names directory)
    (ordinary : Path.Ordinary name) :
    Leads base (Path.join directory name) (startOf base directory)
      (Path.steps directory ++ [name]) where
  start := by rw [startOf, startOf, Path.isAbsolute_join ordinary]
  steps := Path.steps_join ordinary directory
  ordinary := by
    intro other member
    rcases List.mem_append.1 member with inSteps | last
    · exact Path.ordinary_of_mem_steps straight inSteps
    · rw [List.mem_singleton.1 last]
      exact ordinary
  endsInStep := by
    refine .inr ?_
    rw [Path.names_join ordinary, List.getLast?_concat]
    exact fun same => ordinary.notDot (Option.some.inj same)

theorem namesDirectory_join {directory : Path} (ordinary : Path.Ordinary name) :
    namesDirectory (Path.join directory name) = false := by
  have notEmpty : name.toList ≠ [] := ordinary.toList_ne_nil
  have notDot : name.toList ≠ ['.'] := fun same =>
    ordinary.notDot (String.toList_inj.1 same)
  have notDots : name.toList ≠ ['.', '.'] := fun same =>
    ordinary.notDots (String.toList_inj.1 same)
  rw [namesDirectory, Path.getLast?_splitNames_join ordinary]
  split <;> simp_all

theorem straight_join {directory : Path} (straight : ".." ∉ Path.names directory)
    (ordinary : Path.Ordinary name) : ".." ∉ Path.names (Path.join directory name) := by
  rw [Path.names_join ordinary]
  simp [straight, ordinary.notDots.symm]

end

end FileTree

end TestAmplification
