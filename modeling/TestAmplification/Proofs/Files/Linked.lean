import Mathlib.Logic.Relation
import TestAmplification.Proofs.Files.Changes
import TestAmplification.Proofs.Files.Views

/-!
# Changes to trees with links

What the operations on files do to any tree, with links and with paths that go up and down again. A
path is followed through directories and links, so it leads to the same place in every tree that has
all of them, too (`KeepsWays.locateWith`); only at its end a link may be new (`NoNewLink`).

So a directory that was made is found by the path that it was made for, also when more directories
are made afterwards, and making directories adds only such that the path or one above it leads to
(`madeAlong_makeDirectories`). A directory that is removed by its path is removed where the path led
to at first, and only what stood there and below it is gone (`goneBelow_removeTree`).
-/

set_option autoImplicit false

namespace TestAmplification

/-- Cutting names off the end of one path leads to the other one. -/
abbrev Path.UpTo (path above : Path) : Prop :=
  Relation.ReflTransGen (fun path parent => Path.parent? path = some parent) path above

namespace FileTree

variable {tree other : FileTree} {base here next place goal : Place} {path : Path} {name : String}
  {names : List String}

/-! ## Following paths in larger trees -/

/-- The directories and links of one tree are in the other one, too. -/
structure KeepsWays (tree other : FileTree) : Prop where
  directory : ∀ {place}, tree.node? place = some .directory → other.node? place = some .directory
  link : ∀ {place target}, tree.node? place = some (.link target) →
    other.node? place = some (.link target)

/-- The other tree has no link at the place, unless it is there in the first one. -/
def NoNewLink (tree other : FileTree) (place : Place) : Prop :=
  ∀ target, other.node? place = some (.link target) → tree.node? place = some (.link target)

theorem NoNewLink.of_directory (directory : other.node? place = some .directory) :
    NoNewLink tree other place := fun target link => by
  rw [directory] at link
  cases link

/-- Nothing is found where no node is. -/
theorem find?_eq_none_of_node? (nothing : tree.node? place = none) :
    tree.nodes.find? place = none := by
  unfold node? at nothing
  split at nothing
  · cases nothing
  · exact nothing

theorem node?_of_find? (found : tree.nodes.find? place = some .directory) :
    tree.node? place = some .directory := by
  unfold node?
  split
  · rfl
  · exact found

/-- A tree that has everything of another one has its directories and links. -/
theorem KeepsWays.of_find? (keeps : ∀ {place node}, tree.nodes.find? place = some node →
    (node = .directory ∨ ∃ target, node = .link target) →
      other.nodes.find? place = some node) : KeepsWays tree other := by
  have keepsNode : ∀ {place node}, tree.node? place = some node →
      (node = .directory ∨ ∃ target, node = .link target) → other.node? place = some node := by
    intro place node found kind
    unfold node? at found ⊢
    split at found
    · next always => rw [if_pos always, found]
    · next looked => rw [if_neg looked, keeps found kind]
  exact ⟨fun found => keepsNode found (.inl rfl), fun found => keepsNode found (.inr ⟨_, rfl⟩)⟩

theorem directory_of_enter (entered : tree.enter here name = .ok next) :
    tree.node? here = some .directory := by
  unfold enter at entered
  split at entered
  · cases entered
  · next directory => exact directory
  · cases entered

section

variable {jump jumpToo : Place → Path → Except FileFault Place} {followsLast : Bool}

/-- Names lead on from directories only. -/
theorem directory_of_walk (leads : tree.walk jump followsLast here (name :: names) = .ok goal) :
    tree.node? here = some .directory := by
  rw [walk] at leads
  cases entered : tree.enter here name with
  | error fault =>
      rw [entered] at leads
      cases leads
  | ok next => exact directory_of_enter entered

namespace KeepsWays

variable (keeps : KeepsWays tree other)

include keeps

theorem enter (entered : tree.enter here name = .ok next) : other.enter here name = .ok next := by
  have directory := directory_of_enter entered
  rw [← entered, FileTree.enter, FileTree.enter, directory, keeps.directory directory]

/-- There is no new link where names lead on from. -/
theorem noNewLink_of_walk (leads : tree.walk jump followsLast here names = .ok goal)
    (settled : NoNewLink tree other goal) : NoNewLink tree other here := by
  cases names with
  | nil =>
      obtain rfl := Except.ok.inj leads
      exact settled
  | cons name others => exact .of_directory (keeps.directory (directory_of_walk leads))

theorem walk (jumps : ∀ {here target goal}, jump here target = .ok goal →
      NoNewLink tree other goal → jumpToo here target = .ok goal)
    (leads : tree.walk jump followsLast here names = .ok goal)
    (settled : NoNewLink tree other goal) :
    other.walk jumpToo followsLast here names = .ok goal := by
  induction names generalizing here with
  | nil => exact leads
  | cons name others ih =>
      rw [FileTree.walk] at leads ⊢
      cases entered : tree.enter here name with
      | error fault =>
          rw [entered] at leads
          cases leads
      | ok next =>
          rw [entered] at leads
          rw [keeps.enter entered]
          dsimp only at leads ⊢
          split at leads
          · next target link =>
              simp only [keeps.link link]
              split at leads
              · next stops => rw [if_pos stops, leads]
              · next follows =>
                  rw [if_neg follows]
                  cases jumped : jump here target with
                  | error fault =>
                      rw [jumped] at leads
                      cases leads
                  | ok middle =>
                      rw [jumped] at leads
                      rw [jumps jumped (keeps.noNewLink_of_walk leads settled)]
                      exact ih leads
          · next noLink =>
              split
              · next target link =>
                  exact absurd (keeps.noNewLink_of_walk leads settled target link)
                    (noLink target)
              · exact ih leads

theorem leadsTo {links : Nat} {target : Path} (leads : tree.leadsTo links here target = .ok goal)
    (settled : NoNewLink tree other goal) : other.leadsTo links here target = .ok goal := by
  induction links generalizing here target goal with
  | zero => cases leads
  | succ links ih => exact keeps.walk (fun jumped noNew => ih jumped noNew) leads settled

/-- **Ways are kept.** A path leads to the same place where all directories and links are left. -/
theorem locateWith (leads : tree.locateWith followsLast base path = .ok goal)
    (settled : NoNewLink tree other goal) : other.locateWith followsLast base path = .ok goal := by
  have noFault := fault?_of_locateWith leads
  rw [locateWith_eq_walk noFault] at leads ⊢
  exact keeps.walk keeps.leadsTo leads settled

end KeepsWays

/-! ## Links at the end -/

/-- A link at the end makes the only difference between a path and what stands at the path. -/
theorem walk_follows
    (noLink : ∀ goal target, tree.walk jump false here names = .ok goal →
      tree.node? goal ≠ some (.link target)) :
    tree.walk jump true here names = tree.walk jump false here names := by
  induction names generalizing here with
  | nil => rfl
  | cons name others ih =>
      rw [walk] at noLink
      rw [walk, walk]
      cases entered : tree.enter here name with
      | error fault => rfl
      | ok next =>
          rw [entered] at noLink
          dsimp only at noLink ⊢
          split at noLink
          · next target link =>
              cases others with
              | nil => exact absurd link (noLink next target rfl)
              | cons second rest =>
                  simp only [List.isEmpty_cons, Bool.false_and, Bool.false_eq_true, if_false]
                    at noLink ⊢
                  cases jumped : jump here target with
                  | error fault => rfl
                  | ok middle =>
                      rw [jumped] at noLink
                      exact ih noLink
          · exact ih noLink

end

theorem locateWith_follows
    (noLink : ∀ goal target, tree.locateWith false base path = .ok goal →
      tree.node? goal ≠ some (.link target)) :
    tree.locateWith true base path = tree.locateWith false base path := by
  cases isFault : path.fault? with
  | some fault => rw [locateWith_of_fault isFault, locateWith_of_fault isFault]
  | none =>
      rw [locateWith_eq_walk isFault] at noLink
      rw [locateWith_eq_walk isFault, locateWith_eq_walk isFault]
      exact walk_follows noLink

/-- Where no link stands, one sees by a path what stands at the path itself. -/
theorem locate_eq_locateSelf
    (noLink : ∀ goal target, tree.locateSelf base path = .ok goal →
      tree.node? goal ≠ some (.link target)) :
    tree.locate base path = tree.locateSelf base path := by
  unfold locate locateSelf at *
  cases written : namesDirectory path with
  | true => rfl
  | false =>
      rw [written] at noLink
      exact locateWith_follows noLink

/-! ## Making directories -/

/-- All that changed is that directories are there that were missing. The path or one above it
leads to each of them. -/
def MadeAlong (tree made : FileTree) (base : Place) (path : Path) : Prop :=
  ∀ place, made.nodes.find? place = tree.nodes.find? place ∨
    tree.nodes.find? place = none ∧ made.nodes.find? place = some .directory ∧
      ∃ above, Path.UpTo path above ∧ made.locate base above = .ok place

section

variable {made more : FileTree}

theorem MadeAlong.unchanged : MadeAlong tree tree base path := fun _ => .inl rfl

/-- What was there is there. -/
theorem MadeAlong.find?_eq_some {node : FileNode} (along : MadeAlong tree made base path)
    (found : tree.nodes.find? place = some node) : made.nodes.find? place = some node := by
  rcases along place with same | ⟨missing, -, -⟩
  · rw [same, found]
  · rw [missing] at found
    cases found

/-- What is made along the parent is made along the path. -/
theorem MadeAlong.of_parent {parent : Path} (isParent : Path.parent? path = some parent)
    (along : MadeAlong tree made base parent) : MadeAlong tree made base path := fun place =>
  (along place).imp_right fun ⟨missing, directory, above, upTo, leads⟩ =>
    ⟨missing, directory, above, .head isParent upTo, leads⟩

/-- A directory is made where its path leads to, if nothing is there. -/
theorem eq_put_of_makeDirectory (makes : tree.makeDirectory base path = .ok made) :
    ∃ place, tree.locateWith false base path = .ok place ∧ tree.node? place = none ∧
      made = tree.put place .directory := by
  unfold FileTree.makeDirectory at makes
  cases leads : tree.locateWith false base path with
  | error fault =>
      rw [leads] at makes
      cases makes
  | ok place =>
      rw [leads] at makes
      simp only [bind, Except.bind] at makes
      cases vacant : tree.node? place with
      | some node =>
          rw [vacant] at makes
          cases makes
      | none =>
          rw [vacant] at makes
          exact ⟨place, rfl, vacant, (Except.ok.inj makes).symm⟩

/-- One more directory at the path is made along it. -/
theorem MadeAlong.makeDirectory (along : MadeAlong tree made base path)
    (makes : made.makeDirectory base path = .ok more) : MadeAlong tree more base path := by
  obtain ⟨new, leads, vacant, rfl⟩ := eq_put_of_makeDirectory makes
  have missing : made.nodes.find? new = none := find?_eq_none_of_node? vacant
  have keeps : KeepsWays made (made.put new .directory) := by
    refine .of_find? fun {place node} found _ => ?_
    rw [find?_put, if_neg, found]
    rintro rfl
    cases missing.symm.trans found
  have isDirectory : (made.put new .directory).node? new = some .directory :=
    node?_of_find? (by rw [find?_put, if_pos rfl])
  intro place
  rw [find?_put]
  split
  · next isNew =>
      obtain rfl := isNew
      refine .inr ⟨?_, rfl, path, .refl, ?_⟩
      · rcases along place with same | ⟨nothing, -, -⟩
        · rw [← same, missing]
        · exact nothing
      · -- The new directory is no link, so the path leads to it.
        have found := keeps.locateWith leads (.of_directory isDirectory)
        rw [locate, locateWith_follows, found]
        intro goal target again link
        rw [found] at again
        obtain rfl := Except.ok.inj again
        rw [isDirectory] at link
        cases link
  · refine (along place).imp_right ?_
    rintro ⟨nothing, directory, above, upTo, leadsAbove⟩
    refine ⟨nothing, directory, above, upTo, keeps.locateWith leadsAbove ?_⟩
    exact .of_directory (keeps.directory (node?_of_find? directory))

/-- **Making directories** makes one after the other, each at a path after the one at its parent. -/
theorem makeDirectoriesUpTo_induction {motive : Path → FileTree → Prop}
    (start : ∀ path, motive path tree)
    (behind : ∀ {path parent made}, Path.parent? path = some parent → motive parent made →
      motive path made)
    (make : ∀ {path made more}, motive path made → made.makeDirectory base path = .ok more →
      motive path more) (limit : Nat) (path : Path) :
    motive path (makeDirectoriesUpTo base limit tree path).1 := by
  induction limit generalizing path with
  | zero => exact start path
  | succ limit ih =>
      rw [makeDirectoriesUpTo]
      split
      · exact start path
      · split
        · next made makes => exact make (start path) makes
        · split
          · exact start path
          · next parent isParent =>
              have along := behind isParent (ih parent)
              split
              · next made fault outcome =>
                  rw [outcome] at along
                  exact along
              · next made outcome =>
                  rw [outcome] at along
                  split
                  · next more makes => exact make along makes
                  · exact along
        · exact start path

/-- The missing directories that are made are such that the path or one above it leads to. -/
theorem madeAlong_makeDirectories (tree : FileTree) (base : Place) (path : Path) :
    MadeAlong tree (tree.makeDirectories base path).1 base path := by
  refine makeDirectoriesUpTo_induction (motive := fun path made => MadeAlong tree made base path)
    (fun _ => .unchanged) ?_ ?_ _ path
  · exact fun isParent along => along.of_parent isParent
  · exact fun along makes => along.makeDirectory makes

end

/-! ## Removing directories -/

/-- All that changed is that things at a place and below it are gone. -/
def GoneBelow (tree after : FileTree) (place : Place) : Prop :=
  ∀ other, after.nodes.find? other = tree.nodes.find? other ∨
    after.nodes.find? other = none ∧ place <+: other

theorem find?_erase (place other : Place) :
    (tree.erase place).nodes.find? other =
      if other = place then none else tree.nodes.find? other := by
  rw [erase, Table.find?_filter]
  by_cases same : other = place
  · cases tree.nodes.find? other <;> simp [same]
  · cases tree.nodes.find? other <;> simp [same]

theorem goneBelow_eraseBelow (place : Place) : GoneBelow tree (tree.eraseBelow place) place := by
  intro other
  rw [find?_eraseBelow]
  split
  · next below => exact .inr ⟨rfl, below.1⟩
  · exact .inl rfl

theorem goneBelow_without (place : Place) : GoneBelow tree (tree.without place) place := by
  intro other
  rw [find?_without]
  split
  · next below => exact .inr ⟨rfl, below⟩
  · exact .inl rfl

/-- What is left was there. -/
theorem GoneBelow.keepsWays {after : FileTree} (gone : GoneBelow tree after place) :
    KeepsWays after tree := by
  refine .of_find? fun {other node} found _ => ?_
  rcases gone other with same | ⟨nothing, -⟩
  · rw [← same, found]
  · rw [nothing] at found
    cases found

/-- A path that does not lead anywhere removes nothing. -/
theorem removeTree_of_fault {fault : FileFault}
    (stops : tree.locateSelf base path = .error fault) :
    (tree.removeTree base path).1 = tree := by
  have looked : tree.inspectSelf base path = .error fault := by
    rw [inspectSelf, stops]
    rfl
  rw [removeTree, looked]

theorem eq_of_checked {node : Option FileNode}
    (looked : tree.checked path goal = .ok (place, node)) :
    goal = place ∧ tree.node? goal = node := by
  unfold checked at looked
  split at looked
  · next found =>
      cases looked
      exact ⟨rfl, found⟩
  · next found =>
      split at looked
      · cases looked
      · cases looked
        exact ⟨rfl, found⟩
  · next found =>
      cases looked
      exact ⟨rfl, found⟩

/-- What is seen at a path stands at the place that it leads to. -/
theorem located_of_inspectSelf {node : Option FileNode}
    (looked : tree.inspectSelf base path = .ok (place, node)) :
    tree.locateSelf base path = .ok place ∧ tree.node? place = node := by
  unfold inspectSelf at looked
  cases leads : tree.locateSelf base path with
  | error fault =>
      rw [leads] at looked
      cases looked
  | ok goal =>
      rw [leads] at looked
      obtain ⟨rfl, found⟩ := eq_of_checked looked
      exact ⟨rfl, found⟩

/-- A directory is removed where its path leads to. -/
theorem eq_erase_of_removeDirectory {removed : FileTree}
    (removes : tree.removeDirectory base path = .ok removed) :
    ∃ place, tree.locateSelf base path = .ok place ∧ tree.node? place = some .directory ∧
      removed = tree.erase place := by
  unfold removeDirectory directoryToRemove at removes
  cases looked : tree.inspectSelf base path with
  | error fault =>
      rw [looked] at removes
      cases removes
  | ok seen =>
      obtain ⟨place, node⟩ := seen
      obtain ⟨leads, found⟩ := located_of_inspectSelf looked
      rw [looked] at removes
      simp only [bind, Except.bind, pure, Except.pure] at removes
      refine ⟨place, leads, ?_⟩
      rw [found]
      cases node with
      | none => cases removes
      | some kind =>
          cases kind with
          | directory =>
              dsimp only at removes
              split at removes
              · cases removes
              · next goal chosen =>
                  split at chosen
                  · cases chosen
                  · split at chosen
                    · cases chosen
                    · obtain rfl := Except.ok.inj chosen
                      exact ⟨rfl, (Except.ok.inj removes).symm⟩
          | _ => cases removes

theorem locateSelf_of_treeToRemove? (removes : tree.treeToRemove? base path = some place) :
    tree.locateSelf base path = .ok place := by
  unfold treeToRemove? at removes
  split at removes
  · next looked =>
      obtain rfl := Option.some.inj removes
      exact (located_of_inspectSelf looked).1
  · next looked =>
      obtain rfl := Option.some.inj removes
      exact (located_of_inspectSelf looked).1
  · cases removes

/-- Where there is neither a directory nor a link, nothing is removed. -/
theorem removeTree_of_nothing (nothing : tree.treeToRemove? base path = none) :
    (tree.removeTree base path).1 = tree := by
  unfold treeToRemove? at nothing
  unfold removeTree
  split
  · rfl
  · rfl
  · next looked =>
      rw [looked] at nothing
      cases nothing
  · next looked =>
      rw [looked] at nothing
      cases nothing
  · rfl

/-- **Removing a directory** takes away a link, or what is below the place, and then perhaps the
place. -/
theorem removeTree_cases (leads : tree.locateSelf base path = .ok place) :
    (tree.removeTree base path).1 = tree ∨
      (∃ target, tree.node? place = some (.link target)) ∧
        (tree.removeTree base path).1 = tree.erase place ∨
      (tree.removeTree base path).1 = tree.eraseBelow place ∨
      (tree.removeTree base path).1 = tree.without place := by
  have seen : ∀ {goal node}, tree.inspectSelf base path = .ok (goal, node) →
      goal = place ∧ tree.node? goal = node := by
    intro goal node looked
    obtain ⟨same, found⟩ := located_of_inspectSelf looked
    exact ⟨Except.ok.inj (same.symm.trans leads), found⟩
  unfold removeTree
  split
  · exact .inl rfl
  · exact .inl rfl
  · next goal target looked =>
      obtain ⟨rfl, link⟩ := seen looked
      exact .inr (.inl ⟨⟨target, link⟩, rfl⟩)
  · next goal looked =>
      obtain ⟨rfl, -⟩ := seen looked
      dsimp only
      split
      · next removed removes =>
          obtain ⟨again, leadsAgain, directory, rfl⟩ := eq_erase_of_removeDirectory removes
          -- With less in the tree the path leads to the same directory, if it leads to one.
          have keeps : KeepsWays (tree.eraseBelow goal) tree :=
            (goneBelow_eraseBelow goal).keepsWays
          have same : tree.locateSelf base path = .ok again :=
            keeps.locateWith leadsAgain (.of_directory (keeps.directory directory))
          obtain rfl := Except.ok.inj (leads.symm.trans same)
          exact .inr (.inr (.inr rfl))
      · exact .inr (.inr (.inl rfl))
  · exact .inl rfl

theorem goneBelow_removeTree (leads : tree.locateSelf base path = .ok place) :
    GoneBelow tree (tree.removeTree base path).1 place := by
  rcases removeTree_cases leads with same | ⟨-, removed⟩ | cleared | removed
  · rw [same]
    exact fun _ => .inl rfl
  · rw [removed]
    intro other
    rw [find?_erase]
    split
    · next same => exact .inr ⟨rfl, same ▸ List.prefix_rfl⟩
    · exact .inl rfl
  · rw [cleared]
    exact goneBelow_eraseBelow place
  · rw [removed]
    exact goneBelow_without place

end FileTree

end TestAmplification
