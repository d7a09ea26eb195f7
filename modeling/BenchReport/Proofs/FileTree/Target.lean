import BenchReport.FileTree.Access
import BenchReport.Proofs.Text.Segments

/-!
# Where a path leads while files are written

Writing never removes a directory, so a path whose parent directory exists goes on naming the same location through any number of writes. The facts here are what a run needs to know about a tree that earlier outputs have already changed: which directory holds what a path names, and that nothing outside the location that a write is confined to has moved.
-/

namespace BenchReport.FileTree

/-! ### Nodes -/

@[simp] theorem node?_nil (tree : FileTree) : tree.node? [] = some .directory := rfl

theorem node?_cons (tree : FileTree) (name : String) (directory : Location) :
    tree.node? (name :: directory) = tree.nodes.get? (name :: directory) := by
  rw [node?, nodeIn, if_neg (List.cons_ne_nil name directory)]

theorem holder_of_node? {tree : FileTree} {name : String} {directory : Location} {node : FileNode}
    (h : tree.node? (name :: directory) = some node) : tree.node? directory = some .directory :=
  tree.parents name directory node (by rw [← node?_cons, h])

theorem node?_tail {tree : FileTree} {location : Location}
    (h : tree.node? location = some .directory) : tree.node? location.tail = some .directory := by
  cases location with
  | nil => rfl
  | cons name directory => exact holder_of_node? h

/-! ### What writes keep -/

/-- A later state of a tree that still has its working directory and every directory. -/
structure Keeps (before after : FileTree) : Prop where
  home : after.home = before.home
  directories : ∀ place, before.node? place = some .directory →
    after.node? place = some .directory

theorem Keeps.refl (tree : FileTree) : Keeps tree tree := ⟨rfl, fun _ h => h⟩

theorem Keeps.trans {first second third : FileTree} (h : Keeps first second)
    (h' : Keeps second third) : Keeps first third :=
  ⟨h'.home.trans h.home, fun place hplace => h'.directories place (h.directories place hplace)⟩

theorem Keeps.start {before after : FileTree} (h : Keeps before after) (path : String) :
    after.start path = before.start path := by
  rw [FileTree.start, FileTree.start, h.home]

/-- A later state of a tree that differs at most at a location and below it. -/
structure Confined (location : Location) (before after : FileTree) : Prop extends
    Keeps before after where
  elsewhere : ∀ place, ¬location <:+ place → after.node? place = before.node? place

theorem Confined.refl (location : Location) (tree : FileTree) : Confined location tree tree :=
  ⟨Keeps.refl tree, fun _ _ => rfl⟩

theorem Confined.trans {location : Location} {first second third : FileTree}
    (h : Confined location first second) (h' : Confined location second third) :
    Confined location first third :=
  ⟨h.toKeeps.trans h'.toKeeps, fun place hplace =>
    (h'.elsewhere place hplace).trans (h.elsewhere place hplace)⟩

theorem Confined.mono {inner outer : Location} {before after : FileTree}
    (h : Confined inner before after) (hle : outer <:+ inner) : Confined outer before after :=
  ⟨h.toKeeps, fun place hplace => h.elsewhere place fun hin => hplace (hle.trans hin)⟩

/-- Two trees that have the same at a location and below it. -/
def SameBelow (location : Location) (left right : FileTree) : Prop :=
  ∀ place, location <:+ place → left.node? place = right.node? place

/-- Neither of two locations is at or below the other. -/
def Apart (left right : Location) : Prop := ¬left <:+ right ∧ ¬right <:+ left

instance (left right : Location) : Decidable (Apart left right) :=
  inferInstanceAs (Decidable (_ ∧ _))

theorem Apart.symm {left right : Location} (h : Apart left right) : Apart right left := ⟨h.2, h.1⟩

/-- What is below one of two locations apart is not below the other. -/
theorem Apart.not_below {left right place : Location} (h : Apart left right)
    (hplace : right <:+ place) : ¬left <:+ place := fun hleft =>
  (List.suffix_or_suffix_of_suffix hleft hplace).elim h.1 h.2

/-- What the same output makes of two trees: in both it stays at or below its location, and there it leaves the same. -/
structure Parallel (location : Location) (left right left' right' : FileTree) : Prop where
  left : Confined location left left'
  right : Confined location right right'
  same : SameBelow location left' right'

theorem Parallel.refl {location : Location} {left right : FileTree}
    (h : SameBelow location left right) : Parallel location left right left right :=
  ⟨Confined.refl location left, Confined.refl location right, h⟩

theorem Parallel.trans {location : Location} {left right left' right' left'' right'' : FileTree}
    (h : Parallel location left right left' right')
    (h' : Parallel location left' right' left'' right'') :
    Parallel location left right left'' right'' :=
  ⟨h.left.trans h'.left, h.right.trans h'.right, h'.same⟩

/-! ### Walks -/

theorem step_eq_ok_of_keeps {before after : FileTree} (hkeeps : Keeps before after)
    {place next : Location} {name : String} (hstep : before.step place name = .ok next)
    (hnext : before.node? next = some .directory) : after.step place name = .ok next := by
  rw [step] at hstep ⊢
  split at hstep
  · cases hstep
  · rename_i hplace
    rw [if_neg (not_not_intro (hkeeps.directories place (Classical.not_not.1 hplace)))]
    split at hstep
    · rename_i hdot
      rw [if_pos hdot]
      exact hstep
    · rename_i hdot
      rw [if_neg hdot]
      split at hstep
      · rename_i hdots
        rw [if_pos hdots]
        exact hstep
      · rename_i hdots
        rw [if_neg hdots]
        split at hstep
        · cases hstep
        · rename_i hlength
          rw [if_neg hlength]
          split at hstep
          · cases hstep
          · cases hstep
            rw [if_neg (by rw [hkeeps.directories _ hnext]; exact Option.some_ne_none _)]

theorem node?_of_step {tree : FileTree} {place next : Location} {name : String}
    (h : tree.step place name = .ok next) : tree.node? place = some .directory := by
  rw [step] at h
  split at h
  · cases h
  · rename_i hplace
    exact Classical.not_not.1 hplace

theorem walk_cons (tree : FileTree) (place : Location) (name : String) (rest : List String) :
    tree.walk place (name :: rest) = (tree.step place name).bind fun next => tree.walk next rest :=
  rfl

theorem walk_concat (tree : FileTree) (place : Location) (names : List String) (name : String) :
    tree.walk place (names ++ [name]) =
      (tree.walk place names).bind fun next => tree.step next name := by
  induction names generalizing place with
  | nil =>
      change (tree.step place name).bind (fun next => .ok next) = tree.step place name
      cases tree.step place name <;> rfl
  | cons first rest ih =>
      rw [List.cons_append, walk_cons, walk_cons]
      cases tree.step place first with
      | error fault => rfl
      | ok next => exact ih next

/-- A walk that ends in a directory goes the same way in every later state. -/
theorem walk_eq_ok_of_keeps {before after : FileTree} (hkeeps : Keeps before after)
    {names : List String} {place last : Location} (hwalk : before.walk place names = .ok last)
    (hlast : before.node? last = some .directory) : after.walk place names = .ok last := by
  induction names generalizing place with
  | nil => exact hwalk
  | cons name rest ih =>
      rw [walk_cons] at hwalk ⊢
      cases hstep : before.step place name with
      | error fault =>
          rw [hstep] at hwalk
          cases hwalk
      | ok next =>
          rw [hstep] at hwalk
          have hnext : before.node? next = some .directory := by
            cases rest with
            | nil =>
                cases hwalk
                exact hlast
            | cons second rest =>
                rw [Except.bind, walk_cons] at hwalk
                cases hsecond : before.step next second with
                | error fault =>
                    rw [hsecond] at hwalk
                    cases hwalk
                | ok _ => exact node?_of_step hsecond
          rw [step_eq_ok_of_keeps hkeeps hstep hnext]
          exact ih hwalk

/-- A path leads to a directory that exists. -/
structure Leads (tree : FileTree) (path : String) (location : Location) : Prop where
  walk : tree.walk (tree.start path) (Path.steps path) = .ok location
  node : tree.node? location = some .directory

theorem Leads.keeps {before after : FileTree} {path : String} {location : Location}
    (h : before.Leads path location) (hkeeps : Keeps before after) : after.Leads path location where
  walk := by
    rw [hkeeps.start]
    exact walk_eq_ok_of_keeps hkeeps h.walk h.node
  node := hkeeps.directories location h.node

/-! ### Targets -/

/-- The directory that holds what a path names, if it exists. -/
def holder? (tree : FileTree) (path : String) : Option Location :=
  match tree.walk (tree.start path) (Path.steps path).dropLast with
  | .ok directory => if tree.node? directory = some .directory then some directory else none
  | .error _ => none

/-- The location that the last name of a path means in a directory. A path without names means the directory. -/
def placeIn (directory : Location) : Option String → Location
  | none => directory
  | some name =>
    if name = "." then directory else if name = ".." then directory.tail else name :: directory

theorem placeIn_name {directory : Location} {name : String} (hname : ¬(name = "." ∨ name = "..")) :
    placeIn directory (some name) = name :: directory := by
  rw [placeIn, if_neg fun he => hname (.inl he), if_neg fun he => hname (.inr he)]

/-- The location that a path names, there or not, if the directory that holds it exists. -/
def target? (tree : FileTree) (path : String) : Option Location :=
  (tree.holder? path).map fun directory => placeIn directory (Path.steps path).getLast?

theorem holder?_eq_some {tree : FileTree} {path : String} {directory : Location} :
    tree.holder? path = some directory ↔
      tree.walk (tree.start path) (Path.steps path).dropLast = .ok directory ∧
        tree.node? directory = some .directory := by
  rw [holder?]
  split
  · rename_i place hwalk
    rw [hwalk]
    split
    · rename_i hnode
      simp only [Option.some.injEq, Except.ok.injEq]
      exact ⟨fun h => ⟨h, h ▸ hnode⟩, fun h => h.1⟩
    · rename_i hnode
      simp only [reduceCtorEq, Except.ok.injEq, false_iff, not_and]
      exact fun h => h ▸ hnode
  · rename_i fault hwalk
    simp [hwalk]

theorem holder?_of_keeps {before after : FileTree} (hkeeps : Keeps before after) {path : String}
    {directory : Location} (h : before.holder? path = some directory) :
    after.holder? path = some directory := by
  obtain ⟨hwalk, hnode⟩ := holder?_eq_some.1 h
  refine holder?_eq_some.2 ⟨?_, hkeeps.directories directory hnode⟩
  rw [hkeeps.start]
  exact walk_eq_ok_of_keeps hkeeps hwalk hnode

theorem target?_eq_some {tree : FileTree} {path : String} {location : Location} :
    tree.target? path = some location ↔
      ∃ directory, tree.holder? path = some directory ∧
        placeIn directory (Path.steps path).getLast? = location :=
  Option.map_eq_some_iff

theorem target?_of_keeps {before after : FileTree} (hkeeps : Keeps before after) {path : String}
    {location : Location} (h : before.target? path = some location) :
    after.target? path = some location := by
  obtain ⟨directory, hholder, hplace⟩ := target?_eq_some.1 h
  exact target?_eq_some.2 ⟨directory, holder?_of_keeps hkeeps hholder, hplace⟩

/-- A directory that a path leads to holds the files that are joined to the path. -/
theorem Leads.target?_join {tree : FileTree} {directory file : String} {location : Location}
    (h : tree.Leads directory location) (hslash : '/' ∉ file.toList) (hfile : file ≠ "") :
    tree.target? (Path.join directory file) = some (placeIn location (some file)) := by
  refine target?_eq_some.2 ⟨location, holder?_eq_some.2 ⟨?_, h.node⟩, ?_⟩
  · rw [Path.steps_join hslash hfile, List.dropLast_concat, start, Path.isAbsolute_join hslash]
    exact h.walk
  · rw [Path.steps_join hslash hfile, List.getLast?_concat]

end BenchReport.FileTree
