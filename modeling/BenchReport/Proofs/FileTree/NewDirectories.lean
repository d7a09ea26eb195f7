import BenchReport.Proofs.FileTree.MakeDirectory

/-!
# Making all that is missing above a directory

Directories are made one by one, the outer ones first, and those made before a fault stay. Whatever happens, what was there is as it was, and what is new are directories. Where no fault is reported, the path leads to a directory afterwards, be it new or not. Only the empty path makes none: it stands for the working directory.
-/

namespace BenchReport.FileTree

/-- A later state of a tree in which nothing is new but directories. -/
structure Extends (before after : FileTree) : Prop where
  home : after.home = before.home
  node?_eq : ∀ place, after.node? place = before.node? place ∨
    before.node? place = none ∧ after.node? place = some .directory

theorem Extends.refl (tree : FileTree) : Extends tree tree := ⟨rfl, fun _ => .inl rfl⟩

theorem Extends.trans {first second third : FileTree} (h : Extends first second)
    (h' : Extends second third) : Extends first third where
  home := h'.home.trans h.home
  node?_eq place := by
    rcases h.node?_eq place with hsame | ⟨hfree, hmade⟩
    · rcases h'.node?_eq place with hsame' | ⟨hfree', hmade'⟩
      · exact .inl (hsame'.trans hsame)
      · exact .inr ⟨hsame ▸ hfree', hmade'⟩
    · rcases h'.node?_eq place with hsame' | ⟨hfree', _⟩
      · exact .inr ⟨hfree, hsame'.trans hmade⟩
      · rw [hmade] at hfree'
        cases hfree'

/-! ### One directory -/

theorem isDirectoryAt_iff {tree : FileTree} {start : Location} {names : List String} :
    tree.isDirectoryAt start names = true ↔
      ∃ location, tree.walk start names = .ok location ∧ tree.node? location = some .directory := by
  rw [isDirectoryAt]
  cases tree.walk start names with
  | error fault => simp
  | ok location => simp

theorem putDirectory_extends {tree made : FileTree} {directory : Location} {name : String}
    (h : tree.putDirectory directory name = .ok made) :
    Extends tree made ∧ made.node? (name :: directory) = some .directory ∧
      ¬nameLimit < name.utf8ByteSize := by
  rw [putDirectory] at h
  split at h
  · cases h
  · rename_i hlength
    split at h
    · rename_i hdirectory
      split at h
      · cases h
      · rename_i hfree
        cases h
        have hputs := puts_put tree name directory .directory hdirectory fun _ => rfl
        refine ⟨⟨rfl, fun place => ?_⟩, hputs.node?_self, hlength⟩
        rw [hputs.node?_eq]
        by_cases hplace : place = name :: directory
        · rw [if_pos hplace, hplace]
          exact .inr ⟨Classical.not_not.1 hfree, rfl⟩
        · rw [if_neg hplace]
          exact .inl rfl
    · cases h

theorem Extends.keeps {before after : FileTree} (h : Extends before after) : Keeps before after where
  home := h.home
  directories place hplace := by
    rcases h.node?_eq place with hsame | ⟨hfree, _⟩
    · exact hsame.trans hplace
    · rw [hfree] at hplace
      cases hplace

theorem makeDirectoryAt_extends {tree made : FileTree} {start : Location} {names : List String}
    (h : tree.makeDirectoryAt start names = .ok made) :
    Extends tree made ∧ made.isDirectoryAt start names = true := by
  rw [makeDirectoryAt] at h
  cases hwalk : tree.walk start names.dropLast with
  | error fault =>
      rw [hwalk] at h
      cases h
  | ok directory =>
      simp only [hwalk, bind, Except.bind] at h
      split at h
      · cases h
      · rename_i hnode
        have hnode := Classical.not_not.1 hnode
        cases hlast : names.getLast? with
        | none =>
            rw [hlast] at h
            cases h
        | some name =>
            simp only [hlast] at h
            split at h
            · cases h
            · rename_i hname
              obtain ⟨hextends, hmade, hlength⟩ := putDirectory_extends h
              refine ⟨hextends, isDirectoryAt_iff.2 ⟨name :: directory, ?_, hmade⟩⟩
              obtain ⟨outer, rfl⟩ := List.getLast?_eq_some_iff.1 hlast
              rw [List.dropLast_concat] at hwalk
              rw [walk_concat, walk_eq_ok_of_keeps hextends.keeps hwalk hnode]
              refine step_eq_ok (hextends.keeps.directories directory hnode) hname hlength ?_
              rw [hmade]
              exact Option.some_ne_none _

/-! ### All of them -/

/-- What holds of every attempt to make directories up to some names. -/
structure Makes (start : Location) (names : List String) (tree : FileTree)
    (result : FileTree × Except FileFault Unit) : Prop where
  extended : Extends tree result.1
  there : result.2 = .ok () → result.1.isDirectoryAt start names = true

theorem ensureDirectory_makes {start : Location} {names : List String}
    {ensureParent : FileTree → FileTree × Except FileFault Unit}
    (hparent : ∀ tree, Extends tree (ensureParent tree).1) (tree : FileTree) :
    Makes start names tree (ensureDirectory start names ensureParent tree) := by
  -- A fault is reported unless the directory is there all the same.
  have hreported (now : FileTree) (fault : FileFault) :
      (if now.isDirectoryAt start names then Except.ok () else .error fault) = .ok () →
        now.isDirectoryAt start names = true := by
    intro h
    split at h
    · assumption
    · cases h
  rw [ensureDirectory]
  cases hmake : tree.makeDirectoryAt start names with
  | ok made =>
      obtain ⟨hextends, hthere⟩ := makeDirectoryAt_extends hmake
      exact ⟨hextends, fun _ => hthere⟩
  | error fault =>
      cases fault with
      | notFound =>
          have houter := hparent tree
          cases hensure : ensureParent tree with
          | mk now result =>
              rw [hensure] at houter
              cases result with
              | error fault => exact ⟨houter, fun h => by cases h⟩
              | ok _ =>
                  cases hagain : now.makeDirectoryAt start names with
                  | ok made =>
                      obtain ⟨hextends, hthere⟩ := makeDirectoryAt_extends hagain
                      simp only [hagain]
                      exact ⟨houter.trans hextends, fun _ => hthere⟩
                  | error fault =>
                      simp only [hagain]
                      exact ⟨houter, hreported now fault⟩
      | _ => exact ⟨Extends.refl tree, hreported tree _⟩

theorem ensureDirectories_extends (start : Location) (names : List String) (tree : FileTree) :
    Extends tree (ensureDirectories start names tree).1 := by
  induction names generalizing tree with
  | nil => exact Extends.refl tree
  | cons name outer ih => exact (ensureDirectory_makes ih tree).extended

theorem makeDirectories_extends (tree : FileTree) (path : String) :
    Extends tree (tree.makeDirectories path).1 := by
  rw [makeDirectories]
  split
  · exact Extends.refl tree
  · cases checkText path with
    | error fault => exact Extends.refl tree
    | ok _ => exact (ensureDirectory_makes (ensureDirectories_extends _ _) tree).extended

/-- Where a path leads when directories have been made for it: to a directory, unless it is empty and the working directory is none. -/
structure Ends (tree : FileTree) (path : String) (location : Location) : Prop where
  walk : tree.walk (tree.start path) (Path.steps path) = .ok location
  node : path ≠ "" → tree.node? location = some .directory

theorem makeDirectories_ends {tree : FileTree} {path : String}
    (h : (tree.makeDirectories path).2 = .ok ()) :
    ∃ location, (tree.makeDirectories path).1.Ends path location := by
  have hkeeps := (makeDirectories_extends tree path).keeps
  by_cases hpath : path = ""
  · subst hpath
    exact ⟨_, rfl, fun hne => absurd rfl hne⟩
  · rw [makeDirectories, if_neg hpath] at h hkeeps ⊢
    cases htext : checkText path with
    | error fault =>
        rw [htext] at h
        cases h
    | ok _ =>
        rw [htext] at h hkeeps
        obtain ⟨location, hwalk, hnode⟩ := isDirectoryAt_iff.1
          ((ensureDirectory_makes (ensureDirectories_extends _ _) tree).there h)
        refine ⟨location, ?_, fun _ => hnode⟩
        rw [hkeeps.start]
        exact hwalk

end BenchReport.FileTree
