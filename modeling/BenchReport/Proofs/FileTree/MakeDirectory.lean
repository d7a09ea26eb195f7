import BenchReport.Proofs.FileTree.Write

/-!
# What making a directory does

Making directories at a path whose parent directory exists makes at most one: the one that the path names. As with files, the outcome is told by the path and the node that is there.
-/

namespace BenchReport.FileTree

/-- Why a directory cannot be made at a path in a directory that exists, given what is where the path leads. -/
def directoryFault? (path : String) (there : Option FileNode) : Option FileFault :=
  if path = "" then none
  else
    match checkText path with
    | .error fault => some fault
    | .ok () =>
      match (Path.steps path).getLast? with
      | none => none
      | some name =>
        if name = "." ∨ name = ".." then none
        else if nameLimit < name.utf8ByteSize then some .nameTooLong
        else if there = none ∨ there = some .directory then none
        else some .alreadyExists

/-! ### The two looks at the last name -/

section Held

variable {tree : FileTree} {path : String} {directory : Location}

theorem makeDirectoryAt_eq (hholder : tree.holder? path = some directory) :
    tree.makeDirectoryAt (tree.start path) (Path.steps path) =
      match (Path.steps path).getLast? with
      | none => .error .alreadyExists
      | some name =>
        if name = "." ∨ name = ".." then .error .alreadyExists
        else tree.putDirectory directory name := by
  obtain ⟨hwalk, hnode⟩ := holder?_eq_some.1 hholder
  rw [makeDirectoryAt, hwalk]
  cases (Path.steps path).getLast? with
  | none => simp only [bind, Except.bind, hnode, ne_eq, not_true_eq_false, if_false]
  | some name => simp only [bind, Except.bind, hnode, ne_eq, not_true_eq_false, if_false]

theorem isDirectoryAt_eq (hholder : tree.holder? path = some directory) :
    tree.isDirectoryAt (tree.start path) (Path.steps path) =
      match (Path.steps path).getLast? with
      | none => true
      | some name =>
        match tree.step directory name with
        | .ok place => tree.node? place == some .directory
        | .error _ => false := by
  rw [isDirectoryAt, walk_steps hholder]
  cases (Path.steps path).getLast? with
  | none => simp [(holder?_eq_some.1 hholder).2]
  | some name => rfl

/-- Making directories in a directory that exists needs to look no further up. -/
theorem makeDirectories_eq (hholder : tree.holder? path = some directory) (hpath : path ≠ "") :
    tree.makeDirectories path =
      match checkText path with
      | .error fault => (tree, .error fault)
      | .ok () =>
        match tree.makeDirectoryAt (tree.start path) (Path.steps path) with
        | .ok made => (made, .ok ())
        | .error fault =>
          (tree, if tree.isDirectoryAt (tree.start path) (Path.steps path) then .ok ()
            else .error fault) := by
  have hfound : tree.makeDirectoryAt (tree.start path) (Path.steps path) ≠ .error .notFound := by
    rw [makeDirectoryAt_eq hholder]
    cases (Path.steps path).getLast? with
    | none => simp
    | some name =>
        by_cases hname : name = "." ∨ name = ".."
        · simp [hname]
        · simp only [if_neg hname, putDirectory]
          split
          · simp
          · split
            · split <;> simp
            · simp
  rw [makeDirectories, if_neg hpath]
  cases checkText path with
  | error fault => rfl
  | ok _ =>
      simp only [ensureDirectory]
      split <;> simp_all

/-! ### No new name -/

/-- A dot or two dots lead from a directory to a directory. -/
theorem step_dots {name : String} (hnode : tree.node? directory = some .directory)
    (hname : name = "." ∨ name = "..") :
    tree.step directory name = .ok (placeIn directory (some name)) ∧
      tree.node? (placeIn directory (some name)) = some .directory := by
  rw [step, if_neg (not_not_intro hnode), placeIn]
  rcases hname with rfl | rfl
  · exact ⟨rfl, hnode⟩
  · exact ⟨rfl, node?_tail hnode⟩

/-- A path that ends in no name of its own leads to a directory that is there. -/
theorem makeDirectories_there (hholder : tree.holder? path = some directory) (hpath : path ≠ "")
    (htext : checkText path = .ok ())
    (hlast : ∀ name ∈ (Path.steps path).getLast?, name = "." ∨ name = "..") :
    tree.makeDirectories path = (tree, .ok ()) ∧
      tree.node? (placeIn directory (Path.steps path).getLast?) = some .directory ∧
      tree.walk (tree.start path) (Path.steps path) =
        .ok (placeIn directory (Path.steps path).getLast?) := by
  have hnode := (holder?_eq_some.1 hholder).2
  rw [makeDirectories_eq hholder hpath, htext, makeDirectoryAt_eq hholder, isDirectoryAt_eq hholder,
    walk_steps hholder]
  cases hname : (Path.steps path).getLast? with
  | none => exact ⟨rfl, hnode, rfl⟩
  | some name =>
      have hdots := hlast name hname
      obtain ⟨hstep, hthere⟩ := step_dots hnode hdots
      refine ⟨?_, hthere, hstep⟩
      simp [hdots, hstep, hthere]

/-! ### A last name that can be new -/

variable {name : String}

theorem makeDirectories_new (hholder : tree.holder? path = some directory) (hpath : path ≠ "")
    (htext : checkText path = .ok ()) (hlast : (Path.steps path).getLast? = some name)
    (hname : ¬(name = "." ∨ name = "..")) :
    tree.makeDirectories path =
      match tree.putDirectory directory name with
      | .ok made => (made, .ok ())
      | .error fault =>
        (tree, if tree.isDirectoryAt (tree.start path) (Path.steps path) then .ok ()
          else .error fault) := by
  rw [makeDirectories_eq hholder hpath, htext, makeDirectoryAt_eq hholder, hlast]
  simp only [if_neg hname]

theorem puts_directory {place : Location} (h : tree.node? place = some .directory) :
    Puts place .directory tree tree where
  home := rfl
  node?_eq other := by
    split
    · rename_i heq
      rw [heq, h]
    · rfl

/-- The directory is made, or it is there already. -/
theorem makeDirectories_puts (hholder : tree.holder? path = some directory) (hpath : path ≠ "")
    (htext : checkText path = .ok ()) (hlast : (Path.steps path).getLast? = some name)
    (hname : ¬(name = "." ∨ name = "..")) (hlength : ¬nameLimit < name.utf8ByteSize)
    (hthere : tree.node? (name :: directory) = none ∨
      tree.node? (name :: directory) = some .directory) :
    ∃ after, tree.makeDirectories path = (after, .ok ()) ∧
      Puts (name :: directory) .directory tree after := by
  have hnode := (holder?_eq_some.1 hholder).2
  rw [makeDirectories_new hholder hpath htext hlast hname]
  rcases hthere with hfree | hmade
  · refine ⟨_, ?_, puts_put tree name directory .directory hnode fun _ => rfl⟩
    simp [putDirectory, hlength, hnode, hfree]
  · refine ⟨tree, ?_, puts_directory hmade⟩
    rw [isDirectoryAt_eq hholder, hlast]
    simp [putDirectory, hlength, hnode, hmade, step_eq_ok hnode hname hlength]

/-- The path leads to the directory that was put where it leads. -/
theorem Puts.walk_steps {after : FileTree} (hholder : tree.holder? path = some directory)
    (hlast : (Path.steps path).getLast? = some name) (hname : ¬(name = "." ∨ name = ".."))
    (hlength : ¬nameLimit < name.utf8ByteSize)
    (hputs : Puts (name :: directory) .directory tree after) :
    after.walk (after.start path) (Path.steps path) = .ok (name :: directory) := by
  have hkeeps := (hputs.confined fun _ => rfl).toKeeps
  have hnode := (holder?_eq_some.1 hholder).2
  rw [FileTree.walk_steps (holder?_of_keeps hkeeps hholder), hlast]
  refine step_eq_ok (hkeeps.directories directory hnode) hname hlength ?_
  rw [hputs.node?_self]
  exact Option.some_ne_none _

/-- A name that is too long, or that stands for a file. -/
theorem makeDirectories_fails (hholder : tree.holder? path = some directory) (hpath : path ≠ "")
    (htext : checkText path = .ok ()) (hlast : (Path.steps path).getLast? = some name)
    (hname : ¬(name = "." ∨ name = "..")) :
    (nameLimit < name.utf8ByteSize → tree.makeDirectories path = (tree, .error .nameTooLong)) ∧
      (¬nameLimit < name.utf8ByteSize → tree.node? (name :: directory) ≠ none →
        tree.node? (name :: directory) ≠ some .directory →
        tree.makeDirectories path = (tree, .error .alreadyExists)) := by
  have hnode := (holder?_eq_some.1 hholder).2
  rw [makeDirectories_new hholder hpath htext hlast hname, isDirectoryAt_eq hholder, hlast,
    putDirectory]
  constructor
  · intro hlength
    have hstep : tree.step directory name = .error .nameTooLong := by
      rw [step, if_neg (not_not_intro hnode), if_neg fun he => hname (.inl he),
        if_neg fun he => hname (.inr he), if_pos hlength]
    simp [hlength, hstep]
  · intro hlength hfree hfile
    simp [hlength, hnode, hfree, hfile, step_eq_ok hnode hname hlength hfree]

end Held

/-! ### The outcome -/

section Fault

variable {path : String} {there : Option FileNode} (hpath : path ≠ "")
  (htext : checkText path = .ok ())

include hpath htext

theorem directoryFault?_there (hlast : ∀ name ∈ (Path.steps path).getLast?, name = "." ∨ name = "..") :
    directoryFault? path there = none := by
  rw [directoryFault?, if_neg hpath, htext]
  cases hname : (Path.steps path).getLast? with
  | none => rfl
  | some name => exact if_pos (hlast name hname)

theorem directoryFault?_name {name : String} (hlast : (Path.steps path).getLast? = some name)
    (hname : ¬(name = "." ∨ name = "..")) :
    directoryFault? path there =
      if nameLimit < name.utf8ByteSize then some .nameTooLong
      else if there = none ∨ there = some .directory then none
      else some .alreadyExists := by
  rw [directoryFault?, if_neg hpath, htext, hlast]
  exact if_neg hname

end Fault

/-- A path ends in a name of its own or it does not. -/
theorem getLast?_steps_cases (path : String) :
    (∀ name ∈ (Path.steps path).getLast?, name = "." ∨ name = "..") ∨
      ∃ name, (Path.steps path).getLast? = some name ∧ ¬(name = "." ∨ name = "..") := by
  cases hlast : (Path.steps path).getLast? with
  | none => exact .inl fun name hname => by cases hname
  | some name =>
      by_cases hdots : name = "." ∨ name = ".."
      · exact .inl fun other hother => by cases hother; exact hdots
      · exact .inr ⟨name, rfl, hdots⟩

theorem makeDirectories_eq_error {tree : FileTree} {path : String} {location : Location}
    (htarget : tree.target? path = some location) {fault : FileFault}
    (hfault : directoryFault? path (tree.node? location) = some fault) :
    tree.makeDirectories path = (tree, .error fault) := by
  obtain ⟨directory, hholder, rfl⟩ := target?_eq_some.1 htarget
  by_cases hpath : path = ""
  · rw [directoryFault?, if_pos hpath] at hfault
    cases hfault
  cases htext : checkText path with
  | error textFault =>
      rw [directoryFault?, if_neg hpath, htext] at hfault
      cases hfault
      rw [makeDirectories_eq hholder hpath, htext]
  | ok _ =>
      rcases getLast?_steps_cases path with hdots | ⟨name, hlast, hname⟩
      · rw [directoryFault?_there hpath htext hdots] at hfault
        cases hfault
      · rw [directoryFault?_name hpath htext hlast hname, hlast, placeIn_name hname] at hfault
        obtain ⟨hlong, htaken⟩ := makeDirectories_fails hholder hpath htext hlast hname
        split at hfault
        · rename_i hlength
          cases hfault
          exact hlong hlength
        · rename_i hlength
          split at hfault
          · cases hfault
          · rename_i hthere
            cases hfault
            exact htaken hlength (fun he => hthere (.inl he)) fun he => hthere (.inr he)

theorem makeDirectories_eq_ok {tree : FileTree} {path : String} {location : Location}
    (htarget : tree.target? path = some location)
    (hfault : directoryFault? path (tree.node? location) = none) :
    ∃ after, tree.makeDirectories path = (after, .ok ()) ∧ Puts location .directory tree after ∧
      after.walk (after.start path) (Path.steps path) = .ok location := by
  obtain ⟨directory, hholder, rfl⟩ := target?_eq_some.1 htarget
  by_cases hpath : path = ""
  · subst hpath
    exact ⟨tree, if_pos rfl, puts_directory (holder?_eq_some.1 hholder).2,
      (holder?_eq_some.1 hholder).1⟩
  cases htext : checkText path with
  | error textFault =>
      rw [directoryFault?, if_neg hpath, htext] at hfault
      cases hfault
  | ok _ =>
      rcases getLast?_steps_cases path with hdots | ⟨name, hlast, hname⟩
      · obtain ⟨hmade, hthere, hwalk⟩ := makeDirectories_there hholder hpath htext hdots
        exact ⟨tree, hmade, puts_directory hthere, hwalk⟩
      · rw [directoryFault?_name hpath htext hlast hname, hlast, placeIn_name hname] at hfault
        rw [hlast, placeIn_name hname]
        split at hfault
        · cases hfault
        · rename_i hlength
          split at hfault
          · rename_i hthere
            obtain ⟨after, hmade, hputs⟩ :=
              makeDirectories_puts hholder hpath htext hlast hname hlength hthere
            exact ⟨after, hmade, hputs, hputs.walk_steps hholder hlast hname hlength⟩
          · cases hfault

end BenchReport.FileTree
