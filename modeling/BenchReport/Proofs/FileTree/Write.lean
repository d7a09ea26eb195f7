import BenchReport.Proofs.FileTree.Target

/-!
# What a write does

A write to a path whose parent directory exists either fails, for a reason that lies in the path and in whether a directory is in the way, or puts one file at the location that the path names. So the outcome is told by the path and the node that is there, and two trees that agree at the location give the same outcome, whatever else they hold.
-/

namespace BenchReport.FileTree

-- The order of locations is that of the core library, as it is where nodes are put.
attribute [local instance (high)] List.instLE

/-! ### Putting one node -/

/-- A later state of a tree that differs by one node. -/
structure Puts (location : Location) (node : FileNode) (before after : FileTree) : Prop where
  home : after.home = before.home
  node?_eq : ∀ place, after.node? place =
    if place = location then some node else before.node? place

theorem Puts.confined {location : Location} {node : FileNode} {before after : FileTree}
    (h : Puts location node before after)
    (hkeep : before.node? location = some .directory → node = .directory) :
    Confined location before after where
  home := h.home
  directories place hplace := by
    rw [h.node?_eq]
    split
    · rename_i heq
      rw [hkeep (heq ▸ hplace)]
    · exact hplace
  elsewhere place hplace := by
    rw [h.node?_eq, if_neg]
    rintro rfl
    exact hplace (List.suffix_refl place)

theorem Puts.node?_self {location : Location} {node : FileNode} {before after : FileTree}
    (h : Puts location node before after) : after.node? location = some node := by
  rw [h.node?_eq, if_pos rfl]

/-- A later state that has a directory where one was put keeps what was there then. -/
theorem Puts.keeps_of_directory {location : Location} {before after final : FileTree}
    (h : Puts location .directory before after) (hkeeps : Keeps before final)
    (hthere : final.node? location = some .directory) : Keeps after final where
  home := hkeeps.home.trans h.home.symm
  directories place hplace := by
    rw [h.node?_eq] at hplace
    split at hplace
    · rename_i hat
      rw [hat, hthere]
    · exact hkeeps.directories place hplace

/-- The same node put into trees that agree below a location leaves them agreeing. -/
theorem Puts.sameBelow {location outer : Location} {node : FileNode}
    {left right left' right' : FileTree} (hleft : Puts location node left left')
    (hright : Puts location node right right') (hsame : SameBelow outer left right) :
    SameBelow outer left' right' := by
  intro place hplace
  rw [hleft.node?_eq, hright.node?_eq, hsame place hplace]

theorem puts_put (tree : FileTree) (name : String) (directory : Location) (node : FileNode)
    (hdirectory : tree.node? directory = some .directory)
    (hkeep : tree.node? (name :: directory) = some .directory → node = .directory) :
    Puts (name :: directory) node tree (tree.put name directory node hdirectory hkeep) where
  home := rfl
  node?_eq place := by
    cases place with
    | nil => rw [if_neg (List.cons_ne_nil name directory).symm, node?_nil, node?_nil]
    | cons inner outer =>
        rw [node?_cons, node?_cons, put, SortedMap.get?_insert]
        simp only [eq_comm]

/-! ### Writing files -/

/-- Why a file cannot be written to a path in a directory that exists, given what is where the path leads. -/
def writeFault? (path : String) (there : Option FileNode) : Option FileFault :=
  match checkText path with
  | .error fault => some fault
  | .ok () =>
    match (Path.steps path).getLast? with
    | none => some .isADirectory
    | some name =>
      if name = "." ∨ name = ".." ∨ Path.endsInSlash path then some .isADirectory
      else if nameLimit < name.utf8ByteSize then some .nameTooLong
      else if there = some .directory then some .isADirectory
      else none

/-- The last name of a path that can be written to. -/
theorem getLast?_of_writeFault? {path : String} {there : Option FileNode}
    (h : writeFault? path there = none) :
    ∃ name, (Path.steps path).getLast? = some name ∧ checkText path = .ok () ∧
      ¬(name = "." ∨ name = ".." ∨ Path.endsInSlash path) ∧ ¬nameLimit < name.utf8ByteSize ∧
      there ≠ some .directory := by
  rw [writeFault?] at h
  cases htext : checkText path with
  | error fault =>
      rw [htext] at h
      cases h
  | ok _ =>
      cases hlast : (Path.steps path).getLast? with
      | none =>
          rw [htext, hlast] at h
          cases h
      | some name =>
          rw [htext, hlast] at h
          refine ⟨name, rfl, rfl, ?_⟩
          simp only at h
          split at h
          · cases h
          · rename_i hname
            split at h
            · cases h
            · rename_i hlength
              split at h
              · cases h
              · rename_i hfree
                exact ⟨hname, hlength, hfree⟩

/-- No file is written to a path that ends in a dot or two dots, whatever is there. -/
theorem writeFault?_of_dots {path name : String} (hlast : (Path.steps path).getLast? = some name)
    (hdots : name = "." ∨ name = "..") :
    ∃ fault, ∀ there, writeFault? path there = some fault := by
  cases htext : checkText path with
  | error fault =>
      refine ⟨fault, fun there => ?_⟩
      rw [writeFault?, htext]
  | ok _ =>
      refine ⟨.isADirectory, fun there => ?_⟩
      rw [writeFault?, htext, hlast]
      exact if_pos (hdots.imp_right .inl)

theorem placeIn_of_writeFault? {path : String} {there : Option FileNode}
    (h : writeFault? path there = none) (directory : Location) :
    ∃ name, (Path.steps path).getLast? = some name ∧
      placeIn directory (Path.steps path).getLast? = name :: directory := by
  obtain ⟨name, hlast, _, hname, _⟩ := getLast?_of_writeFault? h
  refine ⟨name, hlast, ?_⟩
  rw [hlast, placeIn_name fun he => hname (he.imp_right .inl)]

theorem locateLast_eq {tree : FileTree} {path : String} {directory : Location}
    (hholder : tree.holder? path = some directory) :
    tree.locateLast path =
      (checkText path).map fun _ => (directory, (Path.steps path).getLast?) := by
  obtain ⟨hwalk, hnode⟩ := holder?_eq_some.1 hholder
  rw [locateLast]
  cases checkText path with
  | error fault => rfl
  | ok _ =>
      simp only [hwalk, bind, Except.bind, if_pos hnode, Except.map]

theorem writeFile_eq_error {tree : FileTree} {path : String} {location : Location}
    (htarget : tree.target? path = some location) (content : FileContent) {fault : FileFault}
    (hfault : writeFault? path (tree.node? location) = some fault) :
    tree.writeFile path content = .error fault := by
  obtain ⟨directory, hholder, rfl⟩ := target?_eq_some.1 htarget
  have hnode := (holder?_eq_some.1 hholder).2
  rw [writeFile, locateLast_eq hholder]
  rw [writeFault?] at hfault
  cases htext : checkText path with
  | error textFault =>
      rw [htext] at hfault
      cases hfault
      rfl
  | ok _ =>
      cases hlast : (Path.steps path).getLast? with
      | none =>
          rw [htext, hlast] at hfault
          cases hfault
          rfl
      | some name =>
          rw [htext, hlast] at hfault
          simp only [Except.map, bind, Except.bind] at hfault ⊢
          split at hfault
          · rename_i hname
            cases hfault
            rw [if_pos hname]
          · rename_i hname
            rw [if_neg hname, putFile]
            split at hfault
            · rename_i hlength
              cases hfault
              rw [if_pos hlength]
            · rename_i hlength
              rw [if_neg hlength, dif_pos hnode]
              rw [placeIn_name fun he => hname (he.imp_right .inl)] at hfault
              split at hfault
              · rename_i htaken
                cases hfault
                rw [dif_pos htaken]
              · cases hfault

theorem writeFile_eq_ok {tree : FileTree} {path : String} {location : Location}
    (htarget : tree.target? path = some location) (content : FileContent)
    (hfault : writeFault? path (tree.node? location) = none) :
    ∃ after, tree.writeFile path content = .ok after ∧ Puts location (.file content) tree after := by
  obtain ⟨directory, hholder, rfl⟩ := target?_eq_some.1 htarget
  have hnode := (holder?_eq_some.1 hholder).2
  obtain ⟨name, hlast, htext, hname, hlength, hfree⟩ := getLast?_of_writeFault? hfault
  obtain ⟨other, hother, hplace⟩ := placeIn_of_writeFault? hfault directory
  cases hlast.symm.trans hother
  rw [hplace] at hfree ⊢
  refine ⟨_, ?_, puts_put tree name directory (.file content) hnode fun h => absurd h hfree⟩
  rw [writeFile, locateLast_eq hholder, htext, hlast]
  simp only [Except.map, bind, Except.bind]
  rw [if_neg hname, putFile, if_neg hlength, dif_pos hnode, dif_neg hfree]

/-- The same write to two trees that agree on what is at and below a location. -/
theorem writeFile_parallel {left right : FileTree} {path : String} {location outer : Location}
    (hleft : left.target? path = some location) (hright : right.target? path = some location)
    (hsame : SameBelow outer left right) (hthere : left.node? location = right.node? location)
    (hinside : writeFault? path (left.node? location) = none → outer <:+ location)
    (content : FileContent) :
    (∃ fault, left.writeFile path content = .error fault ∧
      right.writeFile path content = .error fault) ∨
    ∃ left' right', left.writeFile path content = .ok left' ∧
      right.writeFile path content = .ok right' ∧ Parallel outer left right left' right' := by
  cases hfault : writeFault? path (left.node? location) with
  | some fault =>
      exact .inl ⟨fault, writeFile_eq_error hleft content hfault,
        writeFile_eq_error hright content (hthere ▸ hfault)⟩
  | none =>
      obtain ⟨left', hwrite, hputs⟩ := writeFile_eq_ok hleft content hfault
      obtain ⟨right', hwrite', hputs'⟩ := writeFile_eq_ok hright content (hthere ▸ hfault)
      obtain ⟨_, _, _, _, _, hfree⟩ := getLast?_of_writeFault? hfault
      have hin := hinside hfault
      exact .inr ⟨left', right', hwrite, hwrite',
        (hputs.confined fun h => absurd h hfree).mono hin,
        (hputs'.confined fun h => absurd (hthere.trans h) hfree).mono hin,
        hputs.sameBelow hputs' hsame⟩

/-- A file that can be written to was given a path whose parent directory exists. -/
theorem target?_of_writeFile {tree after : FileTree} {path : String} {content : FileContent}
    (h : tree.writeFile path content = .ok after) : ∃ location, tree.target? path = some location := by
  rw [writeFile, locateLast] at h
  cases htext : checkText path with
  | error fault =>
      rw [htext] at h
      cases h
  | ok _ =>
      rw [htext] at h
      cases hwalk : tree.walk (tree.start path) (Path.steps path).dropLast with
      | error fault =>
          simp only [hwalk, bind, Except.bind] at h
          cases h
      | ok directory =>
          simp only [hwalk, bind, Except.bind] at h
          by_cases hnode : tree.node? directory = some .directory
          · exact ⟨_, target?_eq_some.2 ⟨directory, holder?_eq_some.2 ⟨hwalk, hnode⟩, rfl⟩⟩
          · rw [if_neg hnode] at h
            cases h

/-- The walk along all names of a path, from the directory that holds what the path names. -/
theorem walk_steps {tree : FileTree} {path : String} {directory : Location}
    (hholder : tree.holder? path = some directory) :
    tree.walk (tree.start path) (Path.steps path) =
      match (Path.steps path).getLast? with
      | none => .ok directory
      | some name => tree.step directory name := by
  obtain ⟨hwalk, _⟩ := holder?_eq_some.1 hholder
  cases hlast : (Path.steps path).getLast? with
  | none =>
      rw [List.getLast?_eq_none_iff] at hlast
      rw [hlast] at hwalk ⊢
      exact hwalk
  | some name =>
      obtain ⟨outer, hsteps⟩ := List.getLast?_eq_some_iff.1 hlast
      rw [hsteps, List.dropLast_concat] at hwalk
      rw [hsteps, walk_concat, hwalk]
      rfl

/-- A step to a name that is neither a dot nor two dots nor too long. -/
theorem step_eq_ok {tree : FileTree} {directory : Location} {name : String}
    (hdirectory : tree.node? directory = some .directory) (hname : ¬(name = "." ∨ name = ".."))
    (hlength : ¬nameLimit < name.utf8ByteSize) (hnode : tree.node? (name :: directory) ≠ none) :
    tree.step directory name = .ok (name :: directory) := by
  rw [step, if_neg (not_not_intro hdirectory), if_neg fun he => hname (.inl he),
    if_neg fun he => hname (.inr he), if_neg hlength, if_neg hnode]

/-! ### Places that can be written to -/

/-- A path at which a file can be made or replaced, whatever it is to hold. -/
structure Writable (tree : FileTree) (path : String) (location : Location) : Prop where
  target : tree.target? path = some location
  faultless : writeFault? path (tree.node? location) = none

theorem writable_of_writeFile {tree after : FileTree} {path : String} {content : FileContent}
    (h : tree.writeFile path content = .ok after) : ∃ location, tree.Writable path location := by
  obtain ⟨location, htarget⟩ := target?_of_writeFile h
  refine ⟨location, htarget, ?_⟩
  cases hfault : writeFault? path (tree.node? location) with
  | none => rfl
  | some fault =>
      rw [writeFile_eq_error htarget content hfault] at h
      cases h

/-- What is written there changes nothing elsewhere. -/
theorem Writable.write {tree : FileTree} {path : String} {location : Location}
    (h : tree.Writable path location) (content : FileContent) :
    ∃ after, tree.writeFile path content = .ok after ∧ Confined location tree after ∧
      after.node? location = some (.file content) := by
  obtain ⟨after, hwrite, hputs⟩ := writeFile_eq_ok h.target content h.faultless
  obtain ⟨_, _, _, _, _, hfree⟩ := getLast?_of_writeFault? h.faultless
  exact ⟨after, hwrite, hputs.confined fun hdirectory => absurd hdirectory hfree, hputs.node?_self⟩

/-- A file that was written there can be read in every later state. -/
theorem Writable.reads {tree after : FileTree} {path : String} {location : Location}
    (h : tree.Writable path location) {content : FileContent} (hkeeps : Keeps tree after)
    (hnode : after.node? location = some (.file content)) :
    after.readFile path = .ok content := by
  obtain ⟨directory, hholder, rfl⟩ := target?_eq_some.1 h.target
  have hheld := holder?_of_keeps hkeeps hholder
  obtain ⟨name, hlast, htext, hname, hlength, _⟩ := getLast?_of_writeFault? h.faultless
  obtain ⟨other, hother, hplace⟩ := placeIn_of_writeFault? h.faultless directory
  cases hlast.symm.trans hother
  rw [hplace] at hnode
  have hstep : after.step directory name = .ok (name :: directory) := by
    refine step_eq_ok (holder?_eq_some.1 hheld).2 (fun he => hname ?_) hlength ?_
    · exact he.imp_right .inl
    · rw [hnode]
      exact Option.some_ne_none _
  have hlocate : after.locate path = .ok (name :: directory) := by
    have hslash : ¬Path.endsInSlash path = true := fun he => hname (.inr (.inr he))
    rw [locate, htext, if_neg hslash, List.append_nil]
    change after.walk (after.start path) (Path.steps path) = _
    rw [walk_steps hheld, hlast]
    exact hstep
  have hlookup : after.lookup path = .ok (.file content) := by
    rw [lookup, hlocate]
    simp only [bind, Except.bind, hnode]
  rw [readFile, hlookup]
  rfl

theorem exists?_of_readFile {tree : FileTree} {path : String} {content : FileContent}
    (h : tree.readFile path = .ok content) : tree.exists? path = true := by
  rw [readFile] at h
  rw [exists?]
  cases hlookup : tree.lookup path with
  | error fault =>
      rw [hlookup] at h
      cases h
  | ok node => rfl

end BenchReport.FileTree
