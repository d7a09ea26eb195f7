import BenchReport.FileTree.Change
import BenchReport.Proofs.FileTree.Naming

/-!
# Trees that are built have names

Whatever is put into a tree gets the last name of a path, and the names of a path that can be used at all are neither empty nor have slashes or zeros. So every tree that is built file by file, from the empty one, is well named.
-/

namespace BenchReport.FileTree

/-- What a path is made of: a name, except that it may be dots or too long. -/
structure IsPart (name : String) : Prop where
  nonempty : name ≠ ""
  slash : '/' ∉ name.toList
  nul : '\x00' ∉ name.toList

theorem isPart_of_mem_steps {path name : String} (htext : checkText path = .ok ())
    (h : name ∈ Path.steps path) : IsPart name := by
  obtain ⟨hsegment, hne⟩ := List.mem_filter.1 h
  have hnul : '\x00' ∉ path.toList := by
    intro hmem
    rw [checkText, if_pos hmem] at htext
    cases htext
  exact ⟨of_decide_eq_true hne, Text.not_mem_of_mem_segments hsegment,
    fun hmem => hnul (Text.mem_of_mem_segments hsegment hmem)⟩

theorem isPart_of_mem_components {path name : String} (htext : checkText path = .ok ())
    (h : name ∈ Path.components path) : IsPart name := by
  have hsteps : ∀ one ∈ Path.steps path, IsPart one := fun _ => isPart_of_mem_steps htext
  rw [Path.components] at h
  split at h
  · rename_i rest hrest
    rw [hrest] at hsteps
    rcases List.mem_append.1 h with hdot | hname
    · split at hdot
      · cases hdot
      · rw [List.mem_singleton.1 hdot]
        exact hsteps "." List.mem_cons_self
    · exact hsteps name (List.mem_cons_of_mem _ (List.mem_of_mem_filter hname))
  · exact hsteps name (List.mem_of_mem_filter h)

/-! ### One node -/

theorem wellNamed_empty : FileTree.empty.WellNamed := nofun

theorem WellNamed.puts {tree after : FileTree} (h : tree.WellNamed) {name : String}
    {directory : Location} {node : FileNode} (hputs : Puts (name :: directory) node tree after)
    (hname : IsName name) (hdirectory : tree.node? directory = some .directory) :
    after.WellNamed := by
  intro entry hentry
  by_cases hroot : entry.1 = []
  · simp [hroot]
  · have hnode := (node?_eq_get? after hroot).trans (SortedMap.mem_entries.1 hentry)
    rw [hputs.node?_eq] at hnode
    split at hnode
    · rename_i hplace
      rw [hplace]
      exact List.forall_mem_cons.2 ⟨hname, h.isName hdirectory⟩
    · exact h.isName hnode

theorem WellNamed.writeFile {tree after : FileTree} (h : tree.WellNamed) {path : String}
    {content : FileContent} (hwrite : tree.writeFile path content = .ok after) : after.WellNamed := by
  obtain ⟨location, htarget, hfault⟩ := writable_of_writeFile hwrite
  obtain ⟨written, hwritten, hputs⟩ := writeFile_eq_ok htarget content hfault
  cases hwrite.symm.trans hwritten
  obtain ⟨directory, hholder, rfl⟩ := target?_eq_some.1 htarget
  obtain ⟨name, hlast, htext, hdots, hshort, _⟩ := getLast?_of_writeFault? hfault
  obtain ⟨other, hother, hplace⟩ := placeIn_of_writeFault? hfault directory
  cases hlast.symm.trans hother
  rw [hplace] at hputs
  have hpart := isPart_of_mem_steps htext (List.mem_of_getLast? hlast)
  exact h.puts hputs ⟨hpart.nonempty, hpart.slash, hpart.nul, fun he => hdots (he.imp_right .inl),
    hshort⟩ (holder?_eq_some.1 hholder).2

/-! ### Directories -/

theorem WellNamed.makeDirectoryAt {tree made : FileTree} (h : tree.WellNamed) {start : Location}
    {names : List String} (hparts : ∀ name ∈ names, IsPart name)
    (hmake : tree.makeDirectoryAt start names = .ok made) : made.WellNamed := by
  rw [FileTree.makeDirectoryAt] at hmake
  cases hwalk : tree.walk start names.dropLast with
  | error fault =>
      rw [hwalk] at hmake
      cases hmake
  | ok directory =>
      simp only [hwalk, bind, Except.bind] at hmake
      split at hmake
      · cases hmake
      · cases hlast : names.getLast? with
        | none =>
            rw [hlast] at hmake
            cases hmake
        | some name =>
            simp only [hlast] at hmake
            split at hmake
            · cases hmake
            · rename_i hdots
              have hpart := hparts name (List.mem_of_getLast? hlast)
              rw [putDirectory] at hmake
              split at hmake
              · cases hmake
              · rename_i hshort
                split at hmake
                · rename_i hdirectory
                  split at hmake
                  · cases hmake
                  · cases hmake
                    exact h.puts (puts_put tree name directory .directory hdirectory fun _ => rfl)
                      ⟨hpart.nonempty, hpart.slash, hpart.nul, hdots, hshort⟩ hdirectory
                · cases hmake

theorem WellNamed.ensureDirectory {start : Location} {names : List String}
    {ensureParent : FileTree → FileTree × Except FileFault Unit}
    (hparent : ∀ tree : FileTree, tree.WellNamed → (ensureParent tree).1.WellNamed)
    (hparts : ∀ name ∈ names, IsPart name) {tree : FileTree} (h : tree.WellNamed) :
    (FileTree.ensureDirectory start names ensureParent tree).1.WellNamed := by
  rw [FileTree.ensureDirectory]
  cases hmake : tree.makeDirectoryAt start names with
  | ok made => exact h.makeDirectoryAt hparts hmake
  | error fault =>
      cases fault with
      | notFound =>
          have houter := hparent tree h
          cases hensure : ensureParent tree with
          | mk now result =>
              rw [hensure] at houter
              cases result with
              | error fault => exact houter
              | ok _ =>
                  cases hagain : now.makeDirectoryAt start names with
                  | ok made =>
                      simp only [hagain]
                      exact houter.makeDirectoryAt hparts hagain
                  | error fault =>
                      simp only [hagain]
                      exact houter
      | _ => exact h

theorem WellNamed.ensureDirectories (start : Location) {names : List String}
    (hparts : ∀ name ∈ names, IsPart name) {tree : FileTree} (h : tree.WellNamed) :
    (FileTree.ensureDirectories start names tree).1.WellNamed := by
  induction names generalizing tree with
  | nil => exact h
  | cons name outer ih =>
      refine WellNamed.ensureDirectory (fun now hnow => ?_) ?_ h
      · exact ih (fun one hone => hparts one (List.mem_cons_of_mem name hone)) hnow
      · intro one hone
        refine hparts one ?_
        simpa [or_comm] using hone

theorem WellNamed.withDirectory {tree : FileTree} (h : tree.WellNamed) (path : String) :
    (tree.withDirectory path).WellNamed := by
  rw [FileTree.withDirectory, makeDirectories]
  split
  · exact h
  · cases htext : checkText path with
    | error fault => exact h
    | ok _ =>
        refine WellNamed.ensureDirectory (fun now hnow => ?_)
          (fun _ => isPart_of_mem_steps htext) h
        refine hnow.ensureDirectories _ fun name hname => ?_
        exact isPart_of_mem_components htext (List.dropLast_subset _ (List.mem_reverse.1 hname))

/-- Trees that are built file by file are well named. -/
theorem WellNamed.withFile {tree : FileTree} (h : tree.WellNamed) (path : String)
    (content : FileContent) : (tree.withFile path content).WellNamed := by
  have hmade := h.withDirectory (Path.parent path)
  rw [FileTree.withFile]
  cases hwrite : (tree.withDirectory (Path.parent path)).writeFile path content with
  | error fault => simpa only [hwrite] using hmade
  | ok written => simpa only [hwrite] using hmade.writeFile hwrite

end BenchReport.FileTree
