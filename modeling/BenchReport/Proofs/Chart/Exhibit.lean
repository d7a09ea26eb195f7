import BenchReport.Proofs.Chart.Attempts

/-!
# Complete galleries

A gallery reports its files only if every chart and the index were written. Each has a path of its own then, so in every later state that has the same in the directory each is read back. Whatever is reported, a gallery makes its directory where there is nothing, puts files with these names into it, and touches nothing else.
-/

namespace BenchReport.Gallery

open FileTree

/-- The files of a gallery, the index last. -/
def files (painter : Painter) (charts : List Chart) : List String :=
  charts.map (fileOf painter) ++ [indexFile]

/-- All files of a gallery are there: the images of the charts, and the index that lists them. -/
structure Exhibits (painter : Painter) (directory title : String) (charts : List Chart)
    (tree : FileTree) : Prop where
  distinct : (files painter charts).Nodup
  images : ∀ chart ∈ charts, ∃ image, painter.paint chart = .ok image ∧
    tree.readFile (Path.join directory (fileOf painter chart)) = .ok image
  index : tree.readFile (Path.join directory indexFile) =
    .ok (.text (IndexPage.page (charts.map (fileOf painter)) title))

/-! ### What is touched -/

section Touched

variable {directory file : String} {location : Location} {tree after : FileTree}

theorem puts_of_writeFile_join (hleads : tree.Leads directory location) (hslash : '/' ∉ file.toList)
    (hfile : file ≠ "") {content : FileContent}
    (h : tree.writeFile (Path.join directory file) content = .ok after) :
    Puts (file :: location) (.file content) tree after ∧ Keeps tree after := by
  have hfate := fate_of_leads hleads hslash hfile (Keeps.refl tree) rfl
  cases hfate with
  | fails fault hfails =>
      rw [(hfails content).1] at h
      cases h
  | succeeds _ hsucceeds =>
      obtain ⟨_, written, hwrite, hputs, hkeeps⟩ := hsucceeds content
      cases hwrite.symm.trans h
      exact ⟨hputs, hkeeps⟩

variable {painter : Painter} {place : Location}

theorem node?_hang (hleads : tree.Leads directory location) {chart : Chart}
    (hslash : '/' ∉ (fileOf painter chart).toList) (hplace : place ≠ fileOf painter chart :: location)
    (h : hang painter directory tree chart = .ok after) :
    after.node? place = tree.node? place ∧ Keeps tree after := by
  have hfate := fate_of_leads hleads hslash (fileOf_ne_empty painter chart) (Keeps.refl tree) rfl
  rcases hang_cases hfate with ⟨error, herror, _⟩ | ⟨_, _, _, hung, _, hhung, hputs, hkeeps⟩
  · rw [herror] at h
    cases h
  · cases hhung.symm.trans h
    rw [hputs.node?_eq, if_neg hplace]
    exact ⟨rfl, hkeeps⟩

theorem node?_hangAll (hleads : tree.Leads directory location) {charts : List Chart}
    (hslash : ∀ chart ∈ charts, '/' ∉ (fileOf painter chart).toList)
    (hplace : ∀ chart ∈ charts, place ≠ fileOf painter chart :: location) :
    (hangAll painter directory tree charts).tree.node? place = tree.node? place ∧
      Keeps tree (hangAll painter directory tree charts).tree := by
  -- The induction starts from any progress in which the directory is still there.
  have hfold (rest : List Chart) (progress : Progress)
      (hslash : ∀ chart ∈ rest, '/' ∉ (fileOf painter chart).toList)
      (hplace : ∀ chart ∈ rest, place ≠ fileOf painter chart :: location)
      (hkeeps : Keeps tree progress.tree) (hnode : progress.tree.node? place = tree.node? place) :
      (rest.foldl (step painter directory) progress).tree.node? place = tree.node? place ∧
        Keeps tree (rest.foldl (step painter directory) progress).tree := by
    induction rest generalizing progress with
    | nil => exact ⟨hnode, hkeeps⟩
    | cons chart rest ih =>
        rw [List.forall_mem_cons] at hslash hplace
        refine ih _ hslash.2 hplace.2 ?_ ?_ <;> rw [step]
        · cases hhang : hang painter directory progress.tree chart with
          | error error => exact hkeeps
          | ok written =>
              exact hkeeps.trans (node?_hang (hleads.keeps hkeeps) hslash.1 hplace.1 hhang).2
        · cases hhang : hang painter directory progress.tree chart with
          | error error => exact hnode
          | ok written =>
              exact (node?_hang (hleads.keeps hkeeps) hslash.1 hplace.1 hhang).1.trans hnode
  exact hfold charts _ hslash hplace (Keeps.refl tree) rfl

theorem node?_close (title : String) {progress : Progress}
    (hleads : progress.tree.Leads directory location) (hplace : place ≠ indexFile :: location) :
    (close directory title progress).1.node? place = progress.tree.node? place := by
  have hname : '/' ∉ indexFile.toList ∧ indexFile ≠ "" := by decide
  rw [close]
  cases hwrite : progress.tree.writeFile (Path.join directory indexFile)
      (.text (IndexPage.page progress.written title)) with
  | error fault => rfl
  | ok written =>
      have hputs := (puts_of_writeFile_join hleads hname.1 hname.2 hwrite).1
      exact (hputs.node?_eq place).trans (if_neg hplace)

end Touched

/-- A gallery changes its own files, and its directory where there is nothing. -/
theorem node?_write {tree : FileTree} {directory : String} {location place : Location}
    (htarget : tree.target? directory = some location) {panels : Panels} {settings : Settings}
    {painter : Option Painter}
    (hslash : ∀ one ∈ painter, ∀ chart ∈ Chart.ofPanels settings panels,
      '/' ∉ (fileOf one chart).toList)
    (hdirectory : place = location → tree.node? place ≠ none)
    (hplace : ∀ one ∈ painter, ∀ file ∈ files one (Chart.ofPanels settings panels),
      place ≠ file :: location) :
    (write tree panels settings painter directory).1.node? place = tree.node? place := by
  cases painter with
  | none => rfl
  | some painter =>
      rw [write]
      cases hfault : directoryFault? directory (tree.node? location) with
      | some fault => rw [makeDirectories_eq_error htarget hfault]
      | none =>
          obtain ⟨made, hmade, hputs, hwalk⟩ := makeDirectories_eq_ok htarget hfault
          have hleads : made.Leads directory location := ⟨hwalk, hputs.node?_self⟩
          have hnode : made.node? place = tree.node? place := by
            by_cases hat : place = location
            · have hextends := makeDirectories_extends tree directory
              rw [hmade] at hextends
              exact (hextends.node?_eq place).resolve_right fun hfree => hdirectory hat hfree.1
            · rw [hputs.node?_eq, if_neg hat]
          have hfiles := List.forall_mem_append.1 (hplace painter rfl)
          rw [List.forall_mem_singleton] at hfiles
          obtain ⟨hcharts, hkeeps⟩ := node?_hangAll hleads (hslash painter rfl) fun chart hchart =>
            hfiles.1 _ (List.mem_map_of_mem hchart)
          rw [hmade]
          exact (node?_close _ (hleads.keeps hkeeps) hfiles.2).trans (hcharts.trans hnode)

/-! ### What can be read -/

/-- A file that could be written into a directory can be read in every later state. -/
theorem readFile_join {made final : FileTree} {directory file : String} {location : Location}
    (hleads : made.Leads directory location) (hslash : '/' ∉ file.toList) (hfile : file ≠ "")
    {content image : FileContent}
    (hwrite : (made.writeFile (Path.join directory file) content).isOk = true)
    (hkeeps : Keeps made final) (hnode : final.node? (file :: location) = some (.file image)) :
    final.readFile (Path.join directory file) = .ok image := by
  have hfate := fate_of_leads hleads hslash hfile (Keeps.refl made) rfl
  cases hfate with
  | fails fault hfails =>
      rw [(hfails content).1] at hwrite
      cases hwrite
  | succeeds hdots hsucceeds =>
      obtain ⟨written, hwritten⟩ := (hsucceeds content).1
      obtain ⟨place, hwritable⟩ := writable_of_writeFile hwritten
      have htarget := hleads.target?_join hslash hfile
      rw [placeIn_name hdots] at htarget
      cases htarget.symm.trans hwritable.target
      exact hwritable.reads hkeeps hnode

section Written

variable {painter : Painter} {directory title : String} {location : Location} {made : FileTree}
  {charts : List Chart}

/-- A gallery with all its charts and the index can be seen in every later state. -/
theorem Fills.exhibits {written final : FileTree}
    (hfills : Fills painter directory title location made charts written)
    (hleads : made.Leads directory location)
    (hslash : ∀ chart ∈ charts, '/' ∉ (fileOf painter chart).toList)
    (hdistinct : (indexFile :: charts.map (fileOf painter)).Nodup)
    (hall : hung painter directory made charts = charts) (hroom : HasRoomForIndex directory made)
    (hkeeps : Keeps made final)
    (hsame : ∀ file, final.node? (file :: location) = written.node? (file :: location)) :
    Exhibits painter directory title charts final where
  distinct := (List.perm_append_singleton _ _).nodup_iff.2 hdistinct
  images chart hchart := by
    have hhung := hall.symm ▸ hchart
    obtain ⟨image, hpaint, _, hnode⟩ := hfills.images chart hhung
    obtain ⟨content, _, hcontent⟩ := isOk_hang_iff.1 (List.mem_filter.1 hhung).2
    exact ⟨image, hpaint, readFile_join hleads (hslash chart hchart) (fileOf_ne_empty painter chart)
      hcontent hkeeps ((hsame _).trans hnode)⟩
  index := by
    have hname : '/' ∉ indexFile.toList ∧ indexFile ≠ "" := by decide
    have hpage := hfills.index hroom
    rw [hall] at hpage
    obtain ⟨content, hcontent⟩ := hroom
    exact readFile_join hleads hname.1 hname.2 hcontent hkeeps ((hsame _).trans hpage)

theorem Fills.node?_location {written : FileTree}
    (hfills : Fills painter directory title location made charts written)
    (hleads : made.Leads directory location) : written.node? location = some .directory := by
  have helsewhere (file : String) : location ≠ file :: location :=
    fun hat => List.cons_ne_self _ _ hat.symm
  rw [hfills.elsewhere location (fun chart _ => helsewhere _) fun _ => helsewhere _, hleads.node]

end Written

/-- A gallery that reports its files can be seen in every later state that has the same in its directory. -/
theorem exhibits_of_write {tree final : FileTree} {directory : String} {location : Location}
    (htarget : tree.target? directory = some location) {panels : Panels} {settings : Settings}
    {painter : Painter}
    (hslash : ∀ chart ∈ Chart.ofPanels settings panels, '/' ∉ (fileOf painter chart).toList)
    (hindex : ∀ chart ∈ Chart.ofPanels settings panels, fileOf painter chart ≠ indexFile)
    {written : List String}
    (hwrite : (write tree panels settings (some painter) directory).2 = .ok written)
    (hkeeps : Keeps tree final)
    (hsame : SameBelow location (write tree panels settings (some painter) directory).1 final) :
    written = files painter (Chart.ofPanels settings panels) ∧
      Exhibits painter directory settings.chartsTitle (Chart.ofPanels settings panels) final := by
  have hnofault : directoryFault? directory (tree.node? location) = none := by
    cases hfault : directoryFault? directory (tree.node? location) with
    | none => rfl
    | some fault =>
        rw [write, makeDirectories_eq_error htarget hfault] at hwrite
        cases hwrite
  obtain ⟨made, hmade, hputs, hwalk⟩ := makeDirectories_eq_ok htarget hnofault
  have hleads : made.Leads directory location := ⟨hwalk, hputs.node?_self⟩
  have haccounts := accounts_of_charts (by rw [hmade])
    (Chart.groups_ascending settings panels) hslash hindex
  have hwith : tree.withDirectory directory = made := by rw [FileTree.withDirectory, hmade]
  obtain ⟨place, hends, hfills⟩ := haccounts.filled
  have hanswered := haccounts.answered
  rw [hwith] at hends hfills hanswered
  cases hends.walk.symm.trans hwalk
  obtain ⟨hrefused, hroom⟩ := hanswered.complete.1 (by rw [hwrite]; rfl)
  have hall := hung_of_refusals painter directory made hrefused
  -- The directory is there for good, so the paths of the files lead where they led when it was made.
  have hthere : final.node? location = some .directory :=
    (hsame location (List.suffix_refl location)).symm.trans (hfills.node?_location hleads)
  constructor
  · rw [hanswered.files written hwrite, hall]
    rfl
  · exact hfills.exhibits hleads hslash haccounts.distinct.1 hall hroom
      (hputs.keeps_of_directory hkeeps hthere)
      fun file => (hsame _ (List.suffix_cons file location)).symm

end BenchReport.Gallery
