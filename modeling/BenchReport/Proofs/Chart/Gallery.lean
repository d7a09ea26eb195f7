import BenchReport.Chart.Gallery
import BenchReport.Proofs.Chart.Faithful
import BenchReport.Proofs.FileTree.MakeDirectory
import BenchReport.Proofs.Name

/-!
# A gallery stays in its directory

A group of benchmarks is a segment of a name, so it has no slash, and with an extension that has none either the file of a chart lies directly in the gallery's directory. Two trees that agree on that directory therefore get the same gallery: chart by chart the same success or the same error, the same index, and nothing changed elsewhere.
-/

namespace BenchReport

open FileTree

/-! ### Groups -/

namespace Chart

theorem group_mem_keys {settings : Settings} {panels : Panels} {chart : Chart}
    (h : chart ∈ ofPanels settings panels) : chart.group ∈ panels.keys := by
  obtain ⟨entry, hentry, hchart⟩ := List.mem_filterMap.1 h
  rw [group_ofPanel? hchart]
  exact List.mem_map_of_mem hentry

theorem slash_not_mem_group {settings : Settings} {results : Results}
    {restriction : Option (SortedSet String)} :
    ∀ chart ∈ ofPanels settings (.ofResults results restriction), '/' ∉ chart.group.toList := by
  intro chart h
  obtain ⟨name, _, hname⟩ := (Panels.mem_keys_ofResults _ _).1 (group_mem_keys h)
  rw [← hname]
  exact (NameParts.slashFree_ofName name).group

end Chart

/-! ### One chart -/

namespace Gallery

theorem fileOf_ne_empty (painter : Painter) (chart : Chart) : fileOf painter chart ≠ "" := by
  rw [fileOf]
  intro h
  have hlist := congrArg String.toList h
  simp at hlist

theorem slash_not_mem_fileOf {painter : Painter} {chart : Chart}
    (hpainter : '/' ∉ painter.extension.toList) (hchart : '/' ∉ chart.group.toList) :
    '/' ∉ (fileOf painter chart).toList := by
  simp [fileOf, hpainter, hchart]

/-- A file written in a directory that two trees agree on. -/
theorem writeFile_join_parallel {left right : FileTree} {directory file : String}
    {location : Location} (hleft : left.Leads directory location)
    (hright : right.Leads directory location) (hsame : SameBelow location left right)
    (hslash : '/' ∉ file.toList) (hfile : file ≠ "") (content : FileContent) :
    (∃ fault, left.writeFile (Path.join directory file) content = .error fault ∧
      right.writeFile (Path.join directory file) content = .error fault) ∨
    ∃ left' right', left.writeFile (Path.join directory file) content = .ok left' ∧
      right.writeFile (Path.join directory file) content = .ok right' ∧
      Parallel location left right left' right' := by
  refine writeFile_parallel (hleft.target?_join hslash hfile) (hright.target?_join hslash hfile)
    hsame ?_ (fun hfault => ?_) content
  · rw [placeIn]
    split
    · rw [hleft.node, hright.node]
    · split
      · rw [node?_tail hleft.node, node?_tail hright.node]
      · exact hsame _ (List.suffix_cons file location)
  · obtain ⟨name, hlast, hplace⟩ := placeIn_of_writeFault? hfault location
    rw [Path.steps_join hslash hfile, List.getLast?_concat] at hplace
    rw [hplace]
    exact List.suffix_cons name location

theorem hang_parallel {left right : FileTree} {directory : String} {location : Location}
    (hleft : left.Leads directory location) (hright : right.Leads directory location)
    (hsame : SameBelow location left right) {painter : Painter} {chart : Chart}
    (hpainter : '/' ∉ painter.extension.toList) (hchart : '/' ∉ chart.group.toList) :
    (∃ error, hang painter directory left chart = .error error ∧
      hang painter directory right chart = .error error) ∨
    ∃ left' right', hang painter directory left chart = .ok left' ∧
      hang painter directory right chart = .ok right' ∧ Parallel location left right left' right' := by
  simp only [hang, bind, Except.bind]
  cases painter.paint chart with
  | error error => exact .inl ⟨error, rfl, rfl⟩
  | ok image =>
      rcases writeFile_join_parallel hleft hright hsame (slash_not_mem_fileOf hpainter hchart)
          (fileOf_ne_empty painter chart) image with ⟨fault, h, h'⟩ | ⟨left', right', h, h', hparallel⟩
      · simp only [h, h']
        exact .inl ⟨_, rfl, rfl⟩
      · simp only [h, h']
        exact .inr ⟨left', right', rfl, rfl, hparallel⟩

/-! ### All charts -/

/-- Two galleries in progress with the same record of what was written and what failed. -/
structure Alike (location : Location) (left right : FileTree) (leftEnd rightEnd : Progress) : Prop where
  written : leftEnd.written = rightEnd.written
  failed : leftEnd.failed = rightEnd.failed
  parallel : Parallel location left right leftEnd.tree rightEnd.tree

theorem step_alike {left right : FileTree} {directory : String} {location : Location}
    (hleft : left.Leads directory location) (hright : right.Leads directory location)
    {painter : Painter} {chart : Chart} (hpainter : '/' ∉ painter.extension.toList)
    (hchart : '/' ∉ chart.group.toList) {leftSoFar rightSoFar : Progress}
    (h : Alike location left right leftSoFar rightSoFar) :
    Alike location left right (step painter directory leftSoFar chart)
      (step painter directory rightSoFar chart) := by
  rw [step, step]
  rcases hang_parallel (hleft.keeps h.parallel.left.toKeeps) (hright.keeps h.parallel.right.toKeeps)
      h.parallel.same hpainter hchart with ⟨error, he, he'⟩ | ⟨left', right', hok, hok', hparallel⟩
  · rw [he, he']
    exact ⟨h.written, by simp only [h.failed], h.parallel⟩
  · rw [hok, hok']
    exact ⟨by simp only [h.written], h.failed, h.parallel.trans hparallel⟩

theorem hangAll_alike (charts : List Chart) {left right : FileTree} {directory : String}
    {location : Location}
    (hleft : left.Leads directory location) (hright : right.Leads directory location)
    (hsame : SameBelow location left right) {painter : Painter}
    (hpainter : '/' ∉ painter.extension.toList)
    (hcharts : ∀ chart ∈ charts, '/' ∉ chart.group.toList) :
    Alike location left right (hangAll painter directory left charts)
      (hangAll painter directory right charts) := by
  -- The induction starts from any progress that the two galleries have made so far.
  have hfold (rest : List Chart) (hrest : ∀ chart ∈ rest, '/' ∉ chart.group.toList)
      (leftSoFar rightSoFar : Progress) (h : Alike location left right leftSoFar rightSoFar) :
      Alike location left right (rest.foldl (step painter directory) leftSoFar)
        (rest.foldl (step painter directory) rightSoFar) := by
    induction rest generalizing leftSoFar rightSoFar with
    | nil => exact h
    | cons chart rest ih =>
        rw [List.forall_mem_cons] at hrest
        exact ih hrest.2 _ _ (step_alike hleft hright hpainter hrest.1 h)
  exact hfold charts hcharts _ _ ⟨rfl, rfl, Parallel.refl hsame⟩

/-! ### The whole gallery -/

theorem close_parallel {left right : FileTree} {directory : String} {location : Location}
    (hleft : left.Leads directory location) (hright : right.Leads directory location)
    {leftEnd rightEnd : Progress} (h : Alike location left right leftEnd rightEnd) (title : String) :
    (close directory title leftEnd).2 = (close directory title rightEnd).2 ∧
      Parallel location left right (close directory title leftEnd).1
        (close directory title rightEnd).1 := by
  have hindex : '/' ∉ indexFile.toList ∧ indexFile ≠ "" := by decide
  rw [close, close, h.written]
  rcases writeFile_join_parallel (hleft.keeps h.parallel.left.toKeeps)
      (hright.keeps h.parallel.right.toKeeps) h.parallel.same hindex.1 hindex.2
      (.text (IndexPage.page rightEnd.written title)) with
    ⟨fault, he, he'⟩ | ⟨left', right', hok, hok', hparallel⟩
  · rw [he, he']
    exact ⟨rfl, h.parallel⟩
  · rw [hok, hok']
    refine ⟨?_, h.parallel.trans hparallel⟩
    rw [outcome, outcome, h.failed, h.written]

/-- The same gallery is written into two trees that agree on its directory, and nothing else. -/
theorem write_parallel {left right : FileTree} {directory : String} {location : Location}
    (hleft : left.target? directory = some location)
    (hright : right.target? directory = some location) (hsame : SameBelow location left right)
    (results : Results) (restriction : Option (SortedSet String)) (settings : Settings)
    {painter : Option Painter} (hpainter : ∀ one ∈ painter, '/' ∉ one.extension.toList) :
    (write left (.ofResults results restriction) settings painter directory).2 =
        (write right (.ofResults results restriction) settings painter directory).2 ∧
      Parallel location left right
        (write left (.ofResults results restriction) settings painter directory).1
        (write right (.ofResults results restriction) settings painter directory).1 := by
  have hthere := hsame location (List.suffix_refl location)
  cases painter with
  | none => exact ⟨rfl, Parallel.refl hsame⟩
  | some painter =>
      rw [write, write]
      cases hfault : directoryFault? directory (left.node? location) with
      | some fault =>
          rw [makeDirectories_eq_error hleft hfault,
            makeDirectories_eq_error hright (hthere ▸ hfault)]
          exact ⟨rfl, Parallel.refl hsame⟩
      | none =>
          obtain ⟨made, hmade, hputs, hwalk⟩ := makeDirectories_eq_ok hleft hfault
          obtain ⟨made', hmade', hputs', hwalk'⟩ := makeDirectories_eq_ok hright (hthere ▸ hfault)
          have hmaking : Parallel location left right made made' :=
            ⟨hputs.confined fun _ => rfl, hputs'.confined fun _ => rfl,
              hputs.sameBelow hputs' hsame⟩
          have hleads : made.Leads directory location := ⟨hwalk, hputs.node?_self⟩
          have hleads' : made'.Leads directory location := ⟨hwalk', hputs'.node?_self⟩
          have hcharts := hangAll_alike (Chart.ofPanels settings (.ofResults results restriction))
            hleads hleads' hmaking.same (hpainter painter rfl) Chart.slash_not_mem_group
          have hclose := close_parallel hleads hleads' hcharts settings.chartsTitle
          rw [hmade, hmade']
          exact ⟨hclose.1, hmaking.trans hclose.2⟩

end Gallery

end BenchReport
