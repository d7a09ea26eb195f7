import BenchReport.FileTree.Change
import BenchReport.Proofs.Chart.Gallery
import BenchReport.Proofs.Chart.IndexPage
import BenchReport.Proofs.FileTree.NewDirectories
import BenchReport.Settings.Preset

/-!
# Every chart is tried once

Groups are distinct and have no slash, so with an extension that has none either no two charts share a file, and unless a group `index` meets the extension `html`, none of them is the index. A chart therefore finds its place in the directory as it was when the directory was made, whatever became of the charts before it. The run is the list of these single attempts: it writes the files of those that succeed, in order, it reports the others, and it changes nothing else.
-/

namespace BenchReport

open FileTree

/-! ### One chart per group -/

namespace Chart

theorem groups_ascending (settings : Settings) (panels : Panels) :
    ((ofPanels settings panels).map Chart.group).Pairwise (· < ·) := by
  rw [List.pairwise_map, ofPanels]
  refine List.Pairwise.filterMap _ (R := fun one other => one.1 < other.1) ?_ panels.ascending
  intro one other hlt chart hchart later hlater
  rw [group_ofPanel? hchart, group_ofPanel? hlater]
  exact hlt

theorem mem_groups_iff {settings : Settings} {results : Results}
    {restriction : Option (SortedSet String)} {group : String} :
    group ∈ (ofPanels settings (.ofResults results restriction)).map Chart.group ↔
      ∃ name ∈ Panels.keptNames results restriction, (NameParts.ofName name).group = group := by
  refine Iff.trans ?_ (Panels.mem_keys_ofResults results restriction)
  rw [List.mem_map]
  constructor
  · intro h
    obtain ⟨chart, hchart, hgroup⟩ := h
    exact hgroup ▸ group_mem_keys hchart
  · intro h
    rw [SortedMap.mem_keys] at h
    obtain ⟨panel, hpanel⟩ := Option.isSome_iff_exists.1 h
    obtain ⟨chart, hchart, _⟩ := ofPanel?_shows settings hpanel
    exact ⟨chart, List.mem_filterMap.2 ⟨_, SortedMap.mem_entries.2 hpanel, hchart⟩,
      group_ofPanel? hchart⟩

end Chart

namespace Gallery

/-! ### Single attempts -/

section Hang

variable {painter : Painter} {directory : String} {tree : FileTree} {chart : Chart}

theorem hang_unpainted {error : ReportError} (h : painter.paint chart = .error error) :
    hang painter directory tree chart = .error error := by
  simp only [hang, h, bind, Except.bind]

theorem hang_painted {image : FileContent} (h : painter.paint chart = .ok image) :
    hang painter directory tree chart =
      (tree.writeFile (Path.join directory (fileOf painter chart)) image).mapError
        (.chartUnwritable (fileOf painter chart)) := by
  simp only [hang, h, bind, Except.bind]

/-- A chart is hung if it can be painted and its image can be written. -/
theorem isOk_hang_iff : (hang painter directory tree chart).isOk = true ↔
    ∃ image, painter.paint chart = .ok image ∧
      (tree.writeFile (Path.join directory (fileOf painter chart)) image).isOk = true := by
  cases hpaint : painter.paint chart with
  | error error =>
      rw [hang_unpainted hpaint]
      simp [Except.isOk, Except.toBool]
  | ok image =>
      rw [hang_painted hpaint]
      simp only [Except.ok.injEq, exists_eq_left']
      cases tree.writeFile (Path.join directory (fileOf painter chart)) image <;> rfl

end Hang

/-- The charts that can be hung, each by itself. -/
def hung (painter : Painter) (directory : String) (tree : FileTree) (charts : List Chart) :
    List Chart :=
  charts.filter fun chart => (hang painter directory tree chart).isOk

/-- The group and the error of a chart that cannot be hung. -/
def refusal? (painter : Painter) (directory : String) (tree : FileTree) (chart : Chart) :
    Option (String × ReportError) :=
  match hang painter directory tree chart with
  | .ok _ => none
  | .error error => some (chart.group, error)

def refusals (painter : Painter) (directory : String) (tree : FileTree) (charts : List Chart) :
    List (String × ReportError) :=
  charts.filterMap (refusal? painter directory tree)

/-- The index can be written. -/
def HasRoomForIndex (directory : String) (tree : FileTree) : Prop :=
  ∃ content, (tree.writeFile (Path.join directory indexFile) content).isOk = true

/-! ### Distinct files -/

theorem fileOf_inj {painter : Painter} {chart other : Chart}
    (h : fileOf painter chart = fileOf painter other) : chart.group = other.group := by
  have hchars := congrArg String.toList h
  simp only [fileOf, String.toList_append] at hchars
  exact String.toList_inj.1 (List.append_cancel_right (List.append_cancel_right hchars))

/-- Only a group `index` with the extension `html` has the file of the index. -/
theorem fileOf_ne_indexFile {painter : Painter} {chart : Chart}
    (h : chart.group ≠ "index" ∨ painter.extension ≠ "html") : fileOf painter chart ≠ indexFile := by
  intro hfile
  have hparts : chart.group ++ String.singleton '.' ++ painter.extension =
      "index" ++ String.singleton '.' ++ "html" := hfile
  have hindex : '.' ∉ "index".toList := by decide
  have hhtml : '.' ∉ "html".toList := by decide
  obtain ⟨hgroup, hextension⟩ := (Text.pair_inj hindex hhtml).1 hparts
  exact h.elim (· hgroup) (· hextension)

theorem nodup_files {painter : Painter} {charts : List Chart}
    (hgroups : (charts.map Chart.group).Pairwise (· < ·))
    (hindex : ∀ chart ∈ charts, fileOf painter chart ≠ indexFile) :
    (indexFile :: charts.map (fileOf painter)).Nodup := by
  refine List.nodup_cons.2 ⟨?_, ?_⟩
  · intro h
    obtain ⟨chart, hchart, hfile⟩ := List.mem_map.1 h
    exact hindex chart hchart hfile
  · rw [List.pairwise_map] at hgroups
    refine List.pairwise_map.2 (hgroups.imp ?_)
    intro chart other hlt hfile
    rw [fileOf_inj hfile] at hlt
    exact Std.lt_irrefl hlt

/-! ### One file -/

/-- How a write into a directory goes: now as when the directory was made, whatever is written. -/
inductive Fate (directory file : String) (location : Location) (made now : FileTree) : Prop where
  | fails (fault : FileFault)
    (h : ∀ content, made.writeFile (Path.join directory file) content = .error fault ∧
      now.writeFile (Path.join directory file) content = .error fault)
  | succeeds (hdots : ¬(file = "." ∨ file = ".."))
    (h : ∀ content, (∃ first, made.writeFile (Path.join directory file) content = .ok first) ∧
      ∃ after, now.writeFile (Path.join directory file) content = .ok after ∧
        Puts (file :: location) (.file content) now after ∧ Keeps now after)

section File

variable {directory file : String} {location : Location} {made now : FileTree}

theorem fate_of_leads (hleads : made.Leads directory location) (hslash : '/' ∉ file.toList)
    (hfile : file ≠ "") (hkeeps : Keeps made now)
    (hsame : now.node? (file :: location) = made.node? (file :: location)) :
    Fate directory file location made now := by
  have htarget := hleads.target?_join hslash hfile
  have htarget' := (hleads.keeps hkeeps).target?_join hslash hfile
  by_cases hdots : file = "." ∨ file = ".."
  · have hlast : (Path.steps (Path.join directory file)).getLast? = some file := by
      rw [Path.steps_join hslash hfile, List.getLast?_concat]
    obtain ⟨fault, hfault⟩ := writeFault?_of_dots hlast hdots
    exact .fails fault fun content => ⟨writeFile_eq_error htarget content (hfault _),
      writeFile_eq_error htarget' content (hfault _)⟩
  · rw [placeIn_name hdots] at htarget htarget'
    cases hfault : writeFault? (Path.join directory file) (made.node? (file :: location)) with
    | some fault =>
        exact .fails fault fun content => ⟨writeFile_eq_error htarget content hfault,
          writeFile_eq_error htarget' content (hsame ▸ hfault)⟩
    | none =>
        refine .succeeds hdots fun content => ?_
        obtain ⟨first, hwrite, _⟩ := writeFile_eq_ok htarget content hfault
        obtain ⟨after, hwrite', hputs⟩ := writeFile_eq_ok htarget' content (hsame ▸ hfault)
        obtain ⟨_, _, _, _, _, hfree⟩ := getLast?_of_writeFault? hfault
        refine ⟨⟨first, hwrite⟩, after, hwrite', hputs, (hputs.confined fun hthere => ?_).toKeeps⟩
        exact absurd (hsame.symm.trans hthere) hfree

/-- Nothing can be written where the working directory is none. -/
theorem writeFile_of_no_home (tree : FileTree) (hslash : '/' ∉ file.toList) (hfile : file ≠ "")
    (hhome : tree.node? tree.home ≠ some .directory) (content : FileContent) :
    tree.writeFile (Path.join "" file) content =
      (checkText (Path.join "" file)).bind fun _ => .error .notADirectory := by
  have hstart : tree.start (Path.join "" file) = tree.home := by
    rw [start, Path.isAbsolute_join hslash]
    rfl
  have hwalk : tree.walk tree.home (Path.steps (Path.join "" file)).dropLast = .ok tree.home := by
    rw [Path.steps_join hslash hfile, List.dropLast_concat]
    rfl
  rw [writeFile, locateLast, hstart]
  cases checkText (Path.join "" file) with
  | error fault => rfl
  | ok _ => simp only [bind, Except.bind, hwalk, if_neg hhome]

theorem fate_of_ends (hends : made.Ends directory location) (hslash : '/' ∉ file.toList)
    (hfile : file ≠ "") (hkeeps : Keeps made now) (hnode : now.node? location = made.node? location)
    (hsame : now.node? (file :: location) = made.node? (file :: location)) :
    Fate directory file location made now := by
  by_cases hopen : made.node? location = some .directory
  · exact fate_of_leads ⟨hends.walk, hopen⟩ hslash hfile hkeeps hsame
  · have hdirectory : directory = "" := Classical.byContradiction fun hne => hopen (hends.node hne)
    subst hdirectory
    have hhome : made.home = location := Except.ok.inj hends.walk
    subst hhome
    have hmade := writeFile_of_no_home made hslash hfile hopen
    have hnow := writeFile_of_no_home now hslash hfile (by rwa [hkeeps.home, hnode])
    cases htext : checkText (Path.join "" file) with
    | error fault =>
        rw [htext] at hmade hnow
        exact .fails fault fun content => ⟨hmade content, hnow content⟩
    | ok _ =>
        rw [htext] at hmade hnow
        exact .fails .notADirectory fun content => ⟨hmade content, hnow content⟩

end File

/-! ### One chart -/

/-- A chart fares as it did when the directory was made, if its file does. -/
theorem hang_cases {painter : Painter} {directory : String} {location : Location}
    {made now : FileTree} {chart : Chart}
    (hfate : Fate directory (fileOf painter chart) location made now) :
    (∃ error, hang painter directory made chart = .error error ∧
      hang painter directory now chart = .error error) ∨
    (hang painter directory made chart).isOk = true ∧
      ¬(fileOf painter chart = "." ∨ fileOf painter chart = "..") ∧
      ∃ image after, painter.paint chart = .ok image ∧
        hang painter directory now chart = .ok after ∧
        Puts (fileOf painter chart :: location) (.file image) now after ∧ Keeps now after := by
  simp only [hang, bind, Except.bind]
  cases painter.paint chart with
  | error error => exact .inl ⟨error, rfl, rfl⟩
  | ok image =>
      cases hfate with
      | fails fault h =>
          simp only [(h image).1, (h image).2]
          exact .inl ⟨_, rfl, rfl⟩
      | succeeds hdots h =>
          obtain ⟨⟨first, hfirst⟩, after, hnow, hputs, hkept⟩ := h image
          simp only [hfirst, hnow]
          exact .inr ⟨rfl, hdots, image, after, rfl, rfl, hputs, hkept⟩

/-! ### The run over all charts -/

/-- Progress that is told by single attempts: what was written, what failed, and what is where. -/
structure Records (painter : Painter) (directory : String) (location : Location) (made : FileTree)
    (charts : List Chart) (progress : Progress) : Prop where
  written : progress.written = (hung painter directory made charts).map (fileOf painter)
  failed : progress.failed = refusals painter directory made charts
  keeps : Keeps made progress.tree
  images : ∀ chart ∈ hung painter directory made charts, ∃ image, painter.paint chart = .ok image ∧
    ¬(fileOf painter chart = "." ∨ fileOf painter chart = "..") ∧
    progress.tree.node? (fileOf painter chart :: location) = some (.file image)
  elsewhere : ∀ place,
    (∀ chart ∈ hung painter directory made charts, place ≠ fileOf painter chart :: location) →
      progress.tree.node? place = made.node? place

section Run

variable {painter : Painter} {directory : String} {location : Location} {made : FileTree}

theorem records_start : Records painter directory location made [] ⟨made, [], []⟩ where
  written := rfl
  failed := rfl
  keeps := Keeps.refl made
  images := by simp [hung]
  elsewhere _ _ := rfl

theorem hung_concat_of_error (charts : List Chart) {chart : Chart} {error : ReportError}
    (h : hang painter directory made chart = .error error) :
    hung painter directory made (charts ++ [chart]) = hung painter directory made charts ∧
      refusals painter directory made (charts ++ [chart]) =
        refusals painter directory made charts ++ [(chart.group, error)] := by
  simp [hung, refusals, refusal?, h, Except.isOk, Except.toBool]

theorem hung_concat_of_isOk (charts : List Chart) {chart : Chart}
    (h : (hang painter directory made chart).isOk = true) :
    hung painter directory made (charts ++ [chart]) = hung painter directory made charts ++ [chart] ∧
      refusals painter directory made (charts ++ [chart]) =
        refusals painter directory made charts := by
  have hnone : refusal? painter directory made chart = none := by
    rw [refusal?]
    cases hresult : hang painter directory made chart with
    | error error =>
        rw [hresult] at h
        cases h
    | ok _ => rfl
  simp [hung, refusals, hnone, h]

theorem mem_of_mem_hung {charts : List Chart} {chart : Chart}
    (h : chart ∈ hung painter directory made charts) : chart ∈ charts :=
  List.mem_of_mem_filter h

/-- Progress does not touch the directory itself. -/
theorem Records.node?_location {charts : List Chart} {progress : Progress}
    (h : Records painter directory location made charts progress) :
    progress.tree.node? location = made.node? location := by
  apply h.elsewhere
  intro chart _ hplace
  have hlength := congrArg List.length hplace
  rw [List.length_cons] at hlength
  omega

/-- A file that is none of those written so far fares as when the directory was made. -/
theorem Records.fate (hends : made.Ends directory location) {charts : List Chart}
    {progress : Progress} (h : Records painter directory location made charts progress) {file : String}
    (hslash : '/' ∉ file.toList) (hfile : file ≠ "")
    (hfresh : ∀ other ∈ charts, file ≠ fileOf painter other) :
    Fate directory file location made progress.tree := by
  refine fate_of_ends hends hslash hfile h.keeps h.node?_location ?_
  apply h.elsewhere
  intro other hother hplace
  exact hfresh other (mem_of_mem_hung hother) (List.cons.inj hplace).1

/-- One more attempt, on a chart whose file is none of those before. -/
theorem Records.step (hends : made.Ends directory location) {charts : List Chart} {chart : Chart}
    {progress : Progress} (h : Records painter directory location made charts progress)
    (hslash : '/' ∉ (fileOf painter chart).toList)
    (hfresh : ∀ other ∈ charts, fileOf painter chart ≠ fileOf painter other) :
    Records painter directory location made (charts ++ [chart])
      (Gallery.step painter directory progress chart) := by
  rw [Gallery.step]
  rcases hang_cases (h.fate hends hslash (fileOf_ne_empty painter chart) hfresh) with
    ⟨error, hmade, hnow⟩ | ⟨hmade, hdots, image, after, hpaint, hnow, hputs, hkept⟩
  · obtain ⟨hhung, hrefused⟩ := hung_concat_of_error charts hmade
    rw [hnow]
    refine ⟨?_, ?_, h.keeps, ?_, ?_⟩
    · rw [hhung]
      exact h.written
    · rw [hrefused, ← h.failed]
    · rw [hhung]
      exact h.images
    · rw [hhung]
      exact h.elsewhere
  · obtain ⟨hhung, hrefused⟩ := hung_concat_of_isOk charts hmade
    rw [hnow]
    refine ⟨?_, ?_, h.keeps.trans hkept, ?_, ?_⟩
    · rw [hhung, List.map_append, ← h.written]
      rfl
    · rw [hrefused]
      exact h.failed
    · rw [hhung, List.forall_mem_append, List.forall_mem_singleton]
      refine ⟨fun other hother => ?_, image, hpaint, hdots, hputs.node?_self⟩
      obtain ⟨otherImage, hotherPaint, hotherDots, hnode⟩ := h.images other hother
      refine ⟨otherImage, hotherPaint, hotherDots, ?_⟩
      rw [hputs.node?_eq, if_neg]
      · exact hnode
      · intro hplace
        exact hfresh other (mem_of_mem_hung hother) (List.cons.inj hplace).1.symm
    · intro place hplace
      rw [hhung, List.forall_mem_append, List.forall_mem_singleton] at hplace
      rw [hputs.node?_eq, if_neg hplace.2]
      exact h.elsewhere place hplace.1

theorem hangAll_records (hends : made.Ends directory location) {charts : List Chart}
    (hslash : ∀ chart ∈ charts, '/' ∉ (fileOf painter chart).toList)
    (hdistinct : (charts.map (fileOf painter)).Nodup) :
    Records painter directory location made charts (hangAll painter directory made charts) := by
  -- The induction is on the charts that are left; those before them are on record.
  have hfold (rest before : List Chart) (progress : Progress)
      (h : Records painter directory location made before progress)
      (hrest : ∀ chart ∈ rest, '/' ∉ (fileOf painter chart).toList)
      (hnodup : ((before ++ rest).map (fileOf painter)).Nodup) :
      Records painter directory location made (before ++ rest)
        (rest.foldl (Gallery.step painter directory) progress) := by
    induction rest generalizing before progress with
    | nil =>
        rw [List.append_nil]
        exact h
    | cons chart rest ih =>
        rw [List.forall_mem_cons] at hrest
        have hfresh : ∀ other ∈ before, fileOf painter chart ≠ fileOf painter other := by
          intro other hother hfile
          rw [List.map_append, List.nodup_append] at hnodup
          exact hnodup.2.2 _ (List.mem_map_of_mem hother) _
            (List.mem_map_of_mem List.mem_cons_self) hfile.symm
        rw [List.append_cons] at hnodup ⊢
        exact ih _ _ (h.step hends hrest.1 hfresh) hrest.2 hnodup
  exact hfold charts [] _ records_start hslash hdistinct

end Run

/-! ### Each chart once -/

/-- Charts are tried one after the other, each once. It is hung if it can be painted and its image can be written, and refused with the first error otherwise. -/
inductive Tried (painter : Painter) (directory : String) (made : FileTree) :
    List Chart → List Chart → List (String × ReportError) → Prop
  | done : Tried painter directory made [] [] []
  | hung {chart : Chart} {rest hung : List Chart} {refused : List (String × ReportError)}
      {image : FileContent} (hpaint : painter.paint chart = .ok image)
      (hwrite : (made.writeFile (Path.join directory (fileOf painter chart)) image).isOk = true)
      (hrest : Tried painter directory made rest hung refused) :
      Tried painter directory made (chart :: rest) (chart :: hung) refused
  | unpainted {chart : Chart} {rest hung : List Chart} {refused : List (String × ReportError)}
      {error : ReportError} (hpaint : painter.paint chart = .error error)
      (hrest : Tried painter directory made rest hung refused) :
      Tried painter directory made (chart :: rest) hung ((chart.group, error) :: refused)
  | unwritten {chart : Chart} {rest hung : List Chart} {refused : List (String × ReportError)}
      {image : FileContent} {fault : FileFault} (hpaint : painter.paint chart = .ok image)
      (hwrite : made.writeFile (Path.join directory (fileOf painter chart)) image = .error fault)
      (hrest : Tried painter directory made rest hung refused) :
      Tried painter directory made (chart :: rest) hung
        ((chart.group, .chartUnwritable (fileOf painter chart) fault) :: refused)

theorem Tried.length_eq {painter : Painter} {directory : String} {made : FileTree}
    {charts hung : List Chart} {refused : List (String × ReportError)}
    (h : Tried painter directory made charts hung refused) :
    hung.length + refused.length = charts.length := by
  induction h with
  | done => rfl
  | hung _ _ _ ih =>
      simp only [List.length_cons]
      omega
  | unpainted _ _ ih =>
      simp only [List.length_cons]
      omega
  | unwritten _ _ _ ih =>
      simp only [List.length_cons]
      omega

section Once

variable (painter : Painter) (directory : String) (made : FileTree)

theorem hung_cons (chart : Chart) (rest : List Chart) :
    hung painter directory made (chart :: rest) =
      if (hang painter directory made chart).isOk then chart :: hung painter directory made rest
      else hung painter directory made rest :=
  List.filter_cons

theorem refusals_cons (chart : Chart) (rest : List Chart) :
    refusals painter directory made (chart :: rest) =
      (refusal? painter directory made chart).toList ++ refusals painter directory made rest := by
  rw [refusals, List.filterMap_cons]
  cases refusal? painter directory made chart <;> rfl

theorem tried_hung (charts : List Chart) :
    Tried painter directory made charts (hung painter directory made charts)
      (refusals painter directory made charts) := by
  induction charts with
  | nil => exact .done
  | cons chart rest ih =>
      rw [hung_cons, refusals_cons, refusal?]
      cases hpaint : painter.paint chart with
      | error error =>
          rw [hang_unpainted hpaint]
          exact .unpainted hpaint ih
      | ok image =>
          rw [hang_painted hpaint]
          cases hwrite : made.writeFile (Path.join directory (fileOf painter chart)) image with
          | error fault => exact .unwritten hpaint hwrite ih
          | ok after => exact .hung hpaint (by rw [hwrite]; rfl) ih

/-- If none is refused, all are hung. -/
theorem hung_of_refusals {charts : List Chart} (h : refusals painter directory made charts = []) :
    hung painter directory made charts = charts := by
  refine List.Sublist.eq_of_length List.filter_sublist ?_
  have hlength := (tried_hung painter directory made charts).length_eq
  rwa [h, List.length_nil, Nat.add_zero] at hlength

end Once

/-! ### The index -/

/-- What is in the directory at the end: the images of the charts that can be hung, the index if there is room for it, and nothing else that is new. -/
structure Fills (painter : Painter) (directory title : String) (location : Location)
    (made : FileTree) (charts : List Chart) (final : FileTree) : Prop where
  images : ∀ chart ∈ hung painter directory made charts, ∃ image, painter.paint chart = .ok image ∧
    ¬(fileOf painter chart = "." ∨ fileOf painter chart = "..") ∧
    final.node? (fileOf painter chart :: location) = some (.file image)
  index : HasRoomForIndex directory made → final.node? (indexFile :: location) =
    some (.file (.text (IndexPage.page ((hung painter directory made charts).map (fileOf painter)) title)))
  elsewhere : ∀ place,
    (∀ chart ∈ hung painter directory made charts, place ≠ fileOf painter chart :: location) →
    (HasRoomForIndex directory made → place ≠ indexFile :: location) →
      final.node? place = made.node? place

/-- What is answered: the files, or how many charts failed and which was the first, or that there is no index. -/
structure Answers (painter : Painter) (directory : String) (made : FileTree) (charts : List Chart)
    (answer : Except ReportError (List String)) : Prop where
  complete : answer.isOk = true ↔
    refusals painter directory made charts = [] ∧ HasRoomForIndex directory made
  files : ∀ files, answer = .ok files →
    files = (hung painter directory made charts).map (fileOf painter) ++ [indexFile]
  failures : HasRoomForIndex directory made → ∀ group first rest,
    refusals painter directory made charts = (group, first) :: rest →
      ∃ error, answer = .error error ∧ error.kind = .render ∧ ∀ phrases, error.detail phrases =
        toString (refusals painter directory made charts).length ++ " of " ++
          toString charts.length ++ " charts failed, first " ++ group ++ ": " ++ first.message phrases
  indexless : ¬HasRoomForIndex directory made → ∃ fault, answer = .error (.indexUnwritable fault)

theorem detail_chartsFailed (failed attempted : Nat) (group : String) (first : ReportError)
    (phrases : Phrases) :
    (ReportError.chartsFailed failed attempted group first).detail phrases =
      toString failed ++ " of " ++ toString attempted ++ " charts failed, first " ++ group ++ ": " ++
        first.message phrases := by
  conv => lhs; unfold ReportError.detail
  exact String.append_assoc ..

section Index

variable {painter : Painter} {directory : String} {location : Location} {made : FileTree}
  {charts : List Chart} {progress : Progress}
  (h : Records painter directory location made charts progress)

include h

theorem Records.answers_outcome (hroom : HasRoomForIndex directory made) :
    Answers painter directory made charts (outcome progress) := by
  have hcount := (tried_hung painter directory made charts).length_eq
  rw [outcome, h.failed, h.written]
  cases hrefused : refusals painter directory made charts with
  | nil =>
      refine ⟨⟨fun _ => ⟨hrefused, hroom⟩, fun _ => rfl⟩, fun files hfiles => ?_, ?_, ?_⟩
      · exact (Except.ok.inj hfiles).symm
      · intro _ group first rest hsome
        rw [hrefused] at hsome
        cases hsome
      · exact fun hnone => absurd hroom hnone
  | cons refusal others =>
      obtain ⟨group, first⟩ := refusal
      rw [hrefused, List.length_cons] at hcount
      refine ⟨⟨fun hok => (by cases hok), fun hall => ?_⟩, fun _ hfiles => (by cases hfiles), ?_, ?_⟩
      · rw [hrefused] at hall
        cases hall.1
      · intro _ group' first' rest hsome
        rw [hrefused] at hsome ⊢
        cases hsome
        refine ⟨.chartsFailed (others.length + 1) charts.length group first, ?_, rfl,
          detail_chartsFailed _ _ _ _⟩
        simp only [List.length_map, hcount]
      · exact fun hnone => absurd hroom hnone

omit h in
theorem answers_indexless (hroom : ¬HasRoomForIndex directory made) (fault : FileFault) :
    Answers painter directory made charts (.error (.indexUnwritable fault)) where
  complete := ⟨fun hok => (by cases hok), fun hall => absurd hall.2 hroom⟩
  files _ hfiles := by cases hfiles
  failures hthere := absurd hthere hroom
  indexless _ := ⟨fault, rfl⟩

/-- The index is written behind the charts if it could have been written before them. -/
theorem Records.close (hends : made.Ends directory location)
    (hindex : ∀ chart ∈ charts, fileOf painter chart ≠ indexFile) (title : String) :
    Fills painter directory title location made charts (Gallery.close directory title progress).1 ∧
      Answers painter directory made charts (Gallery.close directory title progress).2 := by
  have hname : '/' ∉ indexFile.toList ∧ indexFile ≠ "" := by decide
  rw [Gallery.close]
  cases h.fate hends hname.1 hname.2 fun chart hchart => (hindex chart hchart).symm with
  | fails fault hfails =>
      have hroom : ¬HasRoomForIndex directory made := by
        intro hroom
        obtain ⟨content, hok⟩ := hroom
        rw [(hfails content).1] at hok
        cases hok
      rw [(hfails _).2]
      refine ⟨⟨h.images, fun hthere => absurd hthere hroom, fun place hplace _ => ?_⟩, ?_⟩
      · exact h.elsewhere place hplace
      · exact answers_indexless hroom fault
  | succeeds hdots hsucceeds =>
      obtain ⟨⟨first, hfirst⟩, after, hnow, hputs, _⟩ :=
        hsucceeds (.text (IndexPage.page progress.written title))
      have hroom : HasRoomForIndex directory made := ⟨_, by rw [hfirst]; rfl⟩
      rw [hnow]
      refine ⟨⟨fun chart hchart => ?_, fun _ => ?_, fun place hplace hlast => ?_⟩, ?_⟩
      · obtain ⟨image, hpaint, hfile, hnode⟩ := h.images chart hchart
        refine ⟨image, hpaint, hfile, ?_⟩
        rw [hputs.node?_eq, if_neg]
        · exact hnode
        · intro hplace
          exact hindex chart (mem_of_mem_hung hchart) (List.cons.inj hplace).1
      · rw [← h.written]
        exact hputs.node?_self
      · rw [hputs.node?_eq, if_neg (hlast hroom)]
        exact h.elsewhere place hplace
      · exact h.answers_outcome hroom

end Index

/-! ### The whole gallery -/

/-- What a gallery owes to charts that have files of their own, once there is a directory for them. -/
structure Accounts (painter : Painter) (directory title : String) (tree : FileTree)
    (charts : List Chart) (result : FileTree × Except ReportError (List String)) : Prop where
  /-- Every chart is tried once, in order. -/
  tried : Tried painter directory (tree.withDirectory directory) charts
    (hung painter directory (tree.withDirectory directory) charts)
    (refusals painter directory (tree.withDirectory directory) charts)
  /-- No two files are the same, and all are names in the directory. -/
  distinct : (indexFile :: charts.map (fileOf painter)).Nodup ∧
    ∀ file ∈ indexFile :: charts.map (fileOf painter), '/' ∉ file.toList
  /-- What was there before is there, and only directories were made for it. -/
  extended : Extends tree (tree.withDirectory directory)
  filled : ∃ location, (tree.withDirectory directory).Ends directory location ∧
    Fills painter directory title location (tree.withDirectory directory) charts result.1
  /-- The index lists the files of the charts that were hung. -/
  listed : (IndexPage.sources (IndexPage.page
      ((hung painter directory (tree.withDirectory directory) charts).map (fileOf painter)) title)).Perm
    ((hung painter directory (tree.withDirectory directory) charts).map (fileOf painter))
  answered : Answers painter directory (tree.withDirectory directory) charts result.2

theorem accounts_of_charts {painter : Painter} {directory : String} {tree : FileTree}
    {settings : Settings} {panels : Panels}
    (hmade : (tree.makeDirectories directory).2 = .ok ())
    (hgroups : ((Chart.ofPanels settings panels).map Chart.group).Pairwise (· < ·))
    (hslash : ∀ chart ∈ Chart.ofPanels settings panels, '/' ∉ (fileOf painter chart).toList)
    (hindex : ∀ chart ∈ Chart.ofPanels settings panels, fileOf painter chart ≠ indexFile) :
    Accounts painter directory settings.chartsTitle tree (Chart.ofPanels settings panels)
      (write tree panels settings (some painter) directory) := by
  obtain ⟨location, hends⟩ := makeDirectories_ends hmade
  have hnodup := nodup_files hgroups hindex
  have hrecords := hangAll_records hends hslash (List.nodup_cons.1 hnodup).2
  obtain ⟨hfills, hanswers⟩ := hrecords.close hends hindex settings.chartsTitle
  have hwrite : write tree panels settings (some painter) directory =
      close directory settings.chartsTitle (hangAll painter directory
        (tree.withDirectory directory) (Chart.ofPanels settings panels)) := by
    rw [write, FileTree.withDirectory, ← Prod.mk.eta (p := tree.makeDirectories directory), hmade]
  rw [hwrite]
  refine ⟨tried_hung _ _ _ _, ⟨hnodup, ?_⟩, makeDirectories_extends tree directory,
    ⟨location, hends, hfills⟩, ?_, hanswers⟩
  · rw [List.forall_mem_cons]
    refine ⟨by decide, fun file hfile => ?_⟩
    obtain ⟨chart, hchart, rfl⟩ := List.mem_map.1 hfile
    exact hslash chart hchart
  · rw [IndexPage.sources_page]
    exact IndexPage.sorted_perm _

/-- Without a painter nothing is written. With one whose files are names other than that of the index, there is one chart for each group of a kept name, in name order, and the gallery accounts for all of them. -/
theorem write_accounts (tree : FileTree) (results : Results)
    (restriction : Option (SortedSet String)) (settings : Settings) (directory : String) :
    write tree (.ofResults results restriction) settings none directory =
        (tree, .error .noPainter) ∧
      ∀ painter : Painter, '/' ∉ painter.extension.toList → painter.extension ≠ "html" →
        (tree.makeDirectories directory).2 = .ok () →
        ((Chart.ofPanels settings (.ofResults results restriction)).map Chart.group).Pairwise (· < ·) ∧
        (∀ group,
          group ∈ (Chart.ofPanels settings (.ofResults results restriction)).map Chart.group ↔
            ∃ name ∈ Panels.keptNames results restriction, (NameParts.ofName name).group = group) ∧
        Accounts painter directory settings.chartsTitle tree
          (Chart.ofPanels settings (.ofResults results restriction))
          (write tree (.ofResults results restriction) settings (some painter) directory) := by
  refine ⟨rfl, fun painter hextension hhtml hmade => ?_⟩
  have hgroups := Chart.groups_ascending settings (.ofResults results restriction)
  refine ⟨hgroups, fun group => Chart.mem_groups_iff, accounts_of_charts hmade hgroups ?_ ?_⟩
  · intro chart hchart
    exact slash_not_mem_fileOf hextension (Chart.slash_not_mem_group chart hchart)
  · intro chart _
    exact fileOf_ne_indexFile (.inr hhtml)

/-! #### Groups that are dots, a refusal and a directory in the way -/

def dottedResults : Results := .ofList [("../p/v", 1), ("/v", 2), ("g/v", 3), ("h/v", 4)]

/-- A painter that does not paint every chart. -/
def timidPainter : Painter where
  extension := "txt"
  paint chart := if chart.group = "h" then .error (.chartRefused "too wide") else .ok (.text chart.title)

def crowdedTree : FileTree := empty.withDirectory "out/g.txt"

theorem write_accounts_crowded :
    ('/' ∉ timidPainter.extension.toList ∧ timidPainter.extension ≠ "html" ∧
      (crowdedTree.makeDirectories "out").2 = .ok ()) ∧
    Accounts timidPainter "out" Settings.standard.chartsTitle crowdedTree
      (Chart.ofPanels .standard (.ofResults dottedResults none))
      (write crowdedTree (.ofResults dottedResults none) .standard (some timidPainter) "out") ∧
    (write crowdedTree (.ofResults dottedResults none) .standard (some timidPainter) "out").2 =
      .error (.chartsFailed 2 4 "g" (.chartUnwritable "g.txt" .isADirectory)) := by
  have hextension : '/' ∉ timidPainter.extension.toList ∧ timidPainter.extension ≠ "html" := by decide
  have hmade : (crowdedTree.makeDirectories "out").2 = .ok () := by decide +kernel
  have hall := (write_accounts crowdedTree dottedResults none .standard "out").2 timidPainter
    hextension.1 hextension.2 hmade
  exact ⟨⟨hextension.1, hextension.2, hmade⟩, hall.2.2, by decide +kernel⟩

end Gallery

end BenchReport
