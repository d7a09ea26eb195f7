import BenchReport.Chart.Gallery
import BenchReport.Proofs.Chart.Faithful
import BenchReport.Proofs.Chart.IndexPage
import BenchReport.Proofs.Text.Segments
import BenchReport.Proofs.Text.Template
import BenchReport.Settings.Preset

/-!
# The index page as a list of files

A page has one image tag for each of its files, in name order, whatever the order in which the files were given. Its markup is the same for all lists of one length and all titles, and what stands in it besides is the title and, for each file, the heading and the source, which decode to themselves. The heading over the file of a group is the title of the chart of the group, because the extension of the file has no dot and the title is made of what stands before the last one.
-/

namespace BenchReport

open Text (Template Fills Piece marks fields unescape)

namespace IndexPage

/-! ### The order of the files -/

theorem sorted_ascending (files : List String) : (sorted files).Pairwise (· ≤ ·) :=
  SortedMap.mergeSort_ascending id files

theorem sorted_of_perm {files other : List String} (h : files.Perm other) :
    sorted files = sorted other :=
  SortedMap.mergeSort_eq_of_perm id h fun _ _ _ _ hsame => hsame

/-! ### Headings -/

/-- The heading over the file of a group is made of the group, dots and all. -/
theorem heading_file {extension : String} (h : '.' ∉ extension.toList) (group : String) :
    heading (group ++ "." ++ extension) = Text.title group := by
  rw [heading, show "." = String.singleton '.' from rfl, Text.beforeLast_append h]

end IndexPage

theorem Chart.title_of_mem_ofPanels {settings : Settings} {panels : Panels} {chart : Chart}
    (h : chart ∈ ofPanels settings panels) : chart.title = Text.title chart.group := by
  obtain ⟨entry, _, hof⟩ := List.mem_filterMap.1 h
  rw [ofPanel?] at hof
  split at hof
  · cases hof
  · split at hof
    · cases hof
      rfl
    · cases hof
      rfl

namespace IndexPage

/-! ### The texts of a page -/

/-- What a page shows of a file: its heading, its source, and the heading again for where there is no image. -/
def textsOf (file : String) : List String := [heading file, file, heading file]

theorem fills_top (title : String) : Fills (top title) (top "") [title, title] where
  blanks := rfl
  texts := rfl
  guarded := by
    have hguarded : Text.isGuarded (top title) = Text.isGuarded (top "") := rfl
    rw [hguarded]
    decide +kernel
  closed := rfl

theorem fills_chart (file : String) : Fills (chart file) (chart "") (textsOf file) where
  blanks := by simp only [chart, List.map_cons, List.map_nil, Piece.blank]
  texts := rfl
  guarded := by
    rw [chart]
    generalize heading file = shown
    rfl
  closed := rfl

/-- The pieces of a page with a number of files, without any texts. -/
def blankPieces (count : Nat) : List Piece :=
  top "" ++ (List.replicate count ()).flatMap (fun _ => chart "") ++ [.markup "</body></html>"]

theorem fills_pieces (files : List String) (title : String) :
    Fills (pieces files title) (blankPieces files.length)
      (title :: title :: (sorted files).flatMap textsOf) := by
  have hblank : (sorted files).flatMap (fun _ => chart "") =
      (List.replicate files.length ()).flatMap fun _ => chart "" := by
    rw [← (sorted_perm files).length_eq, ← List.map_const', List.flatMap_map]
  have hend : Fills [.markup "</body></html>"] [.markup "</body></html>"] [] :=
    ⟨rfl, rfl, rfl, rfl⟩
  have hpieces := ((fills_top title).append (Fills.flatMap fills_chart (sorted files))).append hend
  rw [hblank, List.append_nil] at hpieces
  exact hpieces

/-- What a page owes the files that it is made from. -/
structure Lists (files : List String) (page : String) : Prop where
  images : imageCount page = files.length
  ascending : (sources page).Pairwise (· ≤ ·)
  perm : (sources page).Perm files
  headed : headings page = (sources page).map heading

theorem lists_page (files : List String) (title : String) : Lists files (page files title) where
  images := imageCount_page files title
  ascending := by
    rw [sources_page]
    exact sorted_ascending files
  perm := by
    rw [sources_page]
    exact sorted_perm files
  headed := by rw [sources_page, headings_page]

/-- A page lists its files in name order, each once for each time that it is given, and is the same for every order in which they are given. Titles and names leave the marks of the page alone and are read back where they stand. The heading over the file of a chart is the title of the chart. -/
theorem page_lists :
    (∀ files title, Lists files (page files title)) ∧
    (∀ files other title, files.Perm other → page files title = page other title) ∧
    (∀ files other title rename, files.length = other.length →
      marks (page files title) = marks (page other rename)) ∧
    (∃ template : Nat → Template, ∀ files title,
      (template files.length).read? unescape (fields (page files title)) =
        some (title :: title :: (sorted files).flatMap textsOf)) ∧
    (∀ group extension, '.' ∉ extension.toList →
      heading (group ++ "." ++ extension) = Text.title group) ∧
    ∀ settings panels (painter : Painter), '.' ∉ painter.extension.toList →
      ∀ chart ∈ Chart.ofPanels settings panels,
        heading (Gallery.fileOf painter chart) = chart.title := by
  refine ⟨lists_page, ?_, ?_, ?_, ?_, ?_⟩
  · intro files other title hperm
    rw [page, page, pieces, pieces, sorted_of_perm hperm]
  · intro files other title rename hlength
    rw [page, page, (fills_pieces files title).marks_eq Text.shields_page,
      (fills_pieces other rename).marks_eq Text.shields_page, hlength]
  · refine ⟨fun count => Text.template (blankPieces count), fun files title => ?_⟩
    exact (fills_pieces files title).read?_eq Text.shields_page Text.decodedBy_page
  · intro group extension hdot
    exact heading_file hdot group
  · intro settings panels painter hdot chart hchart
    rw [Gallery.fileOf, heading_file hdot, Chart.title_of_mem_ofPanels hchart]

/-! #### Names that look like markup -/

/-- Two file names, one that would close its tag and open another and one with an entity. -/
def forged : List String := ["x\"><img src=\"y.svg", "&lt;b.svg"]

/-- A group with a dot in its name. -/
def dotted : Panels := .ofResults (.ofList [("a.b/mi", 1)]) none

theorem page_lists_forged :
    (forged.Perm forged.reverse ∧ page forged "<h1>" = page forged.reverse "<h1>") ∧
    (forged.length = ["a.svg", "b.svg"].length ∧
      marks (page forged "<h1>") = marks (page ["a.svg", "b.svg"] "Charts")) ∧
    ('.' ∉ "svg".toList ∧ heading ("a.b" ++ "." ++ "svg") = "A.B") ∧
    ∃ chart ∈ Chart.ofPanels .standard dotted, chart.title = "A.B" ∧
      heading (Gallery.fileOf .svg chart) = "A.B" := by
  obtain ⟨_, hperm, hmarks, _, hheading, hcharts⟩ := page_lists
  have hreverse : forged.Perm forged.reverse := (List.reverse_perm forged).symm
  have hdot : '.' ∉ "svg".toList := by decide
  have htitle : Text.title "a.b" = "A.B" := by decide +kernel
  have hcharted : "A.B" ∈ (Chart.ofPanels .standard dotted).map Chart.title := by decide +kernel
  obtain ⟨chart, hchart, hshown⟩ := List.mem_map.1 hcharted
  refine ⟨⟨hreverse, hperm _ _ _ hreverse⟩, ⟨rfl, hmarks _ _ _ _ rfl⟩, ⟨hdot, ?_⟩, ?_⟩
  · exact (hheading "a.b" "svg" hdot).trans htitle
  · exact ⟨chart, hchart, hshown, (hcharts .standard dotted .svg hdot chart hchart).trans hshown⟩

end IndexPage

end BenchReport
