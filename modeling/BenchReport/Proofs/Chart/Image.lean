import BenchReport.Chart.Svg
import BenchReport.Proofs.Text.Template

/-!
# The texts of an image

Two charts that differ in their texts only are drawn as the same markup, with other texts in the same places. Each drawing function is followed by what it fills in, and every text that it fills in stands between two marks of its markup. So the outline of an image is that of its blank chart, and its texts are read back from where they stand, in the order in which they are drawn.
-/

namespace BenchReport

open Text (EntityTable Fills Piece Template endsInMark escapeInTurn fields marks startsInMark
  unescapeAttribute)

/-! ### Charts without texts -/

def PlotBar.blank (bar : PlotBar) : PlotBar := ⟨"", "", "", bar.value⟩

def PlotSeries.blank (series : PlotSeries) : PlotSeries := ⟨"", "", "", series.values⟩

/-- A plot with the numbers it had, in the same places, and no texts. -/
def Plot.blank : Plot → Plot
  | .bars drawn => .bars (drawn.map PlotBar.blank)
  | .clusters categories _ series logarithmic =>
    .clusters (categories.map fun _ => "") "" (series.map PlotSeries.blank) logarithmic

/-! ### Texts in drawing order -/

def PlotBar.texts (bar : PlotBar) : List String := [bar.color, bar.label]

/-- What a series shows in the legend. -/
def PlotSeries.texts (series : PlotSeries) : List String := [series.color, series.label]

/-- What a series shows in a cluster: nothing where the variant has no result. -/
def PlotSeries.textsAt (category : Nat) (series : PlotSeries) : List String :=
  match series.values[category]? with
  | some (some _) => [series.color]
  | _ => []

def Plot.texts : Plot → List String
  | .bars drawn => drawn.flatMap PlotBar.texts
  | .clusters categories caption series _ =>
    categories.zipIdx.flatMap
        (fun category => series.flatMap (PlotSeries.textsAt category.2) ++ [category.1]) ++
      [caption] ++ series.flatMap PlotSeries.texts

def Chart.texts (chart : Chart) : List String :=
  chart.title :: chart.valueCaption :: chart.plot.texts

namespace Svg

/-! ### Elements -/

theorem fills_line (source : String) : Fills (line source) (line source) [] := ⟨rfl, rfl, rfl, rfl⟩

theorem endsInMark_append (front : String) {back : String} (h : endsInMark back = true) :
    endsInMark (front ++ back) = true := by
  obtain ⟨before, mark, hback, hmark⟩ := Text.exists_of_endsInMark h
  rw [endsInMark, String.toList_append, hback, ← List.append_assoc, List.getLast?_concat]
  exact hmark

theorem startsInMark_append {front : String} (h : startsInMark front = true) (back : String) :
    startsInMark (front ++ back) = true := by
  obtain ⟨mark, after, hfront, hmark⟩ := Text.exists_of_startsInMark h
  rw [startsInMark, String.toList_append, hfront]
  exact hmark

theorem fills_lineAround {before after : String} (hbefore : endsInMark before = true)
    (hafter : startsInMark after = true) (text : String) :
    Fills (lineAround before text after) (lineAround before "" after) [text] where
  blanks := rfl
  texts := rfl
  guarded := by
    simp [lineAround, Text.isGuarded, Text.isOpen, hbefore, startsInMark_append hafter]
  closed := rfl

theorem fills_textLine (attributes text : String) :
    Fills (textLine attributes text) (textLine attributes "") [text] :=
  fills_lineAround (endsInMark_append _ rfl) rfl text

theorem fills_rectLine (before color after : String) :
    Fills (rectLine before color after) (rectLine before "" after) [color] :=
  fills_lineAround (endsInMark_append _ rfl)
    (startsInMark_append (startsInMark_append rfl after) "/>") color

/-! ### Frame -/

theorem fills_opening (width : Float) (title : String) :
    Fills (opening width title) (opening width "") [title] :=
  ((fills_line _).append (fills_line _)).append (fills_textLine _ title)

theorem fills_gridLine (axis : ValueAxis) (right value : Float) :
    Fills (gridLine axis right value) (gridLine axis right value) [] :=
  (fills_line _).append (fills_line _)

theorem fills_grid (axis : ValueAxis) (right : Float) (caption : String) :
    Fills (grid axis right caption) (grid axis right "") [caption] := by
  have hlines := Fills.flatMap (fills_gridLine axis right) axis.gridValues
  rw [List.flatMap_eq_nil_iff.2 fun _ _ => rfl] at hlines
  exact (hlines.append (fills_line _)).append (fills_textLine _ caption)

theorem fills_closing {drawn blanks : List Piece} {texts : List String}
    (h : Fills drawn blanks texts) : Fills (drawn ++ closing) (blanks ++ closing) texts := by
  have hclosing := h.append (fills_line "</svg>")
  rw [List.append_nil] at hclosing
  exact hclosing

/-! ### One bar per variant -/

theorem fills_barValue (x y value : Float) :
    Fills (barValue x y value) (barValue x y value) [] := by
  rw [barValue]
  split
  · exact fills_line _
  · exact .nil

theorem fills_bar (axis : ValueAxis) (slot : Float) (index : Nat) (drawn : PlotBar) :
    Fills (bar axis slot index drawn) (bar axis slot index drawn.blank) drawn.texts :=
  ((fills_rectLine _ drawn.color _).append (fills_barValue _ _ _)).append
    (fills_textLine _ drawn.label)

theorem fills_barPlot (title caption : String) (bars : List PlotBar) :
    Fills (barPlot title caption bars) (barPlot "" "" (bars.map PlotBar.blank))
      (title :: caption :: bars.flatMap PlotBar.texts) := by
  have hvalues : (bars.map PlotBar.blank).map PlotBar.value = bars.map PlotBar.value := by
    rw [List.map_map]
    rfl
  -- The width, the slots and the axis come from the numbers, which the blank bars keep.
  rw [barPlot, barPlot, hvalues, List.length_map]
  exact fills_closing (((fills_opening _ title).append (fills_grid _ _ caption)).append
    (Fills.inOrder (fills_bar _ _) bars))

/-! ### A cluster of bars per parameter -/

theorem fills_clusterBar (axis : ValueAxis) (left wide : Float) (category index : Nat)
    (series : PlotSeries) :
    Fills (clusterBar axis left wide category index series)
      (clusterBar axis left wide category index series.blank) (series.textsAt category) := by
  have hblank : series.blank.values[category]? = series.values[category]? := rfl
  rw [clusterBar, clusterBar, PlotSeries.textsAt, hblank]
  cases series.values[category]? with
  | none => exact .nil
  | some value => cases value with
    | none => exact .nil
    | some value => exact fills_rectLine _ series.color _

theorem fills_cluster (axis : ValueAxis) (width barWidth : Float) (series : List PlotSeries)
    (index : Nat) (category : String) :
    Fills (cluster axis width barWidth series index category)
      (cluster axis width barWidth (series.map PlotSeries.blank) index "")
      (series.flatMap (PlotSeries.textsAt index) ++ [category]) :=
  (Fills.inOrder (fills_clusterBar axis _ barWidth index) series).append (fills_textLine _ category)

theorem fills_legendEntry (left : Float) (index : Nat) (series : PlotSeries) :
    Fills (legendEntry left index series) (legendEntry left index series.blank) series.texts :=
  (fills_rectLine _ series.color _).append (fills_textLine _ series.label)

theorem fills_clusterPlot (title caption : String) (categories : List String)
    (keyCaption : String) (series : List PlotSeries) (logarithmic : Bool) :
    Fills (clusterPlot title caption categories keyCaption series logarithmic)
      (clusterPlot "" "" (categories.map fun _ => "") "" (series.map PlotSeries.blank) logarithmic)
      (title :: caption :: Plot.texts (.clusters categories keyCaption series logarithmic)) := by
  have hvalues : (series.map PlotSeries.blank).flatMap (fun drawn => drawn.values.filterMap id) =
      series.flatMap fun drawn => drawn.values.filterMap id := by
    rw [List.flatMap_map]
    rfl
  rw [clusterPlot, clusterPlot, hvalues, List.length_map, List.length_map, Plot.texts]
  exact fills_closing (((((fills_opening _ title).append (fills_grid _ _ caption)).append
    (Fills.numbered (fills_cluster _ _ _ series) categories)).append
    (fills_textLine _ keyCaption)).append (Fills.inOrder (fills_legendEntry _) series))

/-! ### Images -/

/-- The pieces of an image with nothing filled in. -/
def blankPieces (plot : Plot) : List Piece := pieces ⟨"", "", "", .nanos, plot⟩

theorem fills_pieces (chart : Chart) :
    Fills (pieces chart) (blankPieces chart.plot.blank) chart.texts := by
  obtain ⟨group, title, caption, unit, plot⟩ := chart
  cases plot with
  | bars drawn => exact fills_barPlot title caption drawn
  | clusters categories keyCaption series logarithmic =>
      exact fills_clusterPlot title caption categories keyCaption series logarithmic

/-- Charts whose plots differ in their texts only have images with the same marks. What else an image shows is decided by the numbers of its plot, but for its texts, and each of these is read back from where it stands. A text is escaped as four passes would do it, one for each entity, and a single pass over the entities gives it back. -/
theorem image_inert :
    (∀ chart other : Chart, chart.plot.blank = other.plot.blank →
      marks (image chart) = marks (image other)) ∧
    (∃ template : Plot → Template, ∀ chart : Chart,
      (template chart.plot.blank).read? unescapeAttribute (fields (image chart)) =
        some chart.texts) ∧
    ∀ text, EntityTable.attribute.escape text = escapeInTurn text ∧
      String.ofList (unescapeAttribute (escapeInTurn text).toList) = text := by
  refine ⟨?_, ?_, ?_⟩
  · intro chart other hblank
    rw [image, image, (fills_pieces chart).marks_eq Text.shields_attribute,
      (fills_pieces other).marks_eq Text.shields_attribute, hblank]
  · refine ⟨fun plot => Text.template (blankPieces plot), fun chart => ?_⟩
    exact (fills_pieces chart).read?_eq Text.shields_attribute Text.decodedBy_attribute
  · intro text
    rw [Text.escapeInTurn_eq_escape]
    exact ⟨rfl, Text.decodedBy_attribute.escape text⟩

/-! #### Texts that look like markup -/

def plain : Chart where
  group := "hash"
  title := "Hash"
  valueCaption := "Time (ns)"
  unit := .nanos
  plot := .clusters ["64", "1024"] "Bytes" [⟨"rt", "runtime", "#9467bd", [some 8, none]⟩] false

/-- The plain chart with texts that would close a tag or an attribute, and with entities. -/
def hostile : Chart where
  group := "\"/>"
  title := "</text><script>"
  valueCaption := "&lt;ns&gt;"
  unit := .nanos
  plot := .clusters ["\"", "&amp;quot;"] "a & b" [⟨"", "&lt;", "\" onload=\"x", [some 8, none]⟩] false

theorem image_inert_hostile :
    plain.plot.blank = hostile.plot.blank ∧
    marks (image plain) = marks (image hostile) ∧
    ∃ template : Template,
      template.read? unescapeAttribute (fields (image plain)) =
        some ["Hash", "Time (ns)", "#9467bd", "64", "1024", "Bytes", "#9467bd", "runtime"] ∧
      template.read? unescapeAttribute (fields (image hostile)) =
        some ["</text><script>", "&lt;ns&gt;", "\" onload=\"x", "\"", "&amp;quot;", "a & b",
          "\" onload=\"x", "&lt;"] := by
  obtain ⟨hmarks, ⟨template, htemplate⟩, _⟩ := image_inert
  have hblank : plain.plot.blank = hostile.plot.blank := rfl
  exact ⟨hblank, hmarks plain hostile hblank, template plain.plot.blank, htemplate plain,
    htemplate hostile⟩

end Svg

end BenchReport
