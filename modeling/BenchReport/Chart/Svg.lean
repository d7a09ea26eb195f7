import BenchReport.Chart.Axis
import BenchReport.Chart.Basic
import BenchReport.Text.Markup

/-!
# Drawn charts

A chart as an SVG image, built as a list of pieces. Whatever comes from names or settings is a content piece and nothing else is, so the markup of an image is decided by the numbers of the chart alone.
-/

namespace BenchReport.Svg

open Text (Piece)

/-! ### Measures in pixels -/

def height : Float := 420

def marginTop : Float := 44

def marginBottom : Float := 80

def marginLeft : Float := 72

def marginRight : Float := 24

def legendWidth : Float := 150

def baseline : Float := height - marginBottom

def plotHeight : Float := height - marginTop - marginBottom

def barHeight (axis : ValueAxis) (value : Float) : Float := axis.share value * plotHeight

/-! ### Elements -/

/-- A coordinate with one place. -/
def coordinate (x : Float) : String := NumberText.fixed 1 x

def whole (x : Float) : String := NumberText.fixed 0 x

/-- An attribute with its leading blank. The value is not escaped. -/
def attr (name value : String) : String := " " ++ name ++ "=\"" ++ value ++ "\""

def frame (x y width height : String) : String :=
  attr "x" x ++ attr "y" y ++ attr "width" width ++ attr "height" height

def stretch (x1 y1 x2 y2 : String) : String :=
  attr "x1" x1 ++ attr "y1" y1 ++ attr "x2" x2 ++ attr "y2" y2

def place (x y : String) : String := attr "x" x ++ attr "y" y

def font (anchor size : String) : String := attr "text-anchor" anchor ++ attr "font-size" size

def line (source : String) : List Piece := [.markup (source ++ "\n")]

def lineAround (before text after : String) : List Piece :=
  [.markup before, .content text, .markup (after ++ "\n")]

def textLine (attributes text : String) : List Piece :=
  lineAround ("<text" ++ attributes ++ ">") text "</text>"

def rectLine (before color after : String) : List Piece :=
  lineAround ("<rect" ++ before ++ " fill=\"") color ("\"" ++ after ++ "/>")

/-! ### Frame -/

def opening (width : Float) (title : String) : List Piece :=
  line ("<svg" ++ attr "xmlns" "http://www.w3.org/2000/svg" ++ attr "width" (whole width) ++
      attr "height" (whole height) ++ attr "viewBox" ("0 0 " ++ whole width ++ " " ++ whole height) ++
      attr "font-family" "sans-serif" ++ ">") ++
    line ("<rect" ++ attr "width" "100%" ++ attr "height" "100%" ++ attr "fill" "white" ++ "/>") ++
    textLine (place (coordinate (width / 2)) "26" ++ font "middle" "15" ++ attr "font-weight" "bold")
      title

def gridLine (axis : ValueAxis) (right value : Float) : List Piece :=
  let y := baseline - barHeight axis value
  line ("<line" ++ stretch (whole marginLeft) (coordinate y) (coordinate right) (coordinate y) ++
      attr "stroke" "#dddddd" ++ attr "stroke-dasharray" "4 3" ++ "/>") ++
    line ("<text" ++ place (coordinate (marginLeft - 6)) (coordinate (y + 3)) ++ font "end" "10" ++
      ">" ++ ValueAxis.gridLabel value ++ "</text>")

def grid (axis : ValueAxis) (right : Float) (caption : String) : List Piece :=
  let turned := "translate(18 " ++ coordinate (marginTop + plotHeight / 2) ++ ") rotate(-90)"
  axis.gridValues.flatMap (gridLine axis right) ++
    line ("<line" ++ stretch (whole marginLeft) (whole baseline) (coordinate right) (whole baseline) ++
      attr "stroke" "#333333" ++ "/>") ++
    textLine (attr "transform" turned ++ font "middle" "12") caption

def closing : List Piece := line "</svg>"

/-! ### One bar per variant -/

/-- The value above a bar, which only a positive one has. -/
def barValue (x y value : Float) : List Piece :=
  if 0 < value then
    line ("<text" ++ place (coordinate x) (coordinate y) ++ font "middle" "9" ++
      attr "fill" "#333333" ++ ">" ++ coordinate value ++ "</text>")
  else []

def bar (axis : ValueAxis) (slot : Float) (index : Nat) (drawn : PlotBar) : List Piece :=
  let tall := barHeight axis drawn.value
  let left := marginLeft + slot * Binary64.ofInt index + slot * 0.2
  let wide := slot * 0.6
  let middle := left + wide / 2
  let turned :=
    "translate(" ++ coordinate middle ++ " " ++ coordinate (baseline + 14) ++ ") rotate(-30)"
  rectLine
      (frame (coordinate left) (coordinate (baseline - tall)) (coordinate wide) (coordinate tall))
      drawn.color (attr "stroke" "white") ++
    barValue middle (baseline - tall - 3) drawn.value ++
    textLine (attr "transform" turned ++ font "end" "10") drawn.label

def barPlot (title caption : String) (bars : List PlotBar) : List Piece :=
  let count := Binary64.ofInt bars.length
  let width := greater (count * 90 + marginLeft + marginRight) 480
  let right := width - marginRight
  let slot := (right - marginLeft) / Binary64.ofInt (max bars.length 1)
  let axis := ValueAxis.ofValues (bars.map PlotBar.value) false
  opening width title ++ grid axis right caption ++
    bars.zipIdx.flatMap (fun drawn => bar axis slot drawn.2 drawn.1) ++ closing

/-! ### A cluster of bars per parameter -/

def clusterBar (axis : ValueAxis) (left wide : Float) (category index : Nat)
    (series : PlotSeries) : List Piece :=
  match series.values[category]? with
  | some (some value) =>
    let tall := barHeight axis value
    rectLine
      (frame (coordinate (left + wide * Binary64.ofInt index)) (coordinate (baseline - tall))
        (coordinate wide) (coordinate tall))
      series.color (attr "stroke" "white" ++ attr "stroke-width" "0.3")
  | _ => []

def cluster (axis : ValueAxis) (width barWidth : Float) (series : List PlotSeries) (index : Nat)
    (category : String) : List Piece :=
  let left := marginLeft + width * Binary64.ofInt index + width * 0.1
  let middle := marginLeft + width * (Binary64.ofInt index + 0.5)
  series.zipIdx.flatMap (fun drawn => clusterBar axis left barWidth index drawn.2 drawn.1) ++
    textLine (place (coordinate middle) (coordinate (baseline + 16)) ++ font "middle" "10") category

def legendEntry (left : Float) (index : Nat) (series : PlotSeries) : List Piece :=
  let top := marginTop + 16 * Binary64.ofInt index
  rectLine (frame (coordinate left) (coordinate top) "10" "10") series.color "" ++
    textLine
      (place (coordinate (left + 14)) (coordinate (top + 9)) ++ attr "font-size" "10") series.label

def clampWidth (width : Float) : Float :=
  if width < 640 then 640 else if 1600 < width then 1600 else width

def clusterPlot (title caption : String) (categories : List String) (keyCaption : String)
    (series : List PlotSeries) (logarithmic : Bool) : List Piece :=
  let seriesCount := Binary64.ofInt (max series.length 1)
  let wanted := seriesCount * 24 + 32
  let width := clampWidth
    (Binary64.ofInt categories.length * wanted + marginLeft + marginRight + legendWidth)
  let right := width - marginRight - legendWidth
  let clusterWidth := (right - marginLeft) / Binary64.ofInt (max categories.length 1)
  let barWidth := clusterWidth * 0.8 / seriesCount
  let axis := ValueAxis.ofValues (series.flatMap fun drawn => drawn.values.filterMap id) logarithmic
  opening width title ++ grid axis right caption ++
    categories.zipIdx.flatMap
      (fun category => cluster axis clusterWidth barWidth series category.2 category.1) ++
    textLine
      (place (coordinate ((marginLeft + right) / 2)) (coordinate (height - 24)) ++
        font "middle" "12")
      keyCaption ++
    series.zipIdx.flatMap (fun drawn => legendEntry (right + 16) drawn.2 drawn.1) ++ closing

/-! ### Images -/

def pieces (chart : Chart) : List Piece :=
  match chart.plot with
  | .bars bars => barPlot chart.title chart.valueCaption bars
  | .clusters categories caption series logarithmic =>
    clusterPlot chart.title chart.valueCaption categories caption series logarithmic

def image (chart : Chart) : String := Text.render .attribute (pieces chart)

end BenchReport.Svg
