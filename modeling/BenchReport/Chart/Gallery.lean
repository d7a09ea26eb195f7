import BenchReport.Chart.IndexPage
import BenchReport.Chart.Svg
import BenchReport.Error

/-!
# Galleries

A directory with one image per group and the index page. A chart that cannot be painted or written is passed over: the index lists the others, and the failure is reported when everything is written.
-/

namespace BenchReport

/-- What turns charts into images, and the extension of its files. An image may be a text or bytes. -/
structure Painter where
  extension : String
  paint : Chart → Except ReportError FileContent

def Painter.svg : Painter := ⟨"svg", fun chart => .ok (.text (Svg.image chart))⟩

namespace Gallery

def indexFile : String := "index.html"

/-- The files written and the charts that failed, both in order. -/
structure Progress where
  tree : FileTree
  written : List String
  failed : List (String × ReportError)

def fileOf (painter : Painter) (chart : Chart) : String := chart.group ++ "." ++ painter.extension

def hang (painter : Painter) (directory : String) (tree : FileTree) (chart : Chart) :
    Except ReportError FileTree := do
  let image ← painter.paint chart
  let file := fileOf painter chart
  (tree.writeFile (Path.join directory file) image).mapError (.chartUnwritable file)

def step (painter : Painter) (directory : String) (progress : Progress) (chart : Chart) : Progress :=
  match hang painter directory progress.tree chart with
  | .ok tree => { progress with tree, written := progress.written ++ [fileOf painter chart] }
  | .error error => { progress with failed := progress.failed ++ [(chart.group, error)] }

def hangAll (painter : Painter) (directory : String) (tree : FileTree) (charts : List Chart) :
    Progress :=
  charts.foldl (step painter directory) ⟨tree, [], []⟩

def outcome (progress : Progress) : Except ReportError (List String) :=
  match progress.failed with
  | [] => .ok (progress.written ++ [indexFile])
  | (group, first) :: rest =>
    let failed := rest.length + 1
    .error (.chartsFailed failed (progress.written.length + failed) group first)

def close (directory title : String) (progress : Progress) :
    FileTree × Except ReportError (List String) :=
  match progress.tree.writeFile (Path.join directory indexFile)
      (.text (IndexPage.page progress.written title)) with
  | .ok tree => (tree, outcome progress)
  | .error fault => (progress.tree, .error (.indexUnwritable fault))

/-- Writes the gallery of some panels into a directory, which is made if need be. Without a painter nothing is written. -/
def write (tree : FileTree) (panels : Panels) (settings : Settings) (painter : Option Painter)
    (directory : String) : FileTree × Except ReportError (List String) :=
  match painter with
  | none => (tree, .error .noPainter)
  | some painter =>
    match tree.makeDirectories directory with
    | (tree, .error fault) => (tree, .error (.chartsDirectory fault))
    | (tree, .ok ()) =>
      close directory settings.chartsTitle
        (hangAll painter directory tree (Chart.ofPanels settings panels))

end Gallery

end BenchReport
