import BenchReport.Error
import BenchReport.FileTree.Document
import BenchReport.Json.Printer
import BenchReport.Results.Basic

/-!
# Snapshots

A snapshot is the results of a run in a file: one object with the values by name. It is written by one run to be the base of another. Values that are not finite are written as null and make the snapshot unreadable: every field has to be a number, also one that a later field of its name replaces.
-/

namespace BenchReport.Results

def toJson (results : Results) : Json := Json.ofMap Json.ofFloat results

def ofJson? (document : Json) : Option Results := document.map? Json.float?

def snapshotText (results : Results) : String := results.toJson.text

def saveSnapshot (results : Results) (tree : FileTree) (path : String) :
    Except ReportError FileTree :=
  (tree.writeFile path (.text results.snapshotText)).mapError .snapshotUnwritable

def ofSnapshot (tree : FileTree) (path : String) : Except ReportError Results :=
  if !tree.exists? path then .error (.snapshotMissing path)
  else
    match tree.readFile path with
    | .error fault => .error (.snapshotUnreadable fault)
    | .ok content =>
      match content.document?.bind ofJson? with
      | none => .error (.snapshotMalformed path)
      | some results => .ok results

end BenchReport.Results
