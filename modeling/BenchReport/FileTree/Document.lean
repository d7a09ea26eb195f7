import BenchReport.FileTree.Basic
import BenchReport.Json.Reader

/-!
# Documents in files

A file holds a document if its content is the text of one.
-/

namespace BenchReport

/-- The document in a file; bytes that are no text are no document. -/
def FileContent.document? : FileContent → Option Json
  | text source => Json.read? source
  | binary _ => none

end BenchReport
