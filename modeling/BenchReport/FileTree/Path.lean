import BenchReport.Text.Segments

/-!
# Paths

A path is a text with slashes. What it leads to depends on the file tree; what is here depends on the text alone.
-/

namespace BenchReport.Path

def isAbsolute (path : String) : Bool := path.toList.head? == some '/'

def endsInSlash (path : String) : Bool := path.toList.getLast? == some '/'

/-- The names that a path walks through, dots included. -/
def steps (path : String) : List String := (Text.segments '/' path).filter (· ≠ "")

/-- The names of a path without the dots that stay in place, except one at the start of a relative path. -/
def components (path : String) : List String :=
  match steps path with
  | "." :: rest => (if isAbsolute path then [] else ["."]) ++ rest.filter (· ≠ ".")
  | names => names.filter (· ≠ ".")

def parent (path : String) : String :=
  (if isAbsolute path then "/" else "") ++ "/".intercalate (steps path).dropLast

def join (directory file : String) : String :=
  if isAbsolute file then file
  else if directory = "" ∨ endsInSlash directory then directory ++ file
  else directory ++ "/" ++ file

end BenchReport.Path
