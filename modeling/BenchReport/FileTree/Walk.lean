import BenchReport.FileTree.Access

/-!
# Walks

What is met on a walk through everything below a directory. The walk knows a thing by the path of the directory that it started from and the names on the way, so a long path to the start leaves less room for names. A directory whose path is too long is met but not entered, and a file whose path is too long is met but not read.
-/

namespace BenchReport.FileTree

/-- The path of something below a directory, from the directory's path and the names, innermost first. -/
def pathBelow (root : String) (names : Location) : String :=
  names.foldr (fun name path => Path.join path name) root

/-- What a walk from the directory at a path meets: the names from there, innermost first, and the node. -/
def met (tree : FileTree) (root : String) : List (Location × FileNode) :=
  match tree.locate root with
  | .error _ => []
  | .ok location =>
    if tree.node? location = some .directory then
      (tree.below location).filter fun entry => !isTooLong (pathBelow root entry.1.tail)
    else []

/-- The content of something that a walk has met, if it is a file that can be read. -/
def contentMet? (root : String) (entry : Location × FileNode) : Option FileContent :=
  match entry.2 with
  | .directory => none
  | .file content => if isTooLong (pathBelow root entry.1) then none else some content

end BenchReport.FileTree
