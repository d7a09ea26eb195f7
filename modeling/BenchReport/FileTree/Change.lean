import BenchReport.FileTree.Access

/-!
# Building and comparing file trees

Trees are built file by file, with the directories that each needs. Two trees are compared by their files: what changed is every file of the later tree that the earlier one does not have with the same content.
-/

namespace BenchReport.FileTree

/-! ### Building -/

/-- A tree with a directory at a path, as far as the path is free. -/
def withDirectory (tree : FileTree) (path : String) : FileTree := (tree.makeDirectories path).1

/-- A tree with a file at a path, as far as the path is free. -/
def withFile (tree : FileTree) (path : String) (content : FileContent) : FileTree :=
  let made := tree.withDirectory (Path.parent path)
  match made.writeFile path content with
  | .ok written => written
  | .error _ => made

def ofHome (path : String) : FileTree :=
  { empty.withDirectory path with home := (Path.steps path).reverse }

/-! ### Comparing -/

/-- The files below a location: the names from there, innermost first, and the content. -/
def files (tree : FileTree) (location : Location) : List (Location × FileContent) :=
  (tree.below location).filterMap fun entry =>
    match entry.2 with
    | .file content => some (entry.1, content)
    | .directory => none

/-- The files below a location that another tree does not have with the same content. -/
def changedFiles (before after : FileTree) (location : Location) : List (Location × FileContent) :=
  (after.files location).filter fun entry =>
    before.node? (entry.1 ++ location) ≠ some (.file entry.2)

def pathOf (location : Location) : String := "/".intercalate location.reverse

end BenchReport.FileTree
