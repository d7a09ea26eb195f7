import BenchReport.FileTree.Basic

/-!
# Reading and writing in a file tree

Paths lead through directories: a dot stays, two dots go out, and a name goes in. Nothing is created on the way. Writing makes a file in a directory that exists, or replaces one; directories are made one by one or with all that is missing above them.
-/

namespace BenchReport

/-- Why a path cannot be used as asked. -/
inductive FileFault where
  | notFound
  | alreadyExists
  | notADirectory
  | isADirectory
  | nameTooLong
  | nulInPath
  deriving DecidableEq, Repr

def FileFault.message : FileFault → String
  | notFound => "No such file or directory (os error 2)"
  | alreadyExists => "File exists (os error 17)"
  | notADirectory => "Not a directory (os error 20)"
  | isADirectory => "Is a directory (os error 21)"
  | nameTooLong => "File name too long (os error 36)"
  | nulInPath => "file name contained an unexpected NUL byte"

namespace FileTree

/-- The most bytes that one name of a path may have. -/
def nameLimit : Nat := 255

/-- The least number of bytes that is too many for a path. -/
def pathLimit : Nat := 4096

/-! ### Walking -/

def step (tree : FileTree) (location : Location) (name : String) : Except FileFault Location :=
  if tree.node? location ≠ some .directory then .error .notADirectory
  else if name = "." then .ok location
  else if name = ".." then .ok location.tail
  else if nameLimit < name.utf8ByteSize then .error .nameTooLong
  else if tree.node? (name :: location) = none then .error .notFound
  else .ok (name :: location)

def walk (tree : FileTree) (start : Location) (names : List String) : Except FileFault Location :=
  names.foldlM tree.step start

/-- Whether a path has too many bytes to be used, wherever it leads. -/
def isTooLong (path : String) : Bool := pathLimit ≤ path.utf8ByteSize

/-- Faults that lie in the text of a path. -/
def checkText (path : String) : Except FileFault Unit :=
  if '\x00' ∈ path.toList then .error .nulInPath
  else if path = "" then .error .notFound
  else if isTooLong path then .error .nameTooLong
  else .ok ()

def start (tree : FileTree) (path : String) : Location :=
  if Path.isAbsolute path then [] else tree.home

/-- Where a path leads. A slash at the end asks for a directory. -/
def locate (tree : FileTree) (path : String) : Except FileFault Location := do
  checkText path
  tree.walk (tree.start path) (Path.steps path ++ if Path.endsInSlash path then ["."] else [])

/-! ### Looking -/

def lookup (tree : FileTree) (path : String) : Except FileFault FileNode := do
  match tree.node? (← tree.locate path) with
  | some node => .ok node
  | none => .error .notFound

def exists? (tree : FileTree) (path : String) : Bool := (tree.lookup path).isOk

def isDirectory (tree : FileTree) (path : String) : Bool :=
  match tree.lookup path with
  | .ok .directory => true
  | _ => false

def readFile (tree : FileTree) (path : String) : Except FileFault FileContent := do
  match ← tree.lookup path with
  | .file content => .ok content
  | .directory => .error .isADirectory

/-! ### Making files -/

/-- The directory that a path ends in, and the last name of the path. -/
def locateLast (tree : FileTree) (path : String) : Except FileFault (Location × Option String) := do
  checkText path
  let names := Path.steps path
  let directory ← tree.walk (tree.start path) names.dropLast
  if tree.node? directory = some .directory then .ok (directory, names.getLast?)
  else .error .notADirectory

/-- Puts a file into a directory, over a file of that name if there is one. -/
def putFile (tree : FileTree) (directory : Location) (name : String) (content : FileContent) :
    Except FileFault FileTree :=
  if nameLimit < name.utf8ByteSize then .error .nameTooLong
  else if hdirectory : tree.node? directory = some .directory then
    if hfree : tree.node? (name :: directory) = some .directory then .error .isADirectory
    else .ok (tree.put name directory (.file content) hdirectory fun h => absurd h hfree)
  else .error .notADirectory

def writeFile (tree : FileTree) (path : String) (content : FileContent) :
    Except FileFault FileTree := do
  let (directory, last) ← tree.locateLast path
  match last with
  | none => .error .isADirectory
  | some name =>
    if name = "." ∨ name = ".." ∨ Path.endsInSlash path then .error .isADirectory
    else tree.putFile directory name content

/-! ### Making directories -/

def putDirectory (tree : FileTree) (directory : Location) (name : String) : Except FileFault FileTree :=
  if nameLimit < name.utf8ByteSize then .error .nameTooLong
  else if hdirectory : tree.node? directory = some .directory then
    if tree.node? (name :: directory) ≠ none then .error .alreadyExists
    else .ok (tree.put name directory .directory hdirectory fun _ => rfl)
  else .error .notADirectory

/-- Makes the directory at the end of a path of names. -/
def makeDirectoryAt (tree : FileTree) (start : Location) (names : List String) :
    Except FileFault FileTree := do
  let directory ← tree.walk start names.dropLast
  if tree.node? directory ≠ some .directory then .error .notADirectory
  else
    match names.getLast? with
    | none => .error .alreadyExists
    | some name =>
      if name = "." ∨ name = ".." then .error .alreadyExists else tree.putDirectory directory name

def isDirectoryAt (tree : FileTree) (start : Location) (names : List String) : Bool :=
  match tree.walk start names with
  | .ok location => tree.node? location == some .directory
  | .error _ => false

/-- Makes a directory, given how to make what holds it. A directory that is already there will do. -/
def ensureDirectory (start : Location) (names : List String)
    (ensureParent : FileTree → FileTree × Except FileFault Unit) (tree : FileTree) :
    FileTree × Except FileFault Unit :=
  match tree.makeDirectoryAt start names with
  | .ok made => (made, .ok ())
  | .error .notFound =>
    match ensureParent tree with
    | (made, .error fault) => (made, .error fault)
    | (made, .ok ()) =>
      match made.makeDirectoryAt start names with
      | .ok final => (final, .ok ())
      | .error fault => (made, if made.isDirectoryAt start names then .ok () else .error fault)
  | .error fault => (tree, if tree.isDirectoryAt start names then .ok () else .error fault)

/-- Makes the directory with these names, innermost first, and what is missing above it. -/
def ensureDirectories (start : Location) :
    List String → FileTree → FileTree × Except FileFault Unit
  | [] => fun tree => (tree, .ok ())
  | name :: outer =>
    ensureDirectory start (outer.reverse ++ [name]) (ensureDirectories start outer)

/-- Makes the directory at a path and what is missing above it. The empty path stands for the working directory. Directories made before a fault stay. -/
def makeDirectories (tree : FileTree) (path : String) : FileTree × Except FileFault Unit :=
  if path = "" then (tree, .ok ())
  else
    match checkText path with
    | .error fault => (tree, .error fault)
    | .ok () =>
      ensureDirectory (tree.start path) (Path.steps path)
        (ensureDirectories (tree.start path) (Path.components path).dropLast.reverse) tree

end FileTree

end BenchReport
