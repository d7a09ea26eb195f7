import BenchReport.FileTree.Path
import BenchReport.SortedMap

/-!
# File trees

A file tree is a map from locations to files and directories. A location lists the names from the innermost one out, so that what holds a file is the tail of its location. Everything in a tree lies in a directory of the tree; the root is a directory that needs no entry.

A file holds a text, or bytes that are no text. Relative paths start at the tree's working directory.
-/

namespace BenchReport

-- The order of lists and the equality of bytes are those of the core library, whatever is in scope.
attribute [local instance (high)] List.instLE ByteArray.instDecidableEq

/-- The names on the way to a file, innermost first. -/
abbrev Location := List String

inductive FileContent where
  | text (source : String)
  | binary (bytes : ByteArray)
  deriving DecidableEq

instance : Coe String FileContent := ⟨.text⟩

def FileContent.ofBytes (bytes : ByteArray) : FileContent :=
  match String.fromUTF8? bytes with
  | some source => .text source
  | none => .binary bytes

inductive FileNode where
  | directory
  | file (content : FileContent)
  deriving DecidableEq

/-- What is at a location, where the root is always a directory. -/
def nodeIn (nodes : SortedMap Location FileNode) (location : Location) : Option FileNode :=
  if location = [] then some .directory else nodes.get? location

structure FileTree where
  nodes : SortedMap Location FileNode
  /-- The directory that relative paths start from. -/
  home : Location
  parents : ∀ name directory node,
    nodes.get? (name :: directory) = some node → nodeIn nodes directory = some .directory

namespace FileTree

def empty : FileTree := ⟨.empty, [], by simp⟩

instance : Inhabited FileTree := ⟨empty⟩

def node? (tree : FileTree) (location : Location) : Option FileNode := nodeIn tree.nodes location

/-- Puts a file or a directory into a directory. A directory that is already there must not become a file. -/
def put (tree : FileTree) (name : String) (directory : Location) (node : FileNode)
    (hdirectory : tree.node? directory = some .directory)
    (hkeep : tree.node? (name :: directory) = some .directory → node = .directory) : FileTree where
  nodes := tree.nodes.insert (name :: directory) node
  home := tree.home
  parents := by
    intro inner outer found hfound
    have hkept : ∀ place, tree.node? place = some .directory →
        nodeIn (tree.nodes.insert (name :: directory) node) place = some .directory := by
      intro place hplace
      simp only [node?, nodeIn] at hplace hkeep ⊢
      split
      · rfl
      · rename_i hne
        rw [if_neg hne] at hplace
        rw [SortedMap.get?_insert]
        split
        · rename_i heq
          rw [hkeep (by rw [heq, if_neg hne]; exact hplace)]
        · exact hplace
    apply hkept
    rw [SortedMap.get?_insert] at hfound
    split at hfound
    · rename_i heq
      cases heq
      exact hdirectory
    · exact tree.parents inner outer found hfound

def below (tree : FileTree) (location : Location) : List (Location × FileNode) :=
  (match tree.node? location with
    | some node => [([], node)]
    | none => []) ++
  tree.nodes.entries.filterMap fun entry =>
    if location.length < entry.1.length ∧ location <:+ entry.1 then
      some (entry.1.take (entry.1.length - location.length), entry.2)
    else none

end FileTree

end BenchReport
