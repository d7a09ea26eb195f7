import BenchReport.FileTree.Walk
import BenchReport.Proofs.FileTree.Target
import BenchReport.Proofs.SortedMap

/-!
# Walks that writes do not disturb

What a walk meets is told by the nodes at and below the directory that it starts from. In a later state of the tree that has the same there, a walk from the same path meets the same, in the same order.
-/

namespace BenchReport.FileTree

/-- Whether a place is strictly below a location. -/
def isInside (location place : Location) : Bool :=
  decide (location.length < place.length ∧ location <:+ place)

theorem below_eq (tree : FileTree) (location : Location) :
    tree.below location =
      (match tree.node? location with
        | some node => [([], node)]
        | none => []) ++
      (tree.nodes.filter fun place _ => isInside location place).entries.filterMap fun entry =>
        some (entry.1.take (entry.1.length - location.length), entry.2) := by
  have hinside (entry : Location × FileNode) : isInside location entry.1 = true ↔
      location.length < entry.1.length ∧ location <:+ entry.1 := decide_eq_true_iff
  rw [SortedMap.filter, List.filterMap_filter]
  simp only [hinside]
  rfl

theorem get?_nodes_of_sameBelow {location place : Location} {left right : FileTree}
    (h : SameBelow location left right) (hinside : isInside location place = true) :
    left.nodes.get? place = right.nodes.get? place := by
  obtain ⟨hlength, hbelow⟩ := of_decide_eq_true hinside
  cases place with
  | nil => exact absurd hlength (Nat.not_lt_zero _)
  | cons name directory => rw [← node?_cons, ← node?_cons, h _ hbelow]

theorem below_of_sameBelow {location : Location} {left right : FileTree}
    (h : SameBelow location left right) : left.below location = right.below location := by
  have hnodes : (left.nodes.filter fun place _ => isInside location place) =
      right.nodes.filter fun place _ => isInside location place :=
    SortedMap.filter_congr fun _ hinside => get?_nodes_of_sameBelow h hinside
  rw [below_eq, below_eq, h location (List.suffix_refl location), hnodes]

theorem locate_of_keeps {before after : FileTree} (hkeeps : Keeps before after) {path : String}
    {location : Location} (hlocate : before.locate path = .ok location)
    (hnode : before.node? location = some .directory) : after.locate path = .ok location := by
  rw [locate] at hlocate ⊢
  cases htext : checkText path with
  | error fault =>
      rw [htext] at hlocate
      cases hlocate
  | ok _ =>
      rw [htext] at hlocate
      rw [hkeeps.start]
      exact walk_eq_ok_of_keeps hkeeps hlocate hnode

/-- The location of a directory that exists. -/
theorem locate_of_isDirectory {tree : FileTree} {path : String} (h : tree.isDirectory path = true) :
    ∃ location, tree.locate path = .ok location ∧ tree.node? location = some .directory := by
  rw [isDirectory, lookup] at h
  cases hlocate : tree.locate path with
  | error fault =>
      rw [hlocate] at h
      cases h
  | ok location =>
      refine ⟨location, rfl, ?_⟩
      rw [hlocate] at h
      simp only [bind, Except.bind] at h
      cases hnode : tree.node? location with
      | none =>
          rw [hnode] at h
          cases h
      | some node =>
          cases node with
          | directory => rfl
          | file content =>
              rw [hnode] at h
              cases h

/-- A path leads where it led before, if anywhere, and what is there and below is the same. -/
structure Unchanged (path : String) (before after : FileTree) : Prop where
  locate : after.locate path = before.locate path
  below : ∀ location, before.locate path = .ok location → SameBelow location before after

theorem unchanged_of_keeps {before after : FileTree} (hkeeps : Keeps before after) {path : String}
    {location : Location} (hlocate : before.locate path = .ok location)
    (hnode : before.node? location = some .directory) (hsame : SameBelow location before after) :
    Unchanged path before after := by
  refine ⟨(locate_of_keeps hkeeps hlocate hnode).trans hlocate.symm, fun place hplace => ?_⟩
  cases hlocate.symm.trans hplace
  exact hsame

theorem met_of_unchanged {before after : FileTree} {root : String}
    (h : Unchanged root before after) : after.met root = before.met root := by
  rw [met, met, h.locate]
  cases hlocate : before.locate root with
  | error fault => rfl
  | ok location =>
      have hsame := h.below location hlocate
      simp only [below_of_sameBelow hsame, hsame location (List.suffix_refl location)]

end BenchReport.FileTree
