import BenchReport.Proofs.Delta.Partition
import BenchReport.Proofs.Markdown.Reading
import BenchReport.Settings.Preset

/-!
# Reports of reordered deltas

A report counts deltas, files the rows under the groups in name order and sorts each group by name. Counting does not look at the order of the deltas, nor does collecting the groups, and sorting forgets it, since no two rows have the same name. What keeps the order are the bullets, which stand as the deltas of one run only come. So all that a report shows of the order of its deltas is the order of these.
-/

namespace BenchReport

theorem Tally.ofDeltas_of_perm {left right : List Delta} (h : left.Perm right)
    (wanted : String → Bool) : Tally.ofDeltas left wanted = Tally.ofDeltas right wanted := by
  have hcounted := h.filter fun delta => wanted (Results.variantOf delta.name)
  rw [Tally.ofDeltas, Tally.ofDeltas]
  simp only [hcounted.countP_eq]

namespace Markdown

open SortedMap

/-! ### Tables -/

section Rows

variable {rows other : List Row} (h : rows.Perm other)

include h

theorem groupsOf_of_perm : groupsOf rows = groupsOf other := by
  have hgroups : SortedSet.ofList (rows.map Row.group) = SortedSet.ofList (other.map Row.group) := by
    apply SortedSet.ext
    intro group
    rw [SortedSet.mem_keys_ofList, SortedSet.mem_keys_ofList, (h.map Row.group).mem_iff]
  rw [groupsOf, hgroups, groupsOf]

theorem rowsOf_of_perm (hnames : (rows.map Row.name).Nodup) (group : String) :
    rowsOf rows group = rowsOf other group := by
  apply mergeSort_eq_of_perm Row.name (h.filter _)
  intro row hrow found hfound hname
  exact List.inj_on_of_nodup_map hnames (List.mem_of_mem_filter hrow)
    (List.mem_of_mem_filter hfound) hname

theorem groupLines_of_perm (hnames : (rows.map Row.name).Nodup) (group : String) :
    groupLines rows group = groupLines other group := by
  rw [groupLines, rowsOf_of_perm h hnames, groupLines]

end Rows

theorem nodup_names_rows {deltas : List Delta} (h : (deltas.map Delta.name).Nodup) :
    ((deltas.filterMap Row.ofDelta?).map Row.name).Nodup := by
  rw [List.Nodup, List.pairwise_map] at h ⊢
  refine h.filterMap Row.ofDelta? fun delta other hne row hrow found hfound => ?_
  cases delta <;> cases hrow
  cases other <;> cases hfound
  exact hne

/-! ### Bullets -/

theorem filterMap_addedLine? (deltas : List Delta) :
    deltas.filterMap addedLine? = (deltas.filter Delta.isAdded).filterMap addedLine? := by
  rw [List.filterMap_filter]
  refine List.filterMap_congr fun delta _ => ?_
  cases delta <;> rfl

theorem filterMap_removedLine? (deltas : List Delta) :
    deltas.filterMap removedLine? = (deltas.filter Delta.isRemoved).filterMap removedLine? := by
  rw [List.filterMap_filter]
  refine List.filterMap_congr fun delta _ => ?_
  cases delta <;> rfl

/-- Deltas that their names tell apart are told by the names. -/
theorem eq_of_map_name {left right : List Delta}
    (hnames : ∀ delta ∈ left, ∀ other ∈ right, delta.name = other.name → delta = other)
    (h : left.map Delta.name = right.map Delta.name) : left = right := by
  induction left generalizing right with
  | nil => exact (List.map_eq_nil_iff.1 h.symm).symm
  | cons delta rest ih =>
      obtain ⟨other, others, rfl, hname, hothers⟩ := List.map_eq_cons_iff.1 h.symm
      have hhead := hnames delta List.mem_cons_self other List.mem_cons_self hname.symm
      have hrest := ih (fun one hone found hfound =>
        hnames one (List.mem_cons_of_mem delta hone) found (List.mem_cons_of_mem other hfound))
        hothers.symm
      rw [hhead, hrest]

/-- The deltas of names that only one of the runs has come in the same order. -/
structure SameBullets (left right : List Delta) : Prop where
  added : left.filter Delta.isAdded = right.filter Delta.isAdded
  removed : left.filter Delta.isRemoved = right.filter Delta.isRemoved

/-- The names of the bullets are those of the deltas, in their order. -/
theorem names_added_lines (deltas : List Delta) (settings : Settings) :
    ((lines deltas settings).filterMap Line.added?).map Prod.fst =
      (deltas.filter Delta.isAdded).map Delta.name := by
  rw [filterMap_added?_lines, List.map_filterMap, ← List.filterMap_eq_map, List.filterMap_filter]
  refine List.filterMap_congr fun delta _ => ?_
  cases delta <;> rfl

theorem names_removed_lines (deltas : List Delta) (settings : Settings) :
    (lines deltas settings).filterMap Line.removed? =
      (deltas.filter Delta.isRemoved).map Delta.name := by
  rw [filterMap_removed?_lines, ← List.filterMap_eq_map, List.filterMap_filter]
  refine List.filterMap_congr fun delta _ => ?_
  cases delta <;> rfl

/-! ### Reports -/

section Report

variable {left right : List Delta} (hperm : left.Perm right)
  (hnames : (left.map Delta.name).Nodup)

include hperm hnames

theorem lines_of_sameBullets (h : SameBullets left right) (settings : Settings) :
    lines left settings = lines right settings := by
  have hrows := hperm.filterMap Row.ofDelta?
  have hgroupLines := funext (groupLines_of_perm hrows (nodup_names_rows hnames))
  rw [lines, lines, Tally.ofDeltas_of_perm hperm, groupsOf_of_perm hrows, hgroupLines,
    filterMap_addedLine? left, h.added, ← filterMap_addedLine?,
    filterMap_removedLine? left, h.removed, ← filterMap_removedLine?]

/-- Some of the deltas come in the same order when their names do. -/
theorem filter_eq_of_names {kind : Delta → Bool}
    (h : (left.filter kind).map Delta.name = (right.filter kind).map Delta.name) :
    left.filter kind = right.filter kind := by
  refine eq_of_map_name (fun delta hdelta other hother hname => ?_) h
  exact List.inj_on_of_nodup_map hnames (List.mem_of_mem_filter hdelta)
    (hperm.mem_iff.2 (List.mem_of_mem_filter hother)) hname

theorem sameBullets_of_lines {settings : Settings}
    (h : lines left settings = lines right settings) : SameBullets left right := by
  constructor
  · apply filter_eq_of_names hperm hnames
    rw [← names_added_lines left settings, h, names_added_lines]
  · apply filter_eq_of_names hperm hnames
    rw [← names_removed_lines left settings, h, names_removed_lines]

/-- A report of deltas with different names shows nothing of their order but that of its bullets: it stays the same, line by line, exactly if the deltas of one run only keep theirs. -/
theorem report_reordered (settings : Settings) :
    (SameBullets left right → report left settings = report right settings) ∧
      (lines left settings = lines right settings ↔ SameBullets left right) := by
  refine ⟨fun h => ?_, sameBullets_of_lines hperm hnames, fun h => ?_⟩
  · rw [report, lines_of_sameBullets hperm hnames h, report]
  · exact lines_of_sameBullets hperm hnames h settings

end Report

/-! #### Rows, bullets and groups in another order -/

def listedDeltas : List Delta := [
  .added "n/z" 3, .paired .regressed "a/x" 1 2 1, .removed "g/y" 4,
  .paired .unchanged "a-b/x" 0 5 0, .paired .improved "a/b" 2 1 (-0.5), .added "n/a" 1,
  .removed "g/a" 7]

def shuffledDeltas : List Delta := [
  .paired .improved "a/b" 2 1 (-0.5), .removed "g/y" 4, .added "n/z" 3, .removed "g/a" 7,
  .added "n/a" 1, .paired .unchanged "a-b/x" 0 5 0, .paired .regressed "a/x" 1 2 1]

theorem report_reordered_shuffled :
    (listedDeltas.Perm shuffledDeltas ∧ (listedDeltas.map Delta.name).Nodup ∧
      SameBullets listedDeltas shuffledDeltas) ∧
    report listedDeltas .standard = report shuffledDeltas .standard ∧
    lines listedDeltas .standard ≠ lines listedDeltas.reverse .standard := by
  have hperm : listedDeltas.Perm shuffledDeltas := by decide +kernel
  have hnames : (listedDeltas.map Delta.name).Nodup := by decide
  have hbullets : SameBullets listedDeltas shuffledDeltas := ⟨by decide +kernel, by decide +kernel⟩
  refine ⟨⟨hperm, hnames, hbullets⟩, (report_reordered hperm hnames .standard).1 hbullets, ?_⟩
  have hreverse : listedDeltas.Perm listedDeltas.reverse := (List.reverse_perm _).symm
  rw [ne_eq, (report_reordered hreverse hnames .standard).2]
  intro h
  exact absurd h.added (by decide +kernel)

end Markdown

end BenchReport
