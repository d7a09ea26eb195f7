import BenchReport.Proofs.FileTree.Write
import BenchReport.Proofs.Json.Maps
import BenchReport.Proofs.Json.RoundTrip
import BenchReport.Results.Snapshot

/-!
# Snapshots read back

A snapshot is one object of numbers, whatever the names, so it reads back from its text. Finite values come back as they were, the sign of a zero included. A value that is not finite was written as null, which is no number, and then there are no results at all: what is read is what was written or an error.
-/

namespace BenchReport.Results

open FileTree

/-! ### The document -/

theorem fits_ofFloat (depth : Nat) (x : Float) : (Json.ofFloat x).Fits depth := by
  rw [Json.ofFloat]
  split
  · rename_i hfinite
    cases depth <;> exact hfinite
  · cases depth <;> exact trivial

theorem fits_toJson (results : Results) (depth : Nat) : results.toJson.Fits (depth + 1) :=
  Json.fits_ofMap (fits_ofFloat depth) results

theorem float?_ofFloat (x : Float) :
    (Json.ofFloat x).float? = if x.isFinite then some x else none := by
  rw [Json.ofFloat]
  by_cases hfinite : x.isFinite = true
  · rw [if_pos ((Binary64.isFinite_iff x).1 hfinite), if_pos hfinite]
    rfl
  · rw [if_neg fun hlt => hfinite ((Binary64.isFinite_iff x).2 hlt), if_neg hfinite]
    rfl

/-- The results of a snapshot's document are those that were written, if all of them are finite. -/
theorem ofJson?_toJson (results : Results) :
    ofJson? results.toJson =
      if results.values.all Float.isFinite then some results else none := by
  rw [ofJson?, toJson, Json.map?_ofMap_of_valid float?_ofFloat, SortedMap.mapValues_id]

/-! ### The file -/

theorem document?_snapshotText (results : Results) :
    (FileContent.text results.snapshotText).document? = some results.toJson :=
  Json.read?_text (fits_toJson results 126)

/-- Reading a file that holds the text of a snapshot. -/
theorem ofSnapshot_of_readFile {tree : FileTree} {path : String} {results : Results}
    (h : tree.readFile path = .ok (.text results.snapshotText)) :
    ofSnapshot tree path =
      if results.values.all Float.isFinite then .ok results else .error (.snapshotMalformed path) := by
  rw [ofSnapshot, exists?_of_readFile h, h]
  simp only [Bool.not_true, Bool.false_eq_true, if_false, document?_snapshotText, Option.bind_some,
    ofJson?_toJson]
  cases results.values.all Float.isFinite <;> rfl

theorem writable_of_saveSnapshot {tree after : FileTree} {path : String} {results : Results}
    (h : results.saveSnapshot tree path = .ok after) : ∃ location, tree.Writable path location := by
  rw [saveSnapshot] at h
  cases hwrite : tree.writeFile path (.text results.snapshotText) with
  | error fault =>
      rw [hwrite] at h
      cases h
  | ok written => exact writable_of_writeFile hwrite

theorem saveSnapshot_of_writable {tree : FileTree} {path : String} {location : Location}
    (h : tree.Writable path location) (results : Results) :
    ∃ after, results.saveSnapshot tree path = .ok after ∧ Confined location tree after ∧
      after.node? location = some (.file (.text results.snapshotText)) := by
  obtain ⟨after, hwrite, hconfined, hnode⟩ := h.write (.text results.snapshotText)
  refine ⟨after, ?_, hconfined, hnode⟩
  rw [saveSnapshot, hwrite]
  rfl

theorem exists_saved (results : Results) {tree : FileTree} {path : String} {location : Location}
    (h : tree.Writable path location) :
    ∃ after, results.saveSnapshot tree path = .ok after ∧ ofSnapshot after path =
      if results.values.all Float.isFinite then .ok results else .error (.snapshotMalformed path) := by
  obtain ⟨after, hsave, hconfined, hnode⟩ := saveSnapshot_of_writable h results
  exact ⟨after, hsave, ofSnapshot_of_readFile (h.reads hconfined.toKeeps hnode)⟩

/-- Where a file can be written, any results can be saved, and what is loaded then is what was saved if all values are finite, and an error if not. -/
theorem ofSnapshot_saveSnapshot (results : Results) {tree : FileTree} {path : String}
    (hwritable : ∃ content, (tree.writeFile path content).isOk = true) :
    ∃ after, results.saveSnapshot tree path = .ok after ∧
      ((∀ value ∈ results.values, value.isFinite = true) → ofSnapshot after path = .ok results) ∧
      ((∃ value ∈ results.values, value.isFinite = false) →
        ∃ error, ofSnapshot after path = .error error ∧ error.kind = .parse) := by
  obtain ⟨content, hok⟩ := hwritable
  obtain ⟨written, hwrite⟩ : ∃ written, tree.writeFile path content = .ok written := by
    cases hwrite : tree.writeFile path content with
    | error fault =>
        rw [hwrite] at hok
        cases hok
    | ok written => exact ⟨written, rfl⟩
  obtain ⟨location, hplace⟩ := writable_of_writeFile hwrite
  obtain ⟨after, hsave, hconfined, hnode⟩ := saveSnapshot_of_writable hplace results
  have hread := hplace.reads hconfined.toKeeps hnode
  refine ⟨after, hsave, fun hfinite => ?_, ?_⟩
  · rw [ofSnapshot_of_readFile hread, if_pos (List.all_eq_true.2 hfinite)]
  · rintro ⟨value, hvalue, hinfinite⟩
    refine ⟨.snapshotMalformed path, ?_, rfl⟩
    rw [ofSnapshot_of_readFile hread, if_neg]
    intro hall
    rw [List.all_eq_true.1 hall value hvalue] at hinfinite
    cases hinfinite

/-- Names with a quote, a backslash, a control character and none at all; a negative zero and the least double. -/
def awkward : Results :=
  .ofList [("\"\\\x01\n", Float.ofBits 0x8000000000000000), ("", Float.ofBits 1), ("é/🦀", 0.1)]

theorem ofSnapshot_saveSnapshot_awkward :
    (∃ content, (FileTree.empty.writeFile "base.json" content).isOk = true) ∧
    ∃ after, awkward.saveSnapshot .empty "base.json" = .ok after ∧
      ofSnapshot after "base.json" = .ok awkward := by
  have hwritable : ∃ content, (FileTree.empty.writeFile "base.json" content).isOk = true :=
    ⟨.text "", by decide +kernel⟩
  obtain ⟨after, hsave, hload, _⟩ := ofSnapshot_saveSnapshot awkward hwritable
  exact ⟨hwritable, after, hsave, hload (by decide +kernel)⟩

end BenchReport.Results
