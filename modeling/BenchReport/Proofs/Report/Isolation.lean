import BenchReport.FileTree.Change
import BenchReport.Proofs.Chart.Gallery
import BenchReport.Report.Run
import BenchReport.Settings.Preset

/-!
# Outputs do not disturb one another

A run reads all its inputs before it writes anything, and each output changes the tree at most at and below the location that its path names. When these locations are unrelated and their parent directories exist, every output fares as if it were the only one: its status and what it writes are those of writing it alone into the original tree, from the evidence found there. So leaving other outputs out changes neither, whether they would have succeeded or failed, and it does not matter whether an output replaces an input.
-/

namespace BenchReport

open FileTree

/-! ### One output -/

/-- Writes a text and tells how much it holds, or what kept it from being written. -/
def writeReported (report : FileFault → ReportError) (tree : FileTree) (path text : String)
    (count : Nat) : FileTree × Except ReportError Nat :=
  match tree.writeFile path (.text text) with
  | .ok written => (written, .ok count)
  | .error fault => (tree, .error (report fault))

theorem writeText_eq (tree : FileTree) (path text : String) (count : Nat) :
    writeText tree path text count = writeReported (.outputUnwritable path) tree path text count :=
  rfl

theorem writeBaseline_eq (tree : FileTree) (path : String) (harvested : Results) :
    writeBaseline tree path harvested =
      writeReported .snapshotUnwritable tree path harvested.snapshotText harvested.size := by
  rw [writeBaseline, Results.saveSnapshot, writeReported]
  cases tree.writeFile path (.text harvested.snapshotText) <;> rfl

theorem writeReported_parallel (report : FileFault → ReportError) {left right : FileTree}
    {path : String} {location : Location} (hleft : left.target? path = some location)
    (hright : right.target? path = some location) (hsame : SameBelow location left right)
    (text : String) (count : Nat) :
    (writeReported report left path text count).2 = (writeReported report right path text count).2 ∧
      Parallel location left right (writeReported report left path text count).1
        (writeReported report right path text count).1 := by
  rw [writeReported, writeReported]
  rcases writeFile_parallel hleft hright hsame (hsame location (List.suffix_refl location))
      (fun _ => List.suffix_refl location) (.text text) with
    ⟨fault, h, h'⟩ | ⟨left', right', h, h', hparallel⟩
  · rw [h, h']
    exact ⟨rfl, Parallel.refl hsame⟩
  · rw [h, h']
    exact ⟨rfl, hparallel⟩

section Run

variable (evidence : Evidence) (settings : Settings) {painter : Option Painter}

/-- An output fares the same in two trees that agree at and below its location. -/
theorem Output.write_parallel (output : Output) {left right : FileTree} {path : String}
    {location : Location} (hpainter : output = .charts → ∀ one ∈ painter, '/' ∉ one.extension.toList)
    (hleft : left.target? path = some location) (hright : right.target? path = some location)
    (hsame : SameBelow location left right) :
    (output.write evidence settings painter path left).2 =
        (output.write evidence settings painter path right).2 ∧
      Parallel location left right (output.write evidence settings painter path left).1
        (output.write evidence settings painter path right).1 := by
  cases output with
  | points =>
      simp only [write, writeText_eq]
      exact writeReported_parallel _ hleft hright hsame _ _
  | measures =>
      simp only [write, writeText_eq]
      exact writeReported_parallel _ hleft hright hsame _ _
  | baseline =>
      simp only [write, writeBaseline_eq]
      exact writeReported_parallel _ hleft hright hsame _ _
  | charts =>
      have h := Gallery.write_parallel hleft hright hsame evidence.head settings.chartVariants settings
        (hpainter rfl)
      exact ⟨congrArg (Except.map List.length) h.1, h.2⟩
  | comment =>
      simp only [write, writeComment, writeText_eq]
      cases evidence.base with
      | error error => exact ⟨rfl, Parallel.refl hsame⟩
      | ok base => exact writeReported_parallel _ hleft hright hsame _ _

theorem Output.write_confined (output : Output) {tree : FileTree} {path : String}
    {location : Location} (hpainter : output = .charts → ∀ one ∈ painter, '/' ∉ one.extension.toList)
    (htarget : tree.target? path = some location) :
    Confined location tree (output.write evidence settings painter path tree).1 :=
  (output.write_parallel evidence settings hpainter htarget htarget fun _ _ => rfl).2.left

/-! ### A list of outputs -/

/-- The paths of some outputs lead to unrelated locations, in directories that exist. -/
structure Unrelated (tree : FileTree) (entries : List (Output × String)) : Prop where
  held : ∀ entry ∈ entries, (tree.target? entry.2).isSome
  apart : entries.Pairwise fun one other => ∀ location ∈ tree.target? one.2,
    ∀ place ∈ tree.target? other.2, Apart location place

instance (tree : FileTree) (entries : List (Output × String)) : Decidable (Unrelated tree entries) :=
  decidable_of_iff (_ ∧ _) ⟨fun h => ⟨h.1, h.2⟩, fun h => ⟨h.1, h.2⟩⟩

/-- The status of an output that is written alone. -/
def soloStatus (evidence : Evidence) (settings : Settings) (painter : Option Painter)
    (tree : FileTree) (entry : Output × String) : OutputStatus :=
  ⟨entry.1, (entry.1.write evidence settings painter entry.2 tree).2⟩

/-- The tree after an output that is written alone. -/
def soloTree (evidence : Evidence) (settings : Settings) (painter : Option Painter)
    (tree : FileTree) (entry : Output × String) : FileTree :=
  (entry.1.write evidence settings painter entry.2 tree).1

/-- Some outputs have locations to be written to, and the charts do not leave theirs. -/
structure Housed (painter : Option Painter) (tree : FileTree) (entries : List (Output × String)) :
    Prop where
  contained : ∀ entry ∈ entries, entry.1 = .charts → ∀ one ∈ painter, '/' ∉ one.extension.toList
  held : ∀ entry ∈ entries, (tree.target? entry.2).isSome

theorem Housed.mono {tree : FileTree} {entries others : List (Output × String)}
    (h : Housed painter tree entries) (hsubset : others ⊆ entries) : Housed painter tree others :=
  ⟨fun entry hentry => h.contained entry (hsubset hentry),
    fun entry hentry => h.held entry (hsubset hentry)⟩

/-- A later state of a tree that differs at and below the locations of some outputs only. -/
structure Reached (tree : FileTree) (entries : List (Output × String)) (before after : FileTree) :
    Prop where
  keeps : Keeps before after
  elsewhere : ∀ place, (∀ entry ∈ entries, ∀ location ∈ tree.target? entry.2,
    ¬location <:+ place) → after.node? place = before.node? place

theorem writeOutputs_cons (entry : Output × String) (rest : List (Output × String))
    (tree : FileTree) :
    writeOutputs evidence settings painter (entry :: rest) tree =
      ((writeOutputs evidence settings painter rest
          (soloTree evidence settings painter tree entry)).1,
        soloStatus evidence settings painter tree entry ::
          (writeOutputs evidence settings painter rest
            (soloTree evidence settings painter tree entry)).2) := rfl

theorem writeOutputs_reached {tree now : FileTree} {entries : List (Output × String)}
    (h : Housed painter tree entries) (hkeeps : Keeps tree now) :
    Reached tree entries now (writeOutputs evidence settings painter entries now).1 := by
  induction entries generalizing now with
  | nil => exact ⟨Keeps.refl now, fun _ _ => rfl⟩
  | cons entry rest ih =>
      -- Paths still lead where they led in the original tree, since directories stay.
      obtain ⟨location, htarget⟩ := Option.isSome_iff_exists.1 (h.held _ List.mem_cons_self)
      have hconfined := entry.1.write_confined evidence settings
        (h.contained _ List.mem_cons_self) (target?_of_keeps hkeeps htarget)
      have hlater := ih (h.mono (List.subset_cons_self _ _)) (hkeeps.trans hconfined.toKeeps)
      rw [writeOutputs_cons]
      refine ⟨hconfined.toKeeps.trans hlater.keeps, fun place hplace => ?_⟩
      rw [List.forall_mem_cons] at hplace
      refine (hlater.elsewhere place hplace.2).trans ?_
      exact hconfined.elsewhere place (hplace.1 location htarget)

/-- Outputs change nothing at and below a location that is apart from theirs. -/
theorem Reached.sameBelow {tree before after : FileTree} {entries : List (Output × String)}
    (h : Reached tree entries before after) {location : Location}
    (hapart : ∀ entry ∈ entries, ∀ place ∈ tree.target? entry.2, Apart location place) :
    SameBelow location before after := fun inner hinner =>
  (h.elsewhere inner fun entry hentry place hplace =>
    (hapart entry hentry place hplace).symm.not_below hinner).symm

theorem writeOutputs_append (init rest : List (Output × String)) (tree : FileTree) :
    writeOutputs evidence settings painter (init ++ rest) tree =
      ((writeOutputs evidence settings painter rest
          (writeOutputs evidence settings painter init tree).1).1,
        (writeOutputs evidence settings painter init tree).2 ++
          (writeOutputs evidence settings painter rest
            (writeOutputs evidence settings painter init tree).1).2) := by
  induction init generalizing tree with
  | nil => rfl
  | cons entry init ih =>
      rw [List.cons_append, writeOutputs_cons, writeOutputs_cons, ih, List.cons_append]

theorem map_output_writeOutputs (entries : List (Output × String)) (tree : FileTree) :
    (writeOutputs evidence settings painter entries tree).2.map OutputStatus.output =
      entries.map Prod.fst := by
  induction entries generalizing tree with
  | nil => rfl
  | cons entry rest ih =>
      rw [writeOutputs_cons, List.map_cons, List.map_cons, ih, soloStatus]

/-- The status of an output is found after those of others. -/
theorem find?_statuses {init : List (Output × String)} {output : Output}
    (h : ∀ entry ∈ init, entry.1 ≠ output) (tree : FileTree) (result : Except ReportError Nat)
    (later : List OutputStatus) :
    ((writeOutputs evidence settings painter init tree).2 ++ ⟨output, result⟩ :: later).find?
      (fun status => status.output == output) = some ⟨output, result⟩ := by
  rw [List.find?_append, List.find?_eq_none.2, Option.none_or, List.find?_cons_of_pos]
  · exact beq_self_eq_true output
  · intro status hin houtput
    have hentry : status.output ∈ init.map Prod.fst := by
      rw [← map_output_writeOutputs]
      exact List.mem_map_of_mem hin
    obtain ⟨entry, hmem, heq⟩ := List.mem_map.1 hentry
    exact h entry hmem (heq.trans (eq_of_beq houtput))

theorem length_writeOutputs (entries : List (Output × String)) (tree : FileTree) :
    (writeOutputs evidence settings painter entries tree).2.length = entries.length := by
  simpa using congrArg List.length (map_output_writeOutputs evidence settings entries tree)

/-- Among outputs that are apart from it, an output fares as if it were the only one. -/
theorem writeOutputs_among {tree : FileTree} {init rest : List (Output × String)}
    {entry : Output × String} {location : Location}
    (h : Housed painter tree (init ++ entry :: rest))
    (htarget : tree.target? entry.2 = some location)
    (hapart : ∀ other ∈ init ++ rest, ∀ place ∈ tree.target? other.2, Apart location place) :
    (∃ later, (writeOutputs evidence settings painter (init ++ entry :: rest) tree).2 =
      (writeOutputs evidence settings painter init tree).2 ++
        soloStatus evidence settings painter tree entry :: later) ∧
      SameBelow location (soloTree evidence settings painter tree entry)
        (writeOutputs evidence settings painter (init ++ entry :: rest) tree).1 := by
  rw [List.forall_mem_append] at hapart
  -- What is there before the output is written is as in the original tree, and stays as it leaves it.
  have hearlier := writeOutputs_reached evidence settings
    (h.mono (List.subset_append_left init _)) (Keeps.refl tree)
  obtain ⟨hstatus, hparallel⟩ := entry.1.write_parallel evidence settings
    (h.contained _ (List.mem_append_right _ List.mem_cons_self)) htarget
    (target?_of_keeps hearlier.keeps htarget) (hearlier.sameBelow hapart.1)
  have hlater := writeOutputs_reached evidence settings
    (h.mono fun other hother => List.mem_append_right init (List.mem_cons_of_mem entry hother))
    (hearlier.keeps.trans hparallel.right.toKeeps)
  rw [writeOutputs_append, writeOutputs_cons]
  constructor
  · rw [soloStatus, soloStatus, hstatus]
    exact ⟨_, rfl⟩
  · intro place hplace
    rw [soloTree, hparallel.same place hplace]
    exact hlater.sameBelow hapart.2 place hplace

/-- What a list of unrelated outputs leaves behind. -/
structure Isolated (evidence : Evidence) (settings : Settings) (painter : Option Painter)
    (tree : FileTree) (entries : List (Output × String)) (result : FileTree × List OutputStatus) :
    Prop where
  statuses : result.2 = entries.map (soloStatus evidence settings painter tree)
  written : ∀ entry ∈ entries, ∀ location ∈ tree.target? entry.2,
    SameBelow location (soloTree evidence settings painter tree entry) result.1

/-- The others among unrelated outputs are apart from any one of them. -/
theorem Unrelated.apart_among {tree : FileTree} {init rest : List (Output × String)}
    {entry : Output × String} (h : Unrelated tree (init ++ entry :: rest)) {location : Location}
    (htarget : tree.target? entry.2 = some location) :
    ∀ other ∈ init ++ rest, ∀ place ∈ tree.target? other.2, Apart location place := by
  obtain ⟨_, hrest, hinit⟩ := List.pairwise_append.1 h.apart
  rw [List.forall_mem_append]
  constructor
  · intro other hother place hplace
    exact (hinit other hother entry List.mem_cons_self place hplace location htarget).symm
  · intro other hother
    exact (List.pairwise_cons.1 hrest).1 other hother location htarget

theorem writeOutputs_isolated {tree : FileTree} {entries : List (Output × String)}
    (hhoused : Housed painter tree entries) (hunrelated : Unrelated tree entries) :
    Isolated evidence settings painter tree entries
      (writeOutputs evidence settings painter entries tree) := by
  constructor
  · refine List.ext_getElem (by rw [length_writeOutputs, List.length_map]) fun index hindex _ => ?_
    have hthere : index < entries.length := by rwa [length_writeOutputs] at hindex
    have hsplit : entries.take index ++ entries[index] :: entries.drop (index + 1) = entries := by
      rw [← List.drop_eq_getElem_cons, List.take_append_drop]
    obtain ⟨location, htarget⟩ :=
      Option.isSome_iff_exists.1 (hhoused.held entries[index] (List.getElem_mem hthere))
    rw [← hsplit] at hhoused hunrelated
    obtain ⟨later, hsolo⟩ := (writeOutputs_among evidence settings hhoused htarget
      (hunrelated.apart_among htarget)).1
    rw [hsplit] at hsolo
    rw [List.getElem_map, List.getElem_of_append hsolo]
    rw [length_writeOutputs, List.length_take, Nat.min_eq_left (Nat.le_of_lt hthere)]
  · intro entry hentry location htarget
    obtain ⟨init, rest, rfl⟩ := List.append_of_mem hentry
    exact (writeOutputs_among evidence settings hhoused htarget
      (hunrelated.apart_among htarget)).2

end Run

/-! ### Leaving outputs out -/

namespace Destinations

/-- The outputs that are wanted, at their old paths. -/
def keep (destinations : Destinations) (wanted : Output → Bool) : Destinations where
  points := destinations.points.filter fun _ => wanted .points
  measures := destinations.measures.filter fun _ => wanted .measures
  baseline := destinations.baseline.filter fun _ => wanted .baseline
  charts := destinations.charts.filter fun _ => wanted .charts
  comment := destinations.comment.filter fun _ => wanted .comment

theorem requested_keep (destinations : Destinations) (wanted : Output → Bool) :
    (destinations.keep wanted).requested =
      destinations.requested.filter fun entry => wanted entry.1 := by
  have hpath (output : Output) : (destinations.keep wanted).path? output =
      (destinations.path? output).filter fun _ => wanted output := by
    cases output <;> rfl
  rw [requested, requested, List.filter_filterMap]
  refine List.filterMap_congr fun output _ => ?_
  rw [hpath]
  cases destinations.path? output with
  | none => rfl
  | some path => cases hwanted : wanted output <;> simp [Option.filter, hwanted]

theorem mem_requested {destinations : Destinations} {entry : Output × String} :
    entry ∈ destinations.requested ↔ destinations.path? entry.1 = some entry.2 := by
  rw [requested, List.mem_filterMap]
  constructor
  · rintro ⟨output, _, hentry⟩
    obtain ⟨path, hpath, rfl⟩ := Option.map_eq_some_iff.1 hentry
    exact hpath
  · intro hpath
    refine ⟨entry.1, ?_, ?_⟩
    · cases entry.1 <;> decide
    · rw [hpath, Option.map_some]

/-- The entries of some of the outputs. -/
def entriesOf (destinations : Destinations) (outputs : List Output) : List (Output × String) :=
  outputs.filterMap fun output => (destinations.path? output).map (output, ·)

theorem mem_of_mem_entriesOf {destinations : Destinations} {outputs : List Output}
    {entry : Output × String} (h : entry ∈ destinations.entriesOf outputs) : entry.1 ∈ outputs := by
  obtain ⟨output, houtput, hentry⟩ := List.mem_filterMap.1 h
  obtain ⟨_, _, rfl⟩ := Option.map_eq_some_iff.1 hentry
  exact houtput

/-- What is asked for, split at one of the outputs. -/
theorem requested_eq {destinations : Destinations} {output : Output} {path : String}
    (h : destinations.path? output = some path) {front back : List Output}
    (hall : Output.all = front ++ output :: back) :
    destinations.requested =
      destinations.entriesOf front ++ (output, path) :: destinations.entriesOf back := by
  rw [requested, hall, List.filterMap_append, List.filterMap_cons, h]
  rfl

theorem entriesOf_concat {destinations : Destinations} {output : Output} {path : String}
    (h : destinations.path? output = some path) (front : List Output) :
    destinations.entriesOf (front ++ [output]) = destinations.entriesOf front ++ [(output, path)] := by
  rw [entriesOf, List.filterMap_append, List.filterMap_cons, h]
  rfl

theorem split_requested {destinations : Destinations} {output : Output} {path : String}
    (h : destinations.path? output = some path) :
    ∃ init rest, destinations.requested = init ++ (output, path) :: rest ∧
      ∀ entry ∈ init ++ rest, entry.1 ≠ output := by
  have hdistinct : destinations.requested.Pairwise fun one other => one.1 ≠ other.1 := by
    refine List.Pairwise.filterMap _ (R := (· ≠ ·)) ?_ (by decide)
    intro one other hne entry hentry later hlater
    obtain ⟨_, _, rfl⟩ := Option.map_eq_some_iff.1 hentry
    obtain ⟨_, _, rfl⟩ := Option.map_eq_some_iff.1 hlater
    exact hne
  have hmem : (output, path) ∈ destinations.requested := mem_requested.2 h
  obtain ⟨init, rest, hsplit⟩ := List.append_of_mem hmem
  rw [hsplit] at hdistinct
  obtain ⟨_, hrest, hinit⟩ := List.pairwise_append.1 hdistinct
  refine ⟨init, rest, hsplit, List.forall_mem_append.2 ⟨fun entry hentry => ?_, ?_⟩⟩
  · exact hinit entry hentry _ List.mem_cons_self
  · intro entry hentry
    exact ((List.pairwise_cons.1 hrest).1 entry hentry).symm

end Destinations

theorem Unrelated.filter {tree : FileTree} {entries : List (Output × String)}
    (h : Unrelated tree entries) (test : Output × String → Bool) :
    Unrelated tree (entries.filter test) :=
  ⟨fun entry hentry => h.held entry (List.mem_of_mem_filter hentry), h.apart.filter test⟩

namespace Request

/-- An output is written into the tree that those before it leave, and those after it go on from there. -/
theorem run_at {request : Request} {output : Output} {path : String}
    (h : request.destinations.path? output = some path) (front : List Output) {back : List Output}
    (hall : Output.all = front ++ output :: back) (hfront : output ∉ front)
    (painter : Option Painter) (tree : FileTree) :
    ∃ before, before = (writeOutputs (request.gather tree) request.settings painter
        (request.destinations.entriesOf front) tree).1 ∧
      (request.run painter tree).2.status? output =
        some (soloStatus (request.gather tree) request.settings painter before (output, path)) ∧
      (request.run painter tree).1 = (writeOutputs (request.gather tree) request.settings painter
        (request.destinations.entriesOf back)
        (soloTree (request.gather tree) request.settings painter before (output, path))).1 := by
  have hrun : ((request.run painter tree).1, (request.run painter tree).2.statuses) =
      writeOutputs (request.gather tree) request.settings painter
        request.destinations.requested tree := rfl
  rw [Destinations.requested_eq h hall, writeOutputs_append, writeOutputs_cons] at hrun
  obtain ⟨htree, hstatuses⟩ := Prod.mk.inj hrun
  refine ⟨_, rfl, ?_, htree⟩
  rw [Outcome.status?, hstatuses]
  refine find?_statuses _ _ (fun entry hentry heq => hfront ?_) tree _ _
  exact heq ▸ Destinations.mem_of_mem_entriesOf hentry

/-- The charts stay in their directory: none are asked for, or the painter's extension has no slash. -/
def Contained (request : Request) (painter : Option Painter) : Prop :=
  request.destinations.charts.isSome → ∀ one ∈ painter, '/' ∉ one.extension.toList

theorem Contained.housed {request : Request} {painter : Option Painter} {tree : FileTree}
    (hcontained : request.Contained painter)
    (hheld : ∀ entry ∈ request.destinations.requested, (tree.target? entry.2).isSome) :
    Housed painter tree request.destinations.requested where
  contained entry hentry hcharts := hcontained (by
    have hpath := Destinations.mem_requested.1 hentry
    rw [hcharts] at hpath
    exact Option.isSome_iff_exists.2 ⟨_, hpath⟩)
  held := hheld

theorem run_isolated (request : Request) {painter : Option Painter} {tree : FileTree}
    (hcontained : request.Contained painter)
    (hunrelated : Unrelated tree request.destinations.requested) :
    Isolated (request.gather tree) request.settings painter tree request.destinations.requested
      ((request.run painter tree).1, (request.run painter tree).2.statuses) :=
  writeOutputs_isolated _ _ (hcontained.housed hunrelated.held) hunrelated

/-- The others do not reach the location of an output. -/
structure Undisturbed (request : Request) (painter : Option Painter) (tree : FileTree)
    (output : Output) (path : String) : Prop where
  asked : request.destinations.path? output = some path
  contained : request.Contained painter
  held : ∀ entry ∈ request.destinations.requested, (tree.target? entry.2).isSome
  apart : ∀ entry ∈ request.destinations.requested, entry.1 ≠ output →
    ∀ location ∈ tree.target? path, ∀ place ∈ tree.target? entry.2, Apart location place

/-- An output that the others do not reach fares as if it were the only one. -/
theorem Undisturbed.alone {request : Request} {painter : Option Painter} {tree : FileTree}
    {output : Output} {path : String} (h : request.Undisturbed painter tree output path) :
    (request.run painter tree).2.status? output =
        some (soloStatus (request.gather tree) request.settings painter tree (output, path)) ∧
      ∃ location, tree.target? path = some location ∧
        SameBelow location
          (soloTree (request.gather tree) request.settings painter tree (output, path))
          (request.run painter tree).1 := by
  have hmem : (output, path) ∈ request.destinations.requested := Destinations.mem_requested.2 h.asked
  obtain ⟨location, htarget⟩ := Option.isSome_iff_exists.1 (h.held _ hmem)
  obtain ⟨init, rest, hsplit, hothers⟩ := Destinations.split_requested h.asked
  have hsubset (other : Output × String) (hother : other ∈ init ++ rest) :
      other ∈ request.destinations.requested := by
    rw [hsplit]
    exact (List.sublist_cons_self _ rest).append_left init |>.subset hother
  have hhoused := h.contained.housed h.held
  rw [hsplit] at hhoused
  obtain ⟨⟨later, hstatus⟩, hwritten⟩ := writeOutputs_among (request.gather tree) request.settings hhoused
    htarget fun other hother place hplace =>
      h.apart other (hsubset other hother) (hothers other hother) location htarget place hplace
  rw [← hsplit] at hstatus hwritten
  refine ⟨?_, location, htarget, hwritten⟩
  rw [Outcome.status?, show (request.run painter tree).2.statuses = _ from hstatus]
  refine find?_statuses _ _ (fun other hother => ?_) tree _ later
  exact hothers other (List.mem_append_left rest hother)

/-- A request for some of the outputs only. -/
def keep (request : Request) (wanted : Output → Bool) : Request :=
  { request with destinations := request.destinations.keep wanted }

/-- Every output of a run has the status that it has when it is written alone into the original tree, and leaving other outputs out changes neither the status of an output nor what the run leaves at and below its location. -/
structure Independent (request : Request) (painter : Option Painter) (tree : FileTree)
    (wanted : Output → Bool) : Prop where
  alone : (request.run painter tree).2.statuses = request.destinations.requested.map
    (soloStatus (request.gather tree) request.settings painter tree)
  statuses : ((request.keep wanted).run painter tree).2.statuses =
    (request.run painter tree).2.statuses.filter fun status => wanted status.output
  written : ∀ entry ∈ request.destinations.requested, wanted entry.1 = true →
    ∃ location, tree.target? entry.2 = some location ∧
      SameBelow location ((request.keep wanted).run painter tree).1 (request.run painter tree).1

theorem run_independent (request : Request) (painter : Option Painter) (tree : FileTree)
    (wanted : Output → Bool) (hcontained : request.Contained painter)
    (hunrelated : Unrelated tree request.destinations.requested) :
    request.Independent painter tree wanted := by
  have hfull := request.run_isolated hcontained hunrelated
  have hkept : Unrelated tree (request.keep wanted).destinations.requested := by
    rw [keep, Destinations.requested_keep]
    exact hunrelated.filter _
  have hfewer : (request.keep wanted).Contained painter := fun hcharts => hcontained (by
    rw [keep, Destinations.keep, Option.isSome_filter] at hcharts
    exact Option.isSome_of_any hcharts)
  have hpart := (request.keep wanted).run_isolated hfewer hkept
  refine ⟨hfull.statuses, ?_, fun entry hentry hwanted => ?_⟩
  · refine hpart.statuses.trans ?_
    rw [show (request.run painter tree).2.statuses = _ from hfull.statuses, List.filter_map, keep,
      Destinations.requested_keep]
    rfl
  · obtain ⟨location, htarget⟩ := Option.isSome_iff_exists.1 (hunrelated.held entry hentry)
    refine ⟨location, htarget, fun place hplace => ?_⟩
    have hthere : entry ∈ (request.keep wanted).destinations.requested := by
      rw [keep, Destinations.requested_keep]
      exact List.mem_filter.2 ⟨hentry, hwanted⟩
    exact (hpart.written entry hthere location htarget place hplace).symm.trans
      (hfull.written entry hentry location htarget place hplace)

/-! #### A base that is replaced -/

/-- A head run beside the results of an earlier one. -/
def comparedTree : FileTree :=
  (empty.withFile "head/g/mi/new/estimates.json"
    (.text "\x7b\"median\": \x7b\"point_estimate\": 2\x7d\x7d")).withFile "base.json"
    (.text "\x7b\"g/mi\": 1\x7d")

/-- Compares with the results that the run replaces by its own. -/
def comparedRequest : Request where
  source := .estimates ⟨"head", EstimateTree.defaultStatistic⟩ (.snapshot "base.json")
  destinations := ⟨some "points.json", none, some "base.json", some "charts", some "comment.md"⟩
  settings := .standard

theorem run_independent_of_replaced_base :
    (comparedRequest.Contained (some .svg) ∧
      Unrelated comparedTree comparedRequest.destinations.requested) ∧
    comparedRequest.Independent (some .svg) comparedTree (· == .comment) := by
  have hcontained : comparedRequest.Contained (some .svg) := by
    rintro _ _ ⟨⟩
    decide
  have hunrelated : Unrelated comparedTree comparedRequest.destinations.requested := by
    decide +kernel
  exact ⟨⟨hcontained, hunrelated⟩, run_independent _ _ _ _ hcontained hunrelated⟩

/-! #### A painter that leaves the directory of the charts -/

/-- A painter whose extension leads out of the directory that its files are joined to. -/
def strayPainter : Painter := ⟨"x/../../points.json", fun _ => .ok (.text "chart")⟩

def strayTree : FileTree :=
  (empty.withDirectory "charts/g.x").withFile "bench.log" (.text "g mi 1 0 0 0")

def strayRequest : Request where
  source := .log "bench.log"
  destinations := ⟨some "points.json", none, none, some "charts", none⟩
  settings := { Settings.standard with trackedVariants := some .empty }

/-- The slash in the extension matters: the chart of one output replaces the file of another. -/
theorem not_independent_of_stray_painter :
    ¬∀ (request : Request) (painter : Option Painter) (tree : FileTree) (wanted : Output → Bool),
      Unrelated tree request.destinations.requested →
        request.Independent painter tree wanted := by
  intro h
  have hunrelated : Unrelated strayTree strayRequest.destinations.requested := by decide +kernel
  obtain ⟨location, htarget, hsame⟩ :=
    (h strayRequest (some strayPainter) strayTree (· == .points) hunrelated).written
      (.points, "points.json") (by decide) rfl
  have hlocation : strayTree.target? "points.json" = some ["points.json"] := by decide +kernel
  cases hlocation.symm.trans htarget
  have hdiffer : ((strayRequest.keep (· == .points)).run (some strayPainter) strayTree).1.node?
      ["points.json"] ≠ (strayRequest.run (some strayPainter) strayTree).1.node? ["points.json"] := by
    decide +kernel
  exact hdiffer (hsame ["points.json"] (List.suffix_refl _))

end Request

end BenchReport
