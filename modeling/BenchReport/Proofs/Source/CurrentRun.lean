import BenchReport.Proofs.FileTree.WellNamed
import BenchReport.Source.EstimateTree

/-!
# Estimates are read by name

The path of an estimate is told by the name of its benchmark and the name by the path. So whatever order a walk takes, the results are what the files of the benchmarks hold when they are looked up one by one, and what else ends like an estimate of the current run is skipped: it belongs to no benchmark, or it holds no number.
-/

namespace BenchReport

open FileTree

namespace EstimateTree

/-- A name of directories, one inside the other. -/
def IsBenchmark (name : String) : Prop :=
  ∃ names, names ≠ [] ∧ (∀ one ∈ names, IsName one) ∧ name = "/".intercalate names

/-- The path of the current estimate of a benchmark. -/
def pathOf (source : EstimateTree) (name : String) : String :=
  Path.join source.root (name ++ "/new/estimates.json")

/-- What the file at a path says, if it is an estimate. -/
def estimateAt? (source : EstimateTree) (tree : FileTree) (path : String) : Option Float :=
  match tree.readFile path with
  | .ok content => content.document?.bind (pointEstimate? source.statistic)
  | .error _ => none

/-- The file at a path has an estimate: it is the text of a document in which the field for the statistic has a number for its point estimate. -/
def Estimates (source : EstimateTree) (tree : FileTree) (path : String) (value : Float) : Prop :=
  ∃ text document estimate number, tree.readFile path = .ok (.text text) ∧
    Json.read? text = some document ∧ document.field? source.statistic = some estimate ∧
    estimate.field? "point_estimate" = some (.number number) ∧ number.toFloat = value

/-- Whether a path ends like that of a current estimate. -/
def endsLikeCurrent (path : String) : Bool :=
  decide (["new", "estimates.json"] <:+ Path.components path)

/-- Whether a path is that of a benchmark in some results. -/
def isOfResult (source : EstimateTree) (results : Results) (path : String) : Bool :=
  results.keys.any fun name => source.pathOf name == path

/-- Whether something met lies directly in a directory `new`. -/
def liesInNew (entry : Location × FileNode) : Bool := entry.1.tail.head? == some "new"

/-! ### What a file says -/

theorem document?_eq_some {content : FileContent} {document : Json} :
    content.document? = some document ↔
      ∃ text, content = .text text ∧ Json.read? text = some document := by
  cases content with
  | text source =>
      simp only [FileContent.text.injEq, exists_eq_left']
      exact Iff.rfl
  | binary bytes => simp [FileContent.document?]

theorem float?_eq_some {json : Json} {value : Float} :
    json.float? = some value ↔ ∃ number, json = .number number ∧ number.toFloat = value := by
  cases json <;> simp [Json.float?]

theorem pointEstimate?_eq_some {statistic : String} {document : Json} {value : Float} :
    pointEstimate? statistic document = some value ↔
      ∃ estimate number, document.field? statistic = some estimate ∧
        estimate.field? "point_estimate" = some (.number number) ∧ number.toFloat = value := by
  constructor
  · intro h
    obtain ⟨estimate, hestimate, h⟩ := Option.bind_eq_some_iff.1 h
    obtain ⟨point, hpoint, h⟩ := Option.bind_eq_some_iff.1 h
    obtain ⟨number, rfl, hvalue⟩ := float?_eq_some.1 h
    exact ⟨estimate, number, hestimate, hpoint, hvalue⟩
  · intro h
    obtain ⟨estimate, number, hestimate, hpoint, hvalue⟩ := h
    exact Option.bind_eq_some_iff.2 ⟨estimate, hestimate,
      Option.bind_eq_some_iff.2 ⟨.number number, hpoint, congrArg some hvalue⟩⟩

/-- An estimate is what the fields of its document say. -/
theorem estimateAt?_eq_some {source : EstimateTree} {tree : FileTree} {path : String} {value : Float} :
    source.estimateAt? tree path = some value ↔ source.Estimates tree path value := by
  rw [estimateAt?]
  constructor
  · intro h
    cases hread : tree.readFile path with
    | error fault =>
        rw [hread] at h
        cases h
    | ok content =>
        rw [hread] at h
        obtain ⟨document, hdocument, hpoint⟩ := Option.bind_eq_some_iff.1 h
        obtain ⟨text, rfl, htext⟩ := document?_eq_some.1 hdocument
        obtain ⟨estimate, number, hfields⟩ := pointEstimate?_eq_some.1 hpoint
        exact ⟨text, document, estimate, number, hread, htext, hfields⟩
  · intro h
    obtain ⟨text, document, estimate, number, hread, htext, hfields⟩ := h
    rw [hread]
    exact Option.bind_eq_some_iff.2 ⟨document, htext,
      pointEstimate?_eq_some.2 ⟨estimate, number, hfields⟩⟩

/-! ### Names of what was met -/

theorem endsInEstimate_iff {names : Location} :
    endsInEstimate names = true ↔ ["estimates.json", "new"] <+: names := by
  constructor
  · intro h
    unfold endsInEstimate at h
    split at h
    · exact ⟨_, rfl⟩
    · cases h
  · intro h
    obtain ⟨outer, rfl⟩ := h
    rfl

theorem nameOf?_eq_some {names : Location} {name : String} :
    nameOf? names = some name ↔ ∃ file directory benchmark, benchmark ≠ [] ∧
      names = file :: directory :: benchmark ∧ name = "/".intercalate benchmark.reverse := by
  constructor
  · intro h
    match names, h with
    | file :: directory :: inner :: outer, h =>
        exact ⟨file, directory, inner :: outer, List.cons_ne_nil inner outer, rfl,
          (Option.some.inj h).symm⟩
  · intro h
    obtain ⟨file, directory, benchmark, hsome, rfl, rfl⟩ := h
    obtain ⟨inner, outer, rfl⟩ := List.exists_cons_of_ne_nil hsome
    rfl

theorem namedEstimate?_eq_some {source : EstimateTree} {entry : Location × FileNode} {name : String}
    {value : Float} :
    source.namedEstimate? entry = some (name, value) ↔
      nameOf? entry.1 = some name ∧ source.estimateIn? entry = some value := by
  rw [namedEstimate?]
  cases nameOf? entry.1 with
  | none => simp
  | some found => cases source.estimateIn? entry <;> simp

/-- What was met and ends like a current estimate belongs to the benchmark whose names are on its way. -/
theorem names_of_isCurrent {source : EstimateTree} {entry : Location × FileNode} {name : String}
    (hcurrent : source.isCurrent entry = true) (hname : nameOf? entry.1 = some name) :
    ∃ benchmark, benchmark ≠ [] ∧ entry.1 = "estimates.json" :: "new" :: benchmark ∧
      name = "/".intercalate benchmark.reverse := by
  obtain ⟨file, directory, benchmark, hsome, hnames, rfl⟩ := nameOf?_eq_some.1 hname
  rw [isCurrent, hnames] at hcurrent
  obtain ⟨outer, houter⟩ := endsInEstimate_iff.1 hcurrent
  cases houter
  exact ⟨benchmark, hsome, hnames, rfl⟩

theorem isName_parts : IsName "estimates.json" ∧ IsName "new" := by decide

theorem forall_isName_parts {benchmark : Location} (hnames : ∀ one ∈ benchmark, IsName one) :
    ∀ one ∈ "estimates.json" :: "new" :: benchmark, IsName one :=
  List.forall_mem_cons.2 ⟨isName_parts.1, List.forall_mem_cons.2 ⟨isName_parts.2, hnames⟩⟩

theorem pathOf_intercalate (source : EstimateTree) {names : List String} (hsome : names ≠ [])
    (hnames : ∀ one ∈ names, IsName one) :
    source.pathOf ("/".intercalate names) =
      pathBelow source.root ("estimates.json" :: "new" :: names.reverse) := by
  have hending : "/".intercalate ["new", "estimates.json"] = "new/estimates.json" := by decide
  have hslash : "/new/estimates.json" = "/" ++ "new/estimates.json" := by decide
  rw [pathBelow_eq (forall_isName_parts (by simpa using hnames)) (List.cons_ne_nil _ _), pathOf,
    List.reverse_cons, List.reverse_cons, List.reverse_reverse, List.append_assoc,
    List.singleton_append, String.intercalate_append_of_ne_nil hsome (List.cons_ne_nil _ _), hending,
    hslash, String.append_assoc]

/-! ### Estimates -/

/-- How many of a list a partial function leaves out. -/
theorem length_sub_filterMap {α β : Type} (f : α → Option β) (list : List α) :
    list.length - (list.filterMap f).length = (list.filter fun one => !(f one).isSome).length := by
  have hsplit := List.length_eq_countP_add_countP (fun one => (f one).isSome) (l := list)
  rw [List.length_filterMap_eq_countP, ← List.countP_eq_length_filter]
  simp only [Bool.not_eq_true, Bool.decide_eq_false] at hsplit
  omega

section Harvest

variable {source : EstimateTree} {tree : FileTree} {location : Location}
  (hlocate : tree.locate source.root = .ok location)
  (hdirectory : tree.node? location = some .directory) (hnamed : tree.WellNamed)

include hlocate hdirectory hnamed

/-- What a walk reads is what is read by the path. -/
theorem estimateIn?_eq {entry : Location × FileNode} (hmet : entry ∈ tree.met source.root)
    (hsome : entry.1 ≠ []) :
    source.estimateIn? entry = source.estimateAt? tree (pathBelow source.root entry.1) := by
  have hread (content : FileContent) : contentMet? source.root entry = some content ↔
      tree.readFile (pathBelow source.root entry.1) = .ok content :=
    contentMet?_iff_readFile hlocate hdirectory hmet
      (hnamed.isName_of_mem_met hlocate hdirectory hmet) hsome
  rw [estimateIn?, estimateAt?]
  cases hfile : tree.readFile (pathBelow source.root entry.1) with
  | ok content =>
      rw [(hread content).2 hfile]
      rfl
  | error fault =>
      cases hcontent : contentMet? source.root entry with
      | none => rfl
      | some content =>
          rw [(hread content).1 hcontent] at hfile
          cases hfile

/-- What was met is the estimate of a benchmark if its path is the one for the benchmark. -/
theorem namedEstimate?_iff_path {entry : Location × FileNode} (hmet : entry ∈ tree.met source.root)
    {name : String} {value : Float} :
    source.isCurrent entry = true ∧ source.namedEstimate? entry = some (name, value) ↔
      IsBenchmark name ∧ source.pathOf name = pathBelow source.root entry.1 ∧
        source.estimateAt? tree (source.pathOf name) = some value := by
  have hproper := hnamed.isName_of_mem_met hlocate hdirectory hmet
  rw [namedEstimate?_eq_some]
  constructor
  · intro h
    obtain ⟨hcurrent, hname, hvalue⟩ := h
    obtain ⟨benchmark, hsome, hnames, rfl⟩ := names_of_isCurrent hcurrent hname
    have hreverse : benchmark.reverse ≠ [] := by simpa using hsome
    have hbenchmark : ∀ one ∈ benchmark.reverse, IsName one := by
      intro one hone
      refine hproper one ?_
      rw [hnames]
      exact List.mem_cons_of_mem _ (List.mem_cons_of_mem _ (List.mem_reverse.1 hone))
    have hpath : source.pathOf ("/".intercalate benchmark.reverse) = pathBelow source.root entry.1 := by
      rw [pathOf_intercalate source hreverse hbenchmark, List.reverse_reverse, hnames]
    refine ⟨⟨_, hreverse, hbenchmark, rfl⟩, hpath, ?_⟩
    rw [hpath, ← estimateIn?_eq hlocate hdirectory hnamed hmet (by rw [hnames]; simp)]
    exact hvalue
  · intro h
    obtain ⟨⟨names, hsome, hnames, rfl⟩, hpath, hvalue⟩ := h
    rw [hpath] at hvalue
    rw [pathOf_intercalate source hsome hnames] at hpath
    have hsame := pathBelow_injective (forall_isName_parts (by simpa using hnames)) hproper hpath
    rw [estimateIn?_eq hlocate hdirectory hnamed hmet (by rw [← hsame]; simp), isCurrent, ← hsame]
    refine ⟨endsInEstimate_iff.2 ⟨names.reverse ++ _, rfl⟩, ?_, ?_⟩
    · exact nameOf?_eq_some.2 ⟨_, _, names.reverse, by simpa using hsome, rfl,
        by rw [List.reverse_reverse]⟩
    · rw [hsame]
      exact hvalue

variable {entries : List (Location × FileNode)} (hperm : entries.Perm (tree.met source.root))

include hperm

/-- Whatever order a walk takes, it yields what the files of the benchmarks say. -/
theorem mem_named {name : String} {value : Float} :
    (name, value) ∈ (entries.filter source.isCurrent).filterMap source.namedEstimate? ↔
      IsBenchmark name ∧ source.estimateAt? tree (source.pathOf name) = some value := by
  rw [List.mem_filterMap]
  constructor
  · intro h
    obtain ⟨entry, hentry, hvalue⟩ := h
    obtain ⟨hentry, hcurrent⟩ := List.mem_filter.1 hentry
    obtain ⟨hname, _, hvalue⟩ := (namedEstimate?_iff_path hlocate hdirectory hnamed
      (hperm.mem_iff.1 hentry)).1 ⟨hcurrent, hvalue⟩
    exact ⟨hname, hvalue⟩
  · intro h
    obtain ⟨hname, hvalue⟩ := h
    obtain ⟨names, hsome, hnames, rfl⟩ := id hname
    have hpath := pathOf_intercalate source hsome hnames
    have hall : ∀ one ∈ "estimates.json" :: "new" :: names.reverse, IsName one :=
      forall_isName_parts (by simpa using hnames)
    cases hread : tree.readFile (source.pathOf ("/".intercalate names)) with
    | error fault =>
        rw [estimateAt?, hread] at hvalue
        cases hvalue
    | ok content =>
        rw [hpath] at hread
        obtain ⟨hshort, hnode⟩ :=
          (readFile_pathBelow hlocate hdirectory hall (List.cons_ne_nil _ _)).1 hread
        have hmet := (mem_met hlocate hdirectory).2 ⟨hnode, isTooLong_tail hall hshort⟩
        obtain ⟨hcurrent, hnamed⟩ := (namedEstimate?_iff_path hlocate hdirectory hnamed hmet).2
          ⟨hname, hpath, hvalue⟩
        exact ⟨_, List.mem_filter.2 ⟨hperm.mem_iff.2 hmet, hcurrent⟩, hnamed⟩

theorem get?_harvestOf {name : String} {value : Float} :
    (source.harvestOf entries).results.get? name = some value ↔
      IsBenchmark name ∧ source.estimateAt? tree (source.pathOf name) = some value := by
  have hmem (value : Float) :
      (name, value) ∈ (entries.filter source.isCurrent).filterMap source.namedEstimate? ↔
        IsBenchmark name ∧ source.estimateAt? tree (source.pathOf name) = some value :=
    mem_named hlocate hdirectory hnamed hperm
  rw [← hmem value]
  apply SortedMap.get?_ofList_eq_some
  intro one other hone hother
  exact Option.some.inj (((hmem one).1 hone).2.symm.trans ((hmem other).1 hother).2)

/-- What was met yields a result if its path is that of a benchmark in the results. -/
theorem isOfResult_iff {entry : Location × FileNode} (hentry : entry ∈ entries)
    (hcurrent : source.isCurrent entry = true) :
    source.isOfResult (source.harvestOf entries).results (pathBelow source.root entry.1) = true ↔
      (source.namedEstimate? entry).isSome = true := by
  have hmet := hperm.mem_iff.1 hentry
  rw [isOfResult, List.any_eq_true]
  simp only [beq_iff_eq, SortedMap.mem_keys, Option.isSome_iff_exists,
    get?_harvestOf hlocate hdirectory hnamed hperm]
  constructor
  · intro h
    obtain ⟨name, ⟨value, hname, hvalue⟩, hpath⟩ := h
    exact ⟨_, ((namedEstimate?_iff_path hlocate hdirectory hnamed hmet).2
      ⟨hname, hpath, hvalue⟩).2⟩
  · intro h
    obtain ⟨⟨name, value⟩, hvalue⟩ := h
    obtain ⟨hname, hpath, hvalue⟩ := (namedEstimate?_iff_path hlocate hdirectory hnamed hmet).1
      ⟨hcurrent, hvalue⟩
    exact ⟨name, ⟨value, hname, hvalue⟩, hpath⟩

/-- The ending of a path tells what the walk looks for. -/
theorem isCurrent_eq {entry : Location × FileNode} (hentry : entry ∈ entries) :
    source.isCurrent entry = endsLikeCurrent (pathBelow source.root entry.1) := by
  have hproper := hnamed.isName_of_mem_met hlocate hdirectory (hperm.mem_iff.1 hentry)
  rw [endsLikeCurrent, components_pathBelow hproper, Bool.eq_iff_iff, decide_eq_true_iff, isCurrent,
    endsInEstimate_iff, ← List.reverse_prefix, List.reverse_append, List.reverse_reverse]
  rfl

/-- What is skipped are the paths that end like a current estimate and belong to no result. -/
theorem skipped_harvestOf :
    (source.harvestOf entries).skipped =
      ((entries.map fun entry => pathBelow source.root entry.1).filter fun path =>
        endsLikeCurrent path &&
          !source.isOfResult (source.harvestOf entries).results path).length := by
  have hskipped : (source.harvestOf entries).skipped =
      ((entries.filter source.isCurrent).filter fun entry =>
        !(source.namedEstimate? entry).isSome).length :=
    length_sub_filterMap source.namedEstimate? _
  rw [hskipped, List.filter_map, List.length_map, List.filter_filter]
  refine congrArg List.length (List.filter_congr fun entry hentry => ?_)
  change (!(source.namedEstimate? entry).isSome && source.isCurrent entry) =
    (endsLikeCurrent (pathBelow source.root entry.1) &&
      !source.isOfResult (source.harvestOf entries).results (pathBelow source.root entry.1))
  rw [Bool.and_comm, ← isCurrent_eq hlocate hdirectory hnamed hperm hentry]
  cases hcurrent : source.isCurrent entry with
  | false => rfl
  | true => rw [Bool.eq_iff_iff.2
      (isOfResult_iff hlocate hdirectory hnamed hperm hentry hcurrent)]

end Harvest

/-! ### The whole harvest -/

/-- What the estimates of the current run owe the files of a tree, however it is walked. -/
structure ReadsCurrent (source : EstimateTree) (tree : FileTree)
    (entries : List (Location × FileNode)) (harvest : Harvest) : Prop where
  /-- The results are what the files say at the paths of benchmarks. -/
  results : ∀ name value, harvest.results.get? name = some value ↔
    IsBenchmark name ∧ source.Estimates tree (source.pathOf name) value
  skipped : harvest.skipped = ((entries.map fun entry => pathBelow source.root entry.1).filter
    fun path => endsLikeCurrent path && !source.isOfResult harvest.results path).length
  order : harvest = source.harvest tree
  /-- Nothing is read from a directory of another name. -/
  onlyNew : (source.harvestOf (entries.filter liesInNew)).results = harvest.results
  warning : harvest.warning.isSome = harvest.results.isEmpty

theorem isSome_warning (results : Results) (skipped : Nat) (source : String) :
    (Harvest.ofResults results skipped source).warning.isSome = results.isEmpty := by
  rw [Harvest.ofResults]
  cases results.isEmpty <;> rfl

/-- Only what lies in a directory `new` yields a result. -/
theorem namedEstimates_onlyNew (source : EstimateTree) (entries : List (Location × FileNode)) :
    ((entries.filter liesInNew).filter source.isCurrent).filterMap source.namedEstimate? =
      (entries.filter source.isCurrent).filterMap source.namedEstimate? := by
  rw [List.filter_filter, List.filterMap_filter, List.filterMap_filter]
  refine List.filterMap_congr fun entry _ => ?_
  cases hcurrent : source.isCurrent entry with
  | false => rfl
  | true =>
      cases hvalue : source.namedEstimate? entry with
      | none => simp
      | some found =>
          obtain ⟨hname, _⟩ := namedEstimate?_eq_some.1 hvalue
          obtain ⟨benchmark, _, hnames, _⟩ := names_of_isCurrent hcurrent hname
          rw [liesInNew, hnames]
          rfl

theorem harvestOf_perm (source : EstimateTree) {entries others : List (Location × FileNode)}
    (hperm : entries.Perm others)
    (hresults : (source.harvestOf entries).results = (source.harvestOf others).results) :
    source.harvestOf entries = source.harvestOf others := by
  have hcurrent := hperm.filter source.isCurrent
  have hskipped : (source.harvestOf entries).skipped = (source.harvestOf others).skipped := by
    change _ - _ = _ - _
    rw [hcurrent.length_eq, (hcurrent.filterMap source.namedEstimate?).length_eq]
  change Harvest.ofResults (source.harvestOf entries).results (source.harvestOf entries).skipped
    source.root = _
  rw [hresults, hskipped]
  rfl

/-- A walk over a tree that is there reads exactly the estimates of the current run. -/
theorem harvestOf_readsCurrent {source : EstimateTree} {tree : FileTree}
    {entries : List (Location × FileNode)} (hroot : tree.isDirectory source.root = true)
    (hnamed : tree.WellNamed) (hperm : entries.Perm (tree.met source.root)) :
    source.ReadsCurrent tree entries (source.harvestOf entries) := by
  obtain ⟨location, hlocate, hdirectory⟩ := locate_of_isDirectory hroot
  refine ⟨fun name value => ?_, skipped_harvestOf hlocate hdirectory hnamed hperm, ?_, ?_,
    isSome_warning _ _ _⟩
  · rw [← estimateAt?_eq_some]
    exact get?_harvestOf hlocate hdirectory hnamed hperm
  · apply harvestOf_perm source hperm
    apply SortedMap.ext_get?
    intro name
    apply Option.ext
    intro value
    rw [get?_harvestOf hlocate hdirectory hnamed hperm,
      get?_harvestOf hlocate hdirectory hnamed (List.Perm.refl _)]
  · change SortedMap.ofList _ = SortedMap.ofList _
    rw [namedEstimates_onlyNew]

/-! #### Benchmarks among earlier runs, other files and directories -/

def medianOf (value : String) : FileContent :=
  .text ("\x7b\"median\": \x7b\"point_estimate\": " ++ value ++ "\x7d\x7d")

/-- Two benchmarks, one of them called `new`, and estimates that are of an earlier run, of no benchmark, no document and no file. -/
def mixedTree : FileTree :=
  (((((FileTree.empty.withFile "out/g/mi/new/estimates.json" (medianOf "2")).withFile
    "out/g/mi/base/estimates.json" (medianOf "9")).withFile
    "out/new/estimates.json" (medianOf "9")).withFile
    "out/new/new/estimates.json" (medianOf "3")).withFile
    "out/g/sys/new/estimates.json" (.text "no document")).withDirectory
    "out/h/new/estimates.json"

theorem wellNamed_mixedTree : mixedTree.WellNamed := by
  unfold mixedTree
  apply WellNamed.withDirectory
  iterate 5 apply WellNamed.withFile
  exact wellNamed_empty

def mixedSource : EstimateTree := ⟨"out", defaultStatistic⟩

theorem harvestOf_mixedTree :
    (mixedTree.isDirectory mixedSource.root = true ∧ mixedTree.WellNamed ∧
      (mixedTree.met mixedSource.root).reverse.Perm (mixedTree.met mixedSource.root)) ∧
    mixedSource.ReadsCurrent mixedTree (mixedTree.met mixedSource.root).reverse
      (mixedSource.harvestOf (mixedTree.met mixedSource.root).reverse) ∧
    (mixedSource.harvestOf (mixedTree.met mixedSource.root).reverse).results.entries =
      [("g/mi", 2), ("new", 3)] ∧
    (mixedSource.harvestOf (mixedTree.met mixedSource.root).reverse).skipped = 3 := by
  have hrun : mixedTree.isDirectory mixedSource.root = true ∧
      (mixedSource.harvestOf (mixedTree.met mixedSource.root).reverse).results.entries =
        [("g/mi", 2), ("new", 3)] ∧
      (mixedSource.harvestOf (mixedTree.met mixedSource.root).reverse).skipped = 3 := by
    decide +kernel
  have hperm := List.reverse_perm (mixedTree.met mixedSource.root)
  refine ⟨⟨hrun.1, wellNamed_mixedTree, hperm⟩, ?_, hrun.2⟩
  exact harvestOf_readsCurrent hrun.1 wellNamed_mixedTree hperm

end EstimateTree

end BenchReport
