import BenchReport.CommandLine.Invocation
import BenchReport.Proofs.Number.Arithmetic
import BenchReport.Proofs.Settings.Overrides

/-!
# Which layer a setting comes from

The settings of a request have three layers: the preset of the command, the file of overrides and the options. A layer either gives a setting or leaves it to the layer below, and no option looks at what another one did, so the result is told field by field from the layer of the options and the settings below it. Thresholds are looked at twice, that of the file before the options are laid over it and the last one after, so an option does not mend a file that is refused. The suffix of base runs comes after both looks, which it can do because neither concerns it.
-/

namespace BenchReport

/-! ### Thresholds -/

/-- A finite number that is not negative. -/
def IsThreshold (x : Float) : Prop := x.isFinite = true ∧ 0 ≤ x

namespace Settings

theorem isValid_iff {settings : Settings} :
    settings.isValid = true ↔ IsThreshold settings.threshold := by
  rw [isValid, Bool.and_eq_true, Bool.not_eq_true', decide_eq_false_iff_not, IsThreshold]
  refine and_congr_right fun hfinite =>
    Binary64.not_lt_iff (Binary64.isNaN_eq_false ?_) (by decide)
  exact ((Binary64.isFinite_iff _).1 hfinite).le

theorem checked_eq_ok {settings result : Settings} :
    settings.checked = .ok result ↔ settings = result ∧ IsThreshold settings.threshold := by
  rw [checked, ← isValid_iff]
  cases settings.isValid <;> simp

/-! ### The file over the preset -/

/-- What lies below the options: the preset, or the preset with the file laid over it. -/
def LiesBelow (tree : FileTree) (path? : Option String) (preset laid : Settings) : Prop :=
  match path? with
  | none => laid = preset
  | some path => preset.patchedBy tree path = .ok laid

/-- A file is laid over valid settings if it holds an object that overrides them with valid ones. -/
theorem liesBelow_some_iff {preset laid : Settings} (hvalid : preset.isValid = true)
    {tree : FileTree} {path : String} :
    LiesBelow tree (some path) preset laid ↔
      ∃ fields, HoldsObject tree path fields ∧ preset.Overrides (.object fields) laid ∧
        IsThreshold laid.threshold := by
  rw [← isValid_iff]
  constructor
  · intro h
    obtain ⟨fields, hholds⟩ := holdsObject_of_patchedBy h
    exact ⟨fields, hholds, (patchedBy_of_holdsObject hholds hvalid).1 h⟩
  · intro h
    obtain ⟨fields, hholds, hlaid⟩ := h
    exact (patchedBy_of_holdsObject hholds hvalid).2 hlaid

end Settings

namespace CommandLine

/-! ### Lists of names -/

theorem mem_keys_namesOf {texts : List String} {name : String} :
    name ∈ (namesOf texts).keys ↔ name ≠ "" ∧ ∃ text ∈ texts, Text.trim text = name := by
  rw [namesOf, SortedSet.mem_keys_ofList, List.mem_filter, List.mem_map, decide_eq_true_eq,
    and_comm]

/-- What a list option makes of a choice of variants: with the option, the trimmed names that are not empty. -/
def Chooses (texts? : Option (List String)) (below result : Option (SortedSet String)) : Prop :=
  match texts? with
  | none => result = below
  | some texts => ∃ set, result = some set ∧
      ∀ name, name ∈ set.keys ↔ name ≠ "" ∧ ∃ text ∈ texts, Text.trim text = name

theorem chooses_iff {texts? : Option (List String)} {below result : Option (SortedSet String)} :
    Chooses texts? below result ↔
      result = match texts? with
        | some texts => some (namesOf texts)
        | none => below := by
  cases texts? with
  | none => exact Iff.rfl
  | some texts =>
      constructor
      · intro h
        obtain ⟨set, hset, hnames⟩ := h
        have hsame : set = namesOf texts :=
          SortedSet.ext fun name => (hnames name).trans mem_keys_namesOf.symm
        rw [hset, hsame]
      · intro h
        exact ⟨_, h, fun name => mem_keys_namesOf⟩

namespace SharedOptions

variable {options : SharedOptions} {suffix? : Option String} {tree : FileTree}
  {preset laid result : Settings}

/-! ### The options over the file -/

/-- What the options and a suffix make of the settings below them. -/
structure Settles (options : SharedOptions) (suffix? : Option String) (below result : Settings) :
    Prop where
  threshold : result.threshold = options.threshold.getD below.threshold
  tracksAll : options.trackAll = true → result.trackedVariants = none
  tracks : options.trackAll = false →
    Chooses options.track below.trackedVariants result.trackedVariants
  draws : Chooses options.chartVariants below.chartVariants result.chartVariants
  baseSuffix : result.baseSuffix = suffix?.getD below.baseSuffix
  others : { result with
    threshold := below.threshold
    trackedVariants := below.trackedVariants
    chartVariants := below.chartVariants
    baseSuffix := below.baseSuffix } = below

/-- There is exactly one way to settle. -/
theorem settles_iff :
    options.Settles suffix? laid result ↔
      result = { options.applyTo laid with baseSuffix := suffix?.getD laid.baseSuffix } := by
  constructor
  · intro h
    have htracked : result.trackedVariants = (options.applyTo laid).trackedVariants := by
      rw [applyTo]
      cases hall : options.trackAll with
      | true => exact h.tracksAll hall
      | false => exact chooses_iff.1 (h.tracks hall)
    have hdrawn : result.chartVariants = (options.applyTo laid).chartVariants :=
      chooses_iff.1 h.draws
    have hothers := h.others
    rw [Settings.mk.injEq] at hothers
    obtain ⟨-, -, -, horder, hcolors, hlabels, hcaptions, hprofile, -, htitle, hheading, hcharts⟩ :=
      hothers
    rw [Settings.mk.injEq]
    exact ⟨h.threshold, htracked, hdrawn, horder, hcolors, hlabels, hcaptions, hprofile,
      h.baseSuffix, htitle, hheading, hcharts⟩
  · rintro rfl
    exact {
      threshold := rfl
      tracksAll := fun hall => if_pos hall
      tracks := fun hall => chooses_iff.2 (if_neg (Bool.eq_false_iff.1 hall))
      draws := chooses_iff.2 rfl
      baseSuffix := rfl
      others := rfl }

theorem settles_none_iff : options.Settles none laid result ↔ result = options.applyTo laid :=
  settles_iff

theorem patch_eq_ok :
    options.patch tree preset = .ok laid ↔ preset.LiesBelow tree options.settingsPath laid := by
  rw [patch]
  cases options.settingsPath with
  | none =>
      rw [Except.ok.injEq]
      exact eq_comm
  | some path => exact Iff.rfl

theorem settingsOver_eq_ok :
    options.settingsOver tree preset = .ok result ↔
      ∃ laid, preset.LiesBelow tree options.settingsPath laid ∧
        IsThreshold (options.threshold.getD laid.threshold) ∧ result = options.applyTo laid := by
  simp only [← patch_eq_ok]
  rw [settingsOver]
  cases options.patch tree preset with
  | error fault => simp [bind, Except.bind]
  | ok patched =>
      change (options.applyTo patched).checked = .ok result ↔ _
      rw [Settings.checked_eq_ok]
      constructor
      · intro h
        exact ⟨patched, rfl, h.2, h.1.symm⟩
      · intro h
        obtain ⟨laid, hlaid, hthreshold, hresult⟩ := h
        obtain rfl := Except.ok.inj hlaid
        exact ⟨hresult.symm, hthreshold⟩

/-- What the options make of any preset, and when they make nothing of it. -/
structure Resolves (options : SharedOptions) (tree : FileTree) (preset : Settings) : Prop where
  succeeds : (∃ result, options.settingsOver tree preset = .ok result) ↔
    ∃ laid, preset.LiesBelow tree options.settingsPath laid ∧
      IsThreshold (options.threshold.getD laid.threshold)
  settles : ∀ result, options.settingsOver tree preset = .ok result ↔
    ∃ laid, preset.LiesBelow tree options.settingsPath laid ∧
      IsThreshold (options.threshold.getD laid.threshold) ∧ options.Settles none laid result

theorem resolves (options : SharedOptions) (tree : FileTree) (preset : Settings) :
    options.Resolves tree preset where
  succeeds := by
    simp only [settingsOver_eq_ok]
    constructor
    · intro h
      obtain ⟨_, laid, hlaid, hthreshold, -⟩ := h
      exact ⟨laid, hlaid, hthreshold⟩
    · intro h
      obtain ⟨laid, hlaid, hthreshold⟩ := h
      exact ⟨_, laid, hlaid, hthreshold, rfl⟩
  settles := fun result => by simp only [settingsOver_eq_ok, settles_none_iff]

end SharedOptions

/-! ### Requests -/

theorem SourceOptions.isValid_preset (options : SourceOptions) : options.preset.isValid = true := by
  cases options with
  | criterion =>
      change Settings.criterion.isValid = true
      decide +kernel
  | mimalloc =>
      change Settings.mimallocBench.isValid = true
      decide +kernel

/-- Which base run two options name: a directory counts more than a snapshot. -/
inductive NamesBase : Option String → Option String → BaseSource → Prop
  | directory (path : String) (snapshot? : Option String) :
      NamesBase (some path) snapshot? (.directory path)
  | snapshot (path : String) : NamesBase none (some path) (.snapshot path)
  | absent : NamesBase none none .absent

/-- What the options of a command say about the source. -/
inductive NamesSource : SourceOptions → Source → Prop
  | criterion (head : String) (base? snapshot? : Option String) (statistic : String)
      (base : BaseSource) (h : NamesBase base? snapshot? base) :
      NamesSource (.criterion head base? snapshot? statistic) (.estimates ⟨head, statistic⟩ base)
  | mimalloc (log : String) (suffix? : Option String) :
      NamesSource (.mimalloc log suffix?) (.log log)

theorem namesSource_iff {options : SourceOptions} {source : Source} :
    NamesSource options source ↔ source = options.toSource := by
  constructor
  · intro h
    cases h with
    | criterion head base? snapshot? statistic base hbase => cases hbase <;> rfl
    | mimalloc log suffix? => rfl
  · rintro rfl
    cases options with
    | criterion head base? snapshot? statistic =>
        refine .criterion head base? snapshot? statistic _ ?_
        cases base? with
        | some path => exact .directory path snapshot?
        | none =>
            cases snapshot? with
            | some path => exact .snapshot path
            | none => exact .absent
    | mimalloc log suffix? => exact .mimalloc log suffix?

namespace Invocation

variable {invocation : Invocation} {tree : FileTree} {laid : Settings} {request : Request}

/-- The settings below the options of a command line. -/
def LiesBelow (invocation : Invocation) (tree : FileTree) (laid : Settings) : Prop :=
  invocation.source.preset.LiesBelow tree invocation.shared.settingsPath laid

/-- What a command line asks for over the settings below its options. -/
structure AsksFor (invocation : Invocation) (below : Settings) (request : Request) : Prop where
  source : NamesSource invocation.source request.source
  destinations : request.destinations = invocation.shared.destinations
  settings : invocation.shared.Settles invocation.source.baseSuffix? below request.settings

/-- There is exactly one request to ask for. -/
theorem asksFor_iff :
    invocation.AsksFor laid request ↔
      request = ⟨invocation.source.toSource, invocation.shared.destinations,
        { invocation.shared.applyTo laid with
          baseSuffix := invocation.source.baseSuffix?.getD laid.baseSuffix }⟩ := by
  rw [Request.mk.injEq, ← namesSource_iff, ← SharedOptions.settles_iff]
  constructor
  · intro h
    exact ⟨h.source, h.destinations, h.settings⟩
  · intro h
    exact ⟨h.1, h.2.1, h.2.2⟩

theorem toRequest_eq_ok :
    invocation.toRequest tree = .ok request ↔
      ∃ laid, invocation.LiesBelow tree laid ∧
        IsThreshold (invocation.shared.threshold.getD laid.threshold) ∧
          invocation.AsksFor laid request := by
  have hover : invocation.toRequest tree = .ok request ↔
      ∃ settings, invocation.shared.settingsOver tree invocation.source.preset = .ok settings ∧
        request = ⟨invocation.source.toSource, invocation.shared.destinations,
          { settings with
            baseSuffix := invocation.source.baseSuffix?.getD settings.baseSuffix }⟩ := by
    rw [toRequest]
    cases invocation.shared.settingsOver tree invocation.source.preset with
    | error fault => simp [bind, Except.bind]
    | ok settings => simp [bind, Except.bind, pure, Except.pure, eq_comm]
  simp only [hover, asksFor_iff]
  constructor
  · intro h
    obtain ⟨settings, hsettings, hrequest⟩ := h
    obtain ⟨laid, hlaid, hthreshold, rfl⟩ := SharedOptions.settingsOver_eq_ok.1 hsettings
    exact ⟨laid, hlaid, hthreshold, hrequest⟩
  · intro h
    obtain ⟨laid, hlaid, hthreshold, hrequest⟩ := h
    exact ⟨_, SharedOptions.settingsOver_eq_ok.2 ⟨laid, hlaid, hthreshold, rfl⟩, hrequest⟩

/-- How a command line becomes a request. -/
structure Resolves (invocation : Invocation) (tree : FileTree) : Prop where
  succeeds : (∃ request, invocation.toRequest tree = .ok request) ↔
    ∃ laid, invocation.LiesBelow tree laid ∧
      IsThreshold (invocation.shared.threshold.getD laid.threshold)
  asks : ∀ request, invocation.toRequest tree = .ok request ↔
    ∃ laid, invocation.LiesBelow tree laid ∧
      IsThreshold (invocation.shared.threshold.getD laid.threshold) ∧
        invocation.AsksFor laid request
  /-- What a file leaves below the options, told by the fields that it holds. -/
  overrides : ∀ path, invocation.shared.settingsPath = some path → ∀ laid,
    invocation.LiesBelow tree laid ↔
      ∃ fields, Settings.HoldsObject tree path fields ∧
        invocation.source.preset.Overrides (.object fields) laid ∧ IsThreshold laid.threshold

/-- A command line becomes a request exactly if the file can be laid over the preset and the threshold is one after the options; each setting then comes from the highest layer that gives it, whatever the preset. -/
theorem toRequest_resolves (invocation : Invocation) (tree : FileTree) :
    (∀ preset, invocation.shared.Resolves tree preset) ∧ invocation.Resolves tree := by
  refine ⟨fun preset => invocation.shared.resolves tree preset, ?_, fun request => toRequest_eq_ok, ?_⟩
  · constructor
    · intro h
      obtain ⟨request, hrequest⟩ := h
      obtain ⟨laid, hlaid, hthreshold, -⟩ := toRequest_eq_ok.1 hrequest
      exact ⟨laid, hlaid, hthreshold⟩
    · intro h
      obtain ⟨laid, hlaid, hthreshold⟩ := h
      exact ⟨_, toRequest_eq_ok.2 ⟨laid, hlaid, hthreshold, asksFor_iff.2 rfl⟩⟩
  · intro path hpath laid
    rw [LiesBelow, hpath]
    exact Settings.liesBelow_some_iff invocation.source.isValid_preset

-- All three layers at once: the file changes a color and the places, the options the rest.
example :
    (ofArguments ["mimalloc", "--log", "runs.txt", "--config", "report.json", "--threshold", "0.25",
        "--track", " system ,,mimalloc", "--base-suffix", "_old"]).toOption.map
      (fun invocation => (invocation.toRequest Settings.overridesTree).map Request.settings) =
    some (.ok { Settings.overriddenPreset with
      threshold := 0.25
      trackedVariants := some (.ofList ["mimalloc", "system"])
      baseSuffix := "_old" }) := by
  decide +kernel

end Invocation

end CommandLine

end BenchReport
