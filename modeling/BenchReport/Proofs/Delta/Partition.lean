import BenchReport.Delta
import BenchReport.Proofs.SortedMap

/-!
# Every name is in exactly one delta

A comparison lists the names of either run once each, in increasing order, and what it says about a name is told by the two values that the runs have there. So the names fall into three parts, those of one run, those of the other and those of both, and the counts of a tally are the sizes of these parts. Swapping the runs swaps the first two parts.
-/

namespace BenchReport

open SortedMap

/-! ### The delta of one name -/

namespace Delta

theorem name_of_ofValues? {threshold : Float} {name : String} {base head : Option Float}
    {delta : Delta} (h : ofValues? threshold name base head = some delta) : delta.name = name := by
  cases base <;> cases head <;> simp only [ofValues?, Option.some.injEq, reduceCtorEq] at h <;>
    subst h <;> rfl

theorem ofValues?_isSome (threshold : Float) (name : String) (base head : Option Float) :
    (ofValues? threshold name base head).isSome ↔ base.isSome ∨ head.isSome := by
  cases base <;> cases head <;> simp [ofValues?]

/-- Whether both runs have the name. -/
def isPaired : Delta → Bool
  | paired .. => true
  | _ => false

def isAdded : Delta → Bool
  | added .. => true
  | _ => false

def isRemoved : Delta → Bool
  | removed .. => true
  | _ => false

/-- Whether both runs have the name and it is judged so. -/
def isJudged (verdict : Verdict) : Delta → Bool
  | paired found .. => decide (found = verdict)
  | _ => false

theorem any_isPaired_ofValues? (threshold : Float) (name : String) (base head : Option Float) :
    (ofValues? threshold name base head).any isPaired = (base.isSome && head.isSome) := by
  cases base <;> cases head <;> rfl

theorem any_isAdded_ofValues? (threshold : Float) (name : String) (base head : Option Float) :
    (ofValues? threshold name base head).any isAdded = (!base.isSome && head.isSome) := by
  cases base <;> cases head <;> rfl

theorem any_isRemoved_ofValues? (threshold : Float) (name : String) (base head : Option Float) :
    (ofValues? threshold name base head).any isRemoved = (base.isSome && !head.isSome) := by
  cases base <;> cases head <;> rfl

end Delta

/-! ### The deltas of all names -/

namespace Results

variable (base head : Results) (threshold : Float)

theorem mem_keys_eitherNames {name : String} :
    name ∈ (eitherNames base head).keys ↔ (base.get? name).isSome ∨ (head.get? name).isSome := by
  rw [eitherNames, SortedSet.mem_keys_ofList, List.mem_append, mem_keys, mem_keys]

/-- A delta is listed when it is what the two values of its name say. -/
theorem mem_deltas {delta : Delta} :
    delta ∈ base.deltas head threshold ↔
      Delta.ofValues? threshold delta.name (base.get? delta.name) (head.get? delta.name) =
        some delta := by
  rw [deltas, List.mem_filterMap]
  constructor
  · rintro ⟨name, _, h⟩
    rw [Delta.name_of_ofValues? h]
    exact h
  · intro h
    refine ⟨delta.name, ?_, h⟩
    rw [mem_keys_eitherNames, ← Delta.ofValues?_isSome threshold delta.name, h]
    rfl

/-- The names of the deltas are the names of either run, in the same order. -/
theorem map_name_deltas :
    (base.deltas head threshold).map Delta.name = (eitherNames base head).keys := by
  have hnames : ∀ name ∈ (eitherNames base head).keys,
      (Delta.ofValues? threshold name (base.get? name) (head.get? name)).map Delta.name =
        some name := by
    intro name hname
    have hsome := (Delta.ofValues?_isSome threshold name _ _).2
      ((mem_keys_eitherNames base head).1 hname)
    obtain ⟨delta, hdelta⟩ := Option.isSome_iff_exists.1 hsome
    rw [hdelta, Option.map_some, Delta.name_of_ofValues? hdelta]
  rw [deltas, List.map_filterMap, List.filterMap_congr hnames, List.filterMap_some]

theorem deltas_ascending :
    (base.deltas head threshold).Pairwise fun a b => a.name < b.name := by
  rw [← List.pairwise_map, map_name_deltas]
  exact keys_ascending _

/-- What is read off the deltas stays in name order. -/
theorem filterMap_deltas_ascending {γ : Type} {read : Delta → Option γ} {nameOf : γ → String}
    (hname : ∀ delta found, read delta = some found → nameOf found = delta.name) :
    ((base.deltas head threshold).filterMap read).Pairwise fun a b => nameOf a < nameOf b := by
  refine (deltas_ascending base head threshold).filterMap read
    fun delta other hlt found hfound later hlater => ?_
  rw [hname _ _ hfound, hname _ _ hlater]
  exact hlt

/-- What a comparison says under one name. -/
theorem deltas_filter_name (name : String) :
    (base.deltas head threshold).filter (fun delta => delta.name == name) =
      (Delta.ofValues? threshold name (base.get? name) (head.get? name)).toList := by
  refine eq_of_ascending Delta.name ((deltas_ascending base head threshold).filter _) ?_
    fun delta => ?_
  · cases Delta.ofValues? threshold name (base.get? name) (head.get? name) <;> simp
  · rw [List.mem_filter, beq_iff_eq, mem_deltas, Option.mem_toList]
    constructor
    · rintro ⟨h, rfl⟩
      exact h
    · intro h
      have hname := Delta.name_of_ofValues? h
      rw [hname]
      exact ⟨h, rfl⟩

/-- The number of deltas of a kind is the number of names whose values make them so. -/
theorem countP_deltas (kind : Delta → Bool) (names : List String) (test : String → Bool)
    (hnames : names.Pairwise (· < ·))
    (hkind : ∀ name, (Delta.ofValues? threshold name (base.get? name) (head.get? name)).any kind =
      (decide (name ∈ names) && test name)) :
    (base.deltas head threshold).countP kind = (names.filter test).length := by
  have hcount : (base.deltas head threshold).countP kind =
      ((eitherNames base head).keys.filter fun name => decide (name ∈ names) && test name).length := by
    rw [deltas, List.countP_filterMap, ← List.countP_eq_length_filter]
    refine List.countP_congr fun name _ => ?_
    rw [← hkind]
    cases Delta.ofValues? threshold name (base.get? name) (head.get? name) <;> rfl
  rw [hcount]
  congr 1
  refine eq_of_ascending id ((keys_ascending _).filter _) (hnames.filter _) fun name => ?_
  rw [List.mem_filter, List.mem_filter, Bool.and_eq_true, decide_eq_true_eq]
  refine ⟨fun h => h.2, fun h => ⟨?_, h⟩⟩
  have hany := hkind name
  rw [decide_eq_true h.1, h.2] at hany
  rw [mem_keys_eitherNames, ← Delta.ofValues?_isSome threshold name]
  obtain ⟨delta, hdelta, _⟩ := (Option.any_eq_true _ _).1 hany
  exact Option.isSome_iff_exists.2 ⟨delta, hdelta⟩

/-! ### Counts -/

/-- The counts of verdicts are those of the wanted names that are judged so. -/
theorem tally_judged (list : List Delta) (wanted : String → Bool) :
    (Tally.ofDeltas list wanted).improved =
        (list.filter fun delta => wanted (variantOf delta.name)).countP (Delta.isJudged .improved) ∧
      (Tally.ofDeltas list wanted).regressed =
        (list.filter fun delta => wanted (variantOf delta.name)).countP (Delta.isJudged .regressed) ∧
      (Tally.ofDeltas list wanted).unchanged =
        (list.filter fun delta => wanted (variantOf delta.name)).countP (Delta.isJudged .unchanged) := by
  refine ⟨List.countP_congr ?_, List.countP_congr ?_, List.countP_congr ?_⟩ <;>
    rintro (⟨verdict, _⟩ | _ | _) _ <;> first | rfl | cases verdict <;> simp [Delta.isJudged]

/-- The three counts of names that both runs have add up. -/
theorem tally_paired (list : List Delta) :
    (Tally.ofDeltas list fun _ => true).improved + (Tally.ofDeltas list fun _ => true).regressed +
      (Tally.ofDeltas list fun _ => true).unchanged = list.countP Delta.isPaired := by
  simp only [Tally.ofDeltas, List.filter_true]
  induction list with
  | nil => rfl
  | cons delta rest ih =>
      rcases delta with ⟨verdict, _⟩ | _ | _
      · cases verdict <;> simp only [List.countP_cons, Delta.isPaired] <;> grind
      · simpa [List.countP_cons, Delta.isPaired] using ih
      · simpa [List.countP_cons, Delta.isPaired] using ih

theorem tally_added (list : List Delta) :
    (Tally.ofDeltas list fun _ => true).added = list.countP Delta.isAdded := by
  simp only [Tally.ofDeltas, List.filter_true]
  exact List.countP_congr fun delta _ => by cases delta <;> rfl

theorem tally_removed (list : List Delta) :
    (Tally.ofDeltas list fun _ => true).removed = list.countP Delta.isRemoved := by
  simp only [Tally.ofDeltas, List.filter_true]
  exact List.countP_congr fun delta _ => by cases delta <;> rfl

end Results

/-! ### The whole comparison -/

/-- What a list of deltas owes two runs: each name of either run once, in increasing order, as added, removed or paired according to the values that the runs have there. -/
structure Delta.Accounts (base head : Results) (threshold : Float) (deltas : List Delta) : Prop where
  ascending : (deltas.map Delta.name).Pairwise (· < ·)
  names : ∀ name, name ∈ deltas.map Delta.name ↔ name ∈ base.keys ∨ name ∈ head.keys
  added : ∀ name value, Delta.added name value ∈ deltas ↔
    head.get? name = some value ∧ name ∉ base.keys
  removed : ∀ name value, Delta.removed name value ∈ deltas ↔
    base.get? name = some value ∧ name ∉ head.keys
  paired : ∀ verdict name before after change,
    Delta.paired verdict name before after change ∈ deltas ↔
      base.get? name = some before ∧ head.get? name = some after ∧
        verdict = .ofValues before after threshold ∧ change = relativeChange before after

namespace Results

theorem deltas_accounts (base head : Results) (threshold : Float) :
    Delta.Accounts base head threshold (base.deltas head threshold) where
  ascending := by
    rw [map_name_deltas]
    exact keys_ascending _
  names name := by
    rw [map_name_deltas, mem_keys_eitherNames, mem_keys, mem_keys]
  added name value := by
    rw [mem_deltas, mem_keys, Delta.name]
    cases base.get? name <;> cases head.get? name <;> simp [Delta.ofValues?]
  removed name value := by
    rw [mem_deltas, mem_keys, Delta.name]
    cases base.get? name <;> cases head.get? name <;> simp [Delta.ofValues?]
  paired verdict name before after change := by
    rw [mem_deltas, Delta.name]
    cases base.get? name <;> cases head.get? name <;> simp [Delta.ofValues?]
    grind

/-- A comparison accounts for every name of either run exactly once; its counts are the numbers of shared, new and gone names; and the comparison the other way round has the same shared names, with new and gone exchanged. -/
theorem deltas_partition (base head : Results) (threshold : Float) :
    Delta.Accounts base head threshold (base.deltas head threshold) ∧
      (let tally := Tally.ofDeltas (base.deltas head threshold) (fun _ => true)
       tally.improved + tally.regressed + tally.unchanged =
          (base.keys.filter head.contains).length ∧
        tally.added = (head.keys.filter fun name => !base.contains name).length ∧
        tally.removed = (base.keys.filter fun name => !head.contains name).length) ∧
      (∀ name value, .added name value ∈ base.deltas head threshold ↔
        .removed name value ∈ head.deltas base threshold) ∧
      (∀ name value, .removed name value ∈ base.deltas head threshold ↔
        .added name value ∈ head.deltas base threshold) ∧
      ∀ name,
        (∃ verdict before after change,
          .paired verdict name before after change ∈ base.deltas head threshold) ↔
        ∃ verdict before after change,
          .paired verdict name before after change ∈ head.deltas base threshold := by
  have hforth := deltas_accounts base head threshold
  have hback := deltas_accounts head base threshold
  refine ⟨hforth, ⟨?_, ?_, ?_⟩, fun name value => ?_, fun name value => ?_, fun name => ?_⟩
  · rw [tally_paired]
    refine countP_deltas base head threshold Delta.isPaired _ _ (keys_ascending base) fun name => ?_
    rw [Delta.any_isPaired_ofValues?, SortedMap.contains]
    simp only [mem_keys, Bool.decide_eq_true]
  · rw [tally_added]
    refine countP_deltas base head threshold Delta.isAdded _ _ (keys_ascending head) fun name => ?_
    rw [Delta.any_isAdded_ofValues?, SortedMap.contains, Bool.and_comm]
    simp only [mem_keys, Bool.decide_eq_true]
  · rw [tally_removed]
    refine countP_deltas base head threshold Delta.isRemoved _ _ (keys_ascending base) fun name => ?_
    rw [Delta.any_isRemoved_ofValues?, SortedMap.contains]
    simp only [mem_keys, Bool.decide_eq_true]
  · rw [hforth.added, hback.removed]
  · rw [hforth.removed, hback.added]
  · simp only [hforth.paired, hback.paired]
    constructor
    · rintro ⟨_, before, after, _, hbefore, hafter, _, _⟩
      exact ⟨_, after, before, _, hafter, hbefore, rfl, rfl⟩
    · rintro ⟨_, before, after, _, hbefore, hafter, _, _⟩
      exact ⟨_, after, before, _, hafter, hbefore, rfl, rfl⟩

end Results

end BenchReport
