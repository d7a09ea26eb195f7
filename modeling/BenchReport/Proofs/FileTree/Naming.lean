import BenchReport.Proofs.FileTree.Walk
import BenchReport.Proofs.FileTree.Write

/-!
# What a walk meets, by paths

In a tree whose names are names of files, the path of what a walk meets leads back to it: the steps of the path are those of the root and the names on the way. So something below the root is met exactly when it can be looked up by its path, as long as the path is not too long.
-/

namespace BenchReport

/-! ### Names -/

/-- What a file or a directory can be called. -/
structure IsName (name : String) : Prop where
  nonempty : name ≠ ""
  slash : '/' ∉ name.toList
  nul : '\x00' ∉ name.toList
  dots : ¬(name = "." ∨ name = "..")
  short : ¬FileTree.nameLimit < name.utf8ByteSize

instance (name : String) : Decidable (IsName name) :=
  decidable_of_iff (name ≠ "" ∧ '/' ∉ name.toList ∧ '\x00' ∉ name.toList ∧
    ¬(name = "." ∨ name = "..") ∧ ¬FileTree.nameLimit < name.utf8ByteSize)
    ⟨fun h => ⟨h.1, h.2.1, h.2.2.1, h.2.2.2.1, h.2.2.2.2⟩,
      fun h => ⟨h.nonempty, h.slash, h.nul, h.dots, h.short⟩⟩

namespace FileTree

/-- All files and directories of a tree have names. -/
def WellNamed (tree : FileTree) : Prop :=
  ∀ entry ∈ tree.nodes.entries, ∀ name ∈ entry.1, IsName name

instance (tree : FileTree) : Decidable tree.WellNamed :=
  inferInstanceAs (Decidable (∀ entry ∈ tree.nodes.entries, ∀ name ∈ entry.1, IsName name))

theorem WellNamed.isName {tree : FileTree} (h : tree.WellNamed) {location : Location}
    {node : FileNode} (hnode : tree.node? location = some node) : ∀ name ∈ location, IsName name := by
  cases location with
  | nil => simp
  | cons name directory =>
      rw [node?_cons] at hnode
      exact h _ (SortedMap.mem_entries.2 hnode)

/-! ### Walks along names -/

theorem step_name_iff {tree : FileTree} {directory place : Location} {name : String}
    (hname : IsName name) :
    tree.step directory name = .ok place ↔
      place = name :: directory ∧ tree.node? place ≠ none := by
  constructor
  · intro h
    have hdirectory := node?_of_step h
    rw [step, if_neg (not_not_intro hdirectory), if_neg fun he => hname.dots (.inl he),
      if_neg fun he => hname.dots (.inr he), if_neg hname.short] at h
    split at h
    · cases h
    · rename_i hthere
      cases h
      exact ⟨rfl, hthere⟩
  · intro h
    obtain ⟨rfl, hthere⟩ := h
    obtain ⟨node, hnode⟩ := Option.ne_none_iff_exists'.1 hthere
    exact step_eq_ok (holder_of_node? hnode) hname.dots hname.short hthere

theorem walk_append (tree : FileTree) (place : Location) (front back : List String) :
    tree.walk place (front ++ back) =
      (tree.walk place front).bind fun next => tree.walk next back := by
  induction front generalizing place with
  | nil => rfl
  | cons name rest ih =>
      rw [List.cons_append, walk_cons, walk_cons]
      cases tree.step place name with
      | error fault => rfl
      | ok next => exact ih next

/-- A walk along names comes to what is there under these names, and to nothing else. -/
theorem walk_names_iff {tree : FileTree} {location place : Location} {names : Location}
    (hlocation : tree.node? location ≠ none) (hnames : ∀ name ∈ names, IsName name) :
    tree.walk location names.reverse = .ok place ↔
      place = names ++ location ∧ tree.node? place ≠ none := by
  induction names generalizing place with
  | nil =>
      change Except.ok location = .ok place ↔ _
      constructor
      · intro h
        cases h
        exact ⟨rfl, hlocation⟩
      · intro h
        rw [h.1]
        rfl
  | cons name outer ih =>
      rw [List.forall_mem_cons] at hnames
      rw [List.reverse_cons, walk_concat]
      constructor
      · intro h
        cases hwalk : tree.walk location outer.reverse with
        | error fault =>
            rw [hwalk] at h
            cases h
        | ok next =>
            rw [hwalk] at h
            obtain ⟨hnext, _⟩ := (ih hnames.2).1 hwalk
            obtain ⟨hplace, hthere⟩ := (step_name_iff hnames.1).1 h
            rw [hnext] at hplace
            exact ⟨hplace, hthere⟩
      · intro h
        obtain ⟨rfl, hthere⟩ := h
        obtain ⟨node, hnode⟩ := Option.ne_none_iff_exists'.1 hthere
        have hholder : tree.node? (outer ++ location) ≠ none := by
          have hdirectory : tree.node? (outer ++ location) = some .directory := holder_of_node? hnode
          rw [hdirectory]
          exact Option.some_ne_none _
        rw [(ih hnames.2).2 ⟨rfl, hholder⟩]
        exact (step_name_iff hnames.1).2 ⟨rfl, hthere⟩

/-- The slash that asks for a directory does not change where a path leads. -/
theorem walk_of_locate {tree : FileTree} {path : String} {location : Location}
    (h : tree.locate path = .ok location) :
    checkText path = .ok () ∧ tree.walk (tree.start path) (Path.steps path) = .ok location := by
  rw [locate] at h
  cases htext : checkText path with
  | error fault =>
      rw [htext] at h
      cases h
  | ok _ =>
      rw [htext] at h
      change tree.walk _ (_ ++ _) = _ at h
      refine ⟨rfl, ?_⟩
      split at h
      · rw [walk_concat] at h
        cases hwalk : tree.walk (tree.start path) (Path.steps path) with
        | error fault =>
            rw [hwalk] at h
            cases h
        | ok place =>
            rw [hwalk] at h
            have hplace := node?_of_step h
            rw [Except.bind, step, if_neg (not_not_intro hplace), if_pos rfl] at h
            exact h
      · rw [List.append_nil] at h
        exact h

/-! ### Paths of what is below -/

section Below

variable {root : String} {names : Location} (hnames : ∀ name ∈ names, IsName name)

include hnames

theorem steps_pathBelow : Path.steps (pathBelow root names) = Path.steps root ++ names.reverse := by
  induction names with
  | nil => simp [pathBelow]
  | cons name outer ih =>
      rw [List.forall_mem_cons] at hnames
      rw [pathBelow, List.foldr_cons, ← pathBelow, Path.steps_join hnames.1.slash hnames.1.nonempty,
        ih hnames.2, List.reverse_cons, List.append_assoc]

theorem isAbsolute_pathBelow : Path.isAbsolute (pathBelow root names) = Path.isAbsolute root := by
  induction names with
  | nil => rfl
  | cons name outer ih =>
      rw [List.forall_mem_cons] at hnames
      rw [pathBelow, List.foldr_cons, ← pathBelow, Path.isAbsolute_join hnames.1.slash, ih hnames.2]

/-- The path of something below the root is its names, joined to the root as one path. -/
theorem pathBelow_eq (hsome : names ≠ []) :
    pathBelow root names = Path.join root ("/".intercalate names.reverse) := by
  induction names with
  | nil => exact absurd rfl hsome
  | cons name outer ih =>
      rw [List.forall_mem_cons] at hnames
      cases outer with
      | nil => rfl
      | cons last rest =>
          have hproper : ∀ one ∈ rest.reverse, '/' ∉ one.toList ∧ one ≠ "" := by
            intro one hone
            have hname := hnames.2 one (List.mem_cons_of_mem last (List.mem_reverse.1 hone))
            exact ⟨hname.slash, hname.nonempty⟩
          have hlast := hnames.2 last List.mem_cons_self
          obtain ⟨hne, hrelative, hend⟩ :=
            Path.intercalate_concat_shape hproper hlast.slash hlast.nonempty
          rw [pathBelow, List.foldr_cons, ← pathBelow, ih hnames.2 (List.cons_ne_nil last rest),
            List.reverse_cons (a := last), Path.join_join hne hrelative hend hnames.1.slash,
            List.reverse_cons, List.reverse_cons,
            String.intercalate_append_of_ne_nil (by simp) (List.cons_ne_nil name []),
            String.intercalate_singleton]

theorem nul_not_mem_pathBelow (hroot : '\x00' ∉ root.toList) :
    '\x00' ∉ (pathBelow root names).toList := by
  induction names with
  | nil => exact hroot
  | cons name outer ih =>
      rw [List.forall_mem_cons] at hnames
      rw [pathBelow, List.foldr_cons, ← pathBelow, Path.join, Path.not_isAbsolute hnames.1.slash]
      have houter := ih hnames.2
      have hname := hnames.1.nul
      simp only [Bool.false_eq_true, if_false]
      split
      · simp [houter, hname]
      · simp [houter, hname]

theorem not_endsInSlash_pathBelow (hsome : names ≠ []) :
    Path.endsInSlash (pathBelow root names) = false ∧ pathBelow root names ≠ "" := by
  cases names with
  | nil => exact absurd rfl hsome
  | cons name outer =>
      have hname := hnames name List.mem_cons_self
      rw [pathBelow, List.foldr_cons, ← pathBelow, Path.join, Path.not_isAbsolute hname.slash]
      simp only [Bool.false_eq_true, if_false]
      have hends (front : String) :
          Path.endsInSlash (front ++ name) = false ∧ front ++ name ≠ "" := by
        refine ⟨?_, fun h => hname.nonempty (String.append_eq_empty_iff.1 h).2⟩
        rw [Path.endsInSlash_append _ hname.nonempty, Path.not_endsInSlash hname.slash]
      split
      · exact hends _
      · exact hends _

theorem pathBelow_injective {others : Location} (hothers : ∀ name ∈ others, IsName name)
    (h : pathBelow root names = pathBelow root others) : names = others := by
  have hsteps := congrArg Path.steps h
  rw [steps_pathBelow hnames, steps_pathBelow hothers] at hsteps
  exact List.reverse_injective (List.append_cancel_left hsteps)

/-- The names on the way are the last components of the path. -/
theorem components_pathBelow :
    Path.components (pathBelow root names) = Path.components root ++ names.reverse := by
  have hproper : names.reverse.filter (· ≠ ".") = names.reverse := by
    refine List.filter_eq_self.2 fun name hname => decide_eq_true fun hdot => ?_
    exact (hnames name (List.mem_reverse.1 hname)).dots (.inl hdot)
  rw [Path.components, Path.components, steps_pathBelow hnames, isAbsolute_pathBelow hnames]
  cases hroot : Path.steps root with
  | nil =>
      rw [List.nil_append]
      split
      · rename_i rest hdot
        rw [hdot, List.filter_cons_of_neg (by simp)] at hproper
        have hlength := congrArg List.length hproper
        have hle := List.length_filter_le (· ≠ ".") rest
        rw [List.length_cons] at hlength
        omega
      · exact hproper
  | cons first rest =>
      by_cases hdot : first = "."
      · subst hdot
        simp only [List.cons_append, List.filter_append, hproper, List.append_assoc]
      · have hfront : (first :: rest).filter (· ≠ ".") ++ names.reverse =
            (first :: rest ++ names.reverse).filter (· ≠ ".") := by
          rw [List.filter_append, hproper]
        split
        · rename_i heq
          exact absurd (List.cons.inj heq).1 hdot
        · split
          · rename_i heq
            exact absurd (List.cons.inj heq).1 hdot
          · exact hfront.symm

/-- The path of what holds something is no longer than the path of the thing. -/
theorem isTooLong_tail (h : ¬isTooLong (pathBelow root names) = true) :
    isTooLong (pathBelow root names.tail) = false := by
  cases names with
  | nil => exact Bool.eq_false_iff.2 h
  | cons name outer =>
      rw [List.forall_mem_cons] at hnames
      have hsize : (pathBelow root outer).utf8ByteSize ≤
          (pathBelow root (name :: outer)).utf8ByteSize := by
        rw [pathBelow, pathBelow, List.foldr_cons, ← pathBelow, Path.join,
          Path.not_isAbsolute hnames.1.slash]
        simp only [Bool.false_eq_true, if_false]
        split
        · simp only [String.utf8ByteSize_append]
          omega
        · simp only [String.utf8ByteSize_append]
          omega
      rw [isTooLong, decide_eq_true_iff] at h
      rw [List.tail_cons, isTooLong, decide_eq_false_iff_not]
      omega

end Below

/-! ### Everything below -/

theorem node?_eq_get? (tree : FileTree) {location : Location} (h : location ≠ []) :
    tree.node? location = tree.nodes.get? location := by
  rw [node?, nodeIn, if_neg h]

/-- What is below a location, by the names from there. -/
theorem mem_below {tree : FileTree} {location names : Location} {node : FileNode} :
    (names, node) ∈ tree.below location ↔ tree.node? (names ++ location) = some node := by
  have htake (front : Location) :
      (front ++ location).take ((front ++ location).length - location.length) = front := by
    rw [List.length_append, Nat.add_sub_cancel, List.take_left]
  rw [below, List.mem_append, List.mem_filterMap]
  constructor
  · intro h
    cases h with
    | inl h =>
        cases hnode : tree.node? location with
        | none =>
            rw [hnode] at h
            cases h
        | some found =>
            rw [hnode] at h
            cases List.mem_singleton.1 h
            exact hnode
    | inr h =>
        obtain ⟨entry, hentry, hinside⟩ := h
        split at hinside
        · rename_i hbelow
          obtain ⟨hlength, front, hfront⟩ := hbelow
          cases hinside
          rw [← hfront] at hlength ⊢
          rw [htake, node?_eq_get?]
          · rw [hfront]
            exact SortedMap.mem_entries.1 hentry
          · intro he
            rw [he] at hlength
            exact Nat.not_lt_zero _ hlength
        · cases hinside
  · intro h
    cases names with
    | nil =>
        rw [List.nil_append] at h
        rw [h]
        exact .inl (List.mem_singleton.2 rfl)
    | cons name outer =>
        refine .inr ⟨(name :: outer ++ location, node), ?_, ?_⟩
        · exact SortedMap.mem_entries.2 ((node?_eq_get? tree (List.cons_ne_nil _ _)).symm.trans h)
        · rw [if_pos, htake]
          refine ⟨?_, List.suffix_append _ location⟩
          rw [List.length_append, List.length_cons]
          omega

/-! ### Looking up what was met -/

theorem contentMet?_eq_some {root : String} {names : Location} {node : FileNode} {content : FileContent} :
    contentMet? root (names, node) = some content ↔
      ¬isTooLong (pathBelow root names) = true ∧ node = .file content := by
  cases node with
  | directory => simp [contentMet?]
  | file found => cases hlong : isTooLong (pathBelow root names) <;> simp [contentMet?, hlong]

section Met

variable {tree : FileTree} {root : String} {location : Location}
  (hlocate : tree.locate root = .ok location)

include hlocate

theorem checkText_pathBelow {names : Location} (hnames : ∀ name ∈ names, IsName name)
    (hsome : names ≠ []) :
    checkText (pathBelow root names) =
      if isTooLong (pathBelow root names) then .error .nameTooLong else .ok () := by
  have hroot : '\x00' ∉ root.toList := by
    intro h
    have htext := (walk_of_locate hlocate).1
    rw [checkText, if_pos h] at htext
    cases htext
  rw [checkText, if_neg (nul_not_mem_pathBelow hnames hroot),
    if_neg (not_endsInSlash_pathBelow hnames hsome).2]

variable (hdirectory : tree.node? location = some .directory)

include hdirectory

theorem lookup_pathBelow {names : Location} (hnames : ∀ name ∈ names, IsName name)
    (hsome : names ≠ []) {node : FileNode} :
    tree.lookup (pathBelow root names) = .ok node ↔
      ¬isTooLong (pathBelow root names) = true ∧ tree.node? (names ++ location) = some node := by
  have hthere : tree.node? location ≠ none := by
    rw [hdirectory]
    exact Option.some_ne_none _
  have hstart : tree.start (pathBelow root names) = tree.start root := by
    rw [start, start, isAbsolute_pathBelow hnames]
  rw [lookup, locate, checkText_pathBelow hlocate hnames hsome, hstart, steps_pathBelow hnames,
    (not_endsInSlash_pathBelow hnames hsome).1]
  simp only [Bool.false_eq_true, if_false, List.append_nil]
  rw [walk_append, (walk_of_locate hlocate).2]
  split
  · rename_i hlong
    simp [bind, Except.bind, hlong]
  · rename_i hshort
    simp only [bind, Except.bind]
    cases hwalk : tree.walk location names.reverse with
    | error fault =>
        simp only [reduceCtorEq, false_iff, not_and]
        intro _ hnode
        have hok := (walk_names_iff hthere hnames).2
          ⟨rfl, by rw [hnode]; exact Option.some_ne_none _⟩
        rw [hwalk] at hok
        cases hok
    | ok place =>
        obtain ⟨rfl, hplace⟩ := (walk_names_iff hthere hnames).1 hwalk
        cases hnode : tree.node? (names ++ location) with
        | none => exact absurd hnode hplace
        | some found =>
            simp only [hnode, hshort, Bool.false_eq_true, not_false_eq_true, true_and,
              Except.ok.injEq, Option.some.injEq]

/-- A file is read by its path as the walk reads it. -/
theorem readFile_pathBelow {names : Location} (hnames : ∀ name ∈ names, IsName name)
    (hsome : names ≠ []) {content : FileContent} :
    tree.readFile (pathBelow root names) = .ok content ↔
      ¬isTooLong (pathBelow root names) = true ∧
        tree.node? (names ++ location) = some (.file content) := by
  rw [← lookup_pathBelow hlocate hdirectory hnames hsome, readFile]
  cases tree.lookup (pathBelow root names) with
  | error fault => simp [bind, Except.bind]
  | ok node => cases node <;> simp [bind, Except.bind]

theorem mem_met {names : Location} {node : FileNode} :
    (names, node) ∈ tree.met root ↔
      tree.node? (names ++ location) = some node ∧ isTooLong (pathBelow root names.tail) = false := by
  rw [met, hlocate]
  simp only [if_pos hdirectory]
  rw [List.mem_filter, mem_below, Bool.not_eq_true']

/-- What a file holds according to the walk is what its path reads. -/
theorem contentMet?_iff_readFile {entry : Location × FileNode} (hentry : entry ∈ tree.met root)
    (hnames : ∀ name ∈ entry.1, IsName name) (hsome : entry.1 ≠ []) {content : FileContent} :
    contentMet? root entry = some content ↔ tree.readFile (pathBelow root entry.1) = .ok content := by
  obtain ⟨names, node⟩ := entry
  rw [contentMet?_eq_some, readFile_pathBelow hlocate hdirectory hnames hsome,
    ((mem_met hlocate hdirectory).1 hentry).1, Option.some.injEq]

/-- What is met has the names of files, one inside the other. -/
theorem WellNamed.isName_of_mem_met (hnamed : tree.WellNamed) {entry : Location × FileNode}
    (hentry : entry ∈ tree.met root) : ∀ name ∈ entry.1, IsName name := by
  intro name hname
  obtain ⟨names, node⟩ := entry
  have hnode := ((mem_met hlocate hdirectory).1 hentry).1
  exact hnamed.isName hnode name (List.mem_append_left location hname)

end Met

end FileTree

end BenchReport
