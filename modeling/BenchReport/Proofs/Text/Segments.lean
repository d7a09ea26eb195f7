import BenchReport.FileTree.Path

/-!
# Segments, lines and the names of a path

No segment contains the separator, cutting at a separator that stands between two texts cuts each of them, and a text is its segments with the separators put back. The lines of a text are its segments at newlines, but for a return at their end and an empty last one. For paths this says that a name without slashes is one step, and that a file in a directory is reached by the steps of the directory and the one step of the file.
-/

namespace BenchReport.Text

theorem segments_of_not_mem {separator : Char} {text : String} (h : separator ∉ text.toList) :
    segments separator text = [text] := by
  rw [segments, List.splitOn_eq_singleton h, List.map_singleton, String.ofList_toList]

theorem segments_append (separator : Char) (front back : String) :
    segments separator (front ++ String.singleton separator ++ back) =
      segments separator front ++ segments separator back := by
  rw [segments, segments, segments, ← List.map_append, ← List.splitOn_append_cons_self]
  simp

theorem not_mem_of_mem_splitOn {separator : Char} {chars piece : List Char}
    (h : piece ∈ chars.splitOn separator) : separator ∉ piece := by
  induction chars generalizing piece with
  | nil =>
      rw [List.splitOn_nil, List.mem_singleton] at h
      simp [h]
  | cons c rest ih =>
      rw [List.splitOn_cons_eq_if_modifyHead] at h
      split at h
      · rcases List.mem_cons.1 h with rfl | h
        · exact List.not_mem_nil
        · exact ih h
      · rename_i hc
        cases hsplit : rest.splitOn separator with
        | nil => exact absurd hsplit (List.splitOn_ne_nil separator rest)
        | cons first others =>
            rw [hsplit, List.modifyHead_cons] at h
            rcases List.mem_cons.1 h with rfl | h
            · rw [List.mem_cons, not_or]
              refine ⟨fun he => hc (by simp [he]), ih ?_⟩
              rw [hsplit]
              exact List.mem_cons_self ..
            · refine ih ?_
              rw [hsplit]
              exact List.mem_cons_of_mem first h

theorem not_mem_of_mem_segments {separator : Char} {text piece : String}
    (h : piece ∈ segments separator text) : separator ∉ piece.toList := by
  obtain ⟨chars, hchars, rfl⟩ := List.mem_map.1 h
  rw [String.toList_ofList]
  exact not_mem_of_mem_splitOn hchars

/-- Putting the separators back between the segments gives the text again. -/
theorem intercalate_segments (separator : Char) (text : String) :
    [separator].intercalate ((segments separator text).map String.toList) = text.toList := by
  have hback : (segments separator text).map String.toList = text.toList.splitOn separator := by
    rw [segments, List.map_map]
    exact List.map_id'' (fun chars => String.toList_ofList) _
  rw [hback, List.intercalate_splitOn]

theorem mem_intercalate {c : Char} {separator piece : List Char} {pieces : List (List Char)}
    (hpiece : piece ∈ pieces) (hc : c ∈ piece) : c ∈ separator.intercalate pieces := by
  induction pieces with
  | nil => cases hpiece
  | cons first rest ih =>
      cases rest with
      | nil =>
          rw [List.mem_singleton.1 hpiece] at hc
          rwa [List.intercalate_singleton]
      | cons second later =>
          rw [List.intercalate_cons_cons]
          cases hpiece with
          | head => exact List.mem_append_left _ (List.mem_append_left _ hc)
          | tail _ hlater => exact List.mem_append_right _ (ih hlater)

/-- Segments have no characters of their own. -/
theorem mem_of_mem_segments {separator c : Char} {text piece : String}
    (h : piece ∈ segments separator text) (hc : c ∈ piece.toList) : c ∈ text.toList := by
  rw [← intercalate_segments separator text]
  exact mem_intercalate (List.mem_map_of_mem h) hc

theorem segments_injective {separator : Char} {left right : String}
    (h : segments separator left = segments separator right) : left = right := by
  apply String.toList_inj.1
  rw [← intercalate_segments separator left, h, intercalate_segments]

theorem segments_ne_nil (separator : Char) (text : String) : segments separator text ≠ [] := by
  rw [segments, ne_eq, List.map_eq_nil_iff]
  exact List.splitOn_ne_nil separator text.toList

theorem intercalate_segments_eq (separator : Char) (text : String) :
    (String.singleton separator).intercalate (segments separator text) = text := by
  apply String.toList_inj.1
  rw [String.toList_intercalate, String.toList_singleton, intercalate_segments]

/-- Pieces without separators are the segments of the text that they make up. -/
theorem segments_intercalate {separator : Char} {pieces : List String} (hsome : pieces ≠ [])
    (hpieces : ∀ piece ∈ pieces, separator ∉ piece.toList) :
    segments separator ((String.singleton separator).intercalate pieces) = pieces := by
  have hsplit : (([separator].intercalate (pieces.map String.toList)).splitOn separator) =
      pieces.map String.toList :=
    List.splitOn_intercalate separator (List.forall_mem_map.2 hpieces) (by simpa using hsome)
  rw [segments, String.toList_intercalate, String.toList_singleton, hsplit, List.map_map]
  exact List.map_id'' (fun piece => String.ofList_toList) pieces

/-- A text has one list of segments. -/
theorem segments_eq_iff {separator : Char} {text : String} {pieces : List String} :
    segments separator text = pieces ↔
      pieces ≠ [] ∧ (∀ piece ∈ pieces, separator ∉ piece.toList) ∧
        (String.singleton separator).intercalate pieces = text := by
  constructor
  · rintro rfl
    exact ⟨segments_ne_nil separator text, fun _ => not_mem_of_mem_segments,
      intercalate_segments_eq separator text⟩
  · rintro ⟨hsome, hpieces, rfl⟩
    exact segments_intercalate hsome hpieces

/-- A text of two segments tells what stands before and behind its separator. -/
theorem pair_inj {separator : Char} {front back left right : String}
    (hleft : separator ∉ left.toList) (hright : separator ∉ right.toList) :
    front ++ String.singleton separator ++ back = left ++ String.singleton separator ++ right ↔
      front = left ∧ back = right := by
  refine ⟨fun h => ?_, fun ⟨hfront, hback⟩ => by rw [hfront, hback]⟩
  have hsegments := congrArg (segments separator) h
  rw [segments_append, segments_append] at hsegments
  -- The right side has two segments, and each half of the left side has at least one.
  have hlength : (segments separator front).length = (segments separator left).length := by
    have htotal := congrArg List.length hsegments
    have hone := List.length_pos_iff.2 (segments_ne_nil separator front)
    have hother := List.length_pos_iff.2 (segments_ne_nil separator back)
    rw [segments_of_not_mem hleft, segments_of_not_mem hright] at htotal
    rw [segments_of_not_mem hleft]
    simp only [List.length_append, List.length_singleton] at htotal ⊢
    omega
  obtain ⟨hfront, hback⟩ := List.append_inj hsegments hlength
  exact ⟨segments_injective hfront, segments_injective hback⟩

/-- What follows the last occurrence of a character has none. -/
theorem beforeLast_append {separator : Char} {back : String} (h : separator ∉ back.toList)
    (front : String) :
    beforeLast separator (front ++ String.singleton separator ++ back) = front := by
  rw [beforeLast, segments_append, segments_of_not_mem h, List.dropLast_concat]
  split
  · rename_i hnone
    exact absurd hnone (segments_ne_nil separator front)
  · exact intercalate_segments_eq separator front

/-! ### Endings -/

theorem stripEnding?_eq_some {ending text front : String} :
    stripEnding? ending text = some front ↔ text = front ++ ending := by
  rw [stripEnding?]
  constructor
  · intro h
    split at h
    · rename_i hsuffix
      obtain ⟨chars, hchars⟩ := hsuffix
      rw [← hchars] at h
      have hfront : String.ofList chars = front := by simpa using h
      rw [← String.toList_inj, String.toList_append, ← hfront, String.toList_ofList, hchars]
    · cases h
  · rintro rfl
    rw [if_pos (by simp)]
    simp

/-! ### Lines -/

theorem stripReturn_concat (chars : List Char) : stripReturn (chars ++ ['\r']) = chars := by
  rw [stripReturn, List.getLast?_concat, if_pos rfl, List.dropLast_concat]

theorem stripReturn_cases (chars : List Char) :
    stripReturn chars = chars ∨ chars = stripReturn chars ++ ['\r'] := by
  by_cases hreturn : chars.getLast? = some '\r'
  · obtain ⟨front, rfl⟩ := List.getLast?_eq_some_iff.1 hreturn
    rw [stripReturn_concat]
    exact .inr rfl
  · exact .inl (if_neg hreturn)

/-- What finds nothing on an empty line and does not mind a return at the end finds the same in the lines of a text as between its newlines. -/
theorem filterMap_lines {α : Type} {read? : String → Option α} (hempty : read? "" = none)
    (hreturn : ∀ chars, read? (String.ofList (chars ++ ['\r'])) = read? (String.ofList chars))
    (text : String) :
    (lines text).filterMap read? = (segments '\n' text).filterMap read? := by
  have hstrip : (read? ∘ String.ofList) ∘ stripReturn = read? ∘ String.ofList := by
    funext chars
    rw [Function.comp_apply, Function.comp_apply, Function.comp_apply]
    rcases stripReturn_cases chars with hsame | hmore
    · rw [hsame]
    · generalize stripReturn chars = front at hmore ⊢
      rw [hmore, hreturn]
  rw [lines, segments, List.filterMap_map, List.filterMap_map]
  obtain ⟨ended, last, hpieces⟩ : ∃ ended last, text.toList.splitOn '\n' = ended ++ [last] :=
    ⟨_, _, (List.dropLast_concat_getLast (List.splitOn_ne_nil '\n' text.toList)).symm⟩
  rw [hpieces, List.dropLast_concat, List.getLast?_concat, Option.getD_some]
  split
  · rename_i hlast
    have hnone : [last].filterMap (read? ∘ String.ofList) = [] := by
      rw [hlast]
      exact List.filterMap_cons_none hempty
    rw [List.filterMap_map, hstrip, List.filterMap_append, hnone, List.append_nil]
  · rw [List.filterMap_append, List.filterMap_map, hstrip, List.filterMap_append]

end BenchReport.Text

namespace BenchReport.Path

theorem steps_name {name : String} (hslash : '/' ∉ name.toList) (hname : name ≠ "") :
    steps name = [name] := by
  rw [steps, Text.segments_of_not_mem hslash]
  simp [hname]

theorem steps_append (front back : String) : steps (front ++ "/" ++ back) = steps front ++ steps back := by
  rw [steps, show "/" = String.singleton '/' from rfl, Text.segments_append, List.filter_append]
  rfl

theorem isAbsolute_append {front : String} (back : String) (h : front ≠ "") :
    isAbsolute (front ++ back) = isAbsolute front := by
  rw [isAbsolute, isAbsolute, String.toList_append]
  cases hchars : front.toList with
  | nil => exact absurd (String.toList_eq_nil_iff.1 hchars) h
  | cons c rest => rfl

theorem not_isAbsolute {name : String} (hslash : '/' ∉ name.toList) : isAbsolute name = false := by
  rw [isAbsolute, beq_eq_false_iff_ne]
  exact fun h => hslash (List.mem_of_mem_head? h)

/-- A text that ends in a slash, without the slash. -/
theorem exists_of_endsInSlash {path : String} (h : endsInSlash path = true) :
    ∃ front, path = front ++ "/" := by
  rw [endsInSlash, beq_iff_eq] at h
  obtain ⟨chars, hchars⟩ := List.getLast?_eq_some_iff.1 h
  refine ⟨String.ofList chars, ?_⟩
  rw [← String.ofList_toList (s := path), hchars, String.ofList_append]

/-- The steps to a file in a directory. -/
theorem steps_join {directory file : String} (hslash : '/' ∉ file.toList) (hfile : file ≠ "") :
    steps (join directory file) = steps directory ++ [file] := by
  rw [join, not_isAbsolute hslash, ← steps_name hslash hfile]
  simp only [Bool.false_eq_true, if_false]
  split
  · rename_i h
    rcases h with rfl | h
    · rw [String.empty_append]
      rfl
    · obtain ⟨front, rfl⟩ := exists_of_endsInSlash h
      rw [steps_append, show front ++ "/" = front ++ "/" ++ "" by simp, steps_append]
      simp [show steps "" = [] from rfl]
  · rw [steps_append]

/-- A file in a directory is absolute when the directory is. -/
theorem isAbsolute_join {directory file : String} (hslash : '/' ∉ file.toList) :
    isAbsolute (join directory file) = isAbsolute directory := by
  rw [join, not_isAbsolute hslash]
  simp only [Bool.false_eq_true, if_false]
  by_cases hdirectory : directory = ""
  · subst hdirectory
    rw [if_pos (.inl rfl), String.empty_append, not_isAbsolute hslash]
    rfl
  · split
    · exact isAbsolute_append file hdirectory
    · rw [String.append_assoc]
      exact isAbsolute_append _ hdirectory

theorem endsInSlash_append (front : String) {back : String} (h : back ≠ "") :
    endsInSlash (front ++ back) = endsInSlash back := by
  rw [endsInSlash, endsInSlash, String.toList_append, List.getLast?_append]
  cases hlast : back.toList.getLast? with
  | none => exact absurd (String.toList_eq_nil_iff.1 (List.getLast?_eq_none_iff.1 hlast)) h
  | some c => rfl

theorem not_endsInSlash {name : String} (hslash : '/' ∉ name.toList) : endsInSlash name = false := by
  rw [endsInSlash, beq_eq_false_iff_ne]
  exact fun h => hslash (List.mem_of_getLast? h)

/-- Joining one path after another is joining them with the slash between them. -/
theorem join_join {directory outer name : String} (houter : outer ≠ "")
    (hrelative : isAbsolute outer = false) (hend : endsInSlash outer = false)
    (hslash : '/' ∉ name.toList) :
    join (join directory outer) name = join directory (outer ++ "/" ++ name) := by
  have hjoined : isAbsolute (outer ++ "/" ++ name) = false := by
    rw [String.append_assoc, isAbsolute_append _ houter, hrelative]
  have hfront (front : String) : ¬(front ++ outer = "" ∨ endsInSlash (front ++ outer) = true) := by
    rw [endsInSlash_append front houter, hend, String.append_eq_empty_iff]
    simp [houter]
  simp only [join, not_isAbsolute hslash, hrelative, hjoined, Bool.false_eq_true, if_false]
  split
  · rw [if_neg (hfront directory)]
    simp only [String.append_assoc]
  · rw [if_neg (hfront (directory ++ "/"))]
    simp only [String.append_assoc]

/-- Names with slashes between them, when none of them is empty or has one itself. -/
theorem intercalate_concat_shape {names : List String} {last : String}
    (hnames : ∀ one ∈ names, '/' ∉ one.toList ∧ one ≠ "") (hslash : '/' ∉ last.toList)
    (hlast : last ≠ "") :
    "/".intercalate (names ++ [last]) ≠ "" ∧
      isAbsolute ("/".intercalate (names ++ [last])) = false ∧
      endsInSlash ("/".intercalate (names ++ [last])) = false := by
  cases names with
  | nil =>
      rw [List.nil_append, String.intercalate_singleton]
      exact ⟨hlast, not_isAbsolute hslash, not_endsInSlash hslash⟩
  | cons first rest =>
      obtain ⟨hfirstSlash, hfirst⟩ := hnames first List.mem_cons_self
      have hne : first :: rest ≠ [] := List.cons_ne_nil first rest
      rw [String.intercalate_append_of_ne_nil hne (List.cons_ne_nil last []),
        String.intercalate_singleton, endsInSlash_append _ hlast, not_endsInSlash hslash]
      refine ⟨fun h => hlast (String.append_eq_empty_iff.1 h).2, ?_, rfl⟩
      cases rest with
      | nil => rw [String.intercalate_singleton, String.append_assoc, isAbsolute_append _ hfirst,
          not_isAbsolute hfirstSlash]
      | cons second later => rw [String.intercalate_cons_cons, String.append_assoc,
          String.append_assoc, String.append_assoc, isAbsolute_append _ hfirst,
          not_isAbsolute hfirstSlash]

end BenchReport.Path
