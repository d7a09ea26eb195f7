import BenchReport.Markdown
import BenchReport.Proofs.Number.Order

/-!
# Marks

A change is judged twice: a comparison gives its delta a verdict, with improvements asked for first, and a report gives its row a mark, with regressions asked for first. A threshold that is not below zero makes both agree: no change is beyond it on either side, and a base of zero, which is never a finding, has a change of zero. The mark of a row is read off the end of its text, since a name may have one as well.
-/

namespace BenchReport.Markdown

variable {row : Row} {settings : Settings}

/-- Whether the text of a row ends in a cell with the mark. -/
def Row.Carries (row : Row) (mark : String) (settings : Settings) : Prop :=
  (mark ++ " |").toList <:+ (rowText row settings).toList

instance (mark : String) : Decidable (row.Carries mark settings) :=
  inferInstanceAs (Decidable (_ <:+ _))

/-! ### The end of a row -/

theorem changeText_of_regressed {change threshold : Float} (h : threshold < change) :
    changeText change threshold =
      NumberText.fixedSigned 1 (change * 100) ++ "%" ++ " " ++ regressedMark :=
  if_pos h

theorem changeText_of_improved {change threshold : Float} (hnot : ¬threshold < change)
    (h : change < -threshold) :
    changeText change threshold =
      NumberText.fixedSigned 1 (change * 100) ++ "%" ++ " " ++ improvedMark :=
  (if_neg hnot).trans (if_pos h)

theorem changeText_of_neither {change threshold : Float} (hnot : ¬threshold < change)
    (hneither : ¬change < -threshold) :
    changeText change threshold = NumberText.fixedSigned 1 (change * 100) ++ "%" :=
  (if_neg hnot).trans (if_neg hneither)

/-- The last character of a change tells which mark it has. -/
theorem getLast?_changeText (change threshold : Float) :
    (changeText change threshold).toList.getLast? =
      if threshold < change then some '\ufe0f'
      else if change < -threshold then some '\u2705'
      else some '%' := by
  by_cases hregressed : threshold < change
  · rw [changeText_of_regressed hregressed, if_pos hregressed]
    simp [regressedMark]
  · rw [if_neg hregressed]
    by_cases himproved : change < -threshold
    · rw [changeText_of_improved hregressed himproved, if_pos himproved]
      simp [improvedMark]
    · rw [changeText_of_neither hregressed himproved, if_neg himproved]
      simp

theorem changeText_ne_nil (change threshold : Float) : (changeText change threshold).toList ≠ [] := by
  intro hnone
  have hlast := getLast?_changeText change threshold
  rw [hnone] at hlast
  split at hlast <;> [skip; split at hlast] <;> cases hlast

theorem rowText_eq (row : Row) (settings : Settings) :
    ∃ front : List Char, (rowText row settings).toList =
      front ++ (changeText row.change settings.threshold).toList ++ " |".toList := by
  unfold rowText
  simp only [String.toList_append]
  exact ⟨_, rfl⟩

theorem carries_of_changeText {mark cell : String}
    (h : changeText row.change settings.threshold = cell ++ mark) : row.Carries mark settings := by
  obtain ⟨front, hfront⟩ := rowText_eq row settings
  refine ⟨front ++ cell.toList, ?_⟩
  rw [hfront, h]
  simp

theorem getLast?_of_carries {mark : String} (hmark : mark ≠ "") (h : row.Carries mark settings) :
    (changeText row.change settings.threshold).toList.getLast? = mark.toList.getLast? := by
  obtain ⟨front, hfront⟩ := rowText_eq row settings
  obtain ⟨before, hbefore⟩ := h
  rw [hfront, String.toList_append, ← List.append_assoc] at hbefore
  have hcells := List.append_cancel_right hbefore
  have hthere : mark.toList ≠ [] := fun hnone => hmark (String.toList_eq_nil_iff.1 hnone)
  rw [← List.getLast?_append_of_ne_nil before hthere, hcells,
    List.getLast?_append_of_ne_nil front (changeText_ne_nil _ _)]

theorem carries_regressed_iff :
    row.Carries regressedMark settings ↔ settings.threshold < row.change := by
  constructor
  · intro h
    have hlast := getLast?_of_carries (by decide) h
    rw [getLast?_changeText] at hlast
    by_contra hnot
    rw [if_neg hnot] at hlast
    split at hlast <;> revert hlast <;> decide
  · intro h
    exact carries_of_changeText (changeText_of_regressed h)

theorem carries_improved_iff :
    row.Carries improvedMark settings ↔
      ¬settings.threshold < row.change ∧ row.change < -settings.threshold := by
  constructor
  · intro h
    have hlast := getLast?_of_carries (by decide) h
    rw [getLast?_changeText] at hlast
    by_contra hnot
    split at hlast
    · revert hlast
      decide
    · rename_i hregressed
      rw [if_neg fun himproved => hnot ⟨hregressed, himproved⟩] at hlast
      revert hlast
      decide
  · rintro ⟨hnot, h⟩
    exact carries_of_changeText (changeText_of_improved hnot h)

/-! ### Marks and verdicts -/

theorem not_threshold_lt_zero (hvalid : settings.isValid = true) : ¬settings.threshold < 0 := by
  rw [Settings.isValid, Bool.and_eq_true, Bool.not_eq_true', decide_eq_false_iff_not] at hvalid
  exact hvalid.2

theorem carries_regressed_iff_verdict (hvalid : settings.isValid = true) (name : String)
    (base head : Float) :
    Row.Carries ⟨name, base, head, relativeChange base head⟩ regressedMark settings ↔
      Verdict.ofValues base head settings.threshold = .regressed := by
  have hthreshold := not_threshold_lt_zero hvalid
  rw [carries_regressed_iff, Verdict.ofValues]
  by_cases hbase : (base == 0) = true
  · rw [if_pos hbase, relativeChange, if_pos hbase]
    exact ⟨fun h => absurd h hthreshold, fun h => by cases h⟩
  · rw [if_neg hbase]
    by_cases himproved : relativeChange base head < -settings.threshold
    · rw [if_pos himproved]
      exact ⟨fun h => absurd himproved (Binary64.not_lt_neg hthreshold h), fun h => by cases h⟩
    · rw [if_neg himproved]
      split <;> simp_all

theorem carries_improved_iff_verdict (hvalid : settings.isValid = true) (name : String)
    (base head : Float) :
    Row.Carries ⟨name, base, head, relativeChange base head⟩ improvedMark settings ↔
      Verdict.ofValues base head settings.threshold = .improved := by
  have hthreshold := not_threshold_lt_zero hvalid
  rw [carries_improved_iff, Verdict.ofValues]
  by_cases hbase : (base == 0) = true
  · rw [if_pos hbase, relativeChange, if_pos hbase]
    exact ⟨fun h => absurd h.2 (Binary64.not_zero_lt_neg hthreshold), fun h => by cases h⟩
  · rw [if_neg hbase]
    by_cases himproved : relativeChange base head < -settings.threshold
    · rw [if_pos himproved]
      exact ⟨fun _ => rfl, fun _ => ⟨fun h => Binary64.not_lt_neg hthreshold h himproved, himproved⟩⟩
    · rw [if_neg himproved]
      split <;> simp_all

/-- What a verdict adds to a change. -/
def markText : Verdict → String
  | .regressed => " " ++ regressedMark
  | .improved => " " ++ improvedMark
  | .unchanged => ""

theorem changeText_of_verdict (hvalid : settings.isValid = true) (base head : Float) :
    changeText (relativeChange base head) settings.threshold =
      NumberText.fixedSigned 1 (relativeChange base head * 100) ++ "%" ++
        markText (Verdict.ofValues base head settings.threshold) := by
  have hregressed := (carries_regressed_iff_verdict hvalid "" base head).symm.trans
    carries_regressed_iff
  have himproved := (carries_improved_iff_verdict hvalid "" base head).symm.trans
    carries_improved_iff
  cases hverdict : Verdict.ofValues base head settings.threshold with
  | regressed =>
      exact (changeText_of_regressed (hregressed.1 hverdict)).trans String.append_assoc
  | improved =>
      have hmarked := himproved.1 hverdict
      exact (changeText_of_improved hmarked.1 hmarked.2).trans String.append_assoc
  | unchanged =>
      have hnot : ¬settings.threshold < relativeChange base head := fun h => by
        cases hverdict.symm.trans (hregressed.2 h)
      have hneither : ¬relativeChange base head < -settings.threshold := fun h => by
        cases hverdict.symm.trans (himproved.2 ⟨hnot, h⟩)
      rw [changeText_of_neither hnot hneither]
      exact String.append_empty.symm

end BenchReport.Markdown
