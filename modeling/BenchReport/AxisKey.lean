import BenchReport.Number.Reader

/-!
# Axis keys

A parameter as a place on the axis of a chart. Parameters that are integers come in numeric order, which is why they are read; their text is kept, so that parameters written differently stay apart.
-/

namespace BenchReport

/-- A parameter by its place on an axis: no parameter first, then integers, then other texts. -/
inductive AxisKey where
  | absent
  | numeric (value : Int) (text : String)
  | textual (text : String)
  deriving DecidableEq, Repr

namespace AxisKey

def ofSegment : Option String → AxisKey
  | none => absent
  | some segment =>
    match NumberText.readInt64? segment with
    | some value => numeric value segment
    | none => textual segment

def text? : AxisKey → Option String
  | absent => none
  | numeric _ text => some text
  | textual text => some text

def shown (key : AxisKey) : String := key.text?.getD "-"

/-- A key keeps the text that it was read from. -/
@[simp] theorem text?_ofSegment (segment : Option String) : (ofSegment segment).text? = segment := by
  cases segment with
  | none => rfl
  | some text =>
    rw [ofSegment]
    cases NumberText.readInt64? text <;> rfl

theorem ofSegment_inj {left right : Option String} : ofSegment left = ofSegment right ↔ left = right := by
  refine ⟨fun h => ?_, congrArg ofSegment⟩
  rw [← text?_ofSegment left, h, text?_ofSegment]

theorem ofSegment_eq_absent {segment : Option String} :
    ofSegment segment = .absent ↔ segment = none := by
  change ofSegment segment = ofSegment none ↔ segment = none
  exact ofSegment_inj

/-! ### Order -/

protected def le : AxisKey → AxisKey → Prop
  | absent, _ => True
  | numeric .., absent => False
  | numeric left leftText, numeric right rightText =>
    left < right ∨ left = right ∧ leftText ≤ rightText
  | numeric .., textual _ => True
  | textual left, textual right => left ≤ right
  | textual _, _ => False

instance : LE AxisKey := ⟨AxisKey.le⟩

instance : LT AxisKey := ⟨fun left right => ¬right ≤ left⟩

instance : DecidableLE AxisKey := fun left right => by
  cases left <;> cases right <;> simp only [LE.le, AxisKey.le] <;> infer_instance

instance : DecidableLT AxisKey := fun left right => inferInstanceAs (Decidable ¬right ≤ left)

theorem le_trans {a b c : AxisKey} (hab : a ≤ b) (hbc : b ≤ c) : a ≤ c := by
  cases a <;> cases b <;> cases c <;> simp only [LE.le, AxisKey.le] at hab hbc ⊢
  · rcases hab with hab | ⟨rfl, hab⟩ <;> rcases hbc with hbc | ⟨rfl, hbc⟩
    · exact .inl (Int.lt_trans hab hbc)
    · exact .inl hab
    · exact .inl hbc
    · exact .inr ⟨rfl, String.le_trans hab hbc⟩
  · exact String.le_trans hab hbc

theorem le_antisymm {a b : AxisKey} (hab : a ≤ b) (hba : b ≤ a) : a = b := by
  cases a <;> cases b <;> simp only [LE.le, AxisKey.le] at hab hba
  · rfl
  · rcases hab with hab | ⟨rfl, hab⟩ <;> rcases hba with hba | ⟨_, hba⟩
    · exact absurd hba (Int.lt_asymm hab)
    · omega
    · exact absurd hba (Int.lt_irrefl _)
    · rw [String.le_antisymm hab hba]
  · rw [String.le_antisymm hab hba]

theorem le_total (a b : AxisKey) : a ≤ b ∨ b ≤ a := by
  cases a <;> cases b <;> simp only [LE.le, AxisKey.le, or_true, or_false]
  · rename_i left leftText right rightText
    rcases Int.lt_trichotomy left right with h | rfl | h
    · exact .inl (.inl h)
    · exact (String.le_total leftText rightText).imp (.inr ⟨rfl, ·⟩) (.inr ⟨rfl, ·⟩)
    · exact .inr (.inl h)
  · exact String.le_total _ _

instance : Std.IsLinearOrder AxisKey :=
  .of_le ⟨fun _ _ => le_antisymm⟩ ⟨le_trans⟩ ⟨le_total⟩

instance : Std.LawfulOrderLT AxisKey where
  lt_iff a b := ⟨fun h => ⟨(le_total a b).resolve_right h, h⟩, fun h => h.2⟩

end AxisKey

end BenchReport
