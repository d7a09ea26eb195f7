import BenchReport.Proofs.Number.Order
import BenchReport.TimeUnit

/-!
# The greatest number decides the unit

A bound is at or below the greatest of some values exactly when it is at or below one of them, and likewise for the least of them and a bound above; a NaN keeps no bound, so it does not matter where among the values it stands. The unit for some values is told by the bounds that their greatest number reaches, hence by the bounds that the values reach, whatever their order and number. All these bounds are above zero, so values that are not make no difference.
-/

namespace BenchReport

open Binary64

/-! ### Bounds -/

/-- Of two numbers the one that is chosen is of a kind if one of them is, where the chosen number takes the kind over from the other; what is not a number is not of the kind. -/
theorem choice_iff (kind : Float → Prop) {x y : Float} {second : Prop} [Decidable second]
    (hnumber : ∀ z : Float, z.isNaN = true → ¬kind z)
    (hsecond : second → kind x → kind y)
    (hfirst : x.isNaN = false → y.isNaN = false → ¬second → kind y → kind x) :
    kind (if x.isNaN then y else if y.isNaN then x else if second then y else x) ↔
      kind x ∨ kind y := by
  split
  · rename_i hx
    exact (or_iff_right (hnumber x hx)).symm
  · rename_i hx
    split
    · rename_i hy
      exact (or_iff_left (hnumber y hy)).symm
    · rename_i hy
      split
      · rename_i h
        exact (or_iff_right_of_imp (hsecond h)).symm
      · rename_i h
        exact (or_iff_left_of_imp (hfirst (eq_false_of_ne_true hx) (eq_false_of_ne_true hy) h)).symm

theorem le_greater_iff {bound x y : Float} : bound ≤ greater x y ↔ bound ≤ x ∨ bound ≤ y :=
  choice_iff (bound ≤ ·) (fun _ h => not_le_of_isNaN h bound)
    (fun h hle => Binary64.le_trans hle (Binary64.le_of_lt h))
    fun hx hy h hle => Binary64.le_trans hle ((Binary64.not_lt_iff hx hy).1 h)

theorem lesser_le_iff {bound x y : Float} : lesser x y ≤ bound ↔ x ≤ bound ∨ y ≤ bound :=
  choice_iff (· ≤ bound) (fun _ h => not_le_bound_of_isNaN h bound)
    (fun h hle => Binary64.le_trans (Binary64.le_of_lt h) hle)
    fun hx hy h hle => Binary64.le_trans ((Binary64.not_lt_iff hy hx).1 h) hle

/-- Choosing one of two numbers again and again ends with a number of some kind exactly if one of all the numbers is of it, if each single choice does. -/
theorem foldl_choice_iff {choose : Float → Float → Float} (kind : Float → Prop)
    (hchoose : ∀ x y, kind (choose x y) ↔ kind x ∨ kind y) (values : List Float) (first : Float) :
    kind (values.foldl choose first) ↔ kind first ∨ ∃ value ∈ values, kind value := by
  induction values generalizing first with
  | nil => simp
  | cons value rest ih =>
      rw [List.foldl_cons, ih, hchoose, List.exists_mem_cons_iff, or_assoc]

theorem le_greatest_iff {bound : Float} {values : List Float} :
    bound ≤ greatest values ↔ ∃ value ∈ values, bound ≤ value := by
  have hnone : notANumber.isNaN = true := by decide
  rw [greatest, foldl_choice_iff (bound ≤ ·) fun _ _ => le_greater_iff]
  exact or_iff_right (not_le_of_isNaN hnone bound)

theorem least_le_iff {bound : Float} {values : List Float} :
    least values ≤ bound ↔ ∃ value ∈ values, value ≤ bound := by
  have hnone : notANumber.isNaN = true := by decide
  rw [least, foldl_choice_iff (· ≤ bound) fun _ _ => lesser_le_iff]
  exact or_iff_right (not_le_bound_of_isNaN hnone bound)

/-! ### Units -/

namespace DisplayUnit

theorem ofNanos_of_isNaN {value : Float} (h : value.isNaN = true) : ofNanos value = nanos := by
  rw [ofNanos, if_neg (not_le_of_isNaN h _), if_neg (not_le_of_isNaN h _),
    if_neg (not_le_of_isNaN h _)]

theorem ofValues_nanoseconds (values : List Float) :
    ofValues .nanoseconds values = ofNanos (greatest values) := by
  rw [ofValues]
  split
  · rename_i h
    exact (ofNanos_of_isNaN h).symm
  · rfl

/-- Numbers that reach the same positive bounds are shown in the same unit. -/
theorem ofNanos_congr {x y : Float} (h : ∀ bound, 0 < bound → (bound ≤ x ↔ bound ≤ y)) :
    ofNanos x = ofNanos y := by
  rw [ofNanos, ofNanos]
  simp only [h secs.divisor (by decide), h millis.divisor (by decide), h micros.divisor (by decide)]

/-- Values that reach the same positive bounds have the same unit. -/
theorem ofValues_congr {left right : List Float} (unit : TimeUnit)
    (h : ∀ bound, 0 < bound → ((∃ value ∈ left, bound ≤ value) ↔ ∃ value ∈ right, bound ≤ value)) :
    ofValues unit left = ofValues unit right := by
  cases unit with
  | seconds => rfl
  | nanoseconds =>
      rw [ofValues_nanoseconds, ofValues_nanoseconds]
      refine ofNanos_congr fun bound hpos => ?_
      rw [le_greatest_iff, le_greatest_iff, h bound hpos]

theorem ofValues_positive (unit : TimeUnit) (values : List Float) :
    ofValues unit (values.filter fun value => 0 < value) = ofValues unit values := by
  refine ofValues_congr unit fun bound hpos => ?_
  constructor
  · rintro ⟨value, hvalue, hle⟩
    exact ⟨value, List.mem_of_mem_filter hvalue, hle⟩
  · rintro ⟨value, hvalue, hle⟩
    exact ⟨value, List.mem_filter.2 ⟨hvalue, decide_eq_true (Binary64.lt_of_lt_of_le hpos hle)⟩, hle⟩

end DisplayUnit

end BenchReport
