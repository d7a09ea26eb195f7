import BenchReport.Proofs.Number.Arithmetic

/-!
# Powers of ten

A power of ten is multiplied up by repeated squaring, and every product is rounded, so the result need not be the nearest double. But a product is off by at most one part in 2⁵³, and a square bears the errors of its two roots and one more. Counted in factors of ten, each bears one error, so that the result lies between the powers of a little less and a little more than ten. That is enough to know where the range ends: powers up to the 308th are finite, and from the 309th on they are infinite.
-/

namespace BenchReport.Binary64

theorem value_one : value (magnitude 1) = 1 := by
  have hscale : scale (magnitude 1) = -52 := by decide
  have hsignificand : significand (magnitude 1) = 2 ^ 52 := by decide
  rw [value, hscale, hsignificand]
  norm_num

theorem value_ten : value (magnitude 10) = 10 := by
  have hscale : scale (magnitude 10) = -49 := by decide
  have hsignificand : significand (magnitude 10) = 10 * 2 ^ 49 := by decide
  rw [value, hscale, hsignificand]
  norm_num

/-- A double that is one or more, infinity included. -/
structure AtLeastOne (x : Float) : Prop where
  positive : isNegative x = false
  le_infinite : magnitude x ≤ infiniteMagnitude
  one_le : 1 ≤ value (magnitude x)

namespace AtLeastOne

variable {x y : Float}

theorem ne_zero (h : AtLeastOne x) : magnitude x ≠ 0 := by
  intro hzero
  have hone := h.one_le
  rw [hzero, value_zero] at hone
  exact absurd hone (by decide)

/-- The number behind infinity is the power of two that ends the range, so no case is special. -/
theorem mul_eq (hx : AtLeastOne x) (hy : AtLeastOne y) :
    x * y = nearest false (value (magnitude x) * value (magnitude y)) := by
  have hsign : (isNegative x ^^ isNegative y) = false := by
    rw [hx.positive, hy.positive]
    rfl
  by_cases hfinite : magnitude x < infiniteMagnitude ∧ magnitude y < infiniteMagnitude
  · rw [Binary64.mul_eq hfinite.1 hfinite.2, hsign]
  have hinfinite : magnitude x = infiniteMagnitude ∨ magnitude y = infiniteMagnitude := by
    have hxle := hx.le_infinite
    have hyle := hy.le_infinite
    omega
  have hlarge : (2 : Rat) ^ (1024 : Int) ≤ value (magnitude x) * value (magnitude y) := by
    rw [← value_infinite]
    rcases hinfinite with h | h
    · rw [h]
      exact le_mul_of_one_le_right (value_nonneg _) hy.one_le
    · rw [h]
      exact le_mul_of_one_le_left (value_nonneg _) hx.one_le
  rw [mul_infinite hx.le_infinite hy.le_infinite hx.ne_zero hy.ne_zero hinfinite, hsign, nearest,
    nearestMagnitude_of_le hlarge]

theorem magnitude_mul (hx : AtLeastOne x) (hy : AtLeastOne y) :
    magnitude (x * y) = nearestMagnitude (value (magnitude x) * value (magnitude y)) := by
  rw [hx.mul_eq hy, nearest, magnitude_ofMagnitude _ (nearestMagnitude_le_infinite _)]

theorem one_le_mul (hx : AtLeastOne x) (hy : AtLeastOne y) :
    1 ≤ value (magnitude x) * value (magnitude y) :=
  one_le_mul_of_one_le_of_one_le hx.one_le hy.one_le

theorem mul (hx : AtLeastOne x) (hy : AtLeastOne y) : AtLeastOne (x * y) := by
  have hle := nearestMagnitude_le_infinite (value (magnitude x) * value (magnitude y))
  constructor
  · rw [hx.mul_eq hy, nearest, isNegative_ofMagnitude _ hle]
  · rw [hx.magnitude_mul hy]
    exact hle
  · rw [hx.magnitude_mul hy, ← value_one]
    apply value_mono
    apply le_nearestMagnitude
    · rw [value_one]
      exact hx.one_le_mul hy
    · decide

end AtLeastOne

/-! ### Errors of products -/

/-- What rounding up makes of a number at most. -/
def roundedUp : Rat := 1 + 1 / 2 ^ 53

/-- What rounding down leaves of a number at least. -/
def roundedDown : Rat := 1 - 1 / 2 ^ 53

/-- A double that is so large, or infinite. -/
def Reaches (x : Float) (r : Rat) : Prop :=
  r ≤ value (magnitude x) ∨ magnitude x = infiniteMagnitude

theorem roundedUp_nonneg : 0 ≤ roundedUp := by norm_num [roundedUp]

theorem roundedDown_nonneg : 0 ≤ roundedDown := by norm_num [roundedDown]

theorem least_normal_le {r : Rat} (h : 1 ≤ r) : (2 : Rat) ^ (-1022 : Int) ≤ r :=
  (zpow_le_one_of_nonpos₀ one_le_two (by decide)).trans h

section Product

variable {x y : Float} {a b : Rat} (hx : AtLeastOne x) (hy : AtLeastOne y)
include hx hy

theorem value_mul_le (ha : value (magnitude x) ≤ a) (hb : value (magnitude y) ≤ b) :
    value (magnitude (x * y)) ≤ a * b * roundedUp := by
  have hup := value_nearestMagnitude_le (least_normal_le (hx.one_le_mul hy))
  have hproduct := mul_le_mul ha hb (value_nonneg _) ((value_nonneg _).trans ha)
  rw [hx.magnitude_mul hy]
  calc value (nearestMagnitude (value (magnitude x) * value (magnitude y)))
      ≤ value (magnitude x) * value (magnitude y) * roundedUp := by
        rw [roundedUp]
        linarith only [hup]
    _ ≤ a * b * roundedUp := mul_le_mul_of_nonneg_right hproduct roundedUp_nonneg

theorem reaches_mul (hb : 0 ≤ b) (hxa : Reaches x a) (hyb : Reaches y b) :
    Reaches (x * y) (a * b * roundedDown) := by
  by_cases hinfinite : magnitude x = infiniteMagnitude ∨ magnitude y = infiniteMagnitude
  · right
    rw [mul_infinite hx.le_infinite hy.le_infinite hx.ne_zero hy.ne_zero hinfinite]
    exact magnitude_ofMagnitude _ le_rfl
  rw [not_or] at hinfinite
  have hproduct : a * b ≤ value (magnitude x) * value (magnitude y) :=
    mul_le_mul (hxa.resolve_right hinfinite.1) (hyb.resolve_right hinfinite.2) hb (value_nonneg _)
  rw [Reaches, hx.magnitude_mul hy]
  rcases le_value_nearestMagnitude (least_normal_le (hx.one_le_mul hy)) with hbeyond | hdown
  · right
    apply (nearestMagnitude_le_infinite _).antisymm
    by_contra hlt
    exact (hbeyond.trans_lt (value_lt_rangeEnd (not_le.1 hlt))).not_gt rangeEnd_lt
  · left
    calc a * b * roundedDown
        ≤ value (magnitude x) * value (magnitude y) * roundedDown :=
          mul_le_mul_of_nonneg_right hproduct roundedDown_nonneg
      _ ≤ value (nearestMagnitude (value (magnitude x) * value (magnitude y))) := by
          rw [roundedDown]
          linarith only [hdown]

end Product

/-! ### Errors of powers -/

section Bound

variable {Bounds : Float → Rat → Prop} {factor : Rat}
  (hmul : ∀ {x y : Float} {a b : Rat}, AtLeastOne x → AtLeastOne y → 0 ≤ a → 0 ≤ b →
    Bounds x a → Bounds y b → Bounds (x * y) (a * b * factor))
include hmul

/-- One step of repeated squaring takes the lowest bit of the exponent into the product. -/
theorem step_bound (exponent : Nat) {base product : Float} {a b : Rat}
    (hbase : AtLeastOne base) (hproduct : AtLeastOne product) (ha : 0 ≤ a) (hb : 0 ≤ b)
    (hbaseBound : Bounds base a) (hproductBound : Bounds product b) :
    AtLeastOne (if exponent % 2 = 1 then product * base else product) ∧
      Bounds (if exponent % 2 = 1 then product * base else product)
        (b * (a * factor) ^ (exponent % 2)) := by
  rcases Nat.mod_two_eq_zero_or_one exponent with heven | hodd
  · rw [heven, if_neg (by decide), pow_zero, mul_one]
    exact ⟨hproduct, hproductBound⟩
  · rw [hodd, if_pos rfl, pow_one, ← mul_assoc]
    exact ⟨hproduct.mul hbase, hmul hproduct hbase hb ha hproductBound hbaseBound⟩

/-- Where products keep a bound up to a factor, each factor of a power bears the error of one product. -/
theorem powNat_bound (hfactor : 0 ≤ factor) (exponent : Nat) {base product : Float} {a b : Rat}
    (hbase : AtLeastOne base) (hproduct : AtLeastOne product) (ha : 0 ≤ a) (hb : 0 ≤ b)
    (hbaseBound : Bounds base a) (hproductBound : Bounds product b) :
    AtLeastOne (powNat base exponent product) ∧
      Bounds (powNat base exponent product) (b * (a * factor) ^ exponent) := by
  induction exponent using Nat.strong_induction_on generalizing base product a b with
  | _ exponent ih =>
      obtain ⟨hnext, hnextBound⟩ :=
        step_bound hmul exponent hbase hproduct ha hb hbaseBound hproductBound
      rw [powNat]
      by_cases hlast : exponent / 2 = 0
      · rw [dif_pos hlast]
        rw [show exponent % 2 = exponent by omega] at hnextBound
        rw [show exponent % 2 = exponent by omega] at hnext ⊢
        exact ⟨hnext, hnextBound⟩
      · rw [dif_neg hlast]
        have hrest := ih (exponent / 2) (by omega) (hbase.mul hbase) hnext
          (show 0 ≤ a * a * factor by positivity)
          (show 0 ≤ b * (a * factor) ^ (exponent % 2) by positivity)
          (hmul hbase hbase ha ha hbaseBound hbaseBound) hnextBound
        have hpower : b * (a * factor) ^ (exponent % 2) * (a * a * factor * factor) ^ (exponent / 2) =
            b * (a * factor) ^ exponent := by
          rw [show a * a * factor * factor = (a * factor) ^ 2 by ring, ← pow_mul, mul_assoc,
            ← pow_add, Nat.mod_add_div]
        rwa [hpower] at hrest

end Bound

/-! ### Powers of ten -/

theorem atLeastOne_one : AtLeastOne 1 := ⟨by decide, by decide, value_one.ge⟩

theorem atLeastOne_ten : AtLeastOne 10 := ⟨by decide, by decide, value_ten.ge.trans' (by norm_num)⟩

theorem powNat_ten_le (exponent : Nat) :
    AtLeastOne (powNat 10 exponent 1) ∧
      value (magnitude (powNat 10 exponent 1)) ≤ (10 * roundedUp) ^ exponent := by
  have hbound := @powNat_bound (fun x r => value (magnitude x) ≤ r) roundedUp
    (fun hx hy _ _ ha hb => value_mul_le hx hy ha hb) roundedUp_nonneg exponent 10 1 10 1 atLeastOne_ten
    atLeastOne_one (by norm_num) zero_le_one value_ten.le value_one.le
  rwa [one_mul] at hbound

theorem reaches_powNat_ten (exponent : Nat) :
    Reaches (powNat 10 exponent 1) ((10 * roundedDown) ^ exponent) := by
  have hbound := @powNat_bound Reaches roundedDown
    (fun hx hy _ hb hxa hyb => reaches_mul hx hy hb hxa hyb) roundedDown_nonneg exponent 10 1 10 1
    atLeastOne_ten
    atLeastOne_one (by norm_num) zero_le_one (.inl value_ten.ge) (.inl value_one.ge)
  rw [one_mul] at hbound
  exact hbound.2

/-- The errors of a few hundred products are far too small to move the end of the range. -/
theorem magnitude_powNat_ten_lt_iff {exponent : Nat} :
    magnitude (powNat 10 exponent 1) < infiniteMagnitude ↔ exponent ≤ 308 := by
  constructor
  · intro hfinite
    by_contra hlarge
    have hbeyond : (2 : Rat) ^ (1024 : Int) ≤ value (magnitude (powNat 10 exponent 1)) :=
      calc (2 : Rat) ^ (1024 : Int) ≤ (10 * roundedDown) ^ 309 := by decide +kernel
        _ ≤ (10 * roundedDown) ^ exponent :=
          pow_le_pow_right₀ (by norm_num [roundedDown]) (by omega)
        _ ≤ value (magnitude (powNat 10 exponent 1)) :=
          (reaches_powNat_ten exponent).resolve_right hfinite.ne
    exact (hbeyond.trans_lt (value_lt_rangeEnd hfinite)).not_gt rangeEnd_lt
  · intro hsmall
    by_contra hinfinite
    have hbelow : value infiniteMagnitude < 2 ^ (1024 : Int) :=
      calc value infiniteMagnitude ≤ value (magnitude (powNat 10 exponent 1)) :=
            value_mono (not_lt.1 hinfinite)
        _ ≤ (10 * roundedUp) ^ exponent := (powNat_ten_le exponent).2
        _ ≤ (10 * roundedUp) ^ 308 := pow_le_pow_right₀ (by norm_num [roundedUp]) hsmall
        _ < 2 ^ (1024 : Int) := by decide +kernel
    exact absurd value_infinite hbelow.ne

/-- The reciprocal of a power that is one or more; that of an infinite power is zero. -/
theorem one_div_eq {power : Float} (h : AtLeastOne power) :
    1 / power = ofMagnitude false (if magnitude power < infiniteMagnitude then
      nearestMagnitude (1 / value (magnitude power)) else 0) := by
  have hone : magnitude 1 < infiniteMagnitude := by decide
  have hsign : (isNegative 1 ^^ isNegative power) = false := by
    rw [atLeastOne_one.positive, h.positive]
    rfl
  split
  · rename_i hfinite
    rw [div_eq hone hfinite h.ne_zero, hsign, value_one]
    rfl
  · rename_i hinfinite
    rw [div_infinite hone (h.le_infinite.antisymm (not_lt.1 hinfinite)), hsign]

/-- The reciprocal of a finite power is neither infinite nor zero. -/
theorem nearestMagnitude_one_div {power : Float} (h : AtLeastOne power)
    (hfinite : magnitude power < infiniteMagnitude) :
    nearestMagnitude (1 / value (magnitude power)) < infiniteMagnitude ∧
      nearestMagnitude (1 / value (magnitude power)) ≠ 0 := by
  have hpos : 0 < value (magnitude power) := zero_lt_one.trans_le h.one_le
  constructor
  · apply nearestMagnitude_lt_of_lt
    · positivity
    · calc 1 / value (magnitude power) ≤ 1 := (div_le_one hpos).2 h.one_le
        _ ≤ value (magnitude power) := h.one_le
        _ < rangeEnd := value_lt_rangeEnd hfinite
  · have hvalue : value 1 = 2 ^ (-1074 : Int) := one_mul _
    have hleast : value 1 ≤ 1 / value (magnitude power) := by
      rw [le_div_iff₀ hpos, hvalue]
      calc (2 : Rat) ^ (-1074 : Int) * value (magnitude power)
          ≤ 2 ^ (-1074 : Int) * 2 ^ (1024 : Int) :=
            mul_le_mul_of_nonneg_left ((value_lt_rangeEnd hfinite).trans rangeEnd_lt).le (by positivity)
        _ = 2 ^ (-50 : Int) := by rw [← zpow_add₀ two_ne_zero]; rfl
        _ ≤ 1 := zpow_le_one_of_nonpos₀ one_le_two (by decide)
    have := le_nearestMagnitude hleast (by decide)
    omega

theorem atLeastOne_powTen {exponent : Int} (h : 0 ≤ exponent) : AtLeastOne (powTen exponent) := by
  rw [powTen, if_neg (by omega)]
  exact (powNat_ten_le exponent.natAbs).1

theorem value_powTen_le_one {exponent : Int} (h : exponent < 0) :
    value (magnitude (powTen exponent)) ≤ 1 := by
  have hpower := (powNat_ten_le exponent.natAbs).1
  have hpos : 0 < value (magnitude (powNat 10 exponent.natAbs 1)) :=
    zero_lt_one.trans_le hpower.one_le
  have hle : magnitude (powTen exponent) ≤ magnitude 1 := by
    rw [powTen, if_pos h, one_div_eq hpower]
    split
    · rw [magnitude_ofMagnitude _ (nearestMagnitude_le_infinite _)]
      apply nearestMagnitude_le (by positivity) _ (by decide)
      rw [value_one]
      exact (div_le_one hpos).2 hpower.one_le
    · rw [magnitude_ofMagnitude _ (Nat.zero_le _)]
      exact Nat.zero_le _
  exact (value_mono hle).trans_eq value_one

/-- A power of ten is a finite double other than zero exactly up to the 308th, in both directions. -/
theorem powTen_finite_iff {exponent : Int} :
    (magnitude (powTen exponent) < infiniteMagnitude ∧ magnitude (powTen exponent) ≠ 0) ↔
      exponent.natAbs ≤ 308 := by
  have hpower := (powNat_ten_le exponent.natAbs).1
  rw [← magnitude_powNat_ten_lt_iff, powTen]
  split
  · rw [one_div_eq hpower]
    split
    · rename_i hfinite
      rw [magnitude_ofMagnitude _ (nearestMagnitude_le_infinite _)]
      exact ⟨fun _ => hfinite, fun _ => nearestMagnitude_one_div hpower hfinite⟩
    · rename_i hinfinite
      rw [magnitude_ofMagnitude _ (Nat.zero_le _)]
      exact ⟨fun h => absurd rfl h.2, fun h => absurd h hinfinite⟩
  · exact ⟨fun h => h.1, fun h => ⟨h, hpower.ne_zero⟩⟩

end BenchReport.Binary64
