import BenchReport.Proofs.Number.Order
import BenchReport.Proofs.Number.Packing

/-!
# Arithmetic on doubles

A product, a quotient or a sum of finite doubles is the exact result rounded once to the nearest double, also where the result leaves the range and the nearest double is infinity. That is how everything else here knows arithmetic. What has left the range does not come back: no product or quotient that starts from it is finite, and neither is a quotient by zero.
-/

namespace BenchReport.Binary64

open Float.Model Float.Model.UnpackedFloat

/-! ### Unpacked doubles -/

/-- The unpacked forms of a double, told by its magnitude. -/
inductive Unpacks (x : Float) : UnpackedFloat → Prop
  | notANumber (h : infiniteMagnitude < magnitude x) : Unpacks x .notANumber
  | infinity (h : magnitude x = infiniteMagnitude) : Unpacks x (.infinity (signOf (isNegative x)))
  | zero (h : magnitude x = 0) : Unpacks x (.zero (signOf (isNegative x)))
  | finite {mantissa : Nat} {exponent : Int} (hpos : 0 < mantissa)
      (hnormal : NormalFields mantissa exponent)
      (h : (magnitude x : Int) = magnitudeOf mantissa exponent) :
      Unpacks x (.finite (signOf (isNegative x)) mantissa exponent hpos)

theorem unpacks (x : Float) : Unpacks x x.toModel.unpack := by
  have hnormal := normal_unpack x.toBits.toBitVec
  have hexponent : (@unpackExponent .binary64 x.toBits.toBitVec).toNat =
      x.toBits.toNat / 2 ^ 52 % 2 ^ 11 := toNat_unpackExponent x.toBits.toBitVec
  have hmantissa : (@unpackMantissa .binary64 x.toBits.toBitVec).toNat = x.toBits.toNat % 2 ^ 52 :=
    toNat_unpackMantissa x.toBits.toBitVec
  have happend : (1#1 ++ @unpackMantissa .binary64 x.toBits.toBitVec).toNat =
      2 ^ 52 + (@unpackMantissa .binary64 x.toBits.toBitVec).toNat := toNat_append_one _
  have hbias : ((Format.binary64.exponentBias : Nat) : Int) = 1023 := rfl
  have hbits : ((Format.binary64.mantissaBitsWithoutImplicit : Nat) : Int) = 52 := rfl
  have hgreatest : @unpackExponent .binary64 x.toBits.toBitVec = -1#11 ↔
      x.toBits.toNat / 2 ^ 52 % 2 ^ 11 = 2047 := unpackExponent_eq_ones
  have hleast : @unpackExponent .binary64 x.toBits.toBitVec = 0#11 ↔
      x.toBits.toNat / 2 ^ 52 % 2 ^ 11 = 0 := unpackExponent_eq_zero
  have hempty : @unpackMantissa .binary64 x.toBits.toBitVec = 0#52 ↔
      x.toBits.toNat % 2 ^ 52 = 0 := unpackMantissa_eq_zero
  show Unpacks x (UnpackedFloat.unpack .binary64 x.toBits.toBitVec)
  rw [UnpackedFloat.unpack] at hnormal ⊢
  dsimp only at hnormal ⊢
  rw [sign_eq, ← signOf] at hnormal ⊢
  by_cases hbeyond : @unpackExponent .binary64 x.toBits.toBitVec = -1#11
  · rw [if_pos hbeyond]
    rw [hgreatest] at hbeyond
    split
    · rename_i hzero
      rw [hempty] at hzero
      apply Unpacks.infinity
      rw [magnitude, infiniteMagnitude]
      omega
    · rename_i hzero
      rw [hempty] at hzero
      apply Unpacks.notANumber
      rw [magnitude, infiniteMagnitude]
      omega
  · rw [if_neg hbeyond] at hnormal ⊢
    by_cases hsmall : @unpackExponent .binary64 x.toBits.toBitVec = 0#11
    · rw [if_pos hsmall] at hnormal ⊢
      rw [hleast] at hsmall
      by_cases hzero : @unpackMantissa .binary64 x.toBits.toBitVec = 0#52
      · rw [dif_pos hzero]
        rw [hempty] at hzero
        apply Unpacks.zero
        rw [magnitude]
        omega
      · rw [dif_neg hzero] at hnormal ⊢
        apply Unpacks.finite _ hnormal
        rw [magnitude, magnitudeOf, hexponent, hmantissa, hbias, hbits]
        omega
    · rw [if_neg hsmall] at hnormal ⊢
      rw [hgreatest] at hbeyond
      apply Unpacks.finite _ hnormal
      rw [magnitude, magnitudeOf, happend, hexponent, hmantissa, hbias, hbits]
      omega

theorem isNaN_eq_false {x : Float} (h : magnitude x ≤ infiniteMagnitude) : x.isNaN = false := by
  have hunpacks := unpacks x
  show x.toModel.unpack.isNaN = false
  generalize x.toModel.unpack = number at hunpacks
  cases hunpacks with
  | notANumber => omega
  | infinity => rfl
  | zero => rfl
  | finite => rfl

theorem zero_le_ofMagnitude {size : Nat} (h : size ≤ infiniteMagnitude) :
    0 ≤ ofMagnitude false size := by
  have hmagnitude := magnitude_ofMagnitude false h
  have hplace : place (ofMagnitude false size) = size := by
    rw [place, isNegative_ofMagnitude false h, hmagnitude]
    rfl
  have hzero : place 0 = 0 := by decide
  refine le_iff.2 ⟨by decide, isNaN_eq_false (hmagnitude.trans_le h), ?_⟩
  omega

theorem packed_unpack (x : Float) : packed x.toModel.unpack = x := by
  have hbits : UnpackedFloat.pack .binary64 x.toModel.unpack = x.toModel.toBits.toBitVec :=
    pack_unpack_of_valid x.toModel.valid
  obtain ⟨model⟩ := x
  show Float.ofModel (.pack _) = Float.ofModel model
  congr 1
  rw [Float.Model.pack]
  simp only [hbits]

/-- The number behind a finite double is its mantissa times its power of two. -/
theorem value_of_fields {size mantissa : Nat} {exponent : Int}
    (hnormal : NormalFields mantissa exponent) (h : (size : Int) = magnitudeOf mantissa exponent) :
    value size = mantissa * (2 : Rat) ^ exponent := by
  obtain ⟨hleast, _, hshort, hleading⟩ := hnormal
  have hsize : size = (exponent + 1074).toNat * 2 ^ 52 + mantissa := by
    rw [magnitudeOf] at h
    omega
  rw [hsize]
  apply value_units hleast hshort.le
  omega

theorem nearest_zero (negative : Bool) : nearest negative 0 = ofMagnitude negative 0 := by
  rw [nearest, nearestMagnitude, if_pos rfl]

theorem nearest_value {x : Float} (h : magnitude x < infiniteMagnitude) :
    nearest (isNegative x) (value (magnitude x)) = x := by
  rw [nearest, nearestMagnitude_value h, ofMagnitude_magnitude]

/-- A mantissa without residual bits measures its number exactly. -/
theorem measures_exact {mantissa : Nat} {exponent : Int} {r : Rat}
    (h : r = mantissa * (2 : Rat) ^ exponent) :
    Measures (.ofMantissaAndAccuracy mantissa .exact) (r * 2 ^ (-exponent)) := by
  show r * 2 ^ (-exponent) = mantissa
  rw [h, mul_assoc, ← zpow_add₀ two_ne_zero, add_neg_cancel, zpow_zero, mul_one]

theorem floorLog2_mantissa {mantissa : Nat} (hpos : 0 < mantissa) (exponent : Int) :
    floorLog2 (mantissa * (2 : Rat) ^ exponent) = mantissa.log2 + exponent := by
  have hexact : (mantissa : Rat) * 2 ^ exponent * 2 ^ (-exponent) = mantissa :=
    measures_exact rfl
  apply floorLog2_of_bounds hpos
  · exact hexact.ge
  · exact hexact.trans_lt (lt_add_one _)

/-! ### Products -/

theorem signOf_mul (a b : Bool) : signOf a * signOf b = signOf (a ^^ b) := by
  cases a <;> cases b <;> rfl

/-- The product of two mantissas keeps all the bits that rounding needs. -/
theorem packed_product (negative : Bool) {m n : Nat} {e f : Int} (hm : 0 < m) (hn : 0 < n)
    (hnormal : NormalFields m e) (hnormal' : NormalFields n f) :
    packed (roundWithAccuracy .binary64 (signOf negative) (m * n) (e + f) .exact) =
      nearest negative (m * (2 : Rat) ^ e * (n * (2 : Rat) ^ f)) := by
  have hproduct : (m : Rat) * 2 ^ e * (n * 2 ^ f) = ((m * n : Nat) : Rat) * 2 ^ (e + f) := by
    rw [Nat.cast_mul, zpow_add₀ two_ne_zero]
    ring
  have hpos : 0 < m * n := Nat.mul_pos hm hn
  obtain ⟨hleast, _, _, hleading⟩ := hnormal
  obtain ⟨hleast', _, _, hleading'⟩ := hnormal'
  apply packed_roundWithAccuracy
  · positivity
  · exact measures_exact hproduct
  · rw [hproduct, floorLog2_mantissa hpos]
    -- One leading bit is enough; without any, both exponents are the least.
    by_cases hlarge : 2 ^ 52 ≤ m ∨ 2 ^ 52 ≤ n
    · have hlog : 52 ≤ (m * n).log2 := by
        rw [Nat.le_log2 hpos.ne']
        rcases hlarge with h | h
        · exact h.trans (Nat.le_mul_of_pos_right m hn)
        · exact h.trans (Nat.le_mul_of_pos_left n hm)
      omega
    · omega

/-- A product of finite doubles is the nearest double of the exact product. -/
theorem mul_eq {x y : Float} (hx : magnitude x < infiniteMagnitude)
    (hy : magnitude y < infiniteMagnitude) :
    x * y = nearest (isNegative x ^^ isNegative y) (value (magnitude x) * value (magnitude y)) := by
  have hleft := unpacks x
  have hright := unpacks y
  show packed (UnpackedFloat.mul .binary64 x.toModel.unpack y.toModel.unpack) = _
  generalize x.toModel.unpack = left at hleft
  generalize y.toModel.unpack = right at hright
  cases hleft with
  | notANumber => omega
  | infinity => omega
  | zero hzero =>
      rw [hzero, value_zero, zero_mul, nearest_zero, ← packed_zero, ← signOf_mul]
      cases hright with
      | notANumber => omega
      | infinity => omega
      | zero => rfl
      | finite => rfl
  | finite hpos hnormal hfields =>
      cases hright with
      | notANumber => omega
      | infinity => omega
      | zero hzero =>
          rw [hzero, value_zero, mul_zero, nearest_zero, ← packed_zero, ← signOf_mul]
          rfl
      | finite hpos' hnormal' hfields' =>
          rw [value_of_fields hnormal hfields, value_of_fields hnormal' hfields', UnpackedFloat.mul,
            signOf_mul]
          exact packed_product _ hpos hpos' hnormal hnormal'

/-- A product of doubles that are not zero is infinite as soon as one of them is. -/
theorem mul_infinite {x y : Float} (hx : magnitude x ≤ infiniteMagnitude)
    (hy : magnitude y ≤ infiniteMagnitude) (hxzero : magnitude x ≠ 0) (hyzero : magnitude y ≠ 0)
    (h : magnitude x = infiniteMagnitude ∨ magnitude y = infiniteMagnitude) :
    x * y = ofMagnitude (isNegative x ^^ isNegative y) infiniteMagnitude := by
  have hleft := unpacks x
  have hright := unpacks y
  have hinfinite : packed (.infinity (signOf (isNegative x ^^ isNegative y))) =
      ofMagnitude (isNegative x ^^ isNegative y) infiniteMagnitude := packed_of_infinity rfl
  show packed (UnpackedFloat.mul .binary64 x.toModel.unpack y.toModel.unpack) = _
  rw [← hinfinite, ← signOf_mul]
  generalize x.toModel.unpack = left at hleft
  generalize y.toModel.unpack = right at hright
  cases hleft with
  | notANumber => omega
  | infinity =>
      cases hright with
      | notANumber => omega
      | infinity => rfl
      | zero => omega
      | finite => rfl
  | zero => omega
  | finite hpos hnormal hfields =>
      have hbounds := hnormal.bounds hpos
      cases hright with
      | notANumber => omega
      | infinity => rfl
      | zero => omega
      | finite hpos' hnormal' hfields' =>
          have hbounds' := hnormal'.bounds hpos'
          omega

/-! ### Quotients -/

theorem signOf_div (a b : Bool) : signOf a / signOf b = signOf (a ^^ b) := by
  cases a <;> cases b <;> rfl

/-- The rest of a division decides on which side of the half the quotient lies. -/
theorem measures_fraction (num : Nat) {den : Nat} (hden : 0 < den) :
    Measures (.ofMantissaAndAccuracy (num / den) (accuracyOfFraction (num % den) den))
      ((num : Rat) / den) := by
  have hpos : (0 : Rat) < den := by exact_mod_cast hden
  have hsplit : (num : Rat) / den = (num / den : Nat) + (num % den : Nat) / den := by
    rw [div_eq_iff hpos.ne', add_mul, div_mul_cancel₀ _ hpos.ne', mul_comm]
    exact_mod_cast (Nat.div_add_mod num den).symm
  have hrest : num % den < den := Nat.mod_lt num hden
  rw [hsplit, accuracyOfFraction]
  generalize num / den = whole
  generalize num % den = rest at hrest ⊢
  by_cases hzero : rest = 0
  · rw [if_pos hzero, hzero, Nat.cast_zero, zero_div, add_zero]
    rfl
  rw [if_neg hzero]
  have hrestpos : (0 : Rat) < rest / den := by positivity
  rcases lt_trichotomy (2 * rest) den with hlt | heq | hgt
  · have hbelow : (rest : Rat) / den < 1 / 2 := by
      have : (2 * rest : Rat) < den := by exact_mod_cast hlt
      rw [div_lt_iff₀ hpos]
      linarith only [this]
    rw [Nat.compare_eq_lt.2 hlt]
    constructor <;> linarith only [hrestpos, hbelow]
  · have hhalf : (rest : Rat) / den = 1 / 2 := by
      have : (2 * rest : Rat) = den := by exact_mod_cast heq
      rw [div_eq_iff hpos.ne']
      linarith only [this]
    rw [Nat.compare_eq_eq.2 heq, hhalf]
    rfl
  · have habove : 1 / 2 < (rest : Rat) / den := by
      have : (den : Rat) < 2 * rest := by exact_mod_cast hgt
      rw [lt_div_iff₀ hpos]
      linarith only [this]
    have hless : (rest : Rat) / den < 1 := by
      rw [div_lt_one hpos]
      exact_mod_cast hrest
    rw [Nat.compare_eq_gt.2 hgt]
    constructor <;> linarith only [habove, hless]

/-- The dividend is shifted far enough for the quotient to have all the bits that rounding needs. -/
theorem packed_quotient (negative : Bool) {m n : Nat} (hm : 0 < m) (e : Int) (hn : 0 < n)
    (f : Int) :
    packed (
      let (quotient, exponent, accuracy) := divCore .binary64 m e n f
      roundWithAccuracy .binary64 (signOf negative) quotient exponent accuracy) =
      nearest negative (m * (2 : Rat) ^ e / (n * (2 : Rat) ^ f)) := by
  rw [divCore]
  generalize htarget : Format.binary64.targetExponent (totalExponent m e - totalExponent n f) =
    target
  have htarget : max ((m.log2 : Int) + 1 + e - (n.log2 + 1 + f) - (53 : Nat)) (-1074) = target :=
    htarget
  have hnpos : (0 : Rat) < n := by exact_mod_cast hn
  have hpos : 0 < m * (2 : Rat) ^ e / (n * (2 : Rat) ^ f) := by positivity
  apply packed_roundWithAccuracy negative hpos
  · have hscaled : m * (2 : Rat) ^ e / (n * (2 : Rat) ^ f) * 2 ^ (-min (e - f) target) =
        ((m <<< (e - f - min (e - f) target).toNat : Nat) : Rat) / n := by
      rw [Nat.shiftLeft_eq, Nat.cast_mul, Nat.cast_pow, Nat.cast_ofNat, ← zpow_natCast,
        Int.toNat_of_nonneg (by omega), zpow_sub₀ two_ne_zero, zpow_sub₀ two_ne_zero, zpow_neg]
      field_simp
    rw [hscaled]
    exact measures_fraction _ hn
  · have hlow : (m.log2 : Int) - (n.log2 + 1 : Nat) + (e - f) ≤
        floorLog2 (m * (2 : Rat) ^ e / (n * (2 : Rat) ^ f)) := by
      rw [le_floorLog2 hpos, zpow_add₀ two_ne_zero, zpow_sub₀ two_ne_zero, zpow_sub₀ two_ne_zero,
        mul_div_mul_comm, zpow_natCast, zpow_natCast]
      apply mul_le_mul_of_nonneg_right _ (by positivity)
      apply div_le_div₀ (by positivity) _ hnpos
      · exact_mod_cast Nat.lt_log2_self.le
      · exact_mod_cast Nat.log2_self_le hm.ne'
    omega

/-- A quotient of finite doubles is the nearest double of the exact quotient. -/
theorem div_eq {x y : Float} (hx : magnitude x < infiniteMagnitude)
    (hy : magnitude y < infiniteMagnitude) (hzero : magnitude y ≠ 0) :
    x / y = nearest (isNegative x ^^ isNegative y) (value (magnitude x) / value (magnitude y)) := by
  have hleft := unpacks x
  have hright := unpacks y
  show packed (UnpackedFloat.div .binary64 x.toModel.unpack y.toModel.unpack) = _
  generalize x.toModel.unpack = left at hleft
  generalize y.toModel.unpack = right at hright
  cases hright with
  | notANumber => omega
  | infinity => omega
  | zero => omega
  | @finite n f hpos' hnormal' hfields' =>
      cases hleft with
      | notANumber => omega
      | infinity => omega
      | zero hzero =>
          rw [hzero, value_zero, zero_div, nearest_zero, ← packed_zero, ← signOf_div]
          rfl
      | @finite m e hpos hnormal hfields =>
          rw [value_of_fields hnormal hfields, value_of_fields hnormal' hfields', UnpackedFloat.div,
            signOf_div]
          exact packed_quotient _ hpos e hpos' f

/-- A finite double over infinity is zero. -/
theorem div_infinite {x y : Float} (hx : magnitude x < infiniteMagnitude)
    (hy : magnitude y = infiniteMagnitude) :
    x / y = ofMagnitude (isNegative x ^^ isNegative y) 0 := by
  have hleft := unpacks x
  have hright := unpacks y
  show packed (UnpackedFloat.div .binary64 x.toModel.unpack y.toModel.unpack) = _
  rw [← packed_zero, ← signOf_div]
  generalize x.toModel.unpack = left at hleft
  generalize y.toModel.unpack = right at hright
  cases hright with
  | notANumber => omega
  | infinity =>
      cases hleft with
      | notANumber => omega
      | infinity => omega
      | zero => rfl
      | finite => rfl
  | zero =>
      rw [infiniteMagnitude] at hy
      omega
  | finite hpos hnormal hfields =>
      have hbounds := hnormal.bounds hpos
      omega

/-! ### Sums -/

/-- A mantissa of any length is given room for all its bits first. -/
theorem packed_round (negative : Bool) {mantissa : Nat} (hpos : 0 < mantissa) (exponent : Int) :
    packed (UnpackedFloat.round .binary64 (signOf negative) mantissa exponent) =
      nearest negative (mantissa * (2 : Rat) ^ exponent) := by
  rw [UnpackedFloat.round]
  generalize htarget : Format.binary64.targetExponent (totalExponent mantissa exponent) = target
  have htarget : max ((mantissa.log2 : Int) + 1 + exponent - (53 : Nat)) (-1074) = target := htarget
  rw [decreaseExponent]
  dsimp only
  have hexact : (mantissa : Rat) * 2 ^ exponent =
      ((mantissa <<< (exponent - target).toNat : Nat) : Rat) *
        2 ^ (exponent - ((exponent - target).toNat : Int)) := by
    rw [Nat.shiftLeft_eq, Nat.cast_mul, Nat.cast_pow, Nat.cast_ofNat, mul_assoc, ← zpow_natCast,
      ← zpow_add₀ two_ne_zero, add_sub_cancel]
  apply packed_roundWithAccuracy
  · positivity
  · exact measures_exact hexact
  · rw [floorLog2_mantissa hpos]
    omega

theorem packed_normalize {mantissa : Nat} (hpos : 0 < mantissa) (exponent : Int) (zeroSign : Sign) :
    packed (UnpackedFloat.normalize .binary64 mantissa exponent zeroSign) =
      nearest false (mantissa * (2 : Rat) ^ exponent) := by
  rw [UnpackedFloat.normalize, Int.compare_eq_gt.2 (by omega)]
  exact packed_round false hpos exponent

/-- A mantissa moved to a smaller power of two stands for the same number. -/
theorem shifted_eq {mantissa : Nat} {exponent least : Int} (h : least ≤ exponent) :
    ((mantissa <<< (exponent - least).toNat : Nat) : Rat) * 2 ^ least = mantissa * 2 ^ exponent := by
  rw [Nat.shiftLeft_eq, Nat.cast_mul, Nat.cast_pow, Nat.cast_ofNat, mul_assoc, ← zpow_natCast,
    ← zpow_add₀ two_ne_zero, Int.toNat_of_nonneg (by omega), sub_add_cancel]

/-- Two mantissas are added at the smaller of their powers of two. -/
theorem packed_sum {m : Nat} (hm : 0 < m) (e : Int) (n : Nat) (f : Int) (zeroSign : Sign) :
    packed (UnpackedFloat.normalize .binary64
        (m <<< (e - min e f).toNat + n <<< (f - min e f).toNat : Nat) (min e f) zeroSign) =
      nearest false (m * (2 : Rat) ^ e + n * (2 : Rat) ^ f) := by
  have hpos : 0 < m <<< (e - min e f).toNat + n <<< (f - min e f).toNat := by
    rw [Nat.shiftLeft_eq, Nat.shiftLeft_eq]
    positivity
  rw [← shifted_eq (min_le_left e f), ← shifted_eq (min_le_right e f), ← add_mul, ← Nat.cast_add]
  exact packed_normalize hpos _ _

/-- A sum of two finite doubles that are not negative is the nearest double of the exact sum. -/
theorem add_eq {x y : Float} (hx : magnitude x < infiniteMagnitude)
    (hy : magnitude y < infiniteMagnitude) (hxpos : isNegative x = false)
    (hypos : isNegative y = false) :
    x + y = nearest false (value (magnitude x) + value (magnitude y)) := by
  have hxself : packed x.toModel.unpack = nearest false (value (magnitude x)) := by
    rw [packed_unpack, ← hxpos, nearest_value hx]
  have hyself : packed y.toModel.unpack = nearest false (value (magnitude y)) := by
    rw [packed_unpack, ← hypos, nearest_value hy]
  have hleft := unpacks x
  have hright := unpacks y
  show packed (UnpackedFloat.add .binary64 x.toModel.unpack y.toModel.unpack) = _
  generalize x.toModel.unpack = left at hleft hxself
  generalize y.toModel.unpack = right at hright hyself
  cases hleft with
  | notANumber => omega
  | infinity => omega
  | zero hzero =>
      cases hright with
      | notANumber => omega
      | infinity => omega
      | zero hzero' =>
          rw [hzero, hzero', value_zero, add_zero, nearest_zero, ← packed_zero, hxpos, hypos]
          rfl
      | finite =>
          rw [hzero, value_zero, zero_add, ← hyself]
          rfl
  | @finite m e hpos hnormal hfields =>
      cases hright with
      | notANumber => omega
      | infinity => omega
      | zero hzero =>
          rw [hzero, value_zero, add_zero, ← hxself]
          rfl
      | @finite n f hpos' hnormal' hfields' =>
          rw [hxpos, hypos, value_of_fields hnormal hfields, value_of_fields hnormal' hfields']
          exact packed_sum hpos e n f _

/-- A sum with infinity is infinity. -/
theorem add_infinite {x y : Float} (hx : magnitude x < infiniteMagnitude)
    (hy : magnitude y = infiniteMagnitude) (hypos : isNegative y = false) :
    x + y = ofMagnitude false infiniteMagnitude := by
  have hleft := unpacks x
  have hright := unpacks y
  have hinfinite : packed (.infinity .positive) = ofMagnitude false infiniteMagnitude :=
    @packed_of_infinity (.infinity .positive) false rfl
  show packed (UnpackedFloat.add .binary64 x.toModel.unpack y.toModel.unpack) = _
  rw [← hinfinite]
  generalize x.toModel.unpack = left at hleft
  generalize y.toModel.unpack = right at hright
  cases hright with
  | notANumber => omega
  | infinity =>
      rw [hypos]
      cases hleft with
      | notANumber => omega
      | infinity => omega
      | zero => rfl
      | finite => rfl
  | zero =>
      rw [infiniteMagnitude] at hy
      omega
  | finite hpos hnormal hfields =>
      have hbounds := hnormal.bounds hpos
      omega

/-! ### Results that are not finite -/

theorem isFinite_packed {number : UnpackedFloat} (h : (packed number).isFinite = true) :
    number.isFinite = true := by
  cases number with
  | notANumber => exact absurd h (by decide)
  | infinity sign => cases sign <;> exact absurd h (by decide)
  | zero => rfl
  | finite => rfl

/-- A product is finite only if both factors are. -/
theorem isFinite_of_mul {x y : Float} (h : (x * y).isFinite = true) :
    x.isFinite = true ∧ y.isFinite = true := by
  have hmul : (UnpackedFloat.mul .binary64 x.toModel.unpack y.toModel.unpack).isFinite = true :=
    isFinite_packed h
  show x.toModel.unpack.isFinite = true ∧ y.toModel.unpack.isFinite = true
  generalize x.toModel.unpack = left at hmul
  generalize y.toModel.unpack = right at hmul
  cases left <;> cases right <;> first | exact ⟨rfl, rfl⟩ | exact nomatch hmul

/-- A quotient is finite only if the dividend is and the divisor is not zero. -/
theorem isFinite_of_div {x y : Float} (h : (x / y).isFinite = true) :
    x.isFinite = true ∧ magnitude y ≠ 0 := by
  have hdiv : (UnpackedFloat.div .binary64 x.toModel.unpack y.toModel.unpack).isFinite = true :=
    isFinite_packed h
  have hright := unpacks y
  show x.toModel.unpack.isFinite = true ∧ _
  generalize x.toModel.unpack = left at hdiv
  generalize y.toModel.unpack = right at hdiv hright
  have hfinite : left.isFinite = true := by
    cases left <;> cases right <;> first | rfl | exact nomatch hdiv
  cases hright with
  | notANumber => cases left <;> exact nomatch hdiv
  | infinity hinfinite =>
      rw [hinfinite]
      exact ⟨hfinite, by decide⟩
  | zero => cases left <;> exact nomatch hdiv
  | finite hpos hnormal hfields =>
      have hbounds := hnormal.bounds hpos
      exact ⟨hfinite, by omega⟩

end BenchReport.Binary64
