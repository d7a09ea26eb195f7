import BenchReport.Proofs.Number.Bits

/-!
# The order of doubles

A double that is a number has a place on a line of integers: its magnitude, or the negated magnitude if it is negative. Comparing two numbers is comparing their places, and negating a number mirrors its place, because magnitudes count the nonnegative doubles in increasing order. What is not a number has no place and is neither less nor greater than anything. Equal numbers are those at one place, and only the two zeros are equal without being the same double.
-/

namespace BenchReport.Binary64

open Float.Model Float.Model.UnpackedFloat

/-- The place of a double on the line. Both zeros are at the origin. -/
def place (x : Float) : Int := if isNegative x then -(magnitude x : Int) else magnitude x

/-! ### Places of unpacked doubles -/

/-- The magnitude of a finite number, from its mantissa and its exponent. -/
def magnitudeOf (mantissa : Nat) (exponent : Int) : Int := (exponent + 1074) * 2 ^ 52 + mantissa

/-- The place of an unpacked double; what is not a number has none. -/
def placeOf? : UnpackedFloat → Option Int
  | .notANumber => none
  | .infinity sign => some (sign.apply infiniteMagnitude)
  | .zero _ => some 0
  | .finite sign mantissa exponent _ => some (sign.apply (magnitudeOf mantissa exponent))

/-- A mantissa lacks the leading bit only where the exponent is least, and the greatest exponent leaves room below infinity. -/
structure NormalFields (mantissa : Nat) (exponent : Int) : Prop where
  least : -1074 ≤ exponent
  greatest : exponent ≤ 971
  short : mantissa < 2 ^ 53
  leading : mantissa < 2 ^ 52 → exponent = -1074

def Normal : UnpackedFloat → Prop
  | .finite _ mantissa exponent _ => NormalFields mantissa exponent
  | _ => True

theorem toNat_append_one (mantissa : BitVec 52) :
    (1#1 ++ mantissa).toNat = 2 ^ 52 + mantissa.toNat := by
  rw [BitVec.toNat_append, Nat.shiftLeft_eq_mul_pow, Nat.mul_comm,
    ← Nat.two_pow_add_eq_or_of_lt mantissa.isLt]
  rfl

theorem normal_unpack (bits : BitVec Format.binary64.numBits) :
    Normal (UnpackedFloat.unpack .binary64 bits) := by
  have hexponent : (@unpackExponent .binary64 bits).toNat < 2 ^ 11 :=
    (@unpackExponent .binary64 bits).isLt
  have hmantissa : (@unpackMantissa .binary64 bits).toNat < 2 ^ 52 :=
    (@unpackMantissa .binary64 bits).isLt
  have hbias : ((Format.binary64.exponentBias : Nat) : Int) = 1023 := rfl
  have hbits : ((Format.binary64.mantissaBitsWithoutImplicit : Nat) : Int) = 52 := rfl
  rw [UnpackedFloat.unpack]
  split
  · split <;> trivial
  · rename_i hinfinite
    have hfinite : (@unpackExponent .binary64 bits).toNat ≠ 2047 :=
      fun he => hinfinite (BitVec.eq_of_toNat_eq he)
    split
    · rename_i hzero
      have hleast : (@unpackExponent .binary64 bits).toNat = 0 := by rw [hzero]; rfl
      split
      · trivial
      · constructor <;> omega
    · rename_i hzero
      have hpos : (@unpackExponent .binary64 bits).toNat ≠ 0 :=
        fun he => hzero (BitVec.eq_of_toNat_eq he)
      have happend : (1#1 ++ @unpackMantissa .binary64 bits).toNat =
          2 ^ 52 + (@unpackMantissa .binary64 bits).toNat := toNat_append_one _
      constructor <;> omega

/-- The place that is read off a pattern is given by all its bits but the sign. -/
theorem placeOf?_unpack (bits : BitVec Format.binary64.numBits) :
    placeOf? (UnpackedFloat.unpack .binary64 bits) =
      if (UnpackedFloat.unpack .binary64 bits).isNaN then none
      else some ((Sign.ofBitVec (unpackSign bits)).apply (bits.toNat % 2 ^ 63 : Nat)) := by
  have hexponent := toNat_unpackExponent bits
  have hmantissa := toNat_unpackMantissa bits
  have hbias : ((Format.binary64.exponentBias : Nat) : Int) = 1023 := rfl
  have hbits : ((Format.binary64.mantissaBitsWithoutImplicit : Nat) : Int) = 52 := rfl
  rw [UnpackedFloat.unpack]
  split
  · rename_i hinfinite
    have hones := unpackExponent_eq_ones.1 hinfinite
    split
    · rename_i hzero
      have hnone := unpackMantissa_eq_zero.1 hzero
      simp only [placeOf?, UnpackedFloat.isNaN, infiniteMagnitude, Bool.false_eq_true, if_false]
      congr 2
      omega
    · rfl
  · split
    · rename_i hsmall
      have hleast := unpackExponent_eq_zero.1 hsmall
      split
      · rename_i hzero
        have hnone := unpackMantissa_eq_zero.1 hzero
        have hall : bits.toNat % 2 ^ 63 = 0 := by omega
        simp only [placeOf?, UnpackedFloat.isNaN, Bool.false_eq_true, if_false, hall]
        cases Sign.ofBitVec (unpackSign bits) <;> rfl
      · simp only [placeOf?, magnitudeOf, UnpackedFloat.isNaN, Bool.false_eq_true, if_false, hbias, hbits,
          hexponent, hmantissa]
        congr 2
        omega
    · have happend : (1#1 ++ @unpackMantissa .binary64 bits).toNat =
          2 ^ 52 + (@unpackMantissa .binary64 bits).toNat := toNat_append_one _
      simp only [placeOf?, magnitudeOf, UnpackedFloat.isNaN, Bool.false_eq_true, if_false, hbias, hbits,
        hexponent]
      congr 2
      omega

/-! ### Comparing unpacked doubles -/

/-- Exponents are compared first and mantissas next, which is the order of the sizes. -/
theorem compare_fields {exponent exponent' : Int} {mantissa mantissa' : Nat}
    (h : NormalFields mantissa exponent) (h' : NormalFields mantissa' exponent') :
    (compare exponent exponent').then (compare mantissa mantissa') =
      compare (magnitudeOf mantissa exponent) (magnitudeOf mantissa' exponent') := by
  obtain ⟨hleast, hgreatest, hshort, hleading⟩ := h
  obtain ⟨hleast', hgreatest', hshort', hleading'⟩ := h'
  simp only [magnitudeOf]
  rcases lt_trichotomy exponent exponent' with hlt | rfl | hgt
  · rw [Int.compare_eq_lt.2 hlt, Int.compare_eq_lt.2 (by omega)]
    rfl
  · rw [Int.compare_eq_eq.2 rfl, Ordering.eq_then]
    rcases lt_trichotomy mantissa mantissa' with hlt | rfl | hgt
    · rw [Nat.compare_eq_lt.2 hlt, Int.compare_eq_lt.2 (by omega)]
    · rw [Nat.compare_eq_eq.2 rfl, Int.compare_eq_eq.2 rfl]
    · rw [Nat.compare_eq_gt.2 hgt, Int.compare_eq_gt.2 (by omega)]
  · rw [Int.compare_eq_gt.2 hgt, Int.compare_eq_gt.2 (by omega)]
    rfl

theorem compare_neg (a b : Int) : compare (-a) (-b) = (compare a b).swap := by
  rw [Int.compare_swap, Int.compare_eq_ite_lt, Int.compare_eq_ite_lt]
  grind

/-- The size of a finite number lies between those of zero and infinity. -/
theorem NormalFields.bounds {mantissa : Nat} {exponent : Int} (h : NormalFields mantissa exponent)
    (hpos : 0 < mantissa) :
    0 < magnitudeOf mantissa exponent ∧ magnitudeOf mantissa exponent < (infiniteMagnitude : Int) := by
  obtain ⟨hleast, hgreatest, hshort, _⟩ := h
  rw [magnitudeOf, infiniteMagnitude]
  omega

theorem compare_eq {left right : UnpackedFloat} (hleft : Normal left) (hright : Normal right) :
    left.compare right =
      (placeOf? left).bind fun a => (placeOf? right).map fun b => compare a b := by
  cases left with
  | notANumber => rfl
  | infinity sign =>
      cases right with
      | notANumber => cases sign <;> rfl
      | infinity other => cases sign <;> cases other <;> rfl
      | zero => cases sign <;> rfl
      | finite other mantissa exponent hpos =>
          have hbounds := hright.bounds hpos
          simp only [placeOf?, Option.bind_some, Option.map_some, Int.compare_eq_ite_lt]
          cases sign <;> cases other <;> simp only [UnpackedFloat.compare, Sign.apply] <;> grind
  | zero sign =>
      cases right with
      | notANumber => rfl
      | infinity other => cases other <;> rfl
      | zero => rfl
      | finite other mantissa exponent hpos =>
          have hbounds := hright.bounds hpos
          simp only [placeOf?, Option.bind_some, Option.map_some, Int.compare_eq_ite_lt]
          cases other <;> simp only [UnpackedFloat.compare, Sign.apply] <;> grind
  | finite sign mantissa exponent hpos =>
      have hbounds := hleft.bounds hpos
      cases right with
      | notANumber => cases sign <;> rfl
      | infinity other =>
          simp only [placeOf?, Option.bind_some, Option.map_some, Int.compare_eq_ite_lt]
          cases sign <;> cases other <;> simp only [UnpackedFloat.compare, Sign.apply] <;> grind
      | zero =>
          simp only [placeOf?, Option.bind_some, Option.map_some, Int.compare_eq_ite_lt]
          cases sign <;> simp only [UnpackedFloat.compare, Sign.apply] <;> grind
      | finite other mantissa' exponent' hpos' =>
          have hbounds' := hright.bounds hpos'
          have hfields := compare_fields hleft hright
          simp only [placeOf?, Option.bind_some, Option.map_some]
          cases sign <;> cases other <;> simp only [UnpackedFloat.compare, Sign.apply]
          · rw [compare_neg, hfields]
          · rw [Int.compare_eq_lt.2 (by omega)]
          · rw [Int.compare_eq_gt.2 (by omega)]
          · rw [hfields]

/-! ### Comparing doubles -/

theorem toNat_unpackSign (bits : BitVec Format.binary64.numBits) :
    (unpackSign bits).toNat = bits.toNat / 2 ^ 63 := by
  have hlt : bits.toNat < 2 ^ 64 := bits.isLt
  simp only [unpackSign, BitVec.extractLsb, BitVec.toNat_cast, BitVec.extractLsb'_toNat,
    Nat.shiftRight_eq_div_pow]
  change bits.toNat / 2 ^ 63 % 2 ^ 1 = _
  omega

theorem sign_eq (x : Float) :
    Sign.ofBitVec (@unpackSign .binary64 x.toBits.toBitVec) =
      if isNegative x then .negative else .positive := by
  have hsign : (@unpackSign .binary64 x.toBits.toBitVec).toNat = x.toBits.toNat / 2 ^ 63 :=
    toNat_unpackSign x.toBits.toBitVec
  have hlt : x.toBits.toNat < 2 ^ 64 := x.toBits.toNat_lt
  have hzero : @unpackSign .binary64 x.toBits.toBitVec = 0#1 ↔ ¬2 ^ 63 ≤ x.toBits.toNat := by
    rw [← BitVec.toNat_inj, hsign]
    change _ = 0 ↔ _
    omega
  rw [Sign.ofBitVec, isNegative]
  by_cases hnegative : 2 ^ 63 ≤ x.toBits.toNat
  · rw [if_neg (fun h => hzero.1 h hnegative), decide_eq_true hnegative]
    rfl
  · rw [if_pos (hzero.2 hnegative), decide_eq_false hnegative]
    rfl

theorem placeOf?_toModel (x : Float) :
    placeOf? x.toModel.unpack = if x.isNaN then none else some (place x) := by
  refine (placeOf?_unpack x.toBits.toBitVec).trans ?_
  rw [sign_eq, place, magnitude]
  change (if x.isNaN = true then none else _) = _
  cases isNegative x <;> rfl

theorem compare_toModel (x y : Float) :
    x.toModel.unpack.compare y.toModel.unpack =
      if x.isNaN || y.isNaN then none else some (compare (place x) (place y)) := by
  have hcompare : x.toModel.unpack.compare y.toModel.unpack =
      (placeOf? x.toModel.unpack).bind fun a =>
        (placeOf? y.toModel.unpack).map fun b => compare a b :=
    compare_eq (normal_unpack x.toBits.toBitVec) (normal_unpack y.toBits.toBitVec)
  rw [hcompare, placeOf?_toModel, placeOf?_toModel]
  cases x.isNaN <;> cases y.isNaN <;> rfl

/-- Numbers are compared by their places. -/
theorem lt_iff {x y : Float} :
    x < y ↔ x.isNaN = false ∧ y.isNaN = false ∧ place x < place y := by
  have hlt : x < y ↔ (x.toModel.unpack.compare y.toModel.unpack == some .lt) = true := by
    simp only [LT.lt, Float.lt, decide_eq_true_eq]
    rfl
  rw [hlt, compare_toModel]
  cases x.isNaN <;> cases y.isNaN <;> simp [Int.compare_eq_lt]

theorem le_iff {x y : Float} :
    x ≤ y ↔ x.isNaN = false ∧ y.isNaN = false ∧ place x ≤ place y := by
  have hle : x ≤ y ↔ (x.toModel.unpack.compare y.toModel.unpack).any (·.isLE) = true := by
    simp only [LE.le, Float.le, decide_eq_true_eq]
    rfl
  rw [hle, compare_toModel]
  cases x.isNaN <;> cases y.isNaN <;> simp [Int.isLE_compare]

/-! ### Chains of comparisons -/

theorem le_refl_iff {x : Float} : x ≤ x ↔ x.isNaN = false := by
  rw [le_iff]
  exact ⟨fun h => h.1, fun h => ⟨h, h, Int.le_refl _⟩⟩

protected theorem le_trans {x y z : Float} (hxy : x ≤ y) (hyz : y ≤ z) : x ≤ z := by
  rw [le_iff] at hxy hyz ⊢
  exact ⟨hxy.1, hyz.2.1, Int.le_trans hxy.2.2 hyz.2.2⟩

theorem lt_of_le_of_lt {x y z : Float} (hxy : x ≤ y) (hyz : y < z) : x < z := by
  rw [le_iff] at hxy
  rw [lt_iff] at hyz ⊢
  exact ⟨hxy.1, hyz.2.1, Int.lt_of_le_of_lt hxy.2.2 hyz.2.2⟩

protected theorem lt_of_lt_of_le {x y z : Float} (hxy : x < y) (hyz : y ≤ z) : x < z := by
  rw [lt_iff] at hxy ⊢
  rw [le_iff] at hyz
  exact ⟨hxy.1, hyz.2.1, Int.lt_of_lt_of_le hxy.2.2 hyz.2.2⟩

protected theorem le_of_lt {x y : Float} (h : x < y) : x ≤ y := by
  rw [lt_iff] at h
  exact le_iff.2 ⟨h.1, h.2.1, Int.le_of_lt h.2.2⟩

protected theorem not_lt_iff {x y : Float} (hx : x.isNaN = false) (hy : y.isNaN = false) :
    ¬x < y ↔ y ≤ x := by
  rw [lt_iff, le_iff]
  simp only [hx, hy, true_and, Int.not_lt]

theorem not_lt_of_le {x y : Float} (h : x ≤ y) : ¬y < x := by
  obtain ⟨hx, hy, _⟩ := le_iff.1 h
  exact (Binary64.not_lt_iff hy hx).2 h

theorem not_le_of_isNaN {x : Float} (h : x.isNaN = true) (bound : Float) : ¬bound ≤ x := by
  rw [le_iff, h]
  rintro ⟨_, hnumber, _⟩
  cases hnumber

theorem not_le_bound_of_isNaN {x : Float} (h : x.isNaN = true) (bound : Float) : ¬x ≤ bound := by
  rw [le_iff, h]
  rintro ⟨hnumber, _⟩
  cases hnumber

/-! ### Equal doubles -/

theorem beq_iff {x y : Float} :
    (x == y) = true ↔ x.isNaN = false ∧ y.isNaN = false ∧ place x = place y := by
  have hbeq : (x == y) = (x.toModel.unpack.compare y.toModel.unpack == some .eq) := rfl
  rw [hbeq, compare_toModel]
  cases x.isNaN <;> cases y.isNaN <;> simp

/-- Equal numbers are those that are at or below each other. -/
theorem beq_iff_le {x y : Float} : (x == y) = true ↔ x ≤ y ∧ y ≤ x := by
  rw [beq_iff, le_iff, le_iff]
  constructor
  · rintro ⟨hx, hy, hplace⟩
    exact ⟨⟨hx, hy, Int.le_of_eq hplace⟩, hy, hx, Int.le_of_eq hplace.symm⟩
  · rintro ⟨⟨hx, hy, hle⟩, _, _, hge⟩
    exact ⟨hx, hy, Int.le_antisymm hle hge⟩

/-- Only the two zeros share a place. -/
theorem eq_of_place_eq {x y : Float} (h : place x = place y) (hzero : place x ≠ 0) : x = y := by
  have hsame : isNegative x = isNegative y ∧ magnitude x = magnitude y := by
    rw [place, place] at h
    rw [place] at hzero
    cases hx : isNegative x <;> cases hy : isNegative y <;> simp only [hx, hy] at h hzero ⊢ <;>
      grind
  rw [← ofMagnitude_magnitude x, ← ofMagnitude_magnitude y, hsame.1, hsame.2]

theorem eq_zero_of_place {x : Float} (h : place x = 0) : x = 0 ∨ x = -0 := by
  have hmagnitude : magnitude x = 0 := by
    rw [place] at h
    split at h <;> omega
  rw [← ofMagnitude_magnitude x, hmagnitude]
  cases isNegative x with
  | false => exact .inl (by decide)
  | true => exact .inr (by decide)

/-! ### Negation -/

theorem placeOf?_neg (number : UnpackedFloat) :
    placeOf? number.neg = (placeOf? number).map fun a => -a := by
  cases number with
  | notANumber => rfl
  | infinity sign => cases sign <;> rfl
  | zero sign => rfl
  | finite sign mantissa exponent hpos =>
      cases sign <;> simp [UnpackedFloat.neg, placeOf?, Sign.apply]

/-- A pattern with the other sign. -/
def flip (bits : BitVec Format.binary64.numBits) : BitVec Format.binary64.numBits :=
  packComponents .binary64 (-Sign.ofBitVec (unpackSign bits)) (unpackExponent bits)
    (unpackMantissa bits)

theorem unpack_flip (bits : BitVec Format.binary64.numBits) :
    UnpackedFloat.unpack .binary64 (flip bits) = (UnpackedFloat.unpack .binary64 bits).neg := by
  rw [flip, UnpackedFloat.unpack, UnpackedFloat.unpack]
  simp only [unpackSign_packComponents, unpackExponent_packComponents,
    unpackMantissa_packComponents, Sign.ofBitVec_toBitVec]
  split
  · split <;> rfl
  · split
    · split <;> rfl
    · rfl

/-- Packing a negated number loses nothing: either there is no number, or the packed pattern is the flipped one. -/
theorem unpack_pack_neg (bits : BitVec Format.binary64.numBits) :
    UnpackedFloat.unpack .binary64 ((UnpackedFloat.unpack .binary64 bits).neg.pack .binary64) =
      (UnpackedFloat.unpack .binary64 bits).neg := by
  by_cases hnan : UnpackedFloat.unpack .binary64 bits = .notANumber
  · rw [hnan]
    exact unpack_packedNaN
  · have hvalid : Format.Valid .binary64 (flip bits) := by
      refine ⟨fun hexponent hmantissa => ?_⟩
      rw [flip, unpackExponent_packComponents] at hexponent
      rw [flip, unpackMantissa_packComponents] at hmantissa
      rw [UnpackedFloat.unpack, if_pos hexponent, if_neg hmantissa] at hnan
      exact absurd rfl hnan
    rw [← unpack_flip, pack_unpack_of_valid hvalid]

theorem placeOf?_toModel_neg (x : Float) :
    placeOf? (-x).toModel.unpack = (placeOf? x.toModel.unpack).map fun a => -a := by
  rw [← placeOf?_neg]
  exact congrArg placeOf? (unpack_pack_neg x.toBits.toBitVec)

theorem isNaN_neg (x : Float) : (-x).isNaN = x.isNaN := by
  have h := placeOf?_toModel_neg x
  rw [placeOf?_toModel, placeOf?_toModel] at h
  cases hx : x.isNaN <;> cases hneg : (-x).isNaN <;> simp_all

theorem place_neg {x : Float} (hx : x.isNaN = false) : place (-x) = -place x := by
  have h := placeOf?_toModel_neg x
  rw [placeOf?_toModel, placeOf?_toModel, isNaN_neg, hx] at h
  simpa using h

theorem lt_neg_of_le {x lower higher : Float} (hle : lower ≤ higher) (h : x < -higher) :
    x < -lower := by
  rw [le_iff] at hle
  rw [lt_iff, isNaN_neg, place_neg hle.2.1] at h
  rw [lt_iff, isNaN_neg, place_neg hle.1]
  refine ⟨h.1, hle.1, ?_⟩
  omega

/-! ### Bounds on both sides -/

theorem place_nonneg {bound : Float} (hbound : ¬bound < 0) (hnumber : bound.isNaN = false) :
    0 ≤ place bound := by
  have hzero : place 0 = 0 := by decide
  have hle := (Binary64.not_lt_iff hnumber (by decide)).1 hbound
  exact hzero ▸ (le_iff.1 hle).2.2

/-- What is above a bound that is not below zero is not below the negated bound. -/
theorem not_lt_neg {x bound : Float} (hbound : ¬bound < 0) (h : bound < x) : ¬x < -bound := by
  intro hneg
  rw [lt_iff] at h hneg
  have hplace := place_nonneg hbound h.1
  rw [place_neg h.1] at hneg
  omega

theorem not_zero_lt_neg {bound : Float} (hbound : ¬bound < 0) : ¬0 < -bound := by
  intro hneg
  rw [lt_iff, isNaN_neg] at hneg
  obtain ⟨_, hnumber, hlt⟩ := hneg
  have hplace := place_nonneg hbound hnumber
  have hzero : place 0 = 0 := by decide
  rw [place_neg hnumber] at hlt
  omega

end BenchReport.Binary64
