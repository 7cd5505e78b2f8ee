import Assay.Decimal
import Assay.Proofs.NearestDoubles

/-!
# The double nearest to a decimal

A decimal is rounded to the double nearest to the number that it stands for, a tie to the even one,
with the sign that it is written with. Far outside the range of doubles another number is rounded in
its place, to the same double. In range are the numbers below half way from the largest double to
the power of two after it, and the others become infinities.
-/

namespace Assay

-- ---------------------------------------------------------------------------
-- The ends of the range
-- ---------------------------------------------------------------------------

namespace Double

theorem one_le_abs_units {x : Double} (h : x.units ≠ 0) : 1 ≤ |x.real| * 2 ^ 1074 := by
  have hu : (1 : ℝ) ≤ |(x.units : ℝ)| := by exact_mod_cast Int.one_le_abs h
  rwa [units_eq, abs_mul, abs_of_pos (by positivity : (0 : ℝ) < 2 ^ 1074)] at hu

theorem real_zero (negative : Bool) : (⟨negative, 0, by decide⟩ : Double).real = 0 := by
  have h0 : significand ⟨negative, 0, by decide⟩ = 0 := rfl
  rw [real, h0, Nat.cast_zero, mul_zero, zero_mul]

/-- Less than half a unit is nearest to zero. -/
theorem rounds_zero (negative : Bool) {r : ℝ} (h : 2 * |r| * 2 ^ 1074 < 1) :
    (⟨negative, 0, by decide⟩ : Double).Rounds r := by
  constructor
  case finite => rfl
  case nearest =>
    intro y _
    rw [real_zero, zero_sub, abs_neg]
    by_cases hy : y.units = 0
    · have hzero : y.real = 0 := by
        rw [← real_zero y.negative, real_eq_iff, hy]
        cases y.negative <;> rfl
      rw [hzero, zero_sub, abs_neg]
    · have hone := one_le_abs_units hy
      have hlt : 2 * |r| < |y.real| := by
        have hlt := lt_of_lt_of_le h hone
        exact lt_of_mul_lt_mul_right hlt (by positivity)
      have htri := abs_sub_abs_le_abs_sub y.real r
      linarith
  case even => exact fun _ _ _ _ => Even.zero

end Double

namespace Decimal

/-- The number without its sign. -/
noncomputable def magnitude (d : Decimal) : ℝ := d.digits * 10 ^ d.exponent

noncomputable def real (d : Decimal) : ℝ := if d.negative then -d.magnitude else d.magnitude

/-- Nearer to a finite double than to the power of two after the largest. -/
def InRange (d : Decimal) : Prop := |d.real| < (2 ^ 1024 - 2 ^ 970 : ℤ)

variable {d : Decimal}

theorem magnitude_nonneg (d : Decimal) : 0 ≤ d.magnitude := by
  unfold magnitude
  positivity

theorem abs_real (d : Decimal) : |d.real| = d.magnitude := by
  unfold real
  split
  · rw [abs_neg, abs_of_nonneg d.magnitude_nonneg]
  · exact abs_of_nonneg d.magnitude_nonneg

theorem inRange_iff : d.InRange ↔ d.magnitude < 2 ^ 1024 - 2 ^ 970 := by
  rw [InRange, abs_real, Int.cast_sub, Int.cast_pow, Int.cast_pow, Int.cast_ofNat]

theorem magnitude_lt (d : Decimal) : d.magnitude < 10 ^ d.size := by
  have hdigits : (d.digits : ℝ) < 10 ^ (Nat.toDigits 10 d.digits).length := by
    exact_mod_cast (Nat.length_toDigits_le_iff (by decide) Nat.length_toDigits_pos).mp le_rfl
  rw [size, zpow_add₀ (by norm_num), zpow_natCast, mul_comm ((10 : ℝ) ^ d.exponent)]
  exact mul_lt_mul_of_pos_right hdigits (by positivity)

theorem le_magnitude (h : d.digits ≠ 0) : 10 ^ (d.size - 1) ≤ d.magnitude := by
  obtain ⟨k, hk⟩ : ∃ k, (Nat.toDigits 10 d.digits).length = k + 1 :=
    ⟨_, (Nat.succ_pred_eq_of_pos Nat.length_toDigits_pos).symm⟩
  have hle : 10 ^ k ≤ d.digits := by
    rcases Nat.eq_zero_or_pos k with rfl | hpos
    · exact Nat.one_le_iff_ne_zero.mpr h
    · by_contra hlt
      have hlen := (Nat.length_toDigits_le_iff (by decide) hpos).mpr (Nat.lt_of_not_le hlt)
      omega
  have hdigits : (10 : ℝ) ^ k ≤ d.digits := by exact_mod_cast hle
  have hsize : d.size - 1 = d.exponent + k := by
    rw [size, hk]
    omega
  rw [hsize, zpow_add₀ (by norm_num), zpow_natCast, mul_comm]
  exact mul_le_mul_of_nonneg_right hdigits (by positivity)

-- ---------------------------------------------------------------------------
-- The quotient that is rounded
-- ---------------------------------------------------------------------------

theorem toNat_exponentLimit : exponentLimit.toNat = 400 := rfl

/-- The quotient is the number itself, or both lie beyond the range on the same side. -/
inductive Quotient (d : Decimal) : Nat × Nat → Prop
  | exact {num den : Nat} (pos : 0 < den) (eq : (num / den : ℝ) = d.magnitude) :
    Quotient d (num, den)
  | large (le : 10 ^ 400 ≤ d.magnitude) : Quotient d (10 ^ exponentLimit.toNat, 1)
  | small (lt : d.magnitude < (10 ^ 400)⁻¹) : Quotient d (1, 10 ^ exponentLimit.toNat)

theorem quotient_ratio (d : Decimal) : Quotient d d.ratio := by
  unfold ratio
  by_cases h0 : d.digits = 0
  · rw [if_pos h0]
    exact .exact Nat.one_pos (by simp [magnitude, h0])
  rw [if_neg h0]
  by_cases hlarge : d.size > exponentLimit
  · rw [if_pos hlarge]
    refine .large (le_trans ?_ (le_magnitude h0))
    rw [← zpow_natCast]
    exact zpow_le_zpow_right₀ (by norm_num) (Int.le_sub_one_of_lt hlarge)
  rw [if_neg hlarge]
  by_cases hsmall : d.size < -exponentLimit
  · rw [if_pos hsmall]
    refine .small (d.magnitude_lt.trans_le ?_)
    rw [← zpow_natCast, ← zpow_neg]
    exact zpow_le_zpow_right₀ (by norm_num) hsmall.le
  rw [if_neg hsmall]
  by_cases hneg : d.exponent < 0
  · rw [if_pos hneg]
    refine .exact (Nat.pow_pos (by decide)) ?_
    have he : d.exponent = -((-d.exponent).toNat : ℤ) := by omega
    rw [magnitude, he, zpow_neg, zpow_natCast, Int.neg_neg, Int.toNat_natCast]
    push_cast
    exact div_eq_mul_inv ..
  · rw [if_neg hneg]
    refine .exact Nat.one_pos ?_
    have he : d.exponent = (d.exponent.toNat : ℤ) := by omega
    rw [magnitude, he, zpow_natCast, Int.toNat_natCast]
    push_cast
    exact div_one _

-- ---------------------------------------------------------------------------
-- The nearest double
-- ---------------------------------------------------------------------------

theorem negative_nearest (d : Decimal) : d.nearest.negative = d.negative :=
  Double.negative_ofRatio ..

theorem signed_div (d : Decimal) {num den : Nat} (h : (num / den : ℝ) = d.magnitude) :
    (Double.signed d.negative num / den : ℝ) = d.real := by
  unfold Double.signed real
  split
  · rw [Int.cast_neg, Int.cast_natCast, neg_div, h]
  · rw [Int.cast_natCast, h]

theorem two_pow_lt_ten_pow {k : Nat} (h : k < 1300) : (2 : ℝ) ^ k < 10 ^ 400 := by
  calc (2 : ℝ) ^ k < 2 ^ (13 * 100) := pow_lt_pow_right₀ (by norm_num) h
    _ = (2 ^ 13) ^ 100 := pow_mul 2 13 100
    _ ≤ (10 ^ 4) ^ 100 := pow_le_pow_left₀ (by norm_num) (by norm_num) 100
    _ = 10 ^ 400 := (pow_mul 10 4 100).symm

theorem range_le : (2 : ℝ) ^ 1024 - 2 ^ 970 ≤ 10 ^ 400 :=
  (sub_le_self _ (by positivity)).trans (two_pow_lt_ten_pow (by decide)).le

theorem one_le_range : (1 : ℝ) ≤ 2 ^ 1024 - 2 ^ 970 := by
  have hone : (1 : ℝ) ≤ 2 ^ 970 := one_le_pow₀ (by norm_num)
  have hpow : (2 : ℝ) ^ 1024 = 2 ^ 54 * 2 ^ 970 := pow_add 2 54 970
  rw [hpow]
  generalize (2 : ℝ) ^ 970 = a at hone ⊢
  linarith

theorem two_mul_two_pow_lt : (2 : ℝ) * 2 ^ 1074 < 10 ^ 400 := by
  rw [← pow_succ']
  exact two_pow_lt_ten_pow (by decide)

theorem ofRatio_small (negative : Bool) :
    Double.ofRatio negative 1 (10 ^ 400) = ⟨negative, 0, by decide⟩ := by
  have hunits : 2 * Double.unitsPerOne < 10 ^ 400 := by
    have hlt := two_mul_two_pow_lt
    rw [← Double.cast_unitsPerOne] at hlt
    exact_mod_cast hlt
  rw [Double.ofRatio, Nat.one_mul, roundBits_eq_zero 53 hunits]
  rfl

/-- What is in range rounds to a finite double, and what is not to an infinity. -/
theorem isFinite_nearest (d : Decimal) : d.nearest.isFinite = true ↔ d.InRange := by
  have hq := d.quotient_ratio
  rw [nearest, inRange_iff]
  generalize d.ratio = q at hq ⊢
  cases hq with
  | exact pos eq => rw [Double.isFinite_ofRatio_iff pos, eq]
  | large le =>
    rw [Double.isFinite_ofRatio_iff Nat.one_pos, Nat.cast_pow, toNat_exponentLimit, Nat.cast_ofNat,
      Nat.cast_one, div_one]
    exact iff_of_false (not_lt.mpr range_le) (not_lt.mpr (range_le.trans le))
  | small lt =>
    rw [toNat_exponentLimit, ofRatio_small]
    refine iff_of_true rfl (lt.trans_le (le_trans ?_ one_le_range))
    exact inv_le_one_of_one_le₀ (one_le_pow₀ (by norm_num))

/-- Nearest to the decimal, with ties to even, whatever stands in for it. -/
theorem rounds_nearest (h : d.InRange) : d.nearest.Rounds d.real := by
  have hf := d.isFinite_nearest.mpr h
  have hq := d.quotient_ratio
  rw [nearest] at hf ⊢
  generalize d.ratio = q at hq hf ⊢
  cases hq with
  | exact pos eq =>
    rw [← signed_div d eq]
    exact Double.rounds_ofRatio pos hf
  | large le => exact absurd (inRange_iff.mp h) (not_lt.mpr (range_le.trans le))
  | small lt =>
    rw [toNat_exponentLimit, ofRatio_small]
    refine Double.rounds_zero d.negative ?_
    have hone : d.magnitude * 10 ^ 400 < 1 := by
      rwa [← lt_div_iff₀ (by positivity), one_div]
    rw [abs_real, mul_assoc, mul_left_comm]
    calc d.magnitude * (2 * 2 ^ 1074)
      _ ≤ d.magnitude * 10 ^ 400 :=
        mul_le_mul_of_nonneg_left two_mul_two_pow_lt.le d.magnitude_nonneg
      _ < 1 := hone

/-- Exactly one double of its sign is nearest to a decimal in range, with ties to even. -/
theorem eq_nearest_iff (h : d.InRange) {x : Double} :
    x = d.nearest ↔ x.Rounds d.real ∧ x.negative = d.negative := by
  constructor
  · rintro rfl
    exact ⟨rounds_nearest h, negative_nearest d⟩
  · rintro ⟨hx, hs⟩
    exact hx.eq_of_negative (rounds_nearest h) (hs.trans (negative_nearest d).symm)

end Decimal

end Assay
