import Assay.Numeric
import Mathlib

/-!
# The order of numbers is exact

`Double.real` is the number that a finite double stands for, read off its sign, its exponent and its
fraction; `Numeric.extended?` adds the infinities and leaves NaN out. The order found by whole
parts and fractions is that of these numbers.
-/

namespace Assay

-- ---------------------------------------------------------------------------
-- Numbers as extended reals
-- ---------------------------------------------------------------------------

namespace Double

/-- The fraction, with the bit before the point unless the double is subnormal. -/
def significand (x : Double) : Nat :=
  if x.code < 2 ^ 52 then x.code else 2 ^ 52 + x.code % 2 ^ 52

/-- What the last bit of the significand counts, as a power of two. -/
def exponent (x : Double) : Int :=
  if x.code < 2 ^ 52 then -1074 else (x.code / 2 ^ 52 : Nat) - 1075

noncomputable def real (x : Double) : ℝ :=
  (if x.negative then -1 else 1) * x.significand * 2 ^ x.exponent

theorem unitsOfCode_eq (x : Double) :
    (unitsOfCode x.code : ℝ) = x.significand * 2 ^ x.exponent * 2 ^ 1074 := by
  have h2 : (2 : ℝ) ≠ 0 := two_ne_zero
  by_cases h : x.code < 2 ^ 52
  · simp only [unitsOfCode, significand, exponent, h, if_true]
    rw [mul_assoc, ← zpow_natCast, ← zpow_add₀ h2]
    norm_num
  · have he : (x.code / 2 ^ 52 : Nat) - 1075 + (1074 : ℕ) = ((x.code / 2 ^ 52 - 1 : ℕ) : ℤ) := by
      omega
    rw [unitsOfCode_normal (Nat.le_of_not_lt h)]
    simp only [significand, exponent, h, if_false]
    rw [mul_assoc, ← zpow_natCast (2 : ℝ) 1074, ← zpow_add₀ h2, he, zpow_natCast]
    push_cast
    ring

theorem cast_unitsPerOne : (unitsPerOne : ℝ) = 2 ^ 1074 := by
  unfold unitsPerOne
  rw [Nat.cast_pow, Nat.cast_ofNat]

/-- Units are the number on the scale of the smallest subnormal. -/
theorem units_eq (x : Double) : (x.units : ℝ) = x.real * 2 ^ 1074 := by
  have h := unitsOfCode_eq x
  cases hs : x.negative
  · simp [units, real, hs, h]
  · simp [units, real, hs, h]

end Double

noncomputable def Numeric.extended? : Numeric → Option EReal
  | .double x =>
    if x.isNaN then none
    else if x.isFinite then some (x.real : ℝ)
    else some (if x.negative then ⊥ else ⊤)
  | .integer n => some ((n : ℝ) : EReal)

namespace Extended

noncomputable def toEReal : Extended → EReal
  | .bottom => ⊥
  | .units n => ((n / 2 ^ 1074 : ℝ) : EReal)
  | .top => ⊤

theorem toEReal_units_lt {m n : Int} (h : m < n) : (units m).toEReal < (units n).toEReal := by
  have hr : (m : ℝ) < n := Int.cast_lt.mpr h
  exact EReal.coe_lt_coe_iff.mpr (div_lt_div_of_pos_right hr (by positivity))

theorem cmp_toEReal (a b : Extended) : cmp a.toEReal b.toEReal = a.compare b := by
  cases a with
  | bottom =>
    cases b with
    | bottom => exact cmp_self_eq_eq _
    | units n => exact (EReal.bot_lt_coe _).cmp_eq_lt
    | top => exact bot_lt_top.cmp_eq_lt
  | units m =>
    cases b with
    | bottom => exact (EReal.bot_lt_coe _).cmp_eq_gt
    | units n =>
      simp only [Extended.compare]
      rcases Int.lt_trichotomy m n with h | rfl | h
      · rw [Int.compare_eq_lt.mpr h, (toEReal_units_lt h).cmp_eq_lt]
      · rw [Int.compare_eq_eq.mpr rfl, cmp_self_eq_eq]
      · rw [Int.compare_eq_gt.mpr h, (toEReal_units_lt h).cmp_eq_gt]
    | top => exact (EReal.coe_lt_top _).cmp_eq_lt
  | top =>
    cases b with
    | bottom => exact bot_lt_top.cmp_eq_gt
    | units n => exact (EReal.coe_lt_top _).cmp_eq_gt
    | top => exact cmp_self_eq_eq _

end Extended

namespace Numeric

theorem extended?_eq (a : Numeric) : a.extended? = a.value?.map Extended.toEReal := by
  have hp : (2 ^ 1074 : ℝ) ≠ 0 := by positivity
  cases a with
  | double x =>
    simp only [extended?, value?, Double.value?]
    split
    · rfl
    · split
      · simp [Extended.toEReal, x.units_eq, mul_div_cancel_right₀ _ hp]
      · cases x.negative <;> rfl
  | integer n =>
    simp [extended?, value?, Extended.toEReal, Double.cast_unitsPerOne, mul_div_cancel_right₀ _ hp]

theorem extended?_eq_none_iff {a : Numeric} : a.extended? = none ↔ a.isNaN = true := by
  rw [extended?_eq, Option.map_eq_none_iff, value?_eq_none_iff]

theorem compare?_eq_cmp (a b : Numeric) :
    a.compare? b = a.extended?.bind fun x => b.extended?.map fun y => cmp x y := by
  rw [compare?_eq, extended?_eq, extended?_eq]
  cases a.value? with
  | none => rfl
  | some x =>
    cases b.value? with
    | none => rfl
    | some y => exact congrArg some (Extended.cmp_toEReal x y).symm

-- ---------------------------------------------------------------------------
-- The relations
-- ---------------------------------------------------------------------------

theorem compare?_eq_some_iff {a b : Numeric} {o : Ordering} :
    a.compare? b = some o ↔
      ∃ x y, a.extended? = some x ∧ b.extended? = some y ∧ cmp x y = o := by
  simp only [compare?_eq_cmp, Option.bind_eq_some_iff, Option.map_eq_some_iff]
  constructor
  · rintro ⟨x, hx, y, hy, h⟩
    exact ⟨x, y, hx, hy, h⟩
  · rintro ⟨x, y, hx, hy, h⟩
    exact ⟨x, hx, y, hy, h⟩

theorem compare?_eq_none_iff {a b : Numeric} :
    a.compare? b = none ↔ a.isNaN = true ∨ b.isNaN = true := by
  rw [← extended?_eq_none_iff, ← extended?_eq_none_iff, compare?_eq_cmp]
  cases a.extended? <;> cases b.extended? <;> simp

theorem compare?_swap (a b : Numeric) : b.compare? a = (a.compare? b).map Ordering.swap := by
  rw [compare?_eq_cmp, compare?_eq_cmp]
  cases a.extended? with
  | none => cases b.extended? <;> rfl
  | some x =>
    cases b.extended? with
    | none => rfl
    | some y => exact congrArg some (cmp_swap x y).symm

theorem eq_iff {a b : Numeric} :
    a.eq b = true ↔ ∃ x, a.extended? = some x ∧ b.extended? = some x := by
  simp only [eq, beq_iff_eq, compare?_eq_some_iff, cmp_eq_eq_iff]
  constructor
  · rintro ⟨x, _, hx, hy, rfl⟩
    exact ⟨x, hx, hy⟩
  · rintro ⟨x, hx, hy⟩
    exact ⟨x, x, hx, hy, rfl⟩

theorem lt_iff {a b : Numeric} :
    a.lt b = true ↔ ∃ x y, a.extended? = some x ∧ b.extended? = some y ∧ x < y := by
  simp only [lt, beq_iff_eq, compare?_eq_some_iff, cmp_eq_lt_iff]

theorem le_iff {a b : Numeric} :
    a.le b = true ↔ ∃ x y, a.extended? = some x ∧ b.extended? = some y ∧ x ≤ y := by
  simp only [le, lt, Bool.or_eq_true, beq_iff_eq, compare?_eq_some_iff, cmp_eq_lt_iff,
    cmp_eq_eq_iff]
  constructor
  · rintro (⟨x, y, hx, hy, h⟩ | ⟨x, y, hx, hy, h⟩)
    · exact ⟨x, y, hx, hy, h.le⟩
    · exact ⟨x, y, hx, hy, h.le⟩
  · rintro ⟨x, y, hx, hy, h⟩
    rcases h.lt_or_eq with h | h
    · exact .inl ⟨x, y, hx, hy, h⟩
    · exact .inr ⟨x, y, hx, hy, h⟩

theorem gt_iff {a b : Numeric} :
    a.gt b = true ↔ ∃ x y, a.extended? = some x ∧ b.extended? = some y ∧ y < x := by
  simp only [gt, beq_iff_eq, compare?_eq_some_iff, cmp_eq_gt_iff]

theorem ge_eq_le (a b : Numeric) : a.ge b = b.le a := by
  simp only [ge, gt, le, lt, compare?_swap a b]
  cases a.compare? b with
  | none => rfl
  | some o => cases o <;> rfl

theorem ge_iff {a b : Numeric} :
    a.ge b = true ↔ ∃ x y, a.extended? = some x ∧ b.extended? = some y ∧ y ≤ x := by
  rw [ge_eq_le, le_iff, exists_comm]
  exact exists_congr fun x => exists_congr fun y => and_left_comm

theorem eq_self_iff {a : Numeric} : a.eq a = true ↔ a.isNaN = false := by
  rw [eq_iff, ← Bool.not_eq_true, ← extended?_eq_none_iff, ← ne_eq, Option.ne_none_iff_exists']
  simp

theorem eq_symm {a b : Numeric} (h : a.eq b = true) : b.eq a = true := by
  obtain ⟨x, hx, hy⟩ := eq_iff.mp h
  exact eq_iff.mpr ⟨x, hy, hx⟩

theorem eq_trans {a b c : Numeric} (hab : a.eq b = true) (hbc : b.eq c = true) :
    a.eq c = true := by
  obtain ⟨x, ha, hb⟩ := eq_iff.mp hab
  obtain ⟨y, hb', hc⟩ := eq_iff.mp hbc
  cases hb.symm.trans hb'
  exact eq_iff.mpr ⟨x, ha, hc⟩

theorem lt_trans {a b c : Numeric} (hab : a.lt b = true) (hbc : b.lt c = true) :
    a.lt c = true := by
  obtain ⟨x, y, ha, hb, hxy⟩ := lt_iff.mp hab
  obtain ⟨y', z, hb', hc, hyz⟩ := lt_iff.mp hbc
  cases hb.symm.trans hb'
  exact lt_iff.mpr ⟨x, z, ha, hc, hxy.trans hyz⟩

theorem le_trans {a b c : Numeric} (hab : a.le b = true) (hbc : b.le c = true) :
    a.le c = true := by
  obtain ⟨x, y, ha, hb, hxy⟩ := le_iff.mp hab
  obtain ⟨y', z, hb', hc, hyz⟩ := le_iff.mp hbc
  cases hb.symm.trans hb'
  exact le_iff.mpr ⟨x, z, ha, hc, hxy.trans hyz⟩

theorem lt_of_le_of_lt {a b c : Numeric} (hab : a.le b = true) (hbc : b.lt c = true) :
    a.lt c = true := by
  obtain ⟨x, y, ha, hb, hxy⟩ := le_iff.mp hab
  obtain ⟨y', z, hb', hc, hyz⟩ := lt_iff.mp hbc
  cases hb.symm.trans hb'
  exact lt_iff.mpr ⟨x, z, ha, hc, hxy.trans_lt hyz⟩

theorem gt_of_le_of_gt {a b c : Numeric} (hab : a.le b = true) (hac : a.gt c = true) :
    b.gt c = true := by
  obtain ⟨x, y, ha, hb, hxy⟩ := le_iff.mp hab
  obtain ⟨x', z, ha', hc, hzx⟩ := gt_iff.mp hac
  cases ha.symm.trans ha'
  exact gt_iff.mpr ⟨y, z, hb, hc, hzx.trans_le hxy⟩

theorem extended?_infinity (negative : Bool) :
    (double (Double.infinity negative)).extended? = some (if negative then ⊥ else ⊤) := by
  cases negative <;> simp [extended?, Double.infinity, Double.isNaN, Double.isFinite]

theorem zeros_eq (s t : Bool) :
    (double ⟨s, 0, by decide⟩).eq (double ⟨t, 0, by decide⟩) = true := by
  cases s <;> cases t <;> decide

theorem infinity_lt_integer (n : Int) : (double (Double.infinity true)).lt (integer n) = true :=
  lt_iff.mpr ⟨⊥, (n : ℝ), extended?_infinity true, rfl, EReal.bot_lt_coe _⟩

theorem integer_lt_infinity (n : Int) : (integer n).lt (double (Double.infinity false)) = true :=
  lt_iff.mpr ⟨(n : ℝ), ⊤, rfl, extended?_infinity false, EReal.coe_lt_top _⟩

/-- Any two numbers, of either form, are ordered as the extended reals that they stand for, and are
unordered only if one of them is NaN. So comparison is dual, equality is an equivalence off NaN, and
both strict and weak order are transitive across the forms. -/
theorem comparison_exact (a b c : Numeric) :
    (a.compare? b = none ↔ a.isNaN = true ∨ b.isNaN = true) ∧
    (∀ x y, a.extended? = some x → b.extended? = some y → a.compare? b = some (cmp x y)) ∧
    (∀ s t, (double ⟨s, 0, by decide⟩).eq (double ⟨t, 0, by decide⟩) = true) ∧
    (∀ n, (double (Double.infinity true)).lt (integer n) = true ∧
      (integer n).lt (double (Double.infinity false)) = true) ∧
    b.compare? a = (a.compare? b).map Ordering.swap ∧
    (a.eq a = true ↔ a.isNaN = false) ∧
    (a.eq b = true → b.eq a = true) ∧
    (a.eq b = true → b.eq c = true → a.eq c = true) ∧
    (a.lt b = true → b.lt c = true → a.lt c = true) ∧
    (a.le b = true → b.le c = true → a.le c = true) := by
  refine ⟨compare?_eq_none_iff, ?_, zeros_eq, ?_, compare?_swap a b, eq_self_iff, eq_symm,
    eq_trans, lt_trans, le_trans⟩
  · intro x y hx hy
    exact compare?_eq_some_iff.mpr ⟨x, y, hx, hy, rfl⟩
  · intro n
    exact ⟨infinity_lt_integer n, integer_lt_infinity n⟩

/-- Half an integer, an integer and half an integer again, all below zero. -/
theorem comparison_exact_halves :
    (double (Double.ofBits 0xBFF8000000000000)).lt (integer (-1)) = true ∧
    (integer (-1)).lt (double (Double.ofBits 0xBFE0000000000000)) = true ∧
    (double (Double.ofBits 0xBFF8000000000000)).lt
      (double (Double.ofBits 0xBFE0000000000000)) = true := by
  have hl : (double (Double.ofBits 0xBFF8000000000000)).lt (integer (-1)) = true := by
    decide +kernel
  have hr : (integer (-1)).lt (double (Double.ofBits 0xBFE0000000000000)) = true := by
    decide +kernel
  have h := comparison_exact (double (Double.ofBits 0xBFF8000000000000)) (integer (-1))
    (double (Double.ofBits 0xBFE0000000000000))
  exact ⟨hl, hr, h.2.2.2.2.2.2.2.2.1 hl hr⟩

end Numeric

end Assay
