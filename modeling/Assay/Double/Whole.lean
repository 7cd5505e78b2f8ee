import Assay.Double.Rounding

/-!
# Doubles beside integers

The whole part of a double is a double: the bits of its code that stand for less than one are
cleared. A double is compared with an integer of any size through its whole part first.
-/

namespace Assay.Double

-- powers are those of `Nat` itself, also in a file that has monoids
attribute [local instance (20000)] instPowNat

/-- The code of a magnitude without the bits that stand for less than one. From `2 ^ 52` on there
are none of them. -/
def wholeCode (code : Nat) : Nat :=
  let exponent := code / 2 ^ (52 : Nat)
  if exponent < 1023 then 0 else code - code % 2 ^ (1075 - exponent)

theorem wholeCode_le (code : Nat) : wholeCode code ≤ code := by
  simp only [wholeCode]
  split
  · exact Nat.zero_le _
  · exact Nat.sub_le ..

/-- Rounded towards zero, the sign kept. -/
def truncate (x : Double) : Double :=
  ⟨x.negative, wholeCode x.code, Nat.lt_of_le_of_lt (wholeCode_le _) x.code_lt⟩

/-- The integer next to a finite double on the side of zero. -/
def toInt? (x : Double) : Option Int :=
  if x.isFinite then some (x.units.tdiv unitsPerOne) else none

/-- The double nearest to the difference of two finite ones. -/
def sub (x y : Double) : Double :=
  ofUnits (x.units < y.units) (roundBits 53 (x.units - y.units).natAbs 1)

/-- The order of a double and an integer: that of the whole part and the integer, and if these agree
that of the fraction and zero. -/
def compareInteger? (x : Double) (n : Int) : Option Ordering :=
  if x.isNaN then none
  else if !x.isFinite then some (if x.compare? zero == some .gt then .gt else .lt)
  else
    let whole := x.truncate
    whole.toInt?.bind fun m =>
      match Ord.compare m n with
      | .eq => (x.sub whole).compare? zero
      | other => some other

theorem unitsPerOne_eq {i j : Nat} (h : i + j = 1074) : unitsPerOne = 2 ^ i * 2 ^ j := by
  rw [← Nat.pow_add, h]
  unfold unitsPerOne
  rfl

theorem unitsPerOne_pos : 0 < unitsPerOne := by
  obtain ⟨j, hj⟩ : ∃ j, 0 + j = 1074 := ⟨_, Nat.zero_add _⟩
  rw [unitsPerOne_eq hj]
  exact Nat.mul_pos (Nat.two_pow_pos 0) (Nat.two_pow_pos j)

-- ---------------------------------------------------------------------------
-- The whole part in units
-- ---------------------------------------------------------------------------

theorem unitsOfCode_normal {code : Nat} (h : 2 ^ (52 : Nat) ≤ code) :
    unitsOfCode code =
      (2 ^ (52 : Nat) + code % 2 ^ (52 : Nat)) * 2 ^ (code / 2 ^ (52 : Nat) - 1) := by
  rw [unitsOfCode, if_neg (Nat.not_lt_of_ge h)]

/-- Magnitudes below one have the exponents below 1023. -/
theorem unitsOfCode_lt_one {code : Nat} (h : code / 2 ^ (52 : Nat) < 1023) :
    unitsOfCode code < unitsPerOne := by
  obtain ⟨j, hj⟩ : ∃ j, 53 + j = 1074 := ⟨1021, rfl⟩
  by_cases hs : code < 2 ^ 52
  · have hp : 2 ^ 52 < 2 ^ 53 * 2 ^ j :=
      Nat.lt_of_lt_of_le (by decide) (Nat.le_mul_of_pos_right _ (Nat.two_pow_pos j))
    rw [unitsOfCode, if_pos hs, unitsPerOne_eq hj]
    exact Nat.lt_trans hs hp
  · rw [unitsOfCode_normal (Nat.le_of_not_lt hs)]
    have hf : 2 ^ 52 + code % 2 ^ 52 < 2 ^ 53 := by omega
    have he : 2 ^ (code / 2 ^ 52 - 1) ≤ 2 ^ j := Nat.pow_le_pow_right (by decide) (by omega)
    calc (2 ^ 52 + code % 2 ^ 52) * 2 ^ (code / 2 ^ 52 - 1)
        < 2 ^ 53 * 2 ^ (code / 2 ^ 52 - 1) := Nat.mul_lt_mul_of_pos_right hf (Nat.two_pow_pos _)
      _ ≤ 2 ^ 53 * 2 ^ j := Nat.mul_le_mul_left _ he
      _ = unitsPerOne := (unitsPerOne_eq hj).symm

/-- From `2 ^ 52` on every magnitude is whole. -/
theorem unitsPerOne_dvd {code : Nat} (h : 1075 ≤ code / 2 ^ (52 : Nat)) :
    unitsPerOne ∣ unitsOfCode code := by
  obtain ⟨j, hj⟩ : ∃ j, 0 + j = 1074 := ⟨_, Nat.zero_add _⟩
  rw [unitsOfCode_normal (by omega), unitsPerOne_eq hj, Nat.pow_zero, Nat.one_mul]
  exact Nat.dvd_mul_left_of_dvd (Nat.pow_dvd_pow 2 (by omega)) _

/-- Between one and `2 ^ 52` the point stands inside the fraction, `j` bits from its end. -/
theorem unitsOfCode_clear {code j : Nat} (hj : j ≤ 52) (h : 2 ^ (52 : Nat) ≤ code) :
    unitsOfCode (code - code % 2 ^ j) =
      (2 ^ (52 : Nat) + code % 2 ^ (52 : Nat)) / 2 ^ j * 2 ^ j *
        2 ^ (code / 2 ^ (52 : Nat) - 1) := by
  have hd : 2 ^ j ∣ 2 ^ 52 := Nat.pow_dvd_pow 2 hj
  have hmod : (code % 2 ^ 52) % 2 ^ j = code % 2 ^ j := Nat.mod_mod_of_dvd code hd
  have hle : code % 2 ^ j ≤ code % 2 ^ 52 := hmod ▸ Nat.mod_le ..
  have hsplit := Nat.div_add_mod code (2 ^ 52)
  -- clearing stays inside the fraction: the exponent is the same
  have hcode : code - code % 2 ^ j = 2 ^ 52 * (code / 2 ^ 52) + (code % 2 ^ 52 - code % 2 ^ j) := by
    omega
  have hlt : code % 2 ^ 52 - code % 2 ^ j < 2 ^ 52 := by omega
  have hexp : (code - code % 2 ^ j) / 2 ^ 52 = code / 2 ^ 52 := by omega
  have hfrac : (code - code % 2 ^ j) % 2 ^ 52 = code % 2 ^ 52 - code % 2 ^ j := by omega
  have hsig : (2 ^ 52 + code % 2 ^ 52) / 2 ^ j * 2 ^ j =
      2 ^ 52 + (code % 2 ^ 52 - code % 2 ^ j) := by
    have hm : (2 ^ 52 + code % 2 ^ 52) % 2 ^ j = code % 2 ^ j := by
      rw [Nat.add_mod, Nat.mod_eq_zero_of_dvd hd, Nat.zero_add, Nat.mod_mod, hmod]
    have := Nat.div_add_mod' (2 ^ 52 + code % 2 ^ 52) (2 ^ j)
    omega
  rw [unitsOfCode_normal (by omega), hexp, hfrac, hsig]

theorem unitsOfCode_wholeCode (code : Nat) :
    unitsOfCode (wholeCode code) = unitsOfCode code / unitsPerOne * unitsPerOne := by
  simp only [wholeCode]
  split
  · rename_i h
    rw [Nat.div_eq_of_lt (unitsOfCode_lt_one h), Nat.zero_mul]
    rfl
  · rename_i h
    by_cases hw : 1075 ≤ code / 2 ^ 52
    · have hj : 1075 - code / 2 ^ 52 = 0 := by omega
      rw [hj, Nat.pow_zero, Nat.mod_one, Nat.sub_zero, Nat.div_mul_cancel (unitsPerOne_dvd hw)]
    · have hone : unitsPerOne = 2 ^ (1075 - code / 2 ^ 52) * 2 ^ (code / 2 ^ 52 - 1) :=
        unitsPerOne_eq (by omega)
      rw [unitsOfCode_clear (by omega) (by omega), hone, unitsOfCode_normal (by omega),
        Nat.mul_div_mul_right _ _ (Nat.two_pow_pos _), Nat.mul_assoc]

theorem units_truncate (x : Double) :
    x.truncate.units = x.units.tdiv unitsPerOne * unitsPerOne := by
  simp only [units, truncate, unitsOfCode_wholeCode]
  cases x.negative with
  | false => rfl
  | true =>
    rw [if_pos rfl, if_pos rfl, Int.neg_tdiv, Int.neg_mul, Int.natCast_mul]
    rfl

theorem isFinite_truncate {x : Double} (h : x.isFinite = true) : x.truncate.isFinite = true := by
  simp only [isFinite, decide_eq_true_eq] at h ⊢
  exact Nat.lt_of_le_of_lt (wholeCode_le x.code) h

theorem toInt?_truncate {x : Double} (h : x.isFinite = true) :
    x.truncate.toInt? = some (x.units.tdiv unitsPerOne) := by
  have hp : (unitsPerOne : Int) ≠ 0 := by have := unitsPerOne_pos; omega
  rw [toInt?, if_pos (isFinite_truncate h), units_truncate, Int.mul_tdiv_cancel _ hp]

-- ---------------------------------------------------------------------------
-- The sign of a difference
-- ---------------------------------------------------------------------------

theorem unitsOfCode_pos {code : Nat} (h : 0 < code) : 0 < unitsOfCode code := by
  by_cases hs : code < 2 ^ 52
  · rwa [unitsOfCode, if_pos hs]
  · rw [unitsOfCode_normal (Nat.le_of_not_lt hs)]
    exact Nat.mul_pos (by omega) (Nat.two_pow_pos _)

theorem codeOfUnits_pos {n : Nat} (h : 0 < n) : 0 < codeOfUnits n := by
  have hl : 2 ^ (n.log2 - 52) ≤ n :=
    Nat.le_trans (Nat.pow_le_pow_right (by decide) (Nat.sub_le ..)) (Nat.log2_self_le (by omega))
  have hq := Nat.div_pos hl (Nat.two_pow_pos _)
  simp only [codeOfUnits]
  omega

/-- Rounding to 53 significant bits does not reach zero. -/
theorem roundBits_pos {n : Nat} (h : 0 < n) : 0 < roundBits 53 n 1 := by
  have hl : 2 ^ (n.log2 + 1 - 53) ≤ n :=
    Nat.le_trans (Nat.pow_le_pow_right (by decide) (by omega)) (Nat.log2_self_le (by omega))
  have hq := Nat.div_pos hl (Nat.two_pow_pos _)
  simp only [roundBits, roundDiv, Nat.div_one, Nat.one_mul]
  refine Nat.mul_pos ?_ (Nat.two_pow_pos _)
  split
  · exact hq
  · split <;> omega

theorem compare?_zero_ofUnits {n : Nat} (h : 0 < n) (negative : Bool) :
    (ofUnits negative n).compare? zero = some (if negative then .lt else .gt) := by
  unfold ofUnits
  split
  · rename_i hc
    have hu := unitsOfCode_pos (codeOfUnits_pos h)
    rw [compare?_of_value? (value?_of_isFinite (decide_eq_true hc)) value?_zero]
    cases negative
    · simpa [units, Extended.compare, Int.compare_eq_gt] using hu
    · simpa [units, Extended.compare, Int.compare_eq_lt] using hu
  · cases negative <;> decide

/-- Unequal finite doubles have a difference other than zero, whatever it is rounded to. -/
theorem compare?_zero_sub (x y : Double) :
    (x.sub y).compare? zero = some (Ord.compare x.units y.units) := by
  by_cases h : x.units = y.units
  · have h0 : (ofUnits false (roundBits 53 0 1)).compare? zero = some .eq := by decide
    simpa [sub, h] using h0
  · rw [sub, compare?_zero_ofUnits (roundBits_pos (by omega))]
    by_cases hl : x.units < y.units
    · simp [hl, Int.compare_eq_lt.mpr hl]
    · have hg : y.units < x.units := by omega
      simp [hl, Int.compare_eq_gt.mpr hg]

-- ---------------------------------------------------------------------------
-- Comparison with an integer
-- ---------------------------------------------------------------------------

/-- The whole part decides unless it is the integer itself. -/
theorem compare_tdiv {u p : Int} (hp : 0 < p) (n : Int) :
    (match Ord.compare (u.tdiv p) n with
      | .eq => Ord.compare u (u.tdiv p * p)
      | other => other) = Ord.compare u (n * p) := by
  have hu := Int.tdiv_mul_add_tmod u p
  have hr := Int.tmod_lt_of_pos u hp
  have hl := Int.lt_tmod_of_pos u hp
  rcases Int.lt_trichotomy (u.tdiv p) n with h | h | h
  · have hm : (u.tdiv p + 1) * p ≤ n * p := Int.mul_le_mul_of_nonneg_right h (Int.le_of_lt hp)
    rw [Int.add_mul, Int.one_mul] at hm
    have hlt : u < n * p := by omega
    rw [Int.compare_eq_lt.mpr h, Int.compare_eq_lt.mpr hlt]
  · rw [Int.compare_eq_eq.mpr h, h]
  · have hm : (n + 1) * p ≤ u.tdiv p * p := Int.mul_le_mul_of_nonneg_right h (Int.le_of_lt hp)
    rw [Int.add_mul, Int.one_mul] at hm
    have hgt : n * p < u := by omega
    rw [Int.compare_eq_gt.mpr h, Int.compare_eq_gt.mpr hgt]

theorem compareInteger?_eq (x : Double) (n : Int) :
    x.compareInteger? n = x.value?.map (·.compare (.units (n * unitsPerOne))) := by
  have hp : (0 : Int) < unitsPerOne := Int.natCast_pos.mpr unitsPerOne_pos
  by_cases hn : x.isNaN = true
  · simp [compareInteger?, value?, hn]
  · by_cases hf : x.isFinite = true
    · have hc := compare_tdiv (u := x.units) hp n
      simp only [compareInteger?, toInt?_truncate hf, compare?_zero_sub, units_truncate,
        value?_of_isFinite hf, hf, hn, Option.bind_some, Option.map_some, Extended.compare, ← hc]
      cases Ord.compare (x.units.tdiv unitsPerOne) n <;> simp
    · have hv : x.value? = some (if x.negative then .bottom else .top) := by simp [value?, hn, hf]
      have hz := compare?_of_value? hv value?_zero
      cases hs : x.negative <;> simp [compareInteger?, hn, hf, hv, hz, hs, Extended.compare]

end Assay.Double
