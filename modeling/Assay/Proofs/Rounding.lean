import Assay.Numeric
import Mathlib

/-!
# Rounding to significant bits

Rounding a quotient to so many significant bits makes a number with no more of them. Such a number is
left alone, nothing is taken below its leading bit, and the order is kept. Such a number of units is
the magnitude of a double. So the double made of a count is exact below `2 ^ 53` and not less than
that from there on, and a larger integer never makes a smaller double.
-/

namespace Assay

-- ---------------------------------------------------------------------------
-- Significant bits
-- ---------------------------------------------------------------------------

theorem roundDiv_of_dvd {num den : Nat} (hd : 0 < den) (h : den ∣ num) :
    roundDiv num den = num / den := by
  have hr := Nat.mod_eq_zero_of_dvd h
  simp [roundDiv, hr, hd]

theorem div_le_roundDiv (num den : Nat) : num / den ≤ roundDiv num den := by
  unfold roundDiv
  dsimp only
  split
  · exact Nat.le_refl _
  · split
    · exact Nat.le_succ _
    · exact Nat.le_add_right ..

theorem roundDiv_le (num den : Nat) : roundDiv num den ≤ num / den + 1 := by
  unfold roundDiv
  dsimp only
  split
  · exact Nat.le_succ _
  · split
    · exact Nat.le_refl _
    · omega

theorem roundDiv_mono {a b : Nat} (h : a ≤ b) (den : Nat) : roundDiv a den ≤ roundDiv b den := by
  rcases Nat.lt_or_eq_of_le (Nat.div_le_div_right (c := den) h) with hlt | heq
  · exact Nat.le_trans (roundDiv_le a den) (Nat.le_trans hlt (div_le_roundDiv b den))
  · have ha := Nat.div_add_mod a den
    have hb := Nat.div_add_mod b den
    rw [heq] at ha
    have hr : a % den ≤ b % den := by omega
    unfold roundDiv
    dsimp only
    rw [heq]
    -- of two remainders of one quotient the larger is rounded up first
    repeat' split
    all_goals omega

theorem roundDiv_le_of_lt {num den b : Nat} (hd : 0 < den) (h : num < b * den) :
    roundDiv num den ≤ b :=
  Nat.le_trans (roundDiv_le ..) ((Nat.div_lt_iff_lt_mul hd).mpr h)

theorem roundDiv_eq_zero {num den : Nat} (h : 2 * num < den) : roundDiv num den = 0 := by
  have hlt : num < den := by omega
  rw [roundDiv, Nat.div_eq_of_lt hlt, Nat.mod_eq_of_lt hlt]
  exact if_pos h

theorem lt_two_pow_mul {d : Nat} (hd : 0 < d) (n : Nat) : n < 2 ^ ((n / d).log2 + 1) * d :=
  (Nat.div_lt_iff_lt_mul hd).mp Nat.lt_log2_self

/-- No bits are set beyond the first `p`. -/
def Significant (p n : Nat) : Prop := 2 ^ (n.log2 + 1 - p) ∣ n

section

variable {p n d : Nat}

theorem roundBits_eq (p n d : Nat) : roundBits p n d =
    roundDiv n (d * 2 ^ ((n / d).log2 + 1 - p)) * 2 ^ ((n / d).log2 + 1 - p) := rfl

theorem Significant.roundBits_mul (h : Significant p n) (hd : 0 < d) :
    roundBits p (n * d) d = n := by
  have hdvd : 2 ^ (n.log2 + 1 - p) * d ∣ n * d := Nat.mul_dvd_mul_right h d
  rw [Assay.roundBits_eq, Nat.mul_div_cancel n hd, Nat.mul_comm d,
    roundDiv_of_dvd (Nat.mul_pos (Nat.two_pow_pos _) hd) hdvd, Nat.mul_div_mul_right _ _ hd,
    Nat.div_mul_cancel h]

theorem Significant.roundBits_eq (h : Significant p n) : roundBits p n 1 = n := by
  have hn := h.roundBits_mul Nat.one_pos
  rwa [Nat.mul_one] at hn

theorem roundBits_eq_zero (p : Nat) (h : 2 * n < d) : roundBits p n d = 0 := by
  have hle : d ≤ d * 2 ^ ((n / d).log2 + 1 - p) := Nat.le_mul_of_pos_right d (Nat.two_pow_pos _)
  rw [roundBits_eq, roundDiv_eq_zero (Nat.lt_of_lt_of_le h hle), Nat.zero_mul]

/-- What is cleared is behind the leading bit. -/
theorem two_pow_log2_le_roundBits (hp : 0 < p) (hd : 0 < d) (hn : n / d ≠ 0) :
    2 ^ (n / d).log2 ≤ roundBits p n d := by
  have hle : 2 ^ (n / d).log2 * d ≤ n :=
    (Nat.le_div_iff_mul_le hd).mp (Nat.log2_self_le hn)
  obtain ⟨j, hj⟩ : ∃ j, (n / d).log2 = j + ((n / d).log2 + 1 - p) :=
    ⟨(n / d).log2 - ((n / d).log2 + 1 - p), by omega⟩
  rw [roundBits_eq]
  generalize (n / d).log2 + 1 - p = k at hj
  rw [hj, Nat.pow_add] at hle ⊢
  have hq : 2 ^ j ≤ roundDiv n (d * 2 ^ k) := by
    refine Nat.le_trans ?_ (div_le_roundDiv ..)
    rwa [Nat.le_div_iff_mul_le (Nat.mul_pos hd (Nat.two_pow_pos k)), Nat.mul_comm d,
      ← Nat.mul_assoc]
  exact Nat.mul_le_mul_right _ hq

/-- Rounding carries past the leading bit at most to the next power of two. -/
theorem roundBits_le_two_pow_log2 (hp : 0 < p) (hd : 0 < d) (n : Nat) :
    roundBits p n d ≤ 2 ^ ((n / d).log2 + 1) := by
  have hlt := lt_two_pow_mul hd n
  obtain ⟨j, hj⟩ : ∃ j, (n / d).log2 + 1 = j + ((n / d).log2 + 1 - p) :=
    ⟨(n / d).log2 + 1 - ((n / d).log2 + 1 - p), by omega⟩
  rw [roundBits_eq]
  generalize (n / d).log2 + 1 - p = k at hj ⊢
  rw [hj, Nat.pow_add] at hlt ⊢
  refine Nat.mul_le_mul_right _ (roundDiv_le_of_lt (Nat.mul_pos hd (Nat.two_pow_pos k)) ?_)
  rwa [Nat.mul_comm d, ← Nat.mul_assoc]

theorem roundBits_mono (hp : 0 < p) (hd : 0 < d) {m n : Nat} (h : m ≤ n) :
    roundBits p m d ≤ roundBits p n d := by
  have hq : m / d ≤ n / d := Nat.div_le_div_right h
  have hlog : (m / d).log2 ≤ (n / d).log2 := by
    by_cases hm : m / d = 0
    · rw [hm]
      exact Nat.zero_le _
    · have hn : n / d ≠ 0 := Nat.ne_of_gt (Nat.lt_of_lt_of_le (Nat.pos_of_ne_zero hm) hq)
      exact (Nat.le_log2 hn).mpr (Nat.le_trans (Nat.log2_self_le hm) hq)
  rcases Nat.lt_or_eq_of_le hlog with hlt | heq
  · have hn : n / d ≠ 0 := by
      intro h0
      rw [h0] at hlt
      exact absurd hlt (Nat.not_lt_zero _)
    calc roundBits p m d ≤ 2 ^ ((m / d).log2 + 1) := roundBits_le_two_pow_log2 hp hd m
      _ ≤ 2 ^ (n / d).log2 := Nat.pow_le_pow_right (by decide) hlt
      _ ≤ roundBits p n d := two_pow_log2_le_roundBits hp hd hn
  · rw [roundBits_eq, roundBits_eq, heq]
    exact Nat.mul_le_mul_right _ (roundDiv_mono h _)

theorem two_pow_le_roundBits (hp : 0 < p) {j : Nat} (h : 2 ^ j ≤ n) : 2 ^ j ≤ roundBits p n 1 := by
  rw [← Nat.div_one n] at h
  have hn : n / 1 ≠ 0 := Nat.ne_of_gt (Nat.lt_of_lt_of_le (Nat.two_pow_pos j) h)
  have hj : j ≤ (n / 1).log2 := (Nat.le_log2 hn).mpr h
  exact Nat.le_trans (Nat.pow_le_pow_right (by decide) hj)
    (two_pow_log2_le_roundBits hp Nat.one_pos hn)

theorem significant_mul_two_pow (hp : 0 < p) {r : Nat} (hr : r ≤ 2 ^ p) (k : Nat) :
    Significant p (r * 2 ^ k) := by
  by_cases h0 : r = 0
  · simp [Significant, h0]
  · rcases Nat.lt_or_eq_of_le hr with hlt | rfl
    · have hn : r * 2 ^ k ≠ 0 := Nat.mul_ne_zero h0 (Nat.ne_of_gt (Nat.two_pow_pos k))
      have hl : (r * 2 ^ k).log2 < p + k := by
        rw [Nat.log2_lt hn, Nat.pow_add]
        exact Nat.mul_lt_mul_of_pos_right hlt (Nat.two_pow_pos k)
      exact Nat.dvd_mul_left_of_dvd (Nat.pow_dvd_pow 2 (by omega)) _
    · -- a carry past the leading bit
      rw [Significant, ← Nat.pow_add, Nat.log2_two_pow]
      exact Nat.pow_dvd_pow 2 (by omega)

/-- What is kept has at most `p` bits, or is the power of two after them. -/
theorem roundDiv_le_two_pow (p : Nat) (hd : 0 < d) :
    roundDiv n (d * 2 ^ ((n / d).log2 + 1 - p)) ≤ 2 ^ p := by
  refine roundDiv_le_of_lt (Nat.mul_pos hd (Nat.two_pow_pos _)) ?_
  rw [Nat.mul_comm d, ← Nat.mul_assoc, ← Nat.pow_add]
  exact Nat.lt_of_lt_of_le (lt_two_pow_mul hd n)
    (Nat.mul_le_mul_right _ (Nat.pow_le_pow_right (by decide) (by omega)))

theorem significant_roundBits (hp : 0 < p) (hd : 0 < d) : Significant p (roundBits p n d) :=
  significant_mul_two_pow hp (roundDiv_le_two_pow p hd) _

end

-- ---------------------------------------------------------------------------
-- Doubles of whole numbers of units
-- ---------------------------------------------------------------------------

namespace Double

variable {n : Nat}

theorem codeOfUnits_of_lt (h : n < 2 ^ 52) : codeOfUnits n = n := by
  have hl : n.log2 - 52 = 0 := by
    by_cases h0 : n = 0
    · simp [h0]
    · have := (Nat.log2_lt h0).mpr h
      omega
  simp [codeOfUnits, hl]

/-- The leading bit of the quotient is the one that the code leaves out. -/
theorem quotient_bounds (h : 2 ^ 52 ≤ n) :
    2 ^ 52 ≤ n / 2 ^ (n.log2 - 52) ∧ n / 2 ^ (n.log2 - 52) < 2 ^ 53 := by
  have h0 : n ≠ 0 := by omega
  have hl : 52 ≤ n.log2 := (Nat.le_log2 h0).mpr h
  have hlow : 2 ^ 52 * 2 ^ (n.log2 - 52) ≤ n := by
    rw [← Nat.pow_add, Nat.add_sub_cancel' hl]
    exact Nat.log2_self_le h0
  have hhigh : n < 2 ^ 53 * 2 ^ (n.log2 - 52) := by
    rw [← Nat.pow_add, show 53 + (n.log2 - 52) = n.log2 + 1 by omega]
    exact Nat.lt_log2_self
  exact ⟨(Nat.le_div_iff_mul_le (Nat.two_pow_pos _)).mpr hlow,
    (Nat.div_lt_iff_lt_mul (Nat.two_pow_pos _)).mpr hhigh⟩

theorem unitsOfCode_codeOfUnits (h : Significant 53 n) : unitsOfCode (codeOfUnits n) = n := by
  by_cases hs : n < 2 ^ 52
  · rw [codeOfUnits_of_lt hs, unitsOfCode, if_pos hs]
  · obtain ⟨hlow, hhigh⟩ := quotient_bounds (Nat.le_of_not_lt hs)
    have hd : n / 2 ^ (n.log2 - 52) * 2 ^ (n.log2 - 52) = n := Nat.div_mul_cancel h
    have hc : codeOfUnits n = (n.log2 - 52) * 2 ^ 52 + n / 2 ^ (n.log2 - 52) := rfl
    generalize n / 2 ^ (n.log2 - 52) = q at *
    have hmod : 2 ^ 52 + codeOfUnits n % 2 ^ 52 = q := by omega
    have hdiv : codeOfUnits n / 2 ^ 52 - 1 = n.log2 - 52 := by omega
    rw [unitsOfCode_normal (by omega), hmod, hdiv, hd]

theorem codeOfUnits_lt (n : Nat) : codeOfUnits n < (n.log2 - 52 + 2) * 2 ^ 52 := by
  by_cases hs : n < 2 ^ 52
  · rw [codeOfUnits_of_lt hs]
    omega
  · have hq := (quotient_bounds (Nat.le_of_not_lt hs)).2
    simp only [codeOfUnits]
    omega

theorem codeOfUnits_mono {m n : Nat} (h : m ≤ n) : codeOfUnits m ≤ codeOfUnits n := by
  by_cases hm : m = 0
  · subst hm; exact Nat.zero_le _
  have hlog : m.log2 ≤ n.log2 :=
    (Nat.le_log2 (by omega)).mpr (Nat.le_trans (Nat.log2_self_le hm) h)
  by_cases hk : m.log2 - 52 = n.log2 - 52
  · have hdiv : m / 2 ^ (n.log2 - 52) ≤ n / 2 ^ (n.log2 - 52) := Nat.div_le_div_right h
    simp only [codeOfUnits, hk]
    omega
  · -- the exponent of `n` is larger by one or more
    have hn : 2 ^ 52 ≤ n := (Nat.le_log2 (by omega)).mp (by omega)
    have hlow := (quotient_bounds hn).1
    have hcode := codeOfUnits_lt m
    have hstep : (m.log2 - 52 + 1) * 2 ^ 52 ≤ (n.log2 - 52) * 2 ^ 52 :=
      Nat.mul_le_mul_right _ (by omega)
    have he : codeOfUnits n = (n.log2 - 52) * 2 ^ 52 + n / 2 ^ (n.log2 - 52) := rfl
    omega

theorem value?_ofUnits (h : Significant 53 n) (negative : Bool) : (ofUnits negative n).value? =
    some (if codeOfUnits n < infinityCode then .units (if negative then -n else n)
      else if negative then .bottom else .top) := by
  unfold ofUnits
  split
  · rename_i hc
    rw [value?_of_isFinite (decide_eq_true hc)]
    simp [units, unitsOfCode_codeOfUnits h]
  · cases negative <;> decide

end Double

-- ---------------------------------------------------------------------------
-- Integers as doubles
-- ---------------------------------------------------------------------------

namespace Extended

theorem units_compare_ne_gt {m n : Int} (h : m ≤ n) : (units m).compare (units n) ≠ .gt :=
  fun hc => absurd h (Int.not_le.mpr (Int.compare_eq_gt.mp hc))

theorem bottom_compare_ne_gt (e : Extended) : bottom.compare e ≠ .gt := by cases e <;> nofun

theorem compare_top_ne_gt (e : Extended) : e.compare top ≠ .gt := by cases e <;> nofun

end Extended

namespace Numeric

/-- The units that the double nearest to a natural number is made of. -/
def roundedUnits (m : Nat) : Nat := roundBits 53 (m * Double.unitsPerOne) 1

theorem value?_ofInt (n : Int) : (ofInt n).value? =
    some (if Double.codeOfUnits (roundedUnits n.natAbs) < Double.infinityCode then
        .units (if n < 0 then -roundedUnits n.natAbs else roundedUnits n.natAbs)
      else if n < 0 then .bottom else .top) := by
  have h := Double.value?_ofUnits
    (significant_roundBits (p := 53) (n := n.natAbs * Double.unitsPerOne) (by decide) Nat.one_pos)
    (n < 0)
  by_cases hn : n < 0 <;>
    simpa [ofInt, value?, Double.ofInt, Double.ofRatio, roundedUnits, hn] using h

theorem roundedUnits_of_le {m : Nat} (h : m ≤ 2 ^ 53) :
    roundedUnits m = m * Double.unitsPerOne := by
  obtain ⟨j, hj⟩ : ∃ j, 0 + j = 1074 := ⟨_, Nat.zero_add _⟩
  rw [roundedUnits, Double.unitsPerOne_eq hj, Nat.pow_zero, Nat.one_mul]
  exact (significant_mul_two_pow (by decide) h j).roundBits_eq

theorem roundedUnits_mono {m n : Nat} (h : m ≤ n) : roundedUnits m ≤ roundedUnits n :=
  roundBits_mono (by decide) Nat.one_pos (Nat.mul_le_mul_right _ h)

/-- Integers of up to 64 bits stay far below the largest double. -/
theorem codeOfUnits_roundedUnits_lt {m : Nat} (h : m ≤ 2 ^ 64) :
    Double.codeOfUnits (roundedUnits m) < Double.infinityCode := by
  obtain ⟨j, hj⟩ : ∃ j, 0 + j = 1074 := ⟨_, Nat.zero_add _⟩
  have hs := (significant_mul_two_pow (p := 53) (r := 1) (by decide) (by decide)
    (64 + j)).roundBits_eq
  rw [Nat.one_mul] at hs
  have htop : roundedUnits (2 ^ 64) = 2 ^ (64 + j) := by
    rw [roundedUnits, Double.unitsPerOne_eq hj, Nat.pow_zero, Nat.one_mul, ← Nat.pow_add, hs]
  have hcode := Double.codeOfUnits_lt (2 ^ (64 + j))
  rw [Nat.log2_two_pow, ← htop] at hcode
  calc Double.codeOfUnits (roundedUnits m)
      ≤ Double.codeOfUnits (roundedUnits (2 ^ 64)) := Double.codeOfUnits_mono (roundedUnits_mono h)
    _ < (64 + j - 52 + 2) * 2 ^ 52 := hcode
    _ ≤ Double.infinityCode := Nat.mul_le_mul_right _ (by omega)

/-- Up to `2 ^ 53` the nearest double is the integer itself. -/
theorem value?_ofInt_of_le {n : Int} (h : n.natAbs ≤ 2 ^ 53) :
    (ofInt n).value? = (integer n).value? := by
  rw [value?_ofInt, if_pos (codeOfUnits_roundedUnits_lt (Nat.le_trans h (by decide))),
    roundedUnits_of_le h, value?]
  congr 2
  split
  · rw [Int.natCast_mul, ← Int.neg_mul, Int.ofNat_natAbs_of_nonpos (by omega), Int.neg_neg]
  · rw [Int.natCast_mul, Int.natAbs_of_nonneg (by omega)]

theorem le_of_value? {a b : Numeric} {x y : Extended} (ha : a.value? = some x)
    (hb : b.value? = some y) (h : x.compare y ≠ .gt) : a.le b = true := by
  rw [le, lt, compare?_eq, ha, hb, Option.bind_some, Option.map_some]
  cases hc : x.compare y with
  | lt => rfl
  | eq => rfl
  | gt => exact absurd hc h

/-- A larger integer is not rounded to a smaller double. -/
theorem ofInt_le_ofInt {m n : Int} (h : m ≤ n) : (ofInt m).le (ofInt n) = true := by
  refine le_of_value? (value?_ofInt m) (value?_ofInt n) ?_
  by_cases hm : m < 0
  · rw [if_pos hm, if_pos hm]
    by_cases hn : n < 0
    · -- below zero the magnitudes stand in the other order
      have hunits : roundedUnits n.natAbs ≤ roundedUnits m.natAbs := roundedUnits_mono (by omega)
      have hcode := Double.codeOfUnits_mono hunits
      rw [if_pos hn, if_pos hn]
      by_cases hf : Double.codeOfUnits (roundedUnits m.natAbs) < Double.infinityCode
      · rw [if_pos hf, if_pos (Nat.lt_of_le_of_lt hcode hf)]
        exact Extended.units_compare_ne_gt (by omega)
      · rw [if_neg hf]
        exact Extended.bottom_compare_ne_gt _
    · rw [if_neg hn, if_neg hn]
      split
      · split
        · exact Extended.units_compare_ne_gt (by omega)
        · exact Extended.compare_top_ne_gt _
      · exact Extended.bottom_compare_ne_gt _
  · have hn : ¬n < 0 := by omega
    have hunits : roundedUnits m.natAbs ≤ roundedUnits n.natAbs := roundedUnits_mono (by omega)
    have hcode := Double.codeOfUnits_mono hunits
    rw [if_neg hm, if_neg hm, if_neg hn, if_neg hn]
    by_cases hf : Double.codeOfUnits (roundedUnits n.natAbs) < Double.infinityCode
    · rw [if_pos hf, if_pos (Nat.lt_of_le_of_lt hcode hf)]
      exact Extended.units_compare_ne_gt (by omega)
    · rw [if_neg hf]
      exact Extended.compare_top_ne_gt _

/-- A larger count is not rounded to a smaller double. -/
theorem ofNat_le_ofNat {m n : Nat} (h : m ≤ n) : (ofNat m).le (ofNat n) = true :=
  ofInt_le_ofInt (Int.ofNat_le.mpr h)

/-- A count that is rounded stays above those that are not. -/
theorem ofNat_lt_ofNat {k n : Nat} (hk : k < 2 ^ 53) (hn : 2 ^ 53 ≤ n) :
    (ofNat k).lt (ofNat n) = true := by
  have hle : 2 ^ 53 * Double.unitsPerOne ≤ roundedUnits n := by
    obtain ⟨j, hj⟩ : ∃ j, 0 + j = 1074 := ⟨_, Nat.zero_add _⟩
    rw [roundedUnits, Double.unitsPerOne_eq hj, Nat.pow_zero, Nat.one_mul, ← Nat.pow_add]
    refine two_pow_le_roundBits (by decide) ?_
    rw [Nat.pow_add]
    exact Nat.mul_le_mul_right _ hn
  have hlt : k * Double.unitsPerOne < roundedUnits n :=
    Nat.lt_of_lt_of_le (Nat.mul_lt_mul_of_pos_right hk Double.unitsPerOne_pos) hle
  have hsign : ¬(n : Int) < 0 := by omega
  have hv : (ofNat k).value? = some (.units (k * Double.unitsPerOne)) :=
    value?_ofInt_of_le (Nat.le_of_lt hk)
  rw [lt, compare?_eq, hv, ofNat, value?_ofInt, Int.natAbs_natCast, if_neg hsign, if_neg hsign]
  split
  · have hi : (k * Double.unitsPerOne : Int) < roundedUnits n := by exact_mod_cast hlt
    simp [Extended.compare, Int.compare_eq_lt.mpr hi]
  · rfl

end Numeric

end Assay
