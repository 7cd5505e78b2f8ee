import Assay.Proofs.ExactOrder
import Assay.Proofs.Rounding
import Assay.Proofs.ShortestDecimals

/-!
# The nearest double

Rounding a quotient to so many significant bits gives a nearest number with no more of them, and of
two equally near ones the one that ends in a zero bit. `Double.Rounds` says this of doubles and the
numbers they stand for. Quotients below a bound have such doubles, and only one with a given sign:
the one that they are rounded to. `Double.NearestEven` gives zero a sign, and of an integer of up to
64 bits exactly one double is that.
-/

namespace Assay

-- ---------------------------------------------------------------------------
-- The nearest multiple
-- ---------------------------------------------------------------------------

theorem roundDiv_cases (num den : Nat) :
    (roundDiv num den = num / den ∧ 2 * (num % den) ≤ den) ∨
      (roundDiv num den = num / den + 1 ∧ den ≤ 2 * (num % den)) := by
  unfold roundDiv
  dsimp only
  split
  · exact .inl ⟨rfl, by omega⟩
  · split
    · exact .inr ⟨rfl, by omega⟩
    · -- half way: the quotient if it is even, else the next number
      rcases Nat.mod_two_eq_zero_or_one (num / den) with h | h
      · exact .inl ⟨by omega, by omega⟩
      · exact .inr ⟨by omega, by omega⟩

theorem roundDiv_even_of_half {num den : Nat} (h : 2 * (num % den) = den) :
    roundDiv num den % 2 = 0 := by
  unfold roundDiv
  dsimp only
  rw [if_neg (by omega), if_neg (by omega)]
  omega

theorem mul_le_or_succ_mul_le (q j den : Nat) : j * den ≤ q * den ∨ (q + 1) * den ≤ j * den :=
  (le_or_gt j q).imp (Nat.mul_le_mul_right den) (Nat.mul_le_mul_right den)

section

variable {n d : Nat} (hd : 0 < d)

include hd

theorem dist_roundDiv_le (j : Nat) :
    Nat.dist (roundDiv n d * d) n ≤ Nat.dist (j * d) n := by
  have hdiv := Nat.div_add_mod' n d
  have hmod := Nat.mod_lt n hd
  have hside := mul_le_or_succ_mul_le (n / d) j d
  rw [Nat.succ_mul] at hside
  unfold Nat.dist
  rcases roundDiv_cases n d with ⟨hq, hr⟩ | ⟨hq, hr⟩
  · rw [hq]
    omega
  · rw [hq, Nat.succ_mul]
    omega

/-- Only half way between two multiples are both equally near. -/
theorem roundDiv_even {j : Nat} (hj : j * d ≠ roundDiv n d * d)
    (h : Nat.dist (j * d) n = Nat.dist (roundDiv n d * d) n) :
    roundDiv n d % 2 = 0 := by
  have hdiv := Nat.div_add_mod' n d
  have hmod := Nat.mod_lt n hd
  have hside := mul_le_or_succ_mul_le (n / d) j d
  rw [Nat.succ_mul] at hside
  unfold Nat.dist at h
  refine roundDiv_even_of_half ?_
  rcases roundDiv_cases n d with ⟨hq, hr⟩ | ⟨hq, hr⟩
  · rw [hq] at hj h
    omega
  · rw [hq, Nat.succ_mul] at hj h
    omega

end

-- ---------------------------------------------------------------------------
-- The nearest number with so many bits
-- ---------------------------------------------------------------------------

section

variable {p m n d : Nat}

/-- From the leading bit of the other number on, the bits that rounding clears there are clear. -/
theorem Significant.exists_mul (hm : Significant p m) (h : 2 ^ n.log2 ≤ m) :
    ∃ j, m = j * 2 ^ (n.log2 + 1 - p) := by
  have hm0 : m ≠ 0 := Nat.ne_of_gt (Nat.lt_of_lt_of_le (Nat.two_pow_pos _) h)
  have hlog : n.log2 ≤ m.log2 := (Nat.le_log2 hm0).mpr h
  obtain ⟨j, hj⟩ := (Nat.pow_dvd_pow 2 (by omega : n.log2 + 1 - p ≤ m.log2 + 1 - p)).trans hm
  exact ⟨j, hj.trans (Nat.mul_comm ..)⟩

theorem mul_two_pow_mul (j k d : Nat) : j * 2 ^ k * d = j * (d * 2 ^ k) := by
  rw [Nat.mul_assoc, Nat.mul_comm d]

theorem roundBits_mul_eq (p n d : Nat) : roundBits p n d * d =
    roundDiv n (d * 2 ^ ((n / d).log2 + 1 - p)) * (d * 2 ^ ((n / d).log2 + 1 - p)) := by
  rw [roundBits_eq, mul_two_pow_mul]

theorem dist_roundBits_le_mul (hd : 0 < d) (p n j : Nat) : Nat.dist (roundBits p n d * d) n ≤
    Nat.dist (j * 2 ^ ((n / d).log2 + 1 - p) * d) n := by
  rw [roundBits_mul_eq, mul_two_pow_mul]
  exact dist_roundDiv_le (Nat.mul_pos hd (Nat.two_pow_pos _)) j

/-- The leading bit alone is as near as any smaller number or nearer. -/
theorem dist_roundBits_le_sub (hp : 0 < p) (hd : 0 < d) (hn : n / d ≠ 0) :
    Nat.dist (roundBits p n d * d) n ≤ n - 2 ^ (n / d).log2 * d := by
  have hlead : 2 ^ ((n / d).log2 - ((n / d).log2 + 1 - p)) * 2 ^ ((n / d).log2 + 1 - p) =
      2 ^ (n / d).log2 := by
    rw [← Nat.pow_add]
    congr 1
    omega
  have hle : 2 ^ (n / d).log2 * d ≤ n := (Nat.le_div_iff_mul_le hd).mp (Nat.log2_self_le hn)
  have hdist := dist_roundBits_le_mul hd p n (2 ^ ((n / d).log2 - ((n / d).log2 + 1 - p)))
  rwa [hlead, Nat.dist_eq_sub_of_le hle] at hdist

/-- Another number with no more bits is a multiple of what rounding keeps, or below the leading bit
and so farther off than what rounding gives. -/
theorem Significant.multiple_or_farther (hm : Significant p m) (hp : 0 < p) (hd : 0 < d) (n : Nat) :
    (∃ j, m = j * 2 ^ ((n / d).log2 + 1 - p)) ∨
      Nat.dist (roundBits p n d * d) n < Nat.dist (m * d) n := by
  by_cases h : 2 ^ (n / d).log2 ≤ m
  · exact .inl (hm.exists_mul h)
  · by_cases hn : n / d = 0
    · rw [hn, Nat.log2_zero, Nat.pow_zero] at h
      exact .inl ⟨0, by omega⟩
    · have hle : 2 ^ (n / d).log2 * d ≤ n := (Nat.le_div_iff_mul_le hd).mp (Nat.log2_self_le hn)
      have hlt : m * d < 2 ^ (n / d).log2 * d := Nat.mul_lt_mul_of_pos_right (not_le.mp h) hd
      have hdist := dist_roundBits_le_sub hp hd hn
      rw [Nat.dist_eq_sub_of_le (by omega : m * d ≤ n)]
      exact .inr (by omega)

theorem dist_roundBits_le (hp : 0 < p) (hd : 0 < d) (hm : Significant p m) :
    Nat.dist (roundBits p n d * d) n ≤ Nat.dist (m * d) n := by
  rcases hm.multiple_or_farther hp hd n with ⟨j, rfl⟩ | h
  · exact dist_roundBits_le_mul hd p n j
  · exact Nat.le_of_lt h

/-- If another number with no more bits is as near, the last bit that is kept is zero. -/
theorem roundBits_even (hp : 0 < p) (hd : 0 < d) (hm : Significant p m)
    (hne : m ≠ roundBits p n d)
    (h : Nat.dist (m * d) n = Nat.dist (roundBits p n d * d) n) :
    roundDiv n (d * 2 ^ ((n / d).log2 + 1 - p)) % 2 = 0 := by
  have hmul : m * d ≠ roundBits p n d * d := fun he => hne (Nat.eq_of_mul_eq_mul_right hd he)
  rcases hm.multiple_or_farther hp hd n with ⟨j, rfl⟩ | hlt
  · rw [roundBits_mul_eq, mul_two_pow_mul] at hmul h
    exact roundDiv_even (Nat.mul_pos hd (Nat.two_pow_pos _)) hmul h
  · omega

end

namespace Double

-- ---------------------------------------------------------------------------
-- The codes of rounded magnitudes
-- ---------------------------------------------------------------------------

section

variable {m n d : Nat}

theorem significant_of_le (h : n ≤ 2 ^ 53) : Significant 53 n := by
  have hs := significant_mul_two_pow (p := 53) (by decide) h 0
  rwa [Nat.pow_zero, Nat.mul_one] at hs

theorem significant_unitsOfCode (code : Nat) : Significant 53 (unitsOfCode code) := by
  by_cases h : code < 2 ^ 52
  · rw [unitsOfCode, if_pos h]
    exact significant_of_le (by omega)
  · rw [unitsOfCode_normal (Nat.le_of_not_lt h)]
    exact significant_mul_two_pow (by decide) (by omega) _

theorem strictMono_unitsOfCode : StrictMono unitsOfCode := by
  refine strictMono_nat_of_lt_succ fun code => ?_
  rw [unitsOfCode_succ]
  exact Nat.lt_add_of_pos_right (step_pos code)

/-- A significand that is rounded up to the next power of two goes over into the exponent. -/
theorem codeOfUnits_mul_two_pow {q : Nat} (hl : 2 ^ 52 ≤ q) (hh : q ≤ 2 ^ 53) (k : Nat) :
    codeOfUnits (q * 2 ^ k) = k * 2 ^ 52 + q := by
  have hk := Nat.two_pow_pos k
  rcases Nat.lt_or_eq_of_le hh with hlt | rfl
  · have hlog : (q * 2 ^ k).log2 = 52 + k := by
      rw [Nat.log2_eq_iff (Nat.mul_ne_zero (by omega) (Nat.ne_of_gt hk)), Nat.pow_add,
        show 52 + k + 1 = 53 + k by omega, Nat.pow_add]
      exact ⟨Nat.mul_le_mul_right _ hl, Nat.mul_lt_mul_of_pos_right hlt hk⟩
    rw [codeOfUnits, hlog, Nat.add_sub_cancel_left, Nat.mul_div_cancel _ hk]
  · rw [codeOfUnits, ← Nat.pow_add, Nat.log2_two_pow, show 53 + k - 52 = k + 1 by omega,
      Nat.pow_div (by omega) (by decide), show 53 + k - (k + 1) = 52 by omega]
    omega

theorem codeOfUnits_even_of_even {q k : Nat} (hh : q ≤ 2 ^ 53) (hk : 2 ^ 52 ≤ q ∨ k = 0)
    (he : q % 2 = 0) : codeOfUnits (q * 2 ^ k) % 2 = 0 := by
  by_cases hl : 2 ^ 52 ≤ q
  · rw [codeOfUnits_mul_two_pow hl hh]
    omega
  · obtain rfl := hk.resolve_left hl
    rwa [Nat.pow_zero, Nat.mul_one, codeOfUnits_of_lt (Nat.lt_of_not_le hl)]

theorem codeOfUnits_even (hd : 0 < d) (hm : Significant 53 m) (hne : m ≠ roundBits 53 n d)
    (h : Nat.dist (m * d) n = Nat.dist (roundBits 53 n d * d) n) :
    codeOfUnits (roundBits 53 n d) % 2 = 0 := by
  refine codeOfUnits_even_of_even (roundDiv_le_two_pow 53 hd) ?_
    (roundBits_even (by decide) hd hm hne h)
  by_cases hs : n / d < 2 ^ 52
  · -- all bits of a subnormal magnitude are kept
    right
    by_cases h0 : n / d = 0
    · rw [h0]
      rfl
    · have hlog := (Nat.log2_lt h0).mpr hs
      omega
  · left
    have hlog : (n / d).log2 + 1 - 53 = (n / d).log2 - 52 := by omega
    have hlow := (quotient_bounds (Nat.le_of_not_lt hs)).1
    rw [Nat.div_div_eq_div_mul] at hlow
    rw [hlog]
    exact Nat.le_trans hlow (div_le_roundDiv ..)

theorem unitsOfCode_codeOfUnits_roundBits (hd : 0 < d) (n : Nat) :
    unitsOfCode (codeOfUnits (roundBits 53 n d)) = roundBits 53 n d :=
  unitsOfCode_codeOfUnits (significant_roundBits (by decide) hd)

/-- No code is that of a nearer magnitude. -/
theorem dist_unitsOfCode_le (hd : 0 < d) (n c : Nat) :
    Nat.dist (unitsOfCode (codeOfUnits (roundBits 53 n d)) * d) n ≤
      Nat.dist (unitsOfCode c * d) n := by
  rw [unitsOfCode_codeOfUnits_roundBits hd]
  exact dist_roundBits_le (by decide) hd (significant_unitsOfCode c)

theorem code_even (hd : 0 < d) {c : Nat} (hne : c ≠ codeOfUnits (roundBits 53 n d))
    (h : Nat.dist (unitsOfCode c * d) n =
      Nat.dist (unitsOfCode (codeOfUnits (roundBits 53 n d)) * d) n) :
    codeOfUnits (roundBits 53 n d) % 2 = 0 := by
  rw [unitsOfCode_codeOfUnits_roundBits hd] at h
  refine codeOfUnits_even hd (significant_unitsOfCode c) (fun hc => hne ?_) h
  rw [← unitsOfCode_codeOfUnits_roundBits hd] at hc
  exact strictMono_unitsOfCode.injective hc

/-- From half way on to a magnitude with an even code all are rounded up to it. -/
theorem codeOfUnits_roundBits_le_iff (hd : 0 < d) {c : Nat} (hc : c % 2 = 1) (n : Nat) :
    codeOfUnits (roundBits 53 n d) ≤ c ↔
      2 * n < unitsOfCode c * d + unitsOfCode (c + 1) * d := by
  have hstep : unitsOfCode c * d < unitsOfCode (c + 1) * d :=
    Nat.mul_lt_mul_of_pos_right (strictMono_unitsOfCode (Nat.lt_add_one c)) hd
  have hbelow := dist_unitsOfCode_le hd n c
  have habove := dist_unitsOfCode_le hd n (c + 1)
  have heven := code_even (n := n) (c := c + 1) hd
  generalize codeOfUnits (roundBits 53 n d) = e at hbelow habove heven ⊢
  constructor
  · intro he
    have hle : unitsOfCode e * d ≤ unitsOfCode c * d :=
      Nat.mul_le_mul_right _ (strictMono_unitsOfCode.monotone he)
    by_contra hge
    -- as far from the one below as from the one above, which is even
    have htie : unitsOfCode e * d = unitsOfCode c * d := by
      unfold Nat.dist at habove
      omega
    obtain rfl : e = c :=
      strictMono_unitsOfCode.injective (Nat.eq_of_mul_eq_mul_right hd htie)
    have hdist : Nat.dist (unitsOfCode (e + 1) * d) n = Nat.dist (unitsOfCode e * d) n := by
      unfold Nat.dist at habove ⊢
      omega
    have := heven (Nat.succ_ne_self e) hdist
    omega
  · intro hlt
    by_contra hgt
    have hle : unitsOfCode (c + 1) * d ≤ unitsOfCode e * d :=
      Nat.mul_le_mul_right _ (strictMono_unitsOfCode.monotone (Nat.lt_of_not_le hgt))
    unfold Nat.dist at hbelow
    omega

end

theorem even_significand_iff {x : Double} : Even x.significand ↔ x.code % 2 = 0 := by
  rw [Nat.even_iff, significand]
  split
  · rfl
  · omega

-- ---------------------------------------------------------------------------
-- The nearest double to a number
-- ---------------------------------------------------------------------------

/-- No finite double is nearer to the number, and none of another value is as near unless the last
bit of the significand is zero. -/
structure Rounds (x : Double) (r : ℝ) : Prop where
  finite : x.isFinite = true
  nearest : ∀ y : Double, y.isFinite = true → |x.real - r| ≤ |y.real - r|
  even : ∀ y : Double, y.isFinite = true → y.real ≠ x.real → |y.real - r| = |x.real - r| →
    Even x.significand

/-- The same, and the sign is that of the number. -/
structure NearestEven (x : Double) (r : ℝ) : Prop extends Rounds x r where
  sign : x.negative = true ↔ r < 0

theorem real_lt_iff {x y : Double} : x.real < y.real ↔ x.units < y.units := by
  rw [← Int.cast_lt (R := ℝ), units_eq, units_eq]
  exact (mul_lt_mul_iff_left₀ (by positivity)).symm

theorem real_eq_iff {x y : Double} : x.real = y.real ↔ x.units = y.units := by
  rw [← Int.cast_inj (α := ℝ), units_eq, units_eq]
  exact (mul_left_inj' (by positivity)).symm

theorem units_positive (code : Nat) (h) : units ⟨false, code, h⟩ = unitsOfCode code := rfl

theorem units_negative (code : Nat) (h) : units ⟨true, code, h⟩ = -unitsOfCode code := rfl

/-- Codes whose last bit is zero are no neighbours. -/
theorem unitsOfCode_between {c d : Nat} (h : c < d) (hc : c % 2 = 0) (hd : d % 2 = 0) :
    c + 1 < d ∧ unitsOfCode c < unitsOfCode (c + 1) ∧ unitsOfCode (c + 1) < unitsOfCode d := by
  have hlt : c + 1 < d := by omega
  exact ⟨hlt, strictMono_unitsOfCode (Nat.lt_add_one c), strictMono_unitsOfCode hlt⟩

theorem exists_between {x y : Double} (hx : x.isFinite = true) (hy : y.isFinite = true)
    (hxe : x.code % 2 = 0) (hye : y.code % 2 = 0) (h : x.units < y.units) :
    ∃ z : Double, z.isFinite = true ∧ x.units < z.units ∧ z.units < y.units := by
  obtain ⟨s, c, hc⟩ := x
  obtain ⟨t, d, hd⟩ := y
  simp only [isFinite, decide_eq_true_eq] at hx hy hxe hye ⊢
  have hlt {a b : Nat} : unitsOfCode a < unitsOfCode b ↔ a < b := strictMono_unitsOfCode.lt_iff_lt
  cases s with
  | false =>
    cases t with
    | false =>
      rw [units_positive, units_positive] at h
      obtain ⟨hn, hup, hdown⟩ := unitsOfCode_between (hlt.mp (by omega)) hxe hye
      refine ⟨⟨false, c + 1, by omega⟩, Nat.lt_trans hn hy, ?_⟩
      rw [units_positive, units_positive, units_positive]
      omega
    | true =>
      rw [units_positive, units_negative] at h
      omega
  | true =>
    cases t with
    | false =>
      rw [units_negative, units_positive] at h ⊢
      have hzero : unitsOfCode 0 = 0 := rfl
      -- next to a zero, above it or below
      by_cases hc0 : c = 0
      · subst hc0
        obtain ⟨-, hup, hdown⟩ := unitsOfCode_between (hlt.mp (by omega)) hxe hye
        refine ⟨⟨false, 0 + 1, by decide⟩, by decide, ?_⟩
        rw [units_positive]
        omega
      · obtain ⟨-, hdown, hup⟩ := unitsOfCode_between (Nat.pos_of_ne_zero hc0) rfl hxe
        refine ⟨⟨true, 0 + 1, by decide⟩, by decide, ?_⟩
        rw [units_negative]
        omega
    | true =>
      rw [units_negative, units_negative] at h
      obtain ⟨hn, hup, hdown⟩ := unitsOfCode_between (hlt.mp (by omega)) hye hxe
      refine ⟨⟨true, d + 1, by omega⟩, Nat.lt_trans hn hx, ?_⟩
      rw [units_negative, units_negative, units_negative]
      omega

theorem Rounds.real_le {x y : Double} {r : ℝ} (hx : x.Rounds r) (hy : y.Rounds r) :
    y.real ≤ x.real := by
  by_contra hlt
  rw [not_le] at hlt
  have hd : |y.real - r| = |x.real - r| :=
    le_antisymm (hy.nearest x hx.finite) (hx.nearest y hy.finite)
  have hxe := even_significand_iff.mp (hx.even y hy.finite hlt.ne' hd)
  have hye := even_significand_iff.mp (hy.even x hx.finite hlt.ne hd.symm)
  obtain ⟨z, hz, hxz, hzy⟩ := exists_between hx.finite hy.finite hxe hye (real_lt_iff.mp hlt)
  have hxz := real_lt_iff.mpr hxz
  have hzy := real_lt_iff.mpr hzy
  have hmid : y.real - r = r - x.real := by
    rcases abs_eq_abs.mp hd with h | h
    · linarith
    · linarith
  have hlt : |z.real - r| < |y.real - r| := by
    rw [abs_of_pos (by linarith : 0 < y.real - r), abs_lt]
    exact ⟨by linarith, by linarith⟩
  exact absurd (hy.nearest z hz) (not_le.mpr hlt)

/-- The value is fixed by distance and last bit. -/
theorem Rounds.eq_of_negative {x y : Double} {r : ℝ} (hx : x.Rounds r) (hy : y.Rounds r)
    (hsign : x.negative = y.negative) : x = y := by
  have hreal : x.real = y.real := le_antisymm (hy.real_le hx) (hx.real_le hy)
  have hunits := real_eq_iff.mp hreal
  obtain ⟨s, c, hc⟩ := x
  obtain ⟨t, d, hd⟩ := y
  obtain rfl : s = t := hsign
  have hcode : unitsOfCode c = unitsOfCode d := by cases s <;> simpa [units] using hunits
  obtain rfl := strictMono_unitsOfCode.injective hcode
  rfl

theorem NearestEven.unique {x y : Double} {r : ℝ} (hx : x.NearestEven r) (hy : y.NearestEven r) :
    x = y :=
  hx.eq_of_negative hy.toRounds (Bool.eq_iff_iff.mpr (hx.sign.trans hy.sign.symm))

-- ---------------------------------------------------------------------------
-- Distances from a quotient
-- ---------------------------------------------------------------------------

/-- A magnitude with a sign. -/
def signed (negative : Bool) (m : Nat) : Int := if negative then -m else m

theorem signed_mul (s : Bool) (m d : Nat) : signed s m * d = signed s (m * d) := by
  cases s <;> simp [signed]

/-- Magnitudes are no farther apart than the numbers. -/
theorem dist_le_natAbs_sub (s t : Bool) (a b : Nat) :
    Nat.dist a b ≤ (signed s a - signed t b).natAbs := by
  unfold Nat.dist signed
  split <;> split <;> omega

theorem natAbs_sub_signed (s : Bool) (a b : Nat) :
    (signed s a - signed s b).natAbs = Nat.dist a b := by
  unfold Nat.dist signed
  split <;> omega

/-- The magnitude with the other sign is farther off, unless it is zero. -/
theorem signed_eq_of_natAbs_sub {s t : Bool} {a b : Nat}
    (h : (signed t a - signed s b).natAbs = Nat.dist a b) (hzero : Nat.dist a b ≤ b) :
    signed t a = signed s a := by
  unfold Nat.dist signed at *
  cases s <;> cases t <;> simp only [Bool.false_eq_true, if_true, if_false] at h ⊢ <;> omega

/-- The distance of a double from a quotient, in units and multiplied out. -/
theorem abs_real_sub (x : Double) (z : Int) {d : Nat} (hd : 0 < d) :
    |x.real - z / d| * (2 ^ 1074 * d) = ((x.units * d - z * unitsPerOne).natAbs : ℝ) := by
  have hpos : (0 : ℝ) < 2 ^ 1074 * d := by positivity
  have hmul : x.real * 2 ^ 1074 * d - z * 2 ^ 1074 = (x.real - z / d) * (2 ^ 1074 * d) := by
    field_simp
  rw [Nat.cast_natAbs]
  push_cast
  rw [units_eq, cast_unitsPerOne, hmul, abs_mul, abs_of_pos hpos]

theorem abs_real_sub_le_iff {x y : Double} {z : Int} {d : Nat} (hd : 0 < d) :
    |x.real - z / d| ≤ |y.real - z / d| ↔
      (x.units * d - z * unitsPerOne).natAbs ≤ (y.units * d - z * unitsPerOne).natAbs := by
  rw [← Nat.cast_le (α := ℝ), ← abs_real_sub x z hd, ← abs_real_sub y z hd]
  exact (mul_le_mul_iff_left₀ (by positivity)).symm

theorem abs_real_sub_eq_iff {x y : Double} {z : Int} {d : Nat} (hd : 0 < d) :
    |x.real - z / d| = |y.real - z / d| ↔
      (x.units * d - z * unitsPerOne).natAbs = (y.units * d - z * unitsPerOne).natAbs := by
  rw [le_antisymm_iff, abs_real_sub_le_iff hd, abs_real_sub_le_iff hd, ← le_antisymm_iff]

-- ---------------------------------------------------------------------------
-- The double of a quotient
-- ---------------------------------------------------------------------------

theorem negative_ofRatio (negative : Bool) (num den : Nat) :
    (ofRatio negative num den).negative = negative := by
  unfold ofRatio ofUnits
  split <;> rfl

section

variable {negative : Bool} {num den : Nat}

theorem isFinite_ofRatio : (ofRatio negative num den).isFinite = true ↔
    codeOfUnits (roundBits 53 (num * unitsPerOne) den) < infinityCode := by
  unfold ofRatio ofUnits
  split
  · rename_i h
    exact iff_of_true (decide_eq_true h) h
  · rename_i h
    refine iff_of_false ?_ h
    cases negative <;> decide

theorem units_ofRatio (hd : 0 < den) (hf : (ofRatio negative num den).isFinite = true) :
    (ofRatio negative num den).units =
      signed negative (roundBits 53 (num * unitsPerOne) den) := by
  have hu : (ofRatio negative num den).units = signed negative (unitsOfCode
      (codeOfUnits (roundBits 53 (num * unitsPerOne) den))) := by
    rw [ofRatio, ofUnits, dif_pos (isFinite_ofRatio.mp hf)]
    rfl
  rw [hu, unitsOfCode_codeOfUnits_roundBits hd]

theorem code_ofRatio (hf : (ofRatio negative num den).isFinite = true) :
    (ofRatio negative num den).code =
      codeOfUnits (roundBits 53 (num * unitsPerOne) den) := by
  rw [ofRatio, ofUnits, dif_pos (isFinite_ofRatio.mp hf)]

theorem rounds_ofRatio (hd : 0 < den) (hf : (ofRatio negative num den).isFinite = true) :
    (ofRatio negative num den).Rounds (signed negative num / den) := by
  -- in units, multiplied out, and with the sign taken off where it is the same
  have hx : ((ofRatio negative num den).units * den - signed negative num * unitsPerOne).natAbs =
      Nat.dist (roundBits 53 (num * unitsPerOne) den * den) (num * unitsPerOne) := by
    rw [units_ofRatio hd hf, signed_mul, signed_mul, natAbs_sub_signed]
  have hy (y : Double) : Nat.dist (unitsOfCode y.code * den) (num * unitsPerOne) ≤
      (y.units * den - signed negative num * unitsPerOne).natAbs := by
    show _ ≤ (signed y.negative (unitsOfCode y.code) * den - _).natAbs
    rw [signed_mul, signed_mul]
    exact dist_le_natAbs_sub ..
  have hnear (y : Double) := dist_roundBits_le (n := num * unitsPerOne) (p := 53) (by decide) hd
    (significant_unitsOfCode y.code)
  constructor
  case finite => exact hf
  case nearest =>
    intro y _
    rw [abs_real_sub_le_iff hd, hx]
    exact Nat.le_trans (hnear y) (hy y)
  case even =>
    intro y _ hne heq
    rw [abs_real_sub_eq_iff hd] at heq
    have hdist : Nat.dist (unitsOfCode y.code * den) (num * unitsPerOne) =
        Nat.dist (roundBits 53 (num * unitsPerOne) den * den) (num * unitsPerOne) :=
      Nat.le_antisymm ((hy y).trans (heq.trans hx).le) (hnear y)
    refine even_significand_iff.mpr (code_ofRatio hf ▸
      codeOfUnits_even hd (significant_unitsOfCode y.code) (fun hu => hne ?_) hdist)
    have hzero := dist_roundBits_le (n := num * unitsPerOne) (p := 53) (by decide) hd
      (significant_of_le (Nat.zero_le _))
    rw [Nat.zero_mul, Nat.dist_zero_left] at hzero
    have hsame : signed y.negative (roundBits 53 (num * unitsPerOne) den * den) =
        signed negative (roundBits 53 (num * unitsPerOne) den * den) := by
      refine signed_eq_of_natAbs_sub ?_ hzero
      rw [← signed_mul, ← signed_mul, ← hu]
      exact heq.trans (hx.trans (by rw [hu]))
    rw [← signed_mul, ← signed_mul] at hsame
    have hden : (den : Int) ≠ 0 := by omega
    rw [real_eq_iff, units_ofRatio hd hf, ← Int.eq_of_mul_eq_mul_right hden hsame, ← hu]
    rfl

/-- The largest finite double. -/
def largest : Double := ⟨false, infinityCode - 1, by decide⟩

theorem unitsOfCode_largest_add : (unitsOfCode largest.code : ℝ) + unitsOfCode (largest.code + 1) =
    (2 ^ 1024 - 2 ^ 970) * (2 * 2 ^ 1074) := by
  have hlow : significand largest = 2 ^ 53 - 1 := by decide
  have hlow' : exponent largest = 971 := by decide
  have hhigh : significand (infinity false) = 2 ^ 52 := by decide
  have hhigh' : exponent (infinity false) = 972 := by decide
  have hcode : largest.code + 1 = (infinity false).code := rfl
  rw [hcode, unitsOfCode_eq, unitsOfCode_eq, hlow, hlow', hhigh, hhigh']
  have h971 : (2 : ℝ) ^ (971 : ℤ) = 2 * 2 ^ 970 := pow_succ' 2 970
  have h972 : (2 : ℝ) ^ (972 : ℤ) = 4 * 2 ^ 970 := by
    rw [show (4 : ℝ) = 2 ^ 2 by norm_num, ← pow_add]
    exact zpow_natCast 2 972
  have h1024 : (2 : ℝ) ^ 1024 = 2 ^ 54 * 2 ^ 970 := pow_add 2 54 970
  rw [h971, h972, h1024]
  generalize (2 : ℝ) ^ 970 = a, (2 : ℝ) ^ 1074 = b
  push_cast
  ring

/-- Half way to the power of two after the largest finite double, and beyond it, is infinity. -/
theorem isFinite_ofRatio_iff (hd : 0 < den) : (ofRatio negative num den).isFinite = true ↔
    (num / den : ℝ) < 2 ^ 1024 - 2 ^ 970 := by
  have hcode : codeOfUnits (roundBits 53 (num * unitsPerOne) den) < infinityCode ↔
      codeOfUnits (roundBits 53 (num * unitsPerOne) den) ≤ largest.code :=
    Nat.lt_iff_le_pred (by decide)
  have hden : (0 : ℝ) < den := Nat.cast_pos.mpr hd
  rw [isFinite_ofRatio, hcode, codeOfUnits_roundBits_le_iff hd (by decide), ← Nat.add_mul,
    ← Nat.cast_lt (α := ℝ), div_lt_iff₀ hden]
  push_cast
  rw [unitsOfCode_largest_add, cast_unitsPerOne, mul_left_comm, mul_right_comm]
  exact mul_lt_mul_iff_left₀ (by positivity)

end

-- ---------------------------------------------------------------------------
-- The double of an integer
-- ---------------------------------------------------------------------------

section

variable {n : Int} (h : n.natAbs ≤ 2 ^ 64)

include h

theorem isFinite_ofInt : (ofInt n).isFinite = true :=
  isFinite_ofRatio.mpr (Numeric.codeOfUnits_roundedUnits_lt h)

theorem nearestEven_ofInt : (ofInt n).NearestEven n := by
  have hr := rounds_ofRatio Nat.one_pos (isFinite_ofInt h)
  have hn : signed (n < 0) n.natAbs = n := by
    unfold signed
    simp only [decide_eq_true_eq]
    split <;> omega
  rw [hn, Nat.cast_one, div_one] at hr
  refine ⟨hr, ?_⟩
  rw [ofInt, negative_ofRatio, decide_eq_true_iff]
  exact Int.cast_lt_zero.symm

theorem nearestEven_iff {x : Double} : x.NearestEven n ↔ x = ofInt n := by
  constructor
  · exact fun hx => hx.unique (nearestEven_ofInt h)
  · rintro rfl
    exact nearestEven_ofInt h

end

end Double

/-- Up to `2 ^ 53` the double made of an integer stands for the integer. -/
theorem Numeric.extended?_ofInt {n : Int} (h : n.natAbs ≤ 2 ^ 53) :
    (ofInt n).extended? = some ((n : ℝ) : EReal) := by
  rw [extended?_eq, value?_ofInt_of_le h, ← extended?_eq]
  rfl

end Assay
