import Assay.Double.Whole
import Assay.Double.Shortest
import Mathlib

/-!
# Shortest decimals

Among the decimals of up to seventeen digits there is one in the interval of every double, and the
intervals of two doubles have no number in common, so the shortest decimal tells which double it was
made for. Numbers are counted in quarters of a unit, as the ends of the intervals are.
-/

namespace Assay.Double

/-- A decimal in quarters of a unit. -/
def quarters (digits : Nat) (exponent : Int) : ℚ := digits * 10 ^ exponent * quartersPerOne

/-- The number lies between the ends, or is one that counts. -/
structure Interval.Holds (i : Interval) (x : ℚ) : Prop where
  low : i.low ≤ x
  high : x ≤ i.high
  ends : i.closed = false → i.low < x ∧ x < i.high

-- ---------------------------------------------------------------------------
-- The intervals in their order
-- ---------------------------------------------------------------------------

/-- The distance to the next magnitude, in units. -/
def step (code : Nat) : Nat := 2 ^ (code / 2 ^ 52 - 1)

theorem step_pos (code : Nat) : 0 < step code := Nat.two_pow_pos _

theorem step_succ_le (code : Nat) : step (code + 1) ≤ 2 * step code := by
  rw [step, step, ← Nat.pow_succ']
  exact Nat.pow_le_pow_right (by decide) (by omega)

theorem unitsOfCode_succ (code : Nat) : unitsOfCode (code + 1) = unitsOfCode code + step code := by
  by_cases hs : code < 2 ^ 52
  · -- up to the first power of two the unit is the step
    have he : step code = 1 := by rw [step, Nat.div_eq_of_lt hs, Nat.zero_sub, Nat.pow_zero]
    have hc : unitsOfCode code = code := if_pos hs
    rw [hc, he]
    by_cases hn : code + 1 < 2 ^ 52
    · exact if_pos hn
    · obtain rfl : code = 2 ^ 52 - 1 := by omega
      rfl
  · have hc : 2 ^ 52 ≤ code := Nat.le_of_not_lt hs
    rw [unitsOfCode_normal hc, unitsOfCode_normal (by omega), step]
    by_cases hf : code % 2 ^ 52 + 1 < 2 ^ 52
    · have he : (code + 1) / 2 ^ 52 = code / 2 ^ 52 := by omega
      have hm : (code + 1) % 2 ^ 52 = code % 2 ^ 52 + 1 := by omega
      rw [he, hm]
      ring
    · -- the fraction is full and the exponent grows
      have he : (code + 1) / 2 ^ 52 - 1 = code / 2 ^ 52 - 1 + 1 := by omega
      have hm : (code + 1) % 2 ^ 52 = 0 := by omega
      have hl : code % 2 ^ 52 = 2 ^ 52 - 1 := by omega
      rw [he, hm, hl, Nat.pow_succ]
      ring

/-- How far the interval reaches below the middle. -/
def reach (code : Nat) : Nat :=
  if 2 ^ 52 ≤ code ∧ code % 2 ^ 52 = 0 then step code else 2 * step code

theorem interval_eq (code : Nat) : interval code = ⟨4 * unitsOfCode code - reach code,
    4 * unitsOfCode code, 4 * unitsOfCode code + 2 * step code, code % 2 = 0⟩ := rfl

theorem reach_succ_le (code : Nat) : reach (code + 1) ≤ 2 * step code := by
  unfold reach
  split
  · exact step_succ_le code
  · have he : step (code + 1) = step code := by
      unfold step
      congr 1
      omega
    rw [he]

theorem low_le_middle (code : Nat) : (interval code).low ≤ (interval code).middle :=
  Nat.sub_le ..

theorem middle_lt_high (code : Nat) : (interval code).middle < (interval code).high :=
  Nat.lt_add_of_pos_right (Nat.mul_pos (by decide) (step_pos code))

theorem high_le_low_succ (code : Nat) : (interval code).high ≤ (interval (code + 1)).low := by
  have hr := reach_succ_le code
  rw [interval_eq, interval_eq, unitsOfCode_succ]
  dsimp only
  omega

variable {a b : Nat} {x : ℚ}

theorem high_le_low (h : a < b) : (interval a).high ≤ (interval b).low := by
  induction b, h using Nat.le_induction with
  | base => exact high_le_low_succ a
  | succ b _ ih =>
    calc (interval a).high ≤ (interval b).low := ih
      _ ≤ (interval b).middle := low_le_middle b
      _ ≤ (interval b).high := Nat.le_of_lt (middle_lt_high b)
      _ ≤ (interval (b + 1)).low := high_le_low_succ b

/-- Neighbours share an end, but it counts for one of them only. -/
theorem not_holds_of_lt (h : a < b) (ha : (interval a).Holds x) : ¬ (interval b).Holds x := by
  intro hb
  have hle : ((interval a).high : ℚ) ≤ (interval b).low := Nat.cast_le.mpr (high_le_low h)
  have hends : (interval a).closed = true ∧ (interval b).closed = true := by
    constructor
    · refine Bool.eq_true_of_not_eq_false fun hc => ?_
      exact absurd ((ha.ends hc).2.trans_le (hle.trans hb.low)) (lt_irrefl x)
    · refine Bool.eq_true_of_not_eq_false fun hc => ?_
      exact absurd ((ha.high.trans hle).trans_lt (hb.ends hc).1) (lt_irrefl x)
  have hp : a % 2 = 0 ∧ b % 2 = 0 := by simpa [interval] using hends
  have hlt : (interval a).high < (interval b).low :=
    calc (interval a).high ≤ (interval (a + 1)).low := high_le_low_succ a
      _ ≤ (interval (a + 1)).middle := low_le_middle _
      _ < (interval (a + 1)).high := middle_lt_high _
      _ ≤ (interval b).low := high_le_low (by omega)
  have hx : ((interval a).high : ℚ) < (interval b).low := Nat.cast_lt.mpr hlt
  exact absurd ((ha.high.trans_lt hx).trans_le hb.low) (lt_irrefl x)

theorem holds_unique (ha : (interval a).Holds x) (hb : (interval b).Holds x) : a = b := by
  rcases Nat.lt_trichotomy a b with h | h | h
  · exact absurd hb (not_holds_of_lt h ha)
  · exact h
  · exact absurd ha (not_holds_of_lt h hb)

-- ---------------------------------------------------------------------------
-- Multiples of a power of ten
-- ---------------------------------------------------------------------------

theorem ten_pow_toNat (e : Int) : (10 : ℚ) ^ e.toNat = 10 ^ e * 10 ^ (-e).toNat := by
  have h : (e.toNat : ℤ) = e + (-e).toNat := by omega
  rw [← zpow_natCast, h, zpow_add₀ (by norm_num), zpow_natCast]

theorem cast_mul_grid (d : Nat) (e : Int) :
    ((d * (quartersPerOne * 10 ^ e.toNat) : ℕ) : ℚ) = quarters d e * 10 ^ (-e).toNat := by
  push_cast
  rw [ten_pow_toNat, quarters]
  ring

section

variable {n d : Nat} {e : Int}

theorem le_grid_iff : n * 10 ^ (-e).toNat ≤ d * (quartersPerOne * 10 ^ e.toNat) ↔
    (n : ℚ) ≤ quarters d e := by
  rw [← Nat.cast_le (α := ℚ), cast_mul_grid]
  push_cast
  exact mul_le_mul_iff_left₀ (by positivity)

theorem grid_le_iff : d * (quartersPerOne * 10 ^ e.toNat) ≤ n * 10 ^ (-e).toNat ↔
    quarters d e ≤ n := by
  rw [← Nat.cast_le (α := ℚ), cast_mul_grid]
  push_cast
  exact mul_le_mul_iff_left₀ (by positivity)

theorem lt_grid_iff : n * 10 ^ (-e).toNat < d * (quartersPerOne * 10 ^ e.toNat) ↔
    (n : ℚ) < quarters d e := by
  rw [← not_le, grid_le_iff, not_le]

theorem grid_lt_iff : d * (quartersPerOne * 10 ^ e.toNat) < n * 10 ^ (-e).toNat ↔
    quarters d e < n := by
  rw [← not_le, le_grid_iff, not_le]

end

theorem quarters_succ (d : Nat) (e : Int) : quarters (d + 1) e = quarters d e + quarters 1 e := by
  simp only [quarters]
  push_cast
  ring

theorem quartersPerOne_pos : 0 < quartersPerOne := by
  rw [quartersPerOne]
  positivity

/-- An end of an interval is met if it counts and else passed. -/
theorem ite_le_lt_iff {c : Bool} {x y : ℚ} :
    (if c then x ≤ y else x < y) ↔ x ≤ y ∧ (c = false → x < y) := by
  cases c
  · simpa using le_of_lt
  · simp

/-- The grid points next to the middle, and which of them is taken. -/
theorem gridPoint?_cases (i : Interval) (e : Int) : ∃ down : Nat,
    quarters down e ≤ i.middle ∧ i.middle < quarters (down + 1) e ∧
    (∀ d, gridPoint? i e = some d →
      (d = down ∧ i.low ≤ quarters down e ∧ (i.closed = false → i.low < quarters down e)) ∨
      (d = down + 1 ∧ quarters (down + 1) e ≤ i.high ∧
        (i.closed = false → quarters (down + 1) e < i.high))) ∧
    (gridPoint? i e = none → quarters down e ≤ i.low ∧ i.high ≤ quarters (down + 1) e) := by
  have hg : 0 < quartersPerOne * 10 ^ e.toNat :=
    Nat.mul_pos quartersPerOne_pos (Nat.pow_pos (by decide))
  have hdown := grid_le_iff.mp (Nat.div_mul_le_self (i.middle * 10 ^ (-e).toNat)
    (quartersPerOne * 10 ^ e.toNat))
  have hup := lt_grid_iff.mp (Nat.lt_mul_of_div_lt
    (Nat.lt_succ_self (i.middle * 10 ^ (-e).toNat / (quartersPerOne * 10 ^ e.toNat))) hg)
  refine ⟨_, hdown, hup, ?_⟩
  simp only [gridPoint?, le_grid_iff, lt_grid_iff, grid_le_iff, grid_lt_iff, ite_le_lt_iff]
  generalize i.middle * 10 ^ (-e).toNat / (quartersPerOne * 10 ^ e.toNat) = down at hdown hup ⊢
  split
  case isTrue h =>
    simp only [Bool.and_eq_true, decide_eq_true_eq] at h
    simpa using h.1
  case isFalse h =>
    split
    case isTrue hu => simpa using hu
    case isFalse hu =>
      have hd : ¬ (i.low ≤ quarters down e ∧ (i.closed = false → i.low < quarters down e)) := by
        simpa [hu] using h
      refine ⟨nofun, fun _ => ⟨le_of_not_gt fun hlt => ?_, le_of_not_gt fun hlt => ?_⟩⟩
      · exact hd ⟨hlt.le, fun _ => hlt⟩
      · exact hu ⟨hlt.le, fun _ => hlt⟩

variable {i : Interval} {d : Nat} {e : Int}

theorem holds_of_gridPoint? (hl : i.low ≤ i.middle) (hh : i.middle < i.high)
    (hd : gridPoint? i e = some d) : i.Holds (quarters d e) := by
  have hl' : (i.low : ℚ) ≤ i.middle := Nat.cast_le.mpr hl
  have hh' : (i.middle : ℚ) < i.high := Nat.cast_lt.mpr hh
  obtain ⟨down, hdown, hup, hsome, -⟩ := gridPoint?_cases i e
  rcases hsome d hd with ⟨rfl, hle, hlt⟩ | ⟨rfl, hle, hlt⟩
  · exact ⟨hle, hdown.trans hh'.le, fun hc => ⟨hlt hc, hdown.trans_lt hh'⟩⟩
  · exact ⟨hl'.trans hup.le, hle, fun hc => ⟨hl'.trans_lt hup, hlt hc⟩⟩

/-- An interval longer than the grid is wide holds a point of it. -/
theorem isSome_gridPoint? (h : quarters 1 e < i.high - i.low) : (gridPoint? i e).isSome = true := by
  rw [← Option.ne_none_iff_isSome]
  intro hn
  obtain ⟨down, -, -, -, hnone⟩ := gridPoint?_cases i e
  obtain ⟨hlow, hhigh⟩ := hnone hn
  rw [quarters_succ] at hhigh
  linarith

-- ---------------------------------------------------------------------------
-- The exponent of the leading digit
-- ---------------------------------------------------------------------------

theorem reaches_iff {q : Nat} : reaches q e = true ↔ quarters 1 e ≤ q := by
  rw [reaches, decide_eq_true_eq, ← grid_le_iff, Nat.one_mul]

/-- The decimal logarithm of two is a little less than 0.30103. -/
theorem ten_pow_bounds :
    2 ^ 100000 ≤ 10 ^ 30103 ∧ 10 ^ 30103 ≤ 2 ^ (100000 + 1) := by decide +kernel

theorem zpow_le_two_zpow_pow {x : ℚ} {n : Nat} (hl : 2 ^ n ≤ x) (hh : x ≤ 2 ^ (n + 1)) {k : Int}
    (hk : k ≤ n) : x ^ k ≤ (2 ^ (k + 1)) ^ n := by
  have hx : 0 < x := (pow_pos two_pos n).trans_le hl
  rw [← zpow_natCast, ← zpow_mul]
  rcases le_total 0 k with h0 | h0
  · calc x ^ k ≤ (2 ^ (n + 1)) ^ k := zpow_le_zpow_left₀ h0 hx.le hh
      _ = 2 ^ ((n + 1 : ℕ) * k : ℤ) := by rw [← zpow_natCast, ← zpow_mul]
      _ ≤ 2 ^ ((k + 1) * n) := zpow_le_zpow_right₀ one_le_two (by push_cast; linarith)
  · have hn : x ^ (-k) ≥ (2 ^ n) ^ (-k) := zpow_le_zpow_left₀ (by omega) (by positivity) hl
    calc x ^ k = (x ^ (-k))⁻¹ := by rw [zpow_neg, inv_inv]
      _ ≤ ((2 ^ n) ^ (-k))⁻¹ := inv_anti₀ (by positivity) hn
      _ = 2 ^ (k * n) := by rw [zpow_neg, inv_inv, ← zpow_natCast, ← zpow_mul, mul_comm]
      _ ≤ 2 ^ ((k + 1) * n) := zpow_le_zpow_right₀ one_le_two (by nlinarith)

theorem ten_zpow_le_two_zpow {m k : Int} (hm : 100000 * m ≤ 30103 * k) (hk : k ≤ 100000) :
    (10 : ℚ) ^ m ≤ 2 ^ (k + 1) := by
  have hl : (2 : ℚ) ^ 100000 ≤ 10 ^ 30103 := by
    simpa only [Nat.cast_pow, Nat.cast_ofNat] using (Nat.cast_le (α := ℚ)).mpr ten_pow_bounds.1
  have hh : (10 : ℚ) ^ 30103 ≤ 2 ^ (100000 + 1) := by
    simpa only [Nat.cast_pow, Nat.cast_ofNat] using (Nat.cast_le (α := ℚ)).mpr ten_pow_bounds.2
  -- both sides to the power that makes the exponents whole
  refine (pow_le_pow_iff_left₀ (by positivity) (by positivity) (by decide : 100000 ≠ 0)).mp ?_
  calc ((10 : ℚ) ^ m) ^ 100000 = 10 ^ (100000 * m) := by
        rw [← zpow_natCast, ← zpow_mul, mul_comm]
        rfl
    _ ≤ 10 ^ (30103 * k) := zpow_le_zpow_right₀ (by norm_num) hm
    _ = ((10 : ℚ) ^ 30103) ^ k := by
        rw [zpow_mul]
        rfl
    _ ≤ (2 ^ (k + 1)) ^ 100000 := zpow_le_two_zpow_pow hl hh hk

theorem quarters_one (e : Int) : quarters 1 e = 10 ^ e * 2 ^ 1076 := by
  have hq : (quartersPerOne : ℚ) = 2 ^ 1076 := by
    rw [quartersPerOne, Nat.cast_pow, Nat.cast_ofNat]
  rw [quarters, hq, Nat.cast_one, one_mul]

/-- The estimate is not too high. -/
theorem reaches_estimate {q : Nat} (h0 : q ≠ 0) (hq : q.log2 ≤ 101076) :
    reaches q (((q.log2 : Int) - 1076) * 30103 / 100000 - 1) = true := by
  have hlog : (2 ^ q.log2 : ℚ) ≤ q := by exact_mod_cast Nat.log2_self_le h0
  have hm : 100000 * (((q.log2 : Int) - 1076) * 30103 / 100000) ≤ 30103 * (q.log2 - 1076) := by
    omega
  generalize ((q.log2 : Int) - 1076) * 30103 / 100000 = m at hm ⊢
  have hten := ten_zpow_le_two_zpow hm (by omega)
  have hexp : (2 : ℚ) ^ ((q.log2 : Int) - 1076 + 1) * 2 ^ 1076 = 2 ^ q.log2 * 2 := by
    rw [← zpow_natCast, ← zpow_natCast, ← zpow_add₀ two_ne_zero, ← zpow_add_one₀ two_ne_zero]
    congr 1
    push_cast
    ring
  rw [reaches_iff, quarters_one, zpow_sub_one₀ (by norm_num)]
  calc (10 : ℚ) ^ m * 10⁻¹ * 2 ^ 1076 = 10 ^ m * 2 ^ 1076 * 10⁻¹ := mul_right_comm ..
    _ ≤ 2 ^ q.log2 * 2 * 10⁻¹ := by
        rw [← hexp]
        gcongr
    _ ≤ 2 ^ q.log2 := by
        have hp : (0 : ℚ) < 2 ^ q.log2 := by positivity
        linarith
    _ ≤ q := hlog

/-- Steps are taken only to where the property still holds. -/
theorem foldl_climb {p : Int → Bool} (l : List Nat) {e : Int} (h : p e = true) :
    p (l.foldl (fun e _ => if p (e + 1) then e + 1 else e) e) = true := by
  induction l generalizing e with
  | nil => exact h
  | cons _ l ih =>
    rw [List.foldl_cons]
    refine ih ?_
    by_cases hs : p (e + 1) = true
    · rwa [if_pos hs]
    · rwa [if_neg hs]

theorem reaches_leadingExponent {q : Nat} (h0 : q ≠ 0) (hq : q.log2 ≤ 101076) :
    reaches q (leadingExponent q) = true := by
  unfold leadingExponent
  exact foldl_climb _ (reaches_estimate h0 hq)

-- ---------------------------------------------------------------------------
-- The decimal that is found
-- ---------------------------------------------------------------------------

/-- Seventeen digits tell neighbours apart. -/
theorem middle_lt_length (code : Nat) :
    (interval code).middle + 10 ^ 16 * (interval code).low < 10 ^ 16 * (interval code).high := by
  have hs := step_pos code
  rw [interval_eq]
  dsimp only
  unfold reach
  by_cases hn : code < 2 ^ 52
  · have hc : unitsOfCode code = code := if_pos hn
    rw [if_neg (by omega), hc]
    omega
  · rw [unitsOfCode_normal (Nat.le_of_not_lt hn), ← step]
    have hf : code % 2 ^ 52 < 2 ^ 52 := Nat.mod_lt _ (by decide)
    have hle : (2 ^ 52 + code % 2 ^ 52) * step code ≤ (2 ^ 53 - 1) * step code :=
      Nat.mul_le_mul_right _ (by omega)
    split
    case isTrue h =>
      rw [h.2]
      omega
    case isFalse h => omega

theorem unitsOfCode_lt (code : Nat) : unitsOfCode code < 2 ^ 53 * step code := by
  by_cases hn : code < 2 ^ 52
  · have hc : unitsOfCode code = code := if_pos hn
    have hs := step_pos code
    omega
  · rw [unitsOfCode_normal (Nat.le_of_not_lt hn)]
    exact Nat.mul_lt_mul_of_pos_right (by omega) (step_pos code)

theorem log2_middle_le {code : Nat} (h0 : 0 < code) (h : code < infinityCode) :
    (interval code).middle.log2 ≤ 101076 := by
  have hm : (interval code).middle ≠ 0 :=
    Nat.ne_of_gt (Nat.mul_pos (by decide) (unitsOfCode_pos h0))
  have hlt : (interval code).middle < 2 ^ (55 + (code / 2 ^ 52 - 1)) := by
    have hu := unitsOfCode_lt code
    rw [Nat.pow_add, ← step, interval_eq]
    dsimp only
    omega
  have hlog := (Nat.log2_lt hm).mpr hlt
  unfold infinityCode at h
  omega

theorem quarters_sub_sixteen (e : Int) : quarters 1 (e - 16) = quarters 1 e / 10 ^ 16 := by
  rw [quarters_one, quarters_one, zpow_sub₀ (by norm_num), div_mul_eq_mul_div]
  rfl

/-- The search ends with a decimal. -/
theorem gridPoint?_shortest {code : Nat} (h0 : 0 < code) (h : code < infinityCode) :
    gridPoint? (interval code) (shortest code).2 = some (shortest code).1 := by
  have hm : (interval code).middle ≠ 0 :=
    Nat.ne_of_gt (Nat.mul_pos (by decide) (unitsOfCode_pos h0))
  have hlead := reaches_iff.mp (reaches_leadingExponent hm (log2_middle_le h0 h))
  have hlen : ((interval code).middle : ℚ) + 10 ^ 16 * (interval code).low <
      10 ^ 16 * (interval code).high := by exact_mod_cast middle_lt_length code
  have hgrid : quarters 1 (leadingExponent (interval code).middle - 16) <
      (interval code).high - (interval code).low := by
    rw [quarters_sub_sixteen, div_lt_iff₀ (by norm_num)]
    linarith
  obtain ⟨⟨d, e⟩, hs⟩ : ∃ p, (List.range 17).findSome? (fun (n : Nat) =>
      (gridPoint? (interval code) (leadingExponent (interval code).middle - n)).map
        (·, leadingExponent (interval code).middle - n)) = some p := by
    rw [← Option.isSome_iff_exists, List.findSome?_isSome_iff]
    refine ⟨16, by decide, ?_⟩
    rw [Option.isSome_map]
    exact isSome_gridPoint? hgrid
  obtain ⟨n, -, hn⟩ := List.exists_of_findSome?_eq_some hs
  obtain ⟨d', hd, hp⟩ := Option.map_eq_some_iff.mp hn
  obtain ⟨rfl, rfl⟩ := Prod.mk.inj hp
  simp only [shortest, hs, Option.getD_some]
  exact hd

theorem holds_shortest {code : Nat} (h0 : 0 < code) (h : code < infinityCode) :
    (interval code).Holds (quarters (shortest code).1 (shortest code).2) :=
  holds_of_gridPoint? (low_le_middle code) (middle_lt_high code) (gridPoint?_shortest h0 h)

end Assay.Double
