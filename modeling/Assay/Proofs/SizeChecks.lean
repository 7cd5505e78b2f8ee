import Assay.Proofs.NearestDoubles
import Assay.Proofs.SingleChecks

/-!
# Bounds on sizes

A size is compared with a bound as a double, but with the length that is asked for as it is. Below
`2 ^ 53` the double is the size itself, so the three checks agree also where the bound is rounded.
-/

namespace Assay

namespace Numeric

variable {k : Nat} {bound : Numeric}

theorem extended?_ofNat (hk : k < 2 ^ 53) : (ofNat k).extended? = some ((k : ℝ) : EReal) := by
  rw [ofNat, extended?_ofInt (by omega), Int.cast_natCast]

theorem ofNat_lt_iff (hk : k < 2 ^ 53) :
    (ofNat k).lt bound = true ↔ ∃ b, bound.extended? = some b ∧ ((k : ℝ) : EReal) < b := by
  simp [lt_iff, extended?_ofNat hk]

theorem ofNat_gt_iff (hk : k < 2 ^ 53) :
    (ofNat k).gt bound = true ↔ ∃ b, bound.extended? = some b ∧ b < ((k : ℝ) : EReal) := by
  simp [gt_iff, extended?_ofNat hk]

theorem ne_iff_ofNat (hk : k < 2 ^ 53) (n : Nat) :
    k ≠ n ↔ (ofNat k).lt (ofNat n) = true ∨ (ofNat k).gt (ofNat n) = true := by
  by_cases hn : n < 2 ^ 53
  · simp only [ofNat_lt_iff hk, ofNat_gt_iff hk, extended?_ofNat hn, Option.some.injEq,
      exists_eq_left', EReal.coe_lt_coe_iff, Nat.cast_lt]
    exact Nat.ne_iff_lt_or_gt
  · have hlt := ofNat_lt_ofNat hk (Nat.le_of_not_lt hn)
    have hne : k ≠ n := by
      rintro rfl
      exact hn hk
    exact iff_of_true hne (.inl hlt)

end Numeric

/-- The checks on size, on a value that has the size, or none if it is of another shape. -/
structure SizeChecks (size? : Option Nat) (fails : Check → Bool) : Prop where
  length : ∀ n, fails (.length n) = (fails (.min (.ofNat n)) || fails (.max (.ofNat n)))
  misfit : size? = none → ∀ n bound,
    fails (.length n) = true ∧ fails (.min bound) = true ∧ fails (.max bound) = true
  length_iff : ∀ k, size? = some k → ∀ n, fails (.length n) = true ↔ k ≠ n
  min : ∀ k, size? = some k → ∀ bound, fails (.min bound) = true ↔
    ∃ b, bound.extended? = some b ∧ ((k : ℝ) : EReal) < b
  max : ∀ k, size? = some k → ∀ bound, fails (.max bound) = true ↔
    ∃ b, bound.extended? = some b ∧ b < ((k : ℝ) : EReal)
  unordered : ∀ k, size? = some k → ∀ bound : Numeric, bound.isNaN = true →
    fails (.min bound) = false ∧ fails (.max bound) = false

namespace Scope

variable {scope : Scope}

theorem measures_of_counts (hk : scope.counts = true) : scope.measures = true := by
  simp [measures, hk]

theorem magnitude?_of_counts (hk : scope.counts = true) (v : Value) :
    scope.magnitude? v = (scope.count? v).map Numeric.ofNat := by
  have hn : scope.kind.isNumeric = false := by
    simp only [counts, Bool.or_eq_true, beq_iff_eq] at hk
    rcases hk with hk | hk <;> rw [hk] <;> rfl
  simp [magnitude?, hn]

end Scope

theorem Check.sizeChecks {scope : Scope} (hk : scope.counts = true) {v : Value}
    (hs : ∀ k, scope.count? v = some k → k < 2 ^ 53) :
    SizeChecks (scope.count? v) (Check.fails · scope v) := by
  have hmin bound : (Check.min bound).fails scope v =
      (scope.count? v).all fun k => (Numeric.ofNat k).lt bound := by
    simp [fails, Scope.measures_of_counts hk, Scope.magnitude?_of_counts hk, Option.all_map]
  have hmax bound : (Check.max bound).fails scope v =
      (scope.count? v).all fun k => (Numeric.ofNat k).gt bound := by
    simp [fails, Scope.measures_of_counts hk, Scope.magnitude?_of_counts hk, Option.all_map]
  have hlength n : (Check.length n).fails scope v = (scope.count? v).all (· ≠ n) := by
    simp [fails, hk]
  constructor
  case length =>
    intro n
    rw [hlength, hmin, hmax]
    cases hc : scope.count? v with
    | none => rfl
    | some k =>
      rw [Option.all_some, Option.all_some, Option.all_some, Bool.eq_iff_iff, Bool.or_eq_true,
        decide_eq_true_eq]
      exact Numeric.ne_iff_ofNat (hs k hc) n
  case misfit =>
    intro hc n bound
    simp [hlength, hmin, hmax, hc]
  case length_iff =>
    intro k hc n
    simp [hlength, hc]
  case min =>
    intro k hc bound
    simp [hmin, hc, Numeric.ofNat_lt_iff (hs k hc)]
  case max =>
    intro k hc bound
    simp [hmax, hc, Numeric.ofNat_gt_iff (hs k hc)]
  case unordered =>
    intro k hc bound hb
    have hnone := Numeric.compare?_eq_none_iff.mpr (Or.inr hb : (Numeric.ofNat k).isNaN = true ∨ _)
    simp [hmin, hmax, hc, Numeric.lt, Numeric.gt, hnone]

namespace Chain

variable {ρ : Type} [Rule ρ]

/-- In every state of a chain under a tag for text or arrays, the checks on size agree with the
exact order of size and bound, and with each other. -/
theorem size_checks {chain : Chain ρ} (hg : chain.generator.Keeps) (notice : Check → Notice)
    (hk : chain.scope.counts = true) {v : Value}
    (hs : ∀ k, chain.scope.count? (chain.scope.transform v) = some k → k < 2 ^ 53) :
    SizeChecks (chain.scope.count? (chain.scope.transform v))
      fun c => chain.rejects c (notice c) v := by
  simp only [rejects_eq hg]
  exact Check.sizeChecks hk hs

/-- A letter and a character of two units, with the blanks around them gone, are less than four. -/
theorem size_checks_units :
    let chain := ((fresh Generator.identity ⟨.string, .utf16⟩).steps
      [.check (.length 3) .none, .trim]).result
    let v := Value.string " a😀 "
    chain.scope.count? (chain.scope.transform v) = some 3 ∧
      chain.rejects (.min (.integer 4)) .none v = true ∧
      chain.rejects (.length 3) .none v = false := by
  intro chain v
  have hg : chain.generator.Keeps := Generator.identity_keeps
  have hc : chain.scope.count? (chain.scope.transform v) = some 3 := by decide +kernel
  have h := size_checks hg (fun _ => .none) rfl fun k hk => by
    rw [hc] at hk
    cases hk
    decide
  refine ⟨hc, (h.min 3 hc (.integer 4)).mpr ⟨_, rfl, EReal.coe_lt_coe_iff.mpr (by norm_num)⟩, ?_⟩
  have hl := h.length_iff 3 hc 3
  simpa using hl

end Chain

end Assay
