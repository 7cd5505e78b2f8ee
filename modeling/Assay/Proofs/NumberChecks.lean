import Assay.Proofs.ExactOrder
import Assay.Proofs.SingleChecks

/-!
# Bounds on numbers

Under the tags for numbers six checks compare a number with a bound, and two more compare it with
zero by its sign. Each fails on the contrary of what it asks for, so none of them fails where there
is no order.
-/

namespace Assay

namespace Numeric

theorem le_congr_right {a b c : Numeric} (h : b.extended? = c.extended?) : a.le b = a.le c := by
  rw [Bool.eq_iff_iff, le_iff, le_iff, h]

theorem ge_congr_right {a b c : Numeric} (h : b.extended? = c.extended?) : a.ge b = a.ge c := by
  rw [Bool.eq_iff_iff, ge_iff, ge_iff, h]

theorem extended?_zero : zero.extended? = some 0 := by
  rw [extended?_eq, zero, value?, Double.value?_zero]
  simp [Extended.toEReal]

theorem sign?_le (n : Numeric) : (n.sign? == some .lt || n.sign? == some .eq) = n.le zero := by
  rw [sign?_eq]
  rfl

theorem sign?_ge (n : Numeric) : (n.sign? == some .gt || n.sign? == some .eq) = n.ge zero := by
  rw [sign?_eq]
  rfl

end Numeric

/-- What the four checks against a bound say of a number. -/
structure Bounding (fails : Check → Bool) (n bound : Numeric) : Prop where
  gt : fails (.gt bound) = true ↔ ∃ x y, n.extended? = some x ∧ bound.extended? = some y ∧ x ≤ y
  gte : fails (.gte bound) = true ↔ ∃ x y, n.extended? = some x ∧ bound.extended? = some y ∧ x < y
  lt : fails (.lt bound) = true ↔ ∃ x y, n.extended? = some x ∧ bound.extended? = some y ∧ y ≤ x
  lte : fails (.lte bound) = true ↔ ∃ x y, n.extended? = some x ∧ bound.extended? = some y ∧ y < x
  unordered : n.isNaN = true ∨ bound.isNaN = true →
    fails (.gt bound) = false ∧ fails (.gte bound) = false ∧
      fails (.lt bound) = false ∧ fails (.lte bound) = false
  -- of each pair exactly one passes
  gt_or_lte : n.isNaN = false → bound.isNaN = false → fails (.gt bound) = !fails (.lte bound)
  lt_or_gte : n.isNaN = false → bound.isNaN = false → fails (.lt bound) = !fails (.gte bound)
  gte_and_lte : n.isNaN = false → bound.isNaN = false →
    (fails (.gte bound) = false ∧ fails (.lte bound) = false ↔
      ∃ x, n.extended? = some x ∧ bound.extended? = some x)

theorem bounding_of_relations {fails : Check → Bool} {n bound : Numeric}
    (hgt : fails (.gt bound) = n.le bound) (hgte : fails (.gte bound) = n.lt bound)
    (hlt : fails (.lt bound) = n.ge bound) (hlte : fails (.lte bound) = n.gt bound) :
    Bounding fails n bound := by
  -- off NaN there is one of three orders
  have horder : n.isNaN = false → bound.isNaN = false → ∃ o, n.compare? bound = some o := by
    intro hn hb
    refine Option.ne_none_iff_exists'.mp fun h => ?_
    rcases Numeric.compare?_eq_none_iff.mp h with h | h
    · exact absurd h (by simp [hn])
    · exact absurd h (by simp [hb])
  constructor
  case gt => simp [hgt, Numeric.le_iff]
  case gte => simp [hgte, Numeric.lt_iff]
  case lt => simp [hlt, Numeric.ge_iff]
  case lte => simp [hlte, Numeric.gt_iff]
  case unordered =>
    intro h
    have hc := Numeric.compare?_eq_none_iff.mpr h
    simp [hgt, hgte, hlt, hlte, Numeric.le, Numeric.lt, Numeric.ge, Numeric.gt, hc]
  case gt_or_lte =>
    intro hn hb
    obtain ⟨o, ho⟩ := horder hn hb
    cases o <;> simp [hgt, hlte, Numeric.le, Numeric.lt, Numeric.gt, ho]
  case lt_or_gte =>
    intro hn hb
    obtain ⟨o, ho⟩ := horder hn hb
    cases o <;> simp [hlt, hgte, Numeric.ge, Numeric.gt, Numeric.lt, ho]
  case gte_and_lte =>
    intro hn hb
    obtain ⟨o, ho⟩ := horder hn hb
    rw [← Numeric.eq_iff]
    cases o <;> simp [hgte, hlte, Numeric.lt, Numeric.gt, Numeric.eq, ho]

/-- The checks on numbers in a scope, on a value that has been transformed. -/
structure NumberChecks (tag : Kind) (fails : Check → Bool) (v : Value) (bound : Numeric) :
    Prop where
  number : tag.isNumeric = true → ∀ n, v.asNumeric? = some n → Bounding fails n bound
  other : tag.isNumeric = true → v.asNumeric? = none →
    fails (.gt bound) = true ∧ fails (.gte bound) = true ∧
      fails (.lt bound) = true ∧ fails (.lte bound) = true
  min : tag.isNumeric = true → fails (.min bound) = fails (.gte bound)
  max : tag.isNumeric = true → fails (.max bound) = fails (.lte bound)
  positive : ∀ zero : Numeric, zero.extended? = some 0 → fails .positive = fails (.gt zero)
  negative : ∀ zero : Numeric, zero.extended? = some 0 → fails .negative = fails (.lt zero)

theorem Check.numberChecks (scope : Scope) (v : Value) (bound : Numeric) :
    NumberChecks scope.kind (Check.fails · scope v) v bound := by
  constructor
  case number =>
    intro hk n hn
    apply bounding_of_relations <;> simp [fails, failsNumber, hk, hn]
  case other =>
    intro hk hn
    simp [fails, failsNumber, hk, hn]
  case min =>
    intro hk
    simp [fails, failsNumber, Scope.measures, Scope.magnitude?, hk]
  case max =>
    intro hk
    simp [fails, failsNumber, Scope.measures, Scope.magnitude?, hk]
  case positive =>
    intro zero hz
    have h := Numeric.extended?_zero.trans hz.symm
    simp [fails, failsNumber, Numeric.sign?_le, Numeric.le_congr_right h]
  case negative =>
    intro zero hz
    have h := Numeric.extended?_zero.trans hz.symm
    simp [fails, failsNumber, Numeric.sign?_ge, Numeric.ge_congr_right h]

namespace Chain

variable {ρ : Type} [Rule ρ]

/-- In every state of a chain, whatever notices its checks are given, the checks on numbers find
what the exact order of the numbers says. -/
theorem number_checks {chain : Chain ρ} (hg : chain.generator.Keeps) (notice : Check → Notice)
    (v : Value) (bound : Numeric) :
    NumberChecks chain.scope.kind (fun c => chain.rejects c (notice c) v) (chain.scope.transform v)
      bound := by
  simp only [rejects_eq hg]
  exact Check.numberChecks chain.scope (chain.scope.transform v) bound

/-- Minus one half is below zero and above minus one, and the sign says the first as well. -/
theorem number_checks_half :
    let chain := ((fresh Generator.describe .default).steps [.check .positive .none,
      .retag .bigint, .upper]).result
    let v := Value.number (Double.ofBits 0xBFE0000000000000)
    chain.rejects .positive .none v = true ∧ chain.rejects (.gt (.integer 0)) .none v = true ∧
      chain.rejects (.lte (.integer (-1))) .none v = true ∧
      chain.rejects (.gt (.integer (-1))) .none v = false := by
  intro chain v
  have hg : chain.generator.Keeps := Generator.describe_keeps
  have h := number_checks hg (fun _ => .none) v
  have hn := (h (.integer (-1))).number rfl _ rfl
  have hp := (h (.integer 0)).positive (.integer 0) (by simp [Numeric.extended?])
  have hpositive : chain.rejects .positive .none v = true := by
    rw [rejects_eq hg]
    decide +kernel
  have hlte : chain.rejects (.lte (.integer (-1))) .none v = true := by
    rw [rejects_eq hg]
    decide +kernel
  refine ⟨hpositive, hp ▸ hpositive, hlte, ?_⟩
  have hx := hn.gt_or_lte (by decide +kernel) rfl
  simpa [hlte] using hx

end Chain

end Assay
