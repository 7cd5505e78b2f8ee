import Assay.Proofs.NearestDoubles
import Assay.Proofs.NumberChecks

/-!
# Integers of fixed width

An integer of a fixed width is made a bound and a value in the same way, by rounding to the nearest
double. So bounds keep the order of integers of all widths together, and a value meets the bounds
made of its own integer, but none that is strict. Up to `2 ^ 53` nothing is rounded.
-/

namespace Assay

/-- A type of integers of a fixed width, signed or not, of up to 64 bits. -/
class FixedWidth (α : Type) where
  toInt : α → Int
  le_toInt (a : α) : -2 ^ 63 ≤ toInt a
  toInt_lt (a : α) : toInt a < 2 ^ 64

namespace FixedWidth

instance : FixedWidth Int8 where
  toInt := Int8.toInt
  le_toInt a := by have := a.le_toInt; omega
  toInt_lt a := by have := a.toInt_lt; omega

instance : FixedWidth Int16 where
  toInt := Int16.toInt
  le_toInt a := by have := a.le_toInt; omega
  toInt_lt a := by have := a.toInt_lt; omega

instance : FixedWidth Int32 where
  toInt := Int32.toInt
  le_toInt a := by have := a.le_toInt; omega
  toInt_lt a := by have := a.toInt_lt; omega

instance : FixedWidth Int64 where
  toInt := Int64.toInt
  le_toInt := Int64.le_toInt
  toInt_lt a := by have := a.toInt_lt; omega

instance : FixedWidth ISize where
  toInt := ISize.toInt
  le_toInt := ISize.le_toInt
  toInt_lt a := by have := a.toInt_lt; omega

instance : FixedWidth UInt8 where
  toInt a := a.toNat
  le_toInt a := by omega
  toInt_lt a := by have := a.toNat_lt; omega

instance : FixedWidth UInt16 where
  toInt a := a.toNat
  le_toInt a := by omega
  toInt_lt a := by have := a.toNat_lt; omega

instance : FixedWidth UInt32 where
  toInt a := a.toNat
  le_toInt a := by omega
  toInt_lt a := by have := a.toNat_lt; omega

instance : FixedWidth UInt64 where
  toInt a := a.toNat
  le_toInt a := by omega
  toInt_lt a := by have := a.toNat_lt; omega

instance : FixedWidth USize where
  toInt a := a.toNat
  le_toInt a := by omega
  toInt_lt a := by have := a.toNat_lt; omega

variable {α : Type} [FixedWidth α]

theorem natAbs_toInt_le (a : α) : (toInt a).natAbs ≤ 2 ^ 64 := by
  have hlow := le_toInt a
  have hhigh := toInt_lt a
  omega

/-- The bound made of an integer of fixed width. -/
def toNumeric (a : α) : Numeric := .ofInt (toInt a)

/-- The value made of an integer of fixed width. -/
def toValue (a : α) : Value := .ofInt (toInt a)

end FixedWidth

open FixedWidth

-- ---------------------------------------------------------------------------
-- The numbers made of integers
-- ---------------------------------------------------------------------------

theorem Numeric.isNaN_ofInt (n : Int) : (ofInt n).isNaN = false := by
  rw [← Bool.not_eq_true, ← value?_eq_none_iff, value?_ofInt]
  exact Option.some_ne_none _

/-- Against integers of any size the order is that of integers. -/
theorem Numeric.compare?_ofInt {m : Int} (h : m.natAbs ≤ 2 ^ 53) (n : Int) :
    (ofInt m).compare? (integer n) = some (Ord.compare m n) :=
  compare?_congr (value?_ofInt_of_le h) (integer n)

/-- What an integer of fixed width is made into. -/
structure Converted {α : Type} [FixedWidth α] (a : α) : Prop where
  -- bound and value are the one nearest double
  nearest : ∃ x : Double, toNumeric a = .double x ∧ (toValue a).asNumeric? = some (.double x) ∧
    ∀ y : Double, y.NearestEven (toInt a) ↔ y = x
  exact : (toInt a).natAbs ≤ 2 ^ 53 → (toNumeric a).extended? = some ((toInt a : ℝ) : EReal)
  mono : ∀ {β : Type} [FixedWidth β] (b : β), toInt a ≤ toInt b →
    (toNumeric a).le (toNumeric b) = true
  ordered : (toInt a).natAbs ≤ 2 ^ 53 → ∀ n : Int,
    (toNumeric a).compare? (.integer n) = some (Ord.compare (toInt a) n) ∧
      (Numeric.integer n).compare? (toNumeric a) = some (Ord.compare n (toInt a))

theorem converted {α : Type} [FixedWidth α] (a : α) : Converted a := by
  constructor
  case nearest => exact ⟨_, rfl, rfl, fun y => Double.nearestEven_iff (natAbs_toInt_le a)⟩
  case exact =>
    intro h
    exact Numeric.extended?_ofInt h
  case mono =>
    intro β _ b h
    exact Numeric.ofInt_le_ofInt h
  case ordered =>
    intro h n
    have hc := Numeric.compare?_ofInt h n
    refine ⟨hc, ?_⟩
    rw [Numeric.compare?_swap, toNumeric, hc, Option.map_some, Int.compare_swap]

-- ---------------------------------------------------------------------------
-- Values under the bounds of their own integers
-- ---------------------------------------------------------------------------

/-- The checks against a bound, on a value that is equal to it. -/
structure Met (fails : Check → Bool) (bound : Numeric) : Prop where
  gte : fails (.gte bound) = false
  lte : fails (.lte bound) = false
  gt : fails (.gt bound) = true
  lt : fails (.lt bound) = true

theorem Bounding.met {fails : Check → Bool} {n : Numeric} (h : Bounding fails n n)
    (hn : n.isNaN = false) : Met fails n := by
  obtain ⟨x, hx⟩ := Option.ne_none_iff_exists'.mp
    (mt Numeric.extended?_eq_none_iff.mp (Bool.not_eq_true _ ▸ hn))
  obtain ⟨hgte, hlte⟩ := (h.gte_and_lte hn hn).mpr ⟨x, hx, hx⟩
  constructor
  case gte => exact hgte
  case lte => exact hlte
  case gt => rw [h.gt_or_lte hn hn, hlte, Bool.not_false]
  case lt => rw [h.lt_or_gte hn hn, hgte, Bool.not_false]

variable {ρ : Type} [Rule ρ]

theorem Chain.met_of_transform {chain : Chain ρ} (hg : chain.generator.Keeps)
    (notice : Check → Notice) (hk : chain.scope.kind.isNumeric = true) {v : Value} {n : Int}
    (hv : chain.scope.transform v = .ofInt n) :
    Met (fun c => chain.rejects c (notice c) v) (.ofInt n) := by
  simp only [rejects_eq hg, hv]
  have h := (Check.numberChecks chain.scope (.ofInt n) (.ofInt n)).number hk _ rfl
  exact h.met (Numeric.isNaN_ofInt n)

/-- Without a transformer a number is seen as it is, whatever the flags. -/
theorem Scope.transform_ofInt {scope : Scope} (h : scope.custom = none) (n : Int) :
    scope.transform (.ofInt n) = .ofInt n := by
  simp [transform, h, Value.ofInt]

/-- An integer of fixed width makes the same double as a bound and as a value, the one that is
nearest with ties to even, and the integer itself up to `2 ^ 53`; the order of integers of any
widths is kept. Under a tag for numbers the value meets the bounds of its own integer that are not
strict, and so does every value that a transformer makes it of. -/
theorem integer_conversions {α : Type} [FixedWidth α] (a : α) :
    Converted a ∧ ∀ {ρ : Type} [Rule ρ] (chain : Chain ρ) (notice : Check → Notice),
      chain.generator.Keeps → chain.scope.kind.isNumeric = true →
      (chain.scope.custom = none →
        Met (fun c => chain.rejects c (notice c) (toValue a)) (toNumeric a)) ∧
      ∀ v, chain.scope.transform v = toValue a →
        Met (fun c => chain.rejects c (notice c) v) (toNumeric a) := by
  refine ⟨converted a, ?_⟩
  intro ρ _ chain notice hg hk
  refine ⟨fun hc => ?_, fun v hv => Chain.met_of_transform hg notice hk hv⟩
  exact Chain.met_of_transform hg notice hk (Scope.transform_ofInt hc (toInt a))

/-- A tie that goes down to the even neighbour: the value is equal to the bound made of another
integer, and not above its own. -/
theorem integer_conversions_tie :
    let chain := ((Chain.fresh Generator.identity .default).steps
      [.declare (.kind .number) .none, .trim]).result
    let a : Int64 := 9007199254740993
    let b : UInt64 := 9007199254740992
    toNumeric a = toNumeric b ∧
      (toNumeric a).le (toNumeric (18446744073709551615 : UInt64)) = true ∧
      (toNumeric b).compare? (.integer 9007199254740993) = some .lt ∧
      chain.rejects (.gte (toNumeric a)) .none (toValue a) = false ∧
      chain.rejects (.gt (toNumeric a)) .none (toValue a) = true := by
  intro chain a b
  have hb : toInt b = 9007199254740992 := by decide +kernel
  obtain ⟨hc, hm⟩ := integer_conversions a
  obtain ⟨he, -⟩ := integer_conversions b
  have hmet := (hm chain (fun _ => .none) Generator.identity_keeps rfl).1 rfl
  refine ⟨by decide +kernel, hc.mono (18446744073709551615 : UInt64) ?_, ?_, hmet.gte, hmet.gt⟩
  · decide +kernel
  · have hle : (toInt b).natAbs ≤ 2 ^ 53 := by rw [hb]; norm_num
    rw [(he.ordered hle 9007199254740993).1, hb]
    decide +kernel

end Assay
