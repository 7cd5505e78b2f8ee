import Assay.Double.Shortest
import Assay.Double.Whole

/-!
# Numbers of either form

A double or an integer of any size, compared by exact value. A NaN is unordered, and every
comparison with it is false.
-/

namespace Assay

inductive Numeric where
  | double (x : Double)
  | integer (n : Int)
  deriving DecidableEq, Repr

namespace Numeric

def zero : Numeric := .double Double.zero

/-- The double nearest to an integer of fixed width. -/
def ofInt (n : Int) : Numeric := .double (Double.ofInt n)

/-- A count, as the nearest double. -/
def ofNat (n : Nat) : Numeric := ofInt n

def isNaN : Numeric → Bool
  | .double x => x.isNaN
  | .integer _ => false

def compare? : Numeric → Numeric → Option Ordering
  | .double x, .double y => x.compare? y
  | .integer m, .integer n => some (Ord.compare m n)
  | .double x, .integer n => x.compareInteger? n
  | .integer m, .double y => (y.compareInteger? m).map Ordering.swap

def lt (a b : Numeric) : Bool := a.compare? b == some .lt

def le (a b : Numeric) : Bool := a.lt b || a.compare? b == some .eq

def gt (a b : Numeric) : Bool := a.compare? b == some .gt

def ge (a b : Numeric) : Bool := a.gt b || a.compare? b == some .eq

def eq (a b : Numeric) : Bool := a.compare? b == some .eq

/-- The order of the number and zero. -/
def sign? : Numeric → Option Ordering
  | .double x => x.compare? Double.zero
  | .integer n => some (Ord.compare n 0)

def text : Numeric → String
  | .double x => x.text
  | .integer n => toString n

/-- Where a number stands on the scale of doubles. -/
def value? : Numeric → Option Extended
  | .double x => x.value?
  | .integer n => some (.units (n * Double.unitsPerOne))

theorem value?_eq_none_iff {a : Numeric} : a.value? = none ↔ a.isNaN = true := by
  cases a with
  | double x => exact Double.value?_eq_none_iff
  | integer n => simp [value?, isNaN]

theorem compare_units (m n : Int) :
    Ord.compare (m * Double.unitsPerOne) (n * Double.unitsPerOne) = Ord.compare m n := by
  have hp : (0 : Int) < Double.unitsPerOne := Int.natCast_pos.mpr Double.unitsPerOne_pos
  rcases Int.lt_trichotomy m n with h | h | h
  · rw [Int.compare_eq_lt.mpr h, Int.compare_eq_lt.mpr (Int.mul_lt_mul_of_pos_right h hp)]
  · rw [h, Int.compare_eq_eq.mpr rfl, Int.compare_eq_eq.mpr rfl]
  · rw [Int.compare_eq_gt.mpr h, Int.compare_eq_gt.mpr (Int.mul_lt_mul_of_pos_right h hp)]

/-- Whatever the forms, the order is that of the places on the scale. -/
theorem compare?_eq (a b : Numeric) :
    a.compare? b = a.value?.bind fun x => b.value?.map fun y => x.compare y := by
  cases a with
  | double x =>
    cases b with
    | double y =>
      simp only [compare?, Double.compare?, value?]
      cases x.value? <;> cases y.value? <;> rfl
    | integer n =>
      simp only [compare?, Double.compareInteger?_eq, value?, Option.map_some]
      cases x.value? <;> rfl
  | integer m =>
    cases b with
    | double y =>
      simp only [compare?, Double.compareInteger?_eq, value?, Option.map_map, Option.bind_some]
      congr 1
      funext e
      exact e.swap_compare _
    | integer n => simp [compare?, value?, Extended.compare, compare_units]

theorem compare?_congr {m n : Numeric} (h : m.value? = n.value?) (k : Numeric) :
    m.compare? k = n.compare? k := by
  rw [compare?_eq, compare?_eq, h]

theorem sign?_eq (n : Numeric) : n.sign? = n.compare? zero := by
  cases n with
  | double x => rfl
  | integer n =>
    rw [compare?_eq, zero, value?, value?, Double.value?_zero, sign?, ← compare_units n 0,
      Int.zero_mul]
    rfl

end Numeric

end Assay
