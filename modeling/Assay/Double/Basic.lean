/-!
# Doubles

A double is a sign and a magnitude code of 63 bits. Every finite magnitude is a whole number of
units, the unit being the smallest subnormal 2⁻¹⁰⁷⁴, so comparison is comparison of integers. An
integer counts `2 ^ 1074` units, which places doubles and integers on one scale, `Extended`.
-/

namespace Assay

-- powers are those of `Nat` itself, also in a file that has monoids
attribute [local instance (20000)] instPowNat

/-- A point of the scale: a whole number of units, or an end of it. -/
inductive Extended where
  | bottom
  | units (n : Int)
  | top
  deriving DecidableEq, Repr

namespace Extended

def compare : Extended → Extended → Ordering
  | .units m, .units n => Ord.compare m n
  | .bottom, .bottom | .top, .top => .eq
  | .bottom, _ | _, .top => .lt
  | _, .bottom | .top, _ => .gt

theorem compare_eq_iff {a b : Extended} : a.compare b = .eq ↔ a = b := by
  cases a <;> cases b <;> simp [compare]

theorem swap_compare (a b : Extended) : (a.compare b).swap = b.compare a := by
  cases a <;> cases b <;> first | rfl | exact Int.compare_swap ..

end Extended

/-- Codes below `Double.infinityCode` are finite, those above it are NaN. -/
structure Double where
  negative : Bool
  code : Nat
  code_lt : code < 2 ^ (63 : Nat)
  deriving DecidableEq, Repr

namespace Double

def infinityCode : Nat := 2047 * 2 ^ (52 : Nat)

/-- Units in one. -/
@[irreducible] def unitsPerOne : Nat := 2 ^ (1074 : Nat)

def ofBits (bits : Nat) : Double :=
  ⟨2 ^ (63 : Nat) ≤ bits % 2 ^ (64 : Nat), bits % 2 ^ (63 : Nat), Nat.mod_lt _ (by decide)⟩

def bits (x : Double) : Nat := if x.negative then 2 ^ (63 : Nat) + x.code else x.code

def zero : Double := ⟨false, 0, by decide⟩

def infinity (negative : Bool) : Double := ⟨negative, infinityCode, by decide⟩

def nan : Double := ⟨false, infinityCode + 2 ^ (51 : Nat), by decide⟩

def isNaN (x : Double) : Bool := infinityCode < x.code

def isFinite (x : Double) : Bool := x.code < infinityCode

/-- Below `2 ^ 52` the code counts units; above it the low 52 bits are a fraction and the rest an
exponent. -/
def unitsOfCode (code : Nat) : Nat :=
  if code < 2 ^ (52 : Nat) then code
  else (2 ^ (52 : Nat) + code % 2 ^ (52 : Nat)) * 2 ^ (code / 2 ^ (52 : Nat) - 1)

/-- The units of a finite double, with its sign. -/
def units (x : Double) : Int :=
  if x.negative then -(unitsOfCode x.code) else unitsOfCode x.code

/-- Where a double stands on the scale; NaN stands nowhere. -/
def value? (x : Double) : Option Extended :=
  if x.isNaN then none
  else if x.isFinite then some (.units x.units)
  else some (if x.negative then .bottom else .top)

theorem value?_eq_none_iff {x : Double} : x.value? = none ↔ x.isNaN = true := by
  unfold value?
  split <;> simp_all
  split <;> simp

theorem value?_of_isFinite {x : Double} (h : x.isFinite = true) :
    x.value? = some (.units x.units) := by
  have hn : x.isNaN = false := by
    simp only [isFinite, isNaN, decide_eq_true_eq, decide_eq_false_iff_not] at h ⊢
    omega
  simp [value?, h, hn]

theorem value?_zero : zero.value? = some (.units 0) := by decide

def compare? (x y : Double) : Option Ordering :=
  match x.value?, y.value? with
  | some a, some b => some (a.compare b)
  | _, _ => none

theorem compare?_of_value? {x y : Double} (hx : x.value? = some a) (hy : y.value? = some b) :
    x.compare? y = some (a.compare b) := by
  simp [compare?, hx, hy]

/-- Numerical equality: the two zeros are equal, a NaN equals nothing. -/
def numEq (x y : Double) : Bool := x.compare? y == some .eq

theorem numEq_iff {x y : Double} :
    x.numEq y = true ↔ x.value? = y.value? ∧ x.isNaN = false := by
  rw [← Bool.not_eq_true, ← value?_eq_none_iff]
  simp only [numEq, compare?, beq_iff_eq]
  cases x.value? <;> cases y.value? <;> simp [Extended.compare_eq_iff]

/-- Numerically equal or both NaN: at the same place, or both at none. -/
theorem numEq_or_isNaN_iff {x y : Double} :
    (x.numEq y || (x.isNaN && y.isNaN)) = true ↔ x.value? = y.value? := by
  rw [Bool.or_eq_true, Bool.and_eq_true, numEq_iff, ← value?_eq_none_iff, ← value?_eq_none_iff,
    ← Bool.not_eq_true, ← value?_eq_none_iff]
  cases x.value? <;> cases y.value? <;> simp

end Double

end Assay
