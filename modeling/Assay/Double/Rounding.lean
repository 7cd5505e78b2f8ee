import Assay.Double.Basic

/-!
# Rounding to a double

A quotient of natural numbers is rounded to the nearest number of units with at most 53 significant
bits, a tie to the even one; that number of units is then exactly the magnitude of a double, or
beyond the largest finite one.
-/

namespace Assay

-- powers are those of `Nat` itself, also in a file that has monoids
attribute [local instance (20000)] instPowNat

/-- `num / den` rounded to a whole number, a tie to the even one. -/
def roundDiv (num den : Nat) : Nat :=
  let q := num / den
  let r := num % den
  if 2 * r < den then q else if den < 2 * r then q + 1 else q + q % 2

/-- `num / den` rounded to a whole number of at most `p` significant bits. -/
def roundBits (p num den : Nat) : Nat :=
  let k := (num / den).log2 + 1 - p
  roundDiv num (den * 2 ^ k) * 2 ^ k

namespace Double

/-- The code of a magnitude of at most 53 significant bits. -/
def codeOfUnits (n : Nat) : Nat :=
  let k := n.log2 - 52
  k * 2 ^ (52 : Nat) + n / 2 ^ k

def ofUnits (negative : Bool) (n : Nat) : Double :=
  if h : codeOfUnits n < infinityCode then
    ⟨negative, codeOfUnits n, Nat.lt_trans h (by decide)⟩
  else infinity negative

/-- The double nearest to `num / den`. -/
def ofRatio (negative : Bool) (num den : Nat) : Double :=
  ofUnits negative (roundBits 53 (num * unitsPerOne) den)

/-- The double nearest to an integer. -/
def ofInt (n : Int) : Double := ofRatio (n < 0) n.natAbs 1

/-- The single-precision number nearest to `num / den`, as a double. Its unit is 2⁻¹⁴⁹ and it has
24 significant bits. -/
def singleOfRatio (negative : Bool) (num den : Nat) : Double :=
  let n := roundBits 24 (num * 2 ^ (149 : Nat)) den
  if n < 2 ^ (277 : Nat) then ofUnits negative (n * 2 ^ (925 : Nat)) else infinity negative

end Double

end Assay
