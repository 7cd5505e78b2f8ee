import Assay.Value.Basic

/-!
# Equality of values

Two comparisons, both structural and blind to the order of the entries of an object. Under `equals`
a NaN equals nothing; under `same` it equals every NaN, at any depth.
-/

namespace Assay.Value

mutual
/-- Equality under which a NaN equals nothing. Objects of the same size are equal if each entry of
the first is met under its key in the second, where the two members change sides. -/
def equals : Value → Value → Bool
  | .undefined, .undefined | .null, .null => true
  | .bool a, .bool b => a == b
  | .number x, .number y => x.numEq y
  | .bigint m, .bigint n => m == n
  | .string s, .string t => s == t
  | .symbol s, .symbol t => s.is t
  | .array xs, .array ys => equalsItems xs ys
  | .object xs, .object ys => xs.length == ys.length && equalsEntries xs ys
  | _, _ => false
termination_by a b => sizeOf a + sizeOf b
def equalsItems : List Value → List Value → Bool
  | [], [] => true
  | x :: xs, y :: ys => equals x y && equalsItems xs ys
  | _, _ => false
termination_by xs ys => sizeOf xs + sizeOf ys
def equalsEntries : List (String × Value) → List (String × Value) → Bool
  | [], _ => true
  | (k, x) :: rest, ys =>
    (match h : Entries.get? k ys with
      | some y =>
        have := Entries.sizeOf_lt_of_get? h
        equals y x
      | none => false) && equalsEntries rest ys
termination_by xs ys => sizeOf xs + sizeOf ys
end

mutual
/-- Equality under which a NaN equals every NaN. Values without an inside are left to `equals`,
numbers apart. -/
def same : Value → Value → Bool
  | .number x, .number y => x.numEq y || (x.isNaN && y.isNaN)
  | .array xs, .array ys => sameItems xs ys
  | .object xs, .object ys => xs.length == ys.length && sameEntries xs ys
  | a, b => equals a b
def sameItems : List Value → List Value → Bool
  | [], [] => true
  | x :: xs, y :: ys => same x y && sameItems xs ys
  | _, _ => false
def sameEntries : List (String × Value) → List (String × Value) → Bool
  | [], _ => true
  | (k, x) :: rest, ys =>
    (match Entries.get? k ys with
      | some y => same x y
      | none => false) && sameEntries rest ys
end

instance : BEq Value := ⟨equals⟩

end Assay.Value
