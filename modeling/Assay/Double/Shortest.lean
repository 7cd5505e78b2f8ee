import Assay.Double.Basic

/-!
# The shortest decimal of a double

The decimal with the fewest digits among those that round to the double, and the nearest to it of
those; of two equally near ones the larger. It is written positionally whatever its size.
-/

namespace Assay.Double

-- powers are those of `Nat` itself, also in a file that has monoids
attribute [local instance (20000)] instPowNat

/-- Units of a quarter of the smallest subnormal in one. Midpoints of neighbours are whole here. -/
def quartersPerOne : Nat := 2 ^ (1076 : Nat)

/-- The magnitudes that round to a double, in quarter units: from `low` to `high`, with the ends or
without. -/
structure Interval where
  low : Nat
  middle : Nat
  high : Nat
  closed : Bool

/-- Half of the distance to either neighbour. Below a power of two the neighbour is nearer. -/
def interval (code : Nat) : Interval :=
  let step := 2 ^ (code / 2 ^ (52 : Nat) - 1)
  let middle := 4 * unitsOfCode code
  let below := if 2 ^ (52 : Nat) ≤ code ∧ code % 2 ^ (52 : Nat) = 0 then step else 2 * step
  ⟨middle - below, middle, middle + 2 * step, code % 2 = 0⟩

/-- Is the magnitude at least a power of ten? -/
def reaches (quarters : Nat) (e : Int) : Bool :=
  quartersPerOne * 10 ^ e.toNat ≤ quarters * 10 ^ (-e).toNat

/-- The exponent of the leading digit. The estimate by the binary logarithm is at most one off. -/
def leadingExponent (quarters : Nat) : Int :=
  let estimate := ((quarters.log2 : Int) - 1076) * 30103 / 100000 - 1
  (List.range 3).foldl (fun e _ => if reaches quarters (e + 1) then e + 1 else e) estimate

/-- The multiple of `10 ^ e` that lies in the interval, the nearest to the middle if two do. -/
def gridPoint? (i : Interval) (e : Int) : Option Nat :=
  let scale := 10 ^ (-e).toNat
  let grid := quartersPerOne * 10 ^ e.toNat
  let down := i.middle * scale / grid
  let rest := i.middle * scale % grid
  let fitsDown := if i.closed then i.low * scale ≤ down * grid else i.low * scale < down * grid
  let fitsUp :=
    if i.closed then (down + 1) * grid ≤ i.high * scale else (down + 1) * grid < i.high * scale
  -- of two hits the nearer; at equal distance the upper one
  if fitsDown && (!fitsUp || 2 * rest < grid) then some down
  else if fitsUp then some (down + 1)
  else none

/-- Digits and exponent of the shortest decimal of a finite magnitude other than zero. -/
def shortest (code : Nat) : Nat × Int :=
  let i := interval code
  let e := leadingExponent i.middle
  ((List.range 17).findSome? fun (n : Nat) => (gridPoint? i (e - n)).map (·, e - n)).getD (0, 0)

/-- Digits, with the point `shift` places from the right or zeros in its stead. -/
def positional (digits : Nat) (shift : Int) : List Char :=
  -- zeros at the end count as part of the exponent
  let ds := ((Nat.toDigits 10 digits).reverse.dropWhile (· = '0')).reverse
  let dropped := (Nat.toDigits 10 digits).length - ds.length
  let point := ds.length + (shift + dropped)
  if point ≤ 0 then '0' :: '.' :: (List.replicate (-point).toNat '0' ++ ds)
  else if ds.length ≤ point then ds ++ List.replicate (point - ds.length).toNat '0'
  else ds.take point.toNat ++ '.' :: ds.drop point.toNat

def magnitudeText (code : Nat) : List Char :=
  if code = infinityCode then ['i', 'n', 'f']
  else if code = 0 then ['0']
  else positional (shortest code).1 (shortest code).2

/-- The sign is written for zero too, but not for NaN. -/
def text (x : Double) : String :=
  if x.isNaN then "NaN"
  else String.ofList (if x.negative then '-' :: magnitudeText x.code else magnitudeText x.code)

end Assay.Double
