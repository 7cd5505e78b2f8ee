import Assay.Double.Rounding

/-!
# Decimal numbers

A decimal is a whole number of powers of ten, read from text and rounded to a double.
-/

namespace Assay

-- powers are those of `Nat` itself, also in a file that has monoids
attribute [local instance (20000)] instPowNat

/-- The number `±digits · 10 ^ exponent`. The sign is kept for zero too. -/
structure Decimal where
  negative : Bool
  digits : Nat
  exponent : Int
  deriving DecidableEq, Repr

namespace Decimal

def digitValue (c : Char) : Nat := c.toNat - 48

def natOfDigits (ds : List Char) : Nat := ds.foldl (fun n d => 10 * n + digitValue d) 0

/-- The exponents beyond which a decimal rounds to an infinity or to zero. -/
def exponentLimit : Int := 400

/-- The place of the first digit, counted from the point. -/
def size (d : Decimal) : Int := d.exponent + (Nat.toDigits 10 d.digits).length

/-- The magnitude as a quotient. Far outside the range of doubles a power of ten that rounds alike
stands in. -/
def ratio (d : Decimal) : Nat × Nat :=
  if d.digits = 0 then (0, 1)
  else if d.size > exponentLimit then (10 ^ exponentLimit.toNat, 1)
  else if d.size < -exponentLimit then (1, 10 ^ exponentLimit.toNat)
  else if d.exponent < 0 then (d.digits, 10 ^ (-d.exponent).toNat)
  else (d.digits * 10 ^ d.exponent.toNat, 1)

/-- The double nearest to a decimal. -/
def nearest (d : Decimal) : Double := Double.ofRatio d.negative d.ratio.1 d.ratio.2

/-- The single-precision number nearest to a decimal. -/
def nearestSingle (d : Decimal) : Double := Double.singleOfRatio d.negative d.ratio.1 d.ratio.2

/-- Splits off a sign. -/
def splitSign : List Char → Bool × List Char
  | '-' :: s => (true, s)
  | '+' :: s => (false, s)
  | s => (false, s)

def intOfText? (s : List Char) : Option Int :=
  let (negative, ds) := splitSign s
  if ds.isEmpty || !ds.all Char.isDigit then none
  else some (if negative then -(natOfDigits ds) else natOfDigits ds)

/-- Reads digits with an optional sign, point and exponent; there is a digit beside the point. -/
def ofText? (s : List Char) : Option Decimal :=
  let (negative, s) := splitSign s
  let (whole, s) := s.span Char.isDigit
  let (fraction, s) := match s with
    | '.' :: s => s.span Char.isDigit
    | s => ([], s)
  let exponent? := match s with
    | [] => some 0
    | c :: s => if c = 'e' || c = 'E' then intOfText? s else none
  if whole.isEmpty && fraction.isEmpty then none
  else exponent?.map fun e => ⟨negative, natOfDigits (whole ++ fraction), e - fraction.length⟩

end Decimal

namespace Double

/-- Reads a decimal, or `inf`, `infinity` or `nan` in any case, through the rounding given. -/
def readText? (round : Decimal → Double) (s : List Char) : Option Double :=
  match Decimal.ofText? s with
  | some d => some (round d)
  | none =>
    let (negative, word) := Decimal.splitSign s
    match String.ofList (word.map Char.toLower) with
    | "inf" | "infinity" => some (infinity negative)
    | "nan" => some { nan with negative }
    | _ => none

def ofText? (s : String) : Option Double := readText? Decimal.nearest s.toList

def singleOfText? (s : String) : Option Double := readText? Decimal.nearestSingle s.toList

end Double

end Assay
