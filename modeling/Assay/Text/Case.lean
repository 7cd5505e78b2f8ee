import Assay.Text.CaseTable
import Assay.Text.Property

/-!
# Case mapping and case folding

`lower` and `upper` are the full mappings: a character may become several, and a capital sigma at
the end of a word becomes a final sigma. `foldCase` is the simple folding under which a pattern
ignores case; it never changes the number of characters.
-/

namespace Assay.Text

def finalSigma : Char := Char.ofNat 0x3C2

def capitalSigma : Char := Char.ofNat 0x3A3

def smallSigma : Char := Char.ofNat 0x3C3

def ShiftTable.apply (t : ShiftTable) (c : Char) : Char :=
  match t.image? c.toNat with
  | some n => Char.ofNat n
  | none => c

/-- The expansion of a character if it has one, else its simple mapping. -/
def mapChar (expansions : List (Nat × List Nat)) (t : ShiftTable) (c : Char) : List Char :=
  match expansions.lookup c.toNat with
  | some ns => ns.map Char.ofNat
  | none => [t.apply c]

def lowerChar (c : Char) : List Char := mapChar loweringExpansions lowering c

def upperChar (c : Char) : List Char := mapChar raisingExpansions raising c

/-- Is the nearest character that case mapping does not ignore a cased one? -/
def meetsCased (s : List Char) : Bool :=
  match s.dropWhile Property.caseIgnorable.contains with
  | c :: _ => Property.cased.contains c
  | [] => false

/-- Ends a word: after a cased character, before none. `before` runs backwards. -/
def endsWord (before after : List Char) : Bool := meetsCased before && !meetsCased after

def lowerAfter (before : List Char) : List Char → List Char
  | [] => []
  | c :: rest =>
    -- only the sigma looks at its neighbours
    (if c = capitalSigma then [if endsWord before rest then finalSigma else smallSigma]
     else lowerChar c) ++ lowerAfter (c :: before) rest

def lower (s : List Char) : List Char := lowerAfter [] s

def upper (s : List Char) : List Char := s.flatMap upperChar

@[simp] theorem lower_nil : lower [] = [] := rfl

@[simp] theorem upper_nil : upper [] = [] := rfl

theorem upper_append (s t : List Char) : upper (s ++ t) = upper s ++ upper t := by
  simp [upper]

/-- The common form of the characters that differ only in case. -/
def foldCase (c : Char) : Char :=
  match foldingExceptions.lookup c.toNat with
  | some n => Char.ofNat n
  | none => lowering.apply c

/-- The code point that the row sends to `n`. -/
def Shift.source? (s : Shift) (n : Nat) : Option Nat :=
  let m := ((n : Int) - s.distance).toNat
  if s.row.contains m then some m else none

/-- The characters that fold like `c`, itself included. -/
def caseVariants (c : Char) : List Char :=
  let target := foldCase c
  let sources := lowering.filterMap (·.source? target.toNat)
    ++ foldingExceptions.filterMap fun (n, m) => if m = target.toNat then some n else none
  c :: target :: (sources.map Char.ofNat).filter (foldCase · = target)

end Assay.Text
