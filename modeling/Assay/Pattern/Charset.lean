import Assay.Text.Blank
import Assay.Text.Case
import Assay.Text.Category
import Assay.Text.Script

/-!
# Sets of characters

What one place of a pattern accepts: ranges and tables, combined as sets. Membership is decided
character by character; no set is ever listed.
-/

namespace Assay.Pattern

open Text

inductive Charset where
  | nothing
  | range (first last : Nat)
  | table (t : RangeTable)
  | union (a b : Charset)
  | inter (a b : Charset)
  | diff (a b : Charset)
  | complement (a : Charset)
  /-- The characters with a case variant in the set. -/
  | anyCase (a : Charset)
  /-- The same for the letters of ASCII only. -/
  | anyAsciiCase (a : Charset)
  deriving DecidableEq, Inhabited

namespace Charset

def asciiVariants (c : Char) : List Char := [c, c.toLower, c.toUpper]

def contains : Charset → Char → Bool
  | .nothing, _ => false
  | .range first last, c => first ≤ c.toNat && c.toNat ≤ last
  | .table t, c => t.contains c
  | .union a b, c => a.contains c || b.contains c
  | .inter a b, c => a.contains c && b.contains c
  | .diff a b, c => a.contains c && !b.contains c
  | .complement a, c => !a.contains c
  | .anyCase a, c => (caseVariants c).any a.contains
  | .anyAsciiCase a, c => (asciiVariants c).any a.contains

/-- About as many ranges as a list of the set would have. -/
def ranges : Charset → Nat
  | .nothing => 0
  | .range _ _ => 1
  | .table t =>
    t.foldr (fun r n => (if r.step = 1 then 1 else (r.last - r.first) / r.step + 1) + n) 0
  | .union a b | .inter a b | .diff a b => a.ranges + b.ranges
  | .complement a => a.ranges + 1
  | .anyCase a | .anyAsciiCase a => 2 * a.ranges

def one (c : Char) : Charset := .range c.toNat c.toNat

def any : Charset := .range 0 0x10FFFF

def unionAll (sets : List Charset) : Charset := sets.foldr .union .nothing

def categories (cs : List Category) : Charset := unionAll (cs.map (.table ·.table))

def symDiff (a b : Charset) : Charset := .union (.diff a b) (.diff b a)

/-- The digits of `\d`. -/
def digit : Charset := .table Category.decimalNumbers

/-- The blanks of `\s`. -/
def space : Charset := .table blanks

/-- The word characters of `\w`. -/
def word : Charset :=
  .union (.table Property.alphabetic) (.union (.table Property.joinControl)
    (categories [.nonspacingMark, .spacingMark, .enclosingMark, .decimalNumber,
      .connectorPunctuation]))

def asciiDigit : Charset := .range 0x30 0x39

def asciiSpace : Charset := .union (.range 0x9 0xD) (.range 0x20 0x20)

def asciiAlpha : Charset := .union (.range 0x41 0x5A) (.range 0x61 0x7A)

def asciiWord : Charset := .union asciiAlpha (.union asciiDigit (.range 0x5F 0x5F))

/-- The classes of ASCII that a bracket may name between colons. -/
def ofAsciiName? : String → Option Charset
  | "alnum" => some (.union asciiAlpha asciiDigit)
  | "alpha" => some asciiAlpha
  | "ascii" => some (.range 0 0x7F)
  | "blank" => some (.union (.range 0x9 0x9) (.range 0x20 0x20))
  | "cntrl" => some (.union (.range 0 0x1F) (.range 0x7F 0x7F))
  | "digit" => some asciiDigit
  | "graph" => some (.range 0x21 0x7E)
  | "lower" => some (.range 0x61 0x7A)
  | "print" => some (.range 0x20 0x7E)
  | "punct" =>
    some (.union (.union (.range 0x21 0x2F) (.range 0x3A 0x40))
      (.union (.range 0x5B 0x60) (.range 0x7B 0x7E)))
  | "space" => some asciiSpace
  | "upper" => some (.range 0x41 0x5A)
  | "word" => some asciiWord
  | "xdigit" => some (.union asciiDigit (.union (.range 0x41 0x46) (.range 0x61 0x66)))
  | _ => none

end Charset

end Assay.Pattern
