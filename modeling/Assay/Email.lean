import Assay.Text.Occurrence

/-!
# Email addresses

A loose test of the form `local@label.….tld`. Letters are those of ASCII and the two characters that
fold onto one of them. The whole text starts with no dot and has no two dots in a row.
-/

namespace Assay.Email

/-- The characters outside ASCII that fold onto a letter: long s and the Kelvin sign. -/
def foldingLetters : List Char := [Char.ofNat 0x17F, Char.ofNat 0x212A]

def isLetter (c : Char) : Bool := c.isAlpha || foldingLetters.contains c

def isAlphanumeric (c : Char) : Bool := isLetter c || c.isDigit

/-- Ends a local part. -/
def isLocalEnd (c : Char) : Bool := isAlphanumeric c || c = '_' || c = '+' || c = '-'

/-- Stands anywhere else in a local part. -/
def isLocalChar (c : Char) : Bool := isLocalEnd c || c = '\x27' || c = '\\' || c = '.'

def isLabelChar (c : Char) : Bool := isAlphanumeric c || c = '-' || c = '\\'

def isLocal (s : List Char) : Bool := s.all isLocalChar && s.getLast?.any isLocalEnd

def isLabel : List Char → Bool
  | [] => false
  | c :: s => isAlphanumeric c && s.all isLabelChar

def isTopLevel (s : List Char) : Bool := 2 ≤ s.length && s.all isLetter

/-- The parts between dots, one at least. -/
def parts : List Char → List (List Char)
  | [] => [[]]
  | c :: s =>
    if c = '.' then [] :: parts s
    else match parts s with
      | [] => [[c]]
      | part :: rest => (c :: part) :: rest

/-- One label or more, then the top level. -/
def isDomain (s : List Char) : Bool :=
  match (parts s).reverse with
  | top :: label :: labels => isTopLevel top && (label :: labels).all isLabel
  | _ => false

def accepts (s : List Char) : Bool :=
  !Text.startsWith s ['.'] && !Text.occursIn ['.', '.'] s
    && match s.span (· ≠ '@') with
      | (start, '@' :: domain) => isLocal start && isDomain domain
      | _ => false

end Assay.Email
