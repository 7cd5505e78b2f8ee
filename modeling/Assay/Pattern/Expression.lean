import Assay.Pattern.Charset

/-!
# Matching by marks

An expression is matched without positions or a machine: a mark at a character place says that the
character just read may have been read there. One step moves the marks over the next character. The
work for a character is bounded by the size of the expression, so a search is linear in the text.
-/

namespace Assay.Pattern

/-- A condition on the characters before and after a place in the text. -/
inductive Anchor where
  | textStart
  | textEnd
  | lineStart
  | lineEnd
  /-- Lines that end in CR, LF or CR LF. -/
  | crlfLineStart
  | crlfLineEnd
  | boundary (word : Charset)
  | notBoundary (word : Charset)
  | wordStart (word : Charset)
  | wordEnd (word : Charset)
  | halfStart (word : Charset)
  | halfEnd (word : Charset)
  deriving DecidableEq

namespace Anchor

def isWord (word : Charset) (c : Option Char) : Bool := c.any word.contains

def holds (before after : Option Char) : Anchor → Bool
  | .textStart => before.isNone
  | .textEnd => after.isNone
  | .lineStart => before.all (· = '\n')
  | .lineEnd => after.all (· = '\n')
  | .crlfLineStart => before.all fun c => c = '\n' || (c = '\r' && after ≠ some '\n')
  | .crlfLineEnd => after.all fun c => c = '\r' || (c = '\n' && before ≠ some '\r')
  | .boundary w => isWord w before != isWord w after
  | .notBoundary w => isWord w before == isWord w after
  | .wordStart w => !isWord w before && isWord w after
  | .wordEnd w => isWord w before && !isWord w after
  | .halfStart w => !isWord w before
  | .halfEnd w => !isWord w after

end Anchor

inductive Expression where
  | empty
  | one (set : Charset) (marked : Bool)
  | anchor (a : Anchor)
  | seq (a b : Expression)
  | alt (a b : Expression)
  | star (a : Expression)
  deriving DecidableEq, Inhabited

namespace Expression

/-- What an expression can do at a place without reading on. -/
structure Reach where
  /-- It matches the empty text here. -/
  skips : Bool
  /-- A marked way through it ends here. -/
  ends : Bool

def reach (before after : Option Char) : Expression → Reach
  | .empty => ⟨true, false⟩
  | .one _ marked => ⟨false, marked⟩
  | .anchor a => ⟨a.holds before after, false⟩
  | .seq a b =>
    let ra := a.reach before after
    let rb := b.reach before after
    ⟨ra.skips && rb.skips, ra.ends && rb.skips || rb.ends⟩
  | .alt a b =>
    let ra := a.reach before after
    let rb := b.reach before after
    ⟨ra.skips || rb.skips, ra.ends || rb.ends⟩
  | .star a => ⟨true, (a.reach before after).ends⟩

/-- Moves the marks over `c`. With `enter` a way through the expression may begin at `c`. -/
def step (before : Option Char) (c : Char) (enter : Bool) : Expression → Expression
  | .empty => .empty
  | .one set _ => .one set (enter && set.contains c)
  | .anchor a => .anchor a
  | .seq a b =>
    let ra := a.reach before (some c)
    .seq (a.step before c enter) (b.step before c (enter && ra.skips || ra.ends))
  | .alt a b => .alt (a.step before c enter) (b.step before c enter)
  | .star a => .star (a.step before c (enter || (a.reach before (some c)).ends))

/-- Does a match end at a place? One may also begin there. -/
def accepts (before after : Option Char) (e : Expression) : Bool :=
  let r := e.reach before after
  r.skips || r.ends

/-- Does the expression match some part of the text that is left, or end a match begun before? -/
def search (before : Option Char) (e : Expression) : List Char → Bool
  | [] => e.accepts before none
  | c :: s => e.accepts before (some c) || search (some c) (e.step before c true) s

/-- Can it read a character at all? -/
def reads : Expression → Bool
  | .empty | .anchor _ => false
  | .one _ _ => true
  | .seq a b | .alt a b => a.reads || b.reads
  | .star a => a.reads

def optional (a : Expression) : Expression := .alt a .empty

def copies (a : Expression) : Nat → Expression → Expression
  | 0, e => e
  | n + 1, e => .seq a (copies a n e)

/-- Up to `n` copies. -/
def upTo (a : Expression) : Nat → Expression
  | 0 => .empty
  | n + 1 => optional (.seq a (upTo a n))

/-- Between `least` and `most` copies, or `least` and more. What reads nothing is not repeated. -/
def repeated (a : Expression) (least : Nat) (most : Option Nat) : Expression :=
  let least := if a.reads then least else min least 1
  match most with
  | some most => copies a least (upTo a ((if a.reads then most else min most 1) - least))
  | none => copies a least (.star a)

end Expression

end Assay.Pattern
