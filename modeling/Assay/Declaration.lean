import Assay.Value.Basic

/-!
# Declarations

A declaration sets the tag of its chain and accepts the values of that kind, or one boolean only.
-/

namespace Assay

inductive Declaration where
  | kind (k : Kind)
  | literal (b : Bool)
  deriving DecidableEq, Repr

namespace Declaration

def code : Declaration → String
  | .kind k => k.name
  | .literal b => if b then "true" else "false"

/-- The tag that the chain has from then on. -/
def tag : Declaration → Kind
  | .kind k => k
  | .literal _ => .boolean

def accepts : Declaration → Value → Bool
  | .kind k, v => v.kind == k
  | .literal b, v => v.asBool? == some b

end Declaration

end Assay
