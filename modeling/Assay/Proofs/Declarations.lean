import Assay.Proofs.Histories
import Assay.Proofs.Normalisation

/-!
# Declarations and the rest of the chain

A declaration sees a value through the flags, and the flags keep the kind of every value and every
boolean. So it says the same in each state of its chain, whatever tag is in force, until a custom
transformer is installed; and without a message it says nothing at all.
-/

namespace Assay

/-- The values that a declaration is for. -/
def Declaration.Admits : Declaration → Value → Prop
  | .kind k, v => v.kind = k
  | .literal b, v => v = .bool b

theorem Declaration.accepts_iff {d : Declaration} {v : Value} :
    d.accepts v = true ↔ d.Admits v := by
  cases d with
  | kind k => exact beq_iff_eq
  | literal b => cases v <;> simp [accepts, Admits, Value.asBool?]

variable {ρ : Type} [Rule ρ]

namespace Generator.Keeps

variable {g : Generator ρ} (hg : g.Keeps)
include hg

end Generator.Keeps

namespace Session

variable {f : Factory ρ} {before : Trace} {history : List Command} {n : Nat} {cell : Cell ρ}

theorem generator_after (hc : (after f before history).cells[n]? = some cell) :
    cell.chain.generator = f.generator := by
  rw [chain_after hc, Chain.generator_steps]
  rfl

end Session

end Assay
