import Assay.Chain

/-!
# One check of a chain

A rule reads the scope of its chain when it runs, so what a check says is a matter of the chain as
it is then, and not of the time when the check was appended.
-/

namespace Assay.Chain

variable {ρ : Type} [Rule ρ] {chain : Chain ρ}

/-- Does the rule that the chain makes of a check fail on a value, in the scope as it is? -/
def rejects (chain : Chain ρ) (c : Check) (notice : Notice) (v : Value) : Bool :=
  (chain.made? (.check c notice)).any fun r => (Rule.run r chain.scope v).result.isSome

theorem rejects_eq (hg : chain.generator.Keeps) (c : Check) (notice : Notice) (v : Value) :
    chain.rejects c notice v = c.fails chain.scope (chain.scope.transform v) := by
  simp only [rejects, made?, Step.rule?, Option.map_some, Option.any_some]
  rw [Rule.run, hg, Validator.result_run, Test.isSome_verdict_checked]

end Assay.Chain
