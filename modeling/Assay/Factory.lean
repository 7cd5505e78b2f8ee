import Assay.Chain

/-!
# Factories

A factory starts chains that share its generator, settings and extension. The extension takes steps
on every fresh chain, and may choose them by the settings that the chain starts with; they come
before the chain is reported as started.
-/

namespace Assay

structure Factory (ρ : Type) where
  generator : Generator ρ
  extension : Option (Settings → List Step)
  settings : Settings

namespace Factory

variable {ρ : Type}

/-- The steps of the extension on a chain with these settings. -/
def opening (f : Factory ρ) (settings : Settings) : List Step :=
  match f.extension with
  | some choose => choose settings
  | none => []

def start (f : Factory ρ) : Traced (Chain ρ) := do
  let c ← (Chain.fresh f.generator f.settings).steps (f.opening f.settings)
  Traced.emit (.chainStarted f.settings.kind)
  return c

def inspect (f : Factory ρ) : String :=
  "RuleFactory \x7b config: " ++ f.settings.inspect ++ ", .. \x7d"

end Factory

end Assay
