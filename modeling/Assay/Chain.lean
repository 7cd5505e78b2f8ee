import Assay.Rule

/-!
# Chains

A chain is a list of rules and one scope for all of them. A step appends a rule, changes the scope,
or, for a declaration, both. Rules are never changed or removed, but they read the scope when they
run, so a later step can change what an earlier rule says.
-/

namespace Assay

inductive Step where
  | declare (d : Declaration) (notice : Notice)
  | check (c : Check) (notice : Notice)
  /-- A check for a pattern that is still text, with the engine that compiles it. -/
  | patternText (engine : Regex.Engine) (source : String) (notice : Notice)
  | rule (code : String) (judge : Value → Verdict) (params : Option String)
  | retag (k : Kind)
  | trim
  | lower
  | upper
  | transform (f : Value → Value)

/-- Why a step was refused: the text, and what the engine says of it. The chain is as it was. -/
structure InvalidPattern where
  source : String
  fault : String
  deriving DecidableEq, Repr

def InvalidPattern.message (e : InvalidPattern) : String :=
  "invalid pattern '" ++ e.source ++ "': " ++ e.fault

namespace Step

/-- A pattern that cannot be compiled is the only reason to refuse a step. -/
def refusal? : Step → Option InvalidPattern
  | .patternText engine source _ =>
    match engine.compile source with
    | .ok _ => none
    | .error fault => some ⟨source, fault⟩
  | _ => none

/-- Code, test and parameters of the rule that the step appends, if it appends one. -/
def rule? : Step → Option (String × Test × Option String)
  | .declare d notice => some (d.code, .declared d notice.message, notice.params)
  | .check c notice => some (c.code, .checked c notice.message, notice.params)
  | .patternText engine source notice =>
    match engine.compile source with
    | .ok r => some (Check.code (.pattern r), .checked (.pattern r) notice.message, notice.params)
    | .error _ => none
  | .rule code judge params => some (code, .custom judge, params)
  | _ => none

/-- What the step does to the scope. -/
def rescope (scope : Scope) : Step → Scope
  | .declare d _ => { scope with kind := d.tag }
  | .retag k => { scope with kind := k }
  | .trim => { scope with flags := { scope.flags with trim := true } }
  | .lower => { scope with flags := { scope.flags with lower := true } }
  | .upper => { scope with flags := { scope.flags with upper := true } }
  | .transform f => { scope with custom := some f }
  | _ => scope

end Step

structure Chain (ρ : Type) where
  generator : Generator ρ
  settings : Settings
  scope : Scope
  rules : List ρ

namespace Chain

variable {ρ : Type}

/-- Without rules, in the scope that the settings give. -/
def fresh (generator : Generator ρ) (settings : Settings) : Chain ρ :=
  ⟨generator, settings, Scope.initial settings, []⟩

/-- Appends the rule that the generator makes. -/
def append (c : Chain ρ) (code : String) (test : Test) (params : Option String) :
    Traced (Chain ρ) := do
  Traced.emit (.ruleAppended code c.rules.length)
  return { c with rules := c.rules ++ [c.generator ⟨code, test⟩ params] }

/-- One step. One that is refused changes nothing. -/
def step (c : Chain ρ) (s : Step) : Traced (Chain ρ) := do
  -- the scope first: a declaration is a rule of its own tag
  let c := { c with scope := s.rescope c.scope }
  match s.rule? with
  | some (code, test, params) => c.append code test params
  | none =>
    if s matches .transform _ then Traced.emit .transformerInstalled
    return c

theorem scope_step (c : Chain ρ) (s : Step) : (c.step s).result.scope = s.rescope c.scope := by
  unfold step
  cases s.rule? with
  | none => cases s <;> rfl
  | some rule => rfl

/-- The rule that a step appends, as the generator of the chain makes it. -/
def made? (c : Chain ρ) (s : Step) : Option ρ :=
  s.rule?.map fun (code, test, params) => c.generator ⟨code, test⟩ params

theorem rules_step (c : Chain ρ) (s : Step) :
    (c.step s).result.rules = c.rules ++ (c.made? s).toList := by
  unfold step made?
  cases s.rule? with
  | none => cases s <;> exact (List.append_nil c.rules).symm
  | some rule => rfl

theorem generator_step (c : Chain ρ) (s : Step) : (c.step s).result.generator = c.generator := by
  unfold step
  cases s.rule? with
  | none => cases s <;> rfl
  | some rule => rfl

def steps (c : Chain ρ) : List Step → Traced (Chain ρ)
  | [] => pure c
  | s :: rest => do
    let c ← c.step s
    c.steps rest

theorem steps_append (c : Chain ρ) (ss ts : List Step) :
    c.steps (ss ++ ts) = c.steps ss >>= (·.steps ts) := by
  induction ss generalizing c with
  | nil => exact (pure_bind c (·.steps ts)).symm
  | cons s rest ih => simp only [List.cons_append, steps, bind_assoc, ih]

theorem result_steps_append (c : Chain ρ) (ss ts : List Step) :
    (c.steps (ss ++ ts)).result = ((c.steps ss).result.steps ts).result := by
  rw [steps_append, Traced.result_bind]

theorem scope_steps (c : Chain ρ) (ss : List Step) :
    (c.steps ss).result.scope = ss.foldl Step.rescope c.scope := by
  induction ss generalizing c with
  | nil => rfl
  | cons s rest ih => exact (ih _).trans (congrArg (rest.foldl Step.rescope) (c.scope_step s))

theorem made?_step (c : Chain ρ) (s : Step) : (c.step s).result.made? = c.made? := by
  funext t
  simp only [made?, generator_step]

theorem rules_steps (c : Chain ρ) (ss : List Step) :
    (c.steps ss).result.rules = c.rules ++ ss.filterMap c.made? := by
  induction ss generalizing c with
  | nil => exact (List.append_nil c.rules).symm
  | cons s rest ih =>
    have h := ih (c.step s).result
    rw [rules_step, made?_step] at h
    refine h.trans ?_
    cases hm : c.made? s with
    | none => simp [hm]
    | some r => simp [hm]

def run [Rule ρ] (c : Chain ρ) (v : Value) : Traced (List Verdict) := Rule.runAll c.rules c.scope v

def inspect (c : Chain ρ) : String :=
  "ChainContext \x7b rules: " ++ toString c.rules.length ++ ", type: " ++ c.scope.kind.inspect
    ++ ", flags: " ++ c.scope.flags.inspect ++ ", custom_transformer: "
    ++ toString c.scope.custom.isSome ++ " \x7d"

end Chain

end Assay
