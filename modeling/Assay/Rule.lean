import Assay.Check
import Assay.Declaration
import Assay.Message

/-!
# Rules

A validator pairs a code with a test. What a rule is beyond its validator is up to the generator of
the chain: of the two stock generators one gives the validator itself, the other keeps code and
parameters beside it. A test runs in the scope that its chain has at that time.
-/

namespace Assay

/-- A failure, or none if the value passes. -/
abbrev Verdict := Option Failure

inductive Test where
  /-- Without a message a declaration only sets the tag, and passes. -/
  | declared (d : Declaration) (message : Option Message)
  | checked (c : Check) (message : Option Message)
  | custom (judge : Value → Verdict)

namespace Test

/-- The text of a failure: of the message given, or the one to fall back on. -/
def failureText (message : Option Message) (fallback : String) : Traced String :=
  match message with
  | some m => m.resolve
  | none => pure fallback

/-- The verdict on a value that has been transformed. A message is resolved only on failure. -/
def verdict (scope : Scope) (v : Value) : Test → Traced Verdict
  | .declared d (some m) =>
    if d.accepts v then pure none
    else do
      let text ← m.resolve
      return some ⟨d.code, text⟩
  | .declared _ none => pure none
  | .checked c message =>
    if c.fails scope v then do
      let text ← failureText message c.defaultText
      return some ⟨c.code, text⟩
    else pure none
  | .custom judge => pure (judge v)

theorem isSome_verdict_checked (c : Check) (message : Option Message) (scope : Scope) (v : Value) :
    ((Test.checked c message).verdict scope v).result.isSome = c.fails scope v := by
  cases h : c.fails scope v <;> simp [verdict, h]

end Test

structure Validator where
  code : String
  test : Test

namespace Validator

/-- The verdict of a validator that stands alone, on the value as it is. -/
def judge (x : Validator) (v : Value) : Traced Verdict :=
  x.test.verdict (Scope.initial Settings.default) v

/-- The verdict as a rule of a chain: on the transformed value, and a failure is an event. -/
def run (x : Validator) (scope : Scope) (v : Value) : Traced Verdict := do
  let verdict ← x.test.verdict scope (scope.transform v)
  match verdict with
  | some failure =>
    Traced.emit (.ruleFailed failure)
    return some failure
  | none => return none

theorem result_run (x : Validator) (scope : Scope) (v : Value) :
    (x.run scope v).result = (x.test.verdict scope (scope.transform v)).result := by
  simp only [run, Traced.result_bind]
  cases (x.test.verdict scope (scope.transform v)).result with
  | none => rfl
  | some failure => rfl

def inspect (x : Validator) : String :=
  "Validator \x7b code: " ++ Text.quote x.code ++ ", .. \x7d"

end Validator

/-- A validator with its code and parameters. -/
structure Descriptor where
  code : String
  validator : Validator
  params : Option String

def Descriptor.inspect (d : Descriptor) : String :=
  "RuleDescriptor \x7b code: " ++ Text.quote d.code ++ ", validator: " ++ d.validator.inspect
    ++ ", params: " ++ Notice.inspectOption (d.params.map Text.quote) ++ " \x7d"

/-- What a generator makes of validators: something that still has one. -/
class Rule (ρ : Type) where
  validator : ρ → Validator
  params : ρ → Option String
  inspect : ρ → String

instance : Rule Validator := ⟨id, fun _ => none, Validator.inspect⟩

instance : Rule Descriptor := ⟨Descriptor.validator, Descriptor.params, Descriptor.inspect⟩

/-- Makes a rule of a validator and the parameters given with it. -/
abbrev Generator (ρ : Type) := Validator → Option String → ρ

namespace Generator

def identity : Generator Validator := fun x _ => x

def describe : Generator Descriptor := fun x params => ⟨x.code, x, params⟩

/-- The validator of a rule that the generator makes is the one it was given. -/
def Keeps {ρ : Type} [Rule ρ] (g : Generator ρ) : Prop :=
  ∀ x params, Rule.validator (g x params) = x

theorem identity_keeps : identity.Keeps := fun _ _ => rfl

theorem describe_keeps : describe.Keeps := fun _ _ => rfl

end Generator

namespace Rule

variable {ρ : Type} [Rule ρ]

def code (r : ρ) : String := (validator r).code

def run (r : ρ) (scope : Scope) (v : Value) : Traced Verdict := (validator r).run scope v

/-- Every rule in order, whatever the others say. -/
def runAll (rules : List ρ) (scope : Scope) (v : Value) : Traced (List Verdict) :=
  match rules with
  | [] => pure []
  | r :: rest => do
    let verdict ← run r scope v
    let verdicts ← runAll rest scope v
    return verdict :: verdicts

theorem result_runAll (rules : List ρ) (scope : Scope) (v : Value) :
    (runAll rules scope v).result = rules.map fun r => (run r scope v).result := by
  induction rules with
  | nil => rfl
  | cons r rest ih => exact congrArg (_ :: ·) ih

/-- The rules in order up to the first that fails. -/
def firstFailure (rules : List ρ) (scope : Scope) (v : Value) : Traced Verdict :=
  match rules with
  | [] => pure none
  | r :: rest => do
    match ← run r scope v with
    | some failure => return some failure
    | none => firstFailure rest scope v

end Rule

end Assay
