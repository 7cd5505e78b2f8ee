import Assay.Duplicates
import Assay.Email
import Assay.Regex
import Assay.Scope
import Assay.Text.Occurrence
import Assay.Value.Display

/-!
# The catalogue of checks

A check fails on some values. Most look only at values of certain tags: under any other tag of the
scope they pass, and under their own tag a value of another shape fails, except in `uniq` and
`uniqBy`. An unordered comparison violates no bound.
-/

namespace Assay

inductive Check where
  | required
  | is (p : Value → Bool)
  | isNot (p : Value → Bool)
  | min (bound : Numeric)
  | max (bound : Numeric)
  | length (n : Nat)
  | email
  | pattern (r : Regex)
  | startsWith (s : String)
  | endsWith (s : String)
  | uppercase
  | lowercase
  | includes (needle : Value)
  | gt (bound : Numeric)
  | gte (bound : Numeric)
  | lt (bound : Numeric)
  | lte (bound : Numeric)
  | positive
  | negative
  | uniq
  | uniqBy (eq : Value → Value → Bool)

namespace Check

def code : Check → String
  | .required => "required"
  | .is _ => "is"
  | .isNot _ => "not"
  | .min _ => "min"
  | .max _ => "max"
  | .length _ => "length"
  | .email => "email"
  | .pattern _ => "regex"
  | .startsWith _ => "startsWith"
  | .endsWith _ => "endsWith"
  | .uppercase => "uppercase"
  | .lowercase => "lowercase"
  | .includes _ => "includes"
  | .gt _ => "gt"
  | .gte _ => "gte"
  | .lt _ => "lt"
  | .lte _ => "lte"
  | .positive => "positive"
  | .negative => "negative"
  | .uniq => "uniq"
  | .uniqBy _ => "uniqBy"

/-- The message when none is given. It shows the argument of the check, never the value. -/
def defaultText : Check → String
  | .required => "Value is required"
  | .is _ | .isNot _ => "Value is invalid"
  | .min bound => "Must be at least " ++ bound.text
  | .max bound => "Must be at most " ++ bound.text
  | .length n => "Must have length " ++ toString n
  | .email => "Must be a valid email address"
  | .pattern r => "Must match /" ++ r.source ++ "/"
  | .startsWith s => "Must start with " ++ Text.quote s
  | .endsWith s => "Must end with " ++ Text.quote s
  | .uppercase => "Must be uppercase"
  | .lowercase => "Must be lowercase"
  | .includes needle => "Must include " ++ needle.text
  | .gt bound => "Must be greater than " ++ bound.text
  | .gte bound => "Must be greater than or equal to " ++ bound.text
  | .lt bound => "Must be less than " ++ bound.text
  | .lte bound => "Must be less than or equal to " ++ bound.text
  | .positive => "Must be positive"
  | .negative => "Must be negative"
  | .uniq | .uniqBy _ => "Must not contain duplicates"

/-- Fails under the tag for text unless the value is a text that is accepted. -/
def failsText (scope : Scope) (v : Value) (accepts : String → Bool) : Bool :=
  scope.kind == .string && !v.asString?.any accepts

/-- Fails under a tag for numbers if the value is none, or one that violates. -/
def failsNumber (scope : Scope) (v : Value) (violates : Numeric → Bool) : Bool :=
  scope.kind.isNumeric && v.asNumeric?.all violates

/-- Fails under the tag for arrays if the value is one with a pair that agrees. -/
def failsItems (scope : Scope) (v : Value) (repeats : List Value → Bool) : Bool :=
  scope.kind == .array && v.asArray?.any repeats

/-- Part of a text, or member of an array. Only text is part of a text. -/
def failsInclusion (scope : Scope) (needle v : Value) : Bool :=
  match scope.kind with
  | .string =>
    match v.asString?, needle.asString? with
    | some s, some n => !Text.occursIn n.toList s.toList
    | _, _ => true
  | .array => !v.asArray?.any fun items => items.any (Value.same · needle)
  | _ => false

/-- Does the check fail on a value that has been transformed? -/
def fails (c : Check) (scope : Scope) (v : Value) : Bool :=
  match c with
  | .required => v.isEmpty
  | .is p => !p v
  | .isNot p => p v
  | .min bound => scope.measures && (scope.magnitude? v).all (·.lt bound)
  | .max bound => scope.measures && (scope.magnitude? v).all (·.gt bound)
  | .length n => scope.counts && (scope.count? v).all (· ≠ n)
  | .email => failsText scope v fun s => Email.accepts s.toList
  | .pattern r => failsText scope v r.found
  | .startsWith t => failsText scope v fun s => Text.startsWith s.toList t.toList
  | .endsWith t => failsText scope v fun s => Text.endsWith s.toList t.toList
  | .uppercase => failsText scope v fun s => s.toList == Text.upper s.toList
  | .lowercase => failsText scope v fun s => s.toList == Text.lower s.toList
  | .includes needle => failsInclusion scope needle v
  | .gt bound => failsNumber scope v (·.le bound)
  | .gte bound => failsNumber scope v (·.lt bound)
  | .lt bound => failsNumber scope v (·.ge bound)
  | .lte bound => failsNumber scope v (·.gt bound)
  | .positive => failsNumber scope v fun n => n.sign? == some .lt || n.sign? == some .eq
  | .negative => failsNumber scope v fun n => n.sign? == some .gt || n.sign? == some .eq
  | .uniq => failsItems scope v Duplicates.anySame
  | .uniqBy eq => failsItems scope v (Duplicates.anyBy eq)

end Check

end Assay
