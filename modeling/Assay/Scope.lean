import Assay.Settings.Basic
import Assay.Text.Case
import Assay.Value.Basic

/-!
# The scope of a chain

What every rule of a chain reads when it runs: the tag, the transformation of values and the measure
of length. A custom transformer takes the place of the flags.
-/

namespace Assay

/-- What is done to text before each rule. -/
structure TextFlags where
  trim : Bool
  lower : Bool
  upper : Bool
  deriving DecidableEq, Repr

namespace TextFlags

def none : TextFlags := ⟨false, false, false⟩

def any (f : TextFlags) : Bool := f.trim || f.lower || f.upper

/-- Trims, then maps to lower case, then to upper case. -/
def apply (f : TextFlags) (s : String) : String :=
  let s := s.toList
  let s := if f.trim then Text.trim s else s
  let s := if f.lower then Text.lower s else s
  String.ofList (if f.upper then Text.upper s else s)

def inspect (f : TextFlags) : String :=
  "TransformFlags \x7b trim: " ++ toString f.trim ++ ", to_lower_case: " ++ toString f.lower
    ++ ", to_upper_case: " ++ toString f.upper ++ " \x7d"

end TextFlags

structure Scope where
  kind : Kind
  flags : TextFlags
  custom : Option (Value → Value)
  lengths : LengthMode

namespace Scope

def initial (s : Settings) : Scope := ⟨s.kind, .none, none, s.lengths⟩

/-- The value that rules see. The flags concern text only, under the tag for text. -/
def transform (scope : Scope) (v : Value) : Value :=
  match scope.custom with
  | some f => f v
  | none =>
    match v with
    | .string s =>
      if scope.kind = .string && scope.flags.any then .string (scope.flags.apply s) else .string s
    | v => v

/-- What `length` counts under the tag: characters of text or items. -/
def count? (scope : Scope) (v : Value) : Option Nat :=
  match scope.kind with
  | .string => v.asString?.map scope.lengths.measure
  | .array => v.asArray?.map List.length
  | _ => none

/-- What `min` and `max` compare under the tag: a count or a number. -/
def magnitude? (scope : Scope) (v : Value) : Option Numeric :=
  if scope.kind.isNumeric then v.asNumeric? else (scope.count? v).map Numeric.ofNat

/-- Is the tag one that has a count? -/
def counts (scope : Scope) : Bool := scope.kind == .string || scope.kind == .array

/-- Is the tag one that has a magnitude? -/
def measures (scope : Scope) : Bool := scope.counts || scope.kind.isNumeric

end Scope

end Assay
