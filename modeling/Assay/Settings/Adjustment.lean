import Assay.Settings.Reader

/-!
# Adjustments of settings

Ways to come to settings, applied in a row from the defaults on. The first fault in a text ends the
row.
-/

namespace Assay.Settings

inductive Adjustment where
  /-- Settings read from JSON. -/
  | json (text : String)
  /-- Settings read from variables. -/
  | variables (lookup : String → Option String)
  /-- The defaults, with length in UTF-16 units. -/
  | utf16
  | kind (k : Kind)
  | lengths (m : LengthMode)

def adjust (s : Settings) : Adjustment → Except Json.Fault (Traced Settings)
  | .json text => return pure (← ofJsonText text)
  | .variables lookup => return ofVariables lookup
  | .utf16 => return pure { default with lengths := .utf16 }
  | .kind k => return pure { s with kind := k }
  | .lengths m => return pure { s with lengths := m }

def adjustAll (s : Settings) : List Adjustment → Except Json.Fault (Traced Settings)
  | [] => return pure s
  | a :: rest => do
    let first ← s.adjust a
    let last ← first.result.adjustAll rest
    return ⟨last.result, first.trace ++ last.trace⟩

end Assay.Settings
