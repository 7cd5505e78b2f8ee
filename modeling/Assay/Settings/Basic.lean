import Assay.Json.Writer
import Assay.Text.Length
import Assay.Trace

/-!
# Settings of a factory

The tag that a fresh chain starts with and the measure of text length. They can come from variables
of the environment, each read on its own: one that is not understood is reported and ignored.
-/

namespace Assay

/-- The name as JSON text. -/
def Kind.jsonText (k : Kind) : String := (Json.string (ν := Empty) k.name).text Empty.elim

structure Settings where
  kind : Kind
  lengths : LengthMode
  deriving DecidableEq, Repr

namespace Settings

def default : Settings := ⟨.string, .chars⟩

/-- The variable that names the first tag. -/
def kindVariable : String := "RULER_DEFAULT_TYPE"

/-- The variable that names the measure of length. -/
def lengthsVariable : String := "RULER_LENGTH_MODE"

/-- The value of a variable if it is set and understood; if only set, the event says so. -/
def readVariable {α : Type} (read? : String → Option α) (ignored : String → Event)
    (fallback : α) : Option String → Traced α
  | none => pure fallback
  | some raw =>
    match read? raw with
    | some a => pure a
    | none => do
      Traced.emit (ignored raw)
      return fallback

def ofVariables (lookup : String → Option String) : Traced Settings := do
  let kind ← readVariable Kind.ofText? .kindIgnored default.kind (lookup kindVariable)
  let lengths ←
    readVariable LengthMode.ofText? .lengthModeIgnored default.lengths (lookup lengthsVariable)
  return ⟨kind, lengths⟩

/-- Settings as JSON hold no numbers. -/
def json (s : Settings) : Json Empty :=
  .object [("default_type", .string s.kind.name), ("length_mode", .string s.lengths.name)]

def jsonText (s : Settings) : String := s.json.text Empty.elim

def inspect (s : Settings) : String :=
  "RulerConfig \x7b default_type: " ++ s.kind.inspect ++ ", length_mode: " ++ s.lengths.inspect
    ++ " \x7d"

end Settings

end Assay
