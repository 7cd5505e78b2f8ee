import Assay.Settings.Basic
import Assay.Text.Quoted

/-!
# The log of events

How an event is written down: a level and named fields, the message first.
-/

namespace Assay

inductive Level where
  | trace
  | debug
  | warn
  deriving DecidableEq, Repr

def Level.name : Level → String
  | .trace => "TRACE"
  | .debug => "DEBUG"
  | .warn => "WARN"

namespace Event

def level : Event → Level
  | .chainStarted _ | .ruleAppended _ _ => .trace
  | .ruleFailed _ | .transformerInstalled => .debug
  | .kindIgnored _ | .lengthModeIgnored _ => .warn

def fields : Event → List (String × String)
  | .chainStarted kind => [("message", "chain started"), ("default_type", kind.name)]
  | .ruleAppended code index =>
    [("message", "rule appended"), ("code", code), ("index", toString index)]
  | .ruleFailed failure =>
    [("message", "rule failed"), ("code", failure.code), ("message", failure.message)]
  | .transformerInstalled => [("message", "custom transformer installed")]
  | .kindIgnored raw =>
    [("message", "ignoring invalid default type"), ("var", Text.quote Settings.kindVariable),
     ("error", Kind.unknownMessage raw)]
  | .lengthModeIgnored raw =>
    [("message", "ignoring invalid length mode"), ("var", Text.quote Settings.lengthsVariable),
     ("value", raw)]

end Event

end Assay
