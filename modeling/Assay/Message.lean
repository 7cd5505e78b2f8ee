import Assay.Text.Quoted
import Assay.Trace

/-!
# Failure messages

A message is literal, or deferred until a rule fails. A notice is what every rule-producing step
takes along: a message, or none, and parameters for the generator, or none.
-/

namespace Assay

inductive Message where
  | literal (text : String)
  | deferred (run : Unit → String)

namespace Message

/-- The text, with one run counted if the message was deferred. -/
def resolve : Message → Traced String
  | .literal text => pure text
  | .deferred run => do
    Traced.countRun
    return run ()

def text : Message → String
  | .literal text => text
  | .deferred run => run ()

def isDeferred : Message → Bool
  | .literal _ => false
  | .deferred _ => true

@[simp] theorem result_resolve (m : Message) : m.resolve.result = m.text := by
  cases m <;> rfl

def inspect : Message → String
  | .literal text => "Static(" ++ Text.quote text ++ ")"
  | .deferred _ => "Lazy(..)"

end Message

structure Notice where
  message : Option Message
  params : Option String

namespace Notice

def none : Notice := ⟨Option.none, Option.none⟩

/-- An optional part of an inspected structure. -/
def inspectOption : Option String → String
  | some text => "Some(" ++ text ++ ")"
  | Option.none => "None"

def inspect (n : Notice) : String :=
  "RuleMessage \x7b message: " ++ inspectOption (n.message.map Message.inspect)
    ++ ", params: " ++ inspectOption (n.params.map Text.quote) ++ " \x7d"

end Notice

def Failure.inspect (f : Failure) : String :=
  "RuleError \x7b code: " ++ Text.quote f.code ++ ", message: " ++ Text.quote f.message ++ " \x7d"

end Assay
