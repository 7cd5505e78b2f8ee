/-!
# Compiled patterns

Patterns are compiled and searched for by an engine that a step brings along. All that is asked of
it is that it refuses a text, and says why, or gives a matcher that keeps the text.
-/

namespace Assay

/-- A compiled pattern: the text that messages show, and which texts it matches some part of. -/
structure Regex where
  source : String
  found : String → Bool

/-- What compiles patterns. It tells why it refuses a text. -/
structure Regex.Engine where
  compile : String → Except String Regex
  source_compile : ∀ {source : String} {r : Regex}, compile source = .ok r → r.source = source

end Assay
