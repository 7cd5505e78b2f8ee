import Assay.Value.Basic
import Assay.Text.Quoted

/-!
# The text of a value

Strings are quoted, big integers end in `n`, arrays stand in brackets and objects in braces with
their keys bare.
-/

namespace Assay.Value

mutual
def display : Value → List Char
  | .undefined => "undefined".toList
  | .null => "null".toList
  | .bool b => (if b then "true" else "false").toList
  | .number x => x.text.toList
  | .bigint n => (toString n).toList ++ ['n']
  | .string s => Text.Quoted.encode s.toList
  | .symbol s => "Symbol(".toList ++ s.description.toList ++ [')']
  | .array items => '[' :: (displayItems items ++ [']'])
  | .object entries => '\x7b' :: (displayEntries entries ++ ['\x7d'])
def displayItems : List Value → List Char
  | [] => []
  | [v] => display v
  | v :: rest => display v ++ [',', ' '] ++ displayItems rest
def displayEntries : List (String × Value) → List Char
  | [] => []
  | [(k, v)] => k.toList ++ [':', ' '] ++ display v
  | (k, v) :: rest => k.toList ++ [':', ' '] ++ display v ++ [',', ' '] ++ displayEntries rest
end

def text (v : Value) : String := String.ofList v.display

end Assay.Value
