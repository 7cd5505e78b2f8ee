import Assay.Decimal
import Assay.Json.Basic
import Assay.Value.Basic

/-!
# Values and JSON

`toJson` keeps what JSON can hold: undefined, symbols and numbers that are not finite become null,
big integers their decimal text, and the entries of objects are sorted. `ofJson` rounds each number
to a double. `normalise` says on values what the way out and back does to them.
-/

namespace Assay.Value

mutual
def toJson : Value → Json Double
  | .undefined | .null | .symbol _ => .null
  | .bool b => .bool b
  | .number x => if x.isFinite then .number x else .null
  | .bigint n => .string (toString n)
  | .string s => .string s
  | .array items => .array (toJsonItems items)
  | .object entries => .ofMembers (toJsonEntries entries)
def toJsonItems : List Value → List (Json Double)
  | [] => []
  | v :: rest => toJson v :: toJsonItems rest
def toJsonEntries : List (String × Value) → List (String × Json Double)
  | [] => []
  | (k, v) :: rest => (k, toJson v) :: toJsonEntries rest
end

mutual
def ofDoubles : Json Double → Value
  | .null => .null
  | .bool b => .bool b
  | .number x => .number x
  | .string s => .string s
  | .array items => .array (ofDoublesItems items)
  | .object members => .ofEntries (ofDoublesMembers members)
def ofDoublesItems : List (Json Double) → List Value
  | [] => []
  | j :: rest => ofDoubles j :: ofDoublesItems rest
def ofDoublesMembers : List (String × Json Double) → List (String × Value)
  | [] => []
  | (k, j) :: rest => (k, ofDoubles j) :: ofDoublesMembers rest
end

def ofJson (j : Json Decimal) : Value := ofDoubles (j.map Decimal.nearest)

mutual
/-- What is left of a value in JSON. -/
def normalise : Value → Value
  | .undefined | .symbol _ => .null
  | .number x => if x.isFinite then .number x else .null
  | .bigint n => .string (toString n)
  | .array items => .array (normaliseItems items)
  | .object entries => .object (Entries.sorted (normaliseEntries entries))
  | v => v
def normaliseItems : List Value → List Value
  | [] => []
  | v :: rest => normalise v :: normaliseItems rest
def normaliseEntries : List (String × Value) → List (String × Value)
  | [] => []
  | (k, v) :: rest => (k, normalise v) :: normaliseEntries rest
end

end Assay.Value
