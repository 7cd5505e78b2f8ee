import Assay.Text.Blank

/-!
# Kinds of values

The nine kinds, which are also the tags that a chain can carry.
-/

namespace Assay

inductive Kind where
  | string
  | number
  | array
  | boolean
  | object
  | symbol
  | bigint
  | null
  | undefined
  deriving DecidableEq, Repr

namespace Kind

def all : List Kind :=
  [.string, .number, .array, .boolean, .object, .symbol, .bigint, .null, .undefined]

def name : Kind → String
  | .string => "string"
  | .number => "number"
  | .array => "array"
  | .boolean => "boolean"
  | .object => "object"
  | .symbol => "symbol"
  | .bigint => "bigint"
  | .null => "null"
  | .undefined => "undefined"

/-- The name in inspected structures. -/
def inspect : Kind → String
  | .string => "String"
  | .number => "Number"
  | .array => "Array"
  | .boolean => "Boolean"
  | .object => "Object"
  | .symbol => "Symbol"
  | .bigint => "BigInt"
  | .null => "Null"
  | .undefined => "Undefined"

def isNumeric (k : Kind) : Bool := k == .number || k == .bigint

def ofName? (s : String) : Option Kind := all.find? (·.name = s)

theorem ofName?_name (k : Kind) : ofName? k.name = some k := by cases k <;> decide

/-- Reads a name; blanks around it and ASCII case are free. -/
def ofText? (text : String) : Option Kind :=
  ofName? (String.ofList ((Text.trim text.toList).map Char.toLower))

/-- What is said of a text that is no name of a kind. -/
def unknownMessage (text : String) : String := "unknown type tag '" ++ text ++ "'"

end Kind

end Assay
