import Assay.Entries

/-!
# JSON values

JSON over a type of numbers: decimals as they are written, or doubles once they are rounded. The
members of an object are in the order of their keys, one for each key.
-/

namespace Assay

inductive Json (ν : Type) where
  | null
  | bool (b : Bool)
  | number (n : ν)
  | string (s : String)
  | array (items : List (Json ν))
  | object (members : List (String × Json ν))
  deriving Inhabited, Repr

namespace Json

variable {ν μ : Type}

/-- An object of members in any order; the last one under a key counts. -/
def ofMembers (members : List (String × Json ν)) : Json ν := .object (Entries.sorted members)

mutual
/-- Replaces every number. -/
def map (f : ν → μ) : Json ν → Json μ
  | .null => .null
  | .bool b => .bool b
  | .number n => .number (f n)
  | .string s => .string s
  | .array items => .array (mapItems f items)
  | .object members => .object (mapMembers f members)
def mapItems (f : ν → μ) : List (Json ν) → List (Json μ)
  | [] => []
  | j :: rest => map f j :: mapItems f rest
def mapMembers (f : ν → μ) : List (String × Json ν) → List (String × Json μ)
  | [] => []
  | (k, j) :: rest => (k, map f j) :: mapMembers f rest
end

def get? (key : String) : Json ν → Option (Json ν)
  | .object members => Entries.get? key members
  | _ => none

end Json

end Assay
