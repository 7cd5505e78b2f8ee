import Assay.Entries
import Assay.Kind
import Assay.Numeric

/-!
# Values

What a rule is run on: one value of a kind that is known only then. Objects keep their entries in
order, one for each key; `Value.ofEntries` builds them so, and `Value.WellFormed` says that every
object inside a value is one.
-/

namespace Assay

/-- A token of its own. The description does not identify it. -/
structure Symbol where
  id : Nat
  description : String
  deriving DecidableEq, Repr

namespace Symbol

/-- What symbols are minted from; none of the coming ones is in use. -/
structure Supply where
  next : Nat

def Supply.start : Supply := ⟨1⟩

def Supply.mint (s : Supply) (description : String) : Symbol × Supply :=
  (⟨s.next, description⟩, ⟨s.next + 1⟩)

/-- Is it the same token? -/
def is (a b : Symbol) : Bool := a.id == b.id

end Symbol

inductive Value where
  | undefined
  | null
  | bool (b : Bool)
  | number (x : Double)
  | bigint (n : Int)
  | string (s : String)
  | symbol (s : Symbol)
  | array (items : List Value)
  | object (entries : List (String × Value))
  deriving Inhabited, Repr

namespace Value

/-- Induction over the parts of a value: for an array its items, for an object its members. -/
@[elab_as_elim]
theorem induction {motive : Value → Prop} (undefined : motive .undefined) (null : motive .null)
    (bool : ∀ b, motive (.bool b)) (number : ∀ x, motive (.number x))
    (bigint : ∀ n, motive (.bigint n)) (string : ∀ s, motive (.string s))
    (symbol : ∀ s, motive (.symbol s))
    (array : ∀ items, (∀ v ∈ items, motive v) → motive (.array items))
    (object : ∀ entries, (∀ e ∈ entries, motive e.2) → motive (.object entries)) :
    (v : Value) → motive v
  | .undefined => undefined
  | .null => null
  | .bool b => bool b
  | .number x => number x
  | .bigint n => bigint n
  | .string s => string s
  | .symbol s => symbol s
  | .array items => array items fun v _ =>
    induction undefined null bool number bigint string symbol array object v
  | .object entries => object entries fun e he =>
    have := Entries.sizeOf_lt_of_mem he
    induction undefined null bool number bigint string symbol array object e.2

/-- An object of the entries in turn: a key keeps its first place and its last value. -/
def ofEntries (entries : List (String × Value)) : Value := .object (Entries.ofList entries)

/-- The nearest number to an integer. -/
def ofInt (n : Int) : Value := .number (Double.ofInt n)

def ofNumeric : Numeric → Value
  | .double x => .number x
  | .integer n => .bigint n

def ofOption : Option Value → Value
  | some v => v
  | none => .null

def kind : Value → Kind
  | .undefined => .undefined
  | .null => .null
  | .bool _ => .boolean
  | .number _ => .number
  | .bigint _ => .bigint
  | .string _ => .string
  | .symbol _ => .symbol
  | .array _ => .array
  | .object _ => .object

def asString? : Value → Option String
  | .string s => some s
  | _ => none

def asBool? : Value → Option Bool
  | .bool b => some b
  | _ => none

def asArray? : Value → Option (List Value)
  | .array items => some items
  | _ => none

def asObject? : Value → Option (Entries Value)
  | .object entries => some entries
  | _ => none

/-- Numbers and big integers. -/
def asNumeric? : Value → Option Numeric
  | .number x => some (.double x)
  | .bigint n => some (.integer n)
  | _ => none

/-- The member of an object under a key. -/
def get? (v : Value) (key : String) : Option Value := v.asObject?.bind (Entries.get? key)

/-- Undefined, null, and text, arrays and objects without content. Zero and false are not empty. -/
def isEmpty : Value → Bool
  | .undefined | .null => true
  | .string s => s.isEmpty
  | .array items => items.isEmpty
  | .object entries => entries.isEmpty
  | _ => false

mutual
/-- No object inside has a key twice. -/
def WellFormed : Value → Prop
  | .array items => WellFormedItems items
  | .object entries => Entries.Distinct entries ∧ WellFormedEntries entries
  | _ => True
def WellFormedItems : List Value → Prop
  | [] => True
  | v :: rest => WellFormed v ∧ WellFormedItems rest
def WellFormedEntries : List (String × Value) → Prop
  | [] => True
  | (_, v) :: rest => WellFormed v ∧ WellFormedEntries rest
end

theorem wellFormedItems_iff {items : List Value} :
    WellFormedItems items ↔ ∀ v ∈ items, v.WellFormed := by
  induction items with
  | nil => simp [WellFormedItems]
  | cons v rest ih => simp [WellFormedItems, ih]

theorem wellFormedEntries_iff {entries : List (String × Value)} :
    WellFormedEntries entries ↔ ∀ e ∈ entries, e.2.WellFormed := by
  induction entries with
  | nil => simp [WellFormedEntries]
  | cons e rest ih => simp [WellFormedEntries, ih]

mutual
/-- No number inside is NaN. -/
def NaNFree : Value → Prop
  | .number x => x.isNaN = false
  | .array items => NaNFreeItems items
  | .object entries => NaNFreeEntries entries
  | _ => True
def NaNFreeItems : List Value → Prop
  | [] => True
  | v :: rest => NaNFree v ∧ NaNFreeItems rest
def NaNFreeEntries : List (String × Value) → Prop
  | [] => True
  | (_, v) :: rest => NaNFree v ∧ NaNFreeEntries rest
end

theorem nanFreeItems_iff {items : List Value} :
    NaNFreeItems items ↔ ∀ v ∈ items, v.NaNFree := by
  induction items with
  | nil => simp [NaNFreeItems]
  | cons v rest ih => simp [NaNFreeItems, ih]

theorem nanFreeEntries_iff {entries : List (String × Value)} :
    NaNFreeEntries entries ↔ ∀ e ∈ entries, e.2.NaNFree := by
  induction entries with
  | nil => simp [NaNFreeEntries]
  | cons e rest ih => simp [NaNFreeEntries, ih]

end Value

end Assay
