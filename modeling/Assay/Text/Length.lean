import Assay.Text.Blank

/-!
# Measures of length

The length of a text in bytes of UTF-8, in characters, or in UTF-16 units. Each is a sum over the
characters, so each is additive.
-/

namespace Assay

inductive LengthMode where
  | bytes
  | chars
  | utf16
  deriving DecidableEq, Repr

namespace LengthMode

def all : List LengthMode := [.bytes, .chars, .utf16]

def name : LengthMode → String
  | .bytes => "bytes"
  | .chars => "chars"
  | .utf16 => "utf16"

/-- The name in inspected structures. -/
def inspect : LengthMode → String
  | .bytes => "Bytes"
  | .chars => "Chars"
  | .utf16 => "Utf16"

def ofName? (s : String) : Option LengthMode := all.find? (·.name = s)

/-- What one character counts. -/
def weight : LengthMode → Char → Nat
  | .bytes, c => c.utf8Size
  | .chars, _ => 1
  | .utf16, c => if c.toNat < 0x10000 then 1 else 2

def measure (m : LengthMode) (s : String) : Nat := s.toList.foldr (fun c n => m.weight c + n) 0

theorem measure_append (m : LengthMode) (s t : String) :
    m.measure (s ++ t) = m.measure s + m.measure t := by
  simp only [measure, String.toList_append]
  induction s.toList with
  | nil => simp
  | cons c cs ih => simp [ih, Nat.add_assoc]

theorem weight_pos (m : LengthMode) (c : Char) : 0 < m.weight c := by
  cases m with
  | bytes => exact Char.utf8Size_pos c
  | chars => exact Nat.one_pos
  | utf16 => simp only [weight]; split <;> decide

/-- Reads a name, with a hyphen allowed in `utf-16`; blanks around it and ASCII case are free. -/
def ofText? (text : String) : Option LengthMode :=
  match String.ofList ((Text.trim text.toList).map Char.toLower) with
  | "bytes" => some .bytes
  | "chars" => some .chars
  | "utf16" | "utf-16" => some .utf16
  | _ => none

end LengthMode

end Assay
