import Assay.Decimal
import Assay.Json.Basic

/-!
# Reading JSON text

Each reader takes the text that is left and gives its result with the rest, or the first fault. A
fault says whether the text broke off, broke the grammar, or had another shape than was asked for.
Content that is only passed over is read with less care: its surrogate escapes need no partner,
its numbers no bound, and a number that breaks off is malformed.
-/

namespace Assay.Json

inductive Fault where
  | truncated
  | malformed
  | mismatch
  deriving DecidableEq, Repr

namespace Reader

inductive Care where
  | kept
  | skipped
  deriving DecidableEq

/-- The fault of a number that breaks off. -/
def Care.brokenNumber : Care → Fault
  | .kept => .truncated
  | .skipped => .malformed

def isSpace (c : Char) : Bool := c = ' ' || c = '\n' || c = '\t' || c = '\r'

def skipSpace (s : List Char) : List Char := s.dropWhile isSpace

def hexValue? (c : Char) : Option Nat :=
  if '0' ≤ c ∧ c ≤ '9' then some (c.toNat - 48)
  else if 'a' ≤ c ∧ c ≤ 'f' then some (c.toNat - 87)
  else if 'A' ≤ c ∧ c ≤ 'F' then some (c.toNat - 55)
  else none

/-- Where a reader of string content stands. A high surrogate waits for its low one. -/
inductive StringState where
  | plain
  | escaped (high : Option Nat)
  | hex (left value : Nat) (high : Option Nat)
  | wantsEscape (high : Nat)

/-- Are there the four bytes of a hexadecimal escape? -/
def hasFourBytes (s : List Char) : Bool := 4 ≤ (s.take 4).foldr (fun c n => c.utf8Size + n) 0

def isHigh (n : Nat) : Bool := 0xD800 ≤ n && n < 0xDC00

def isLow (n : Nat) : Bool := 0xDC00 ≤ n && n < 0xE000

def simpleEscape? : Char → Option Char
  | '"' => some '"'
  | '\\' => some '\\'
  | '/' => some '/'
  | 'b' => some '\x08'
  | 'f' => some '\x0c'
  | 'n' => some '\n'
  | 'r' => some '\r'
  | 't' => some '\t'
  | _ => none

/-- The content of a string after its opening quote, collected backwards in `acc`. -/
def stringContent (care : Care) (acc : List Char) :
    StringState → List Char → Except Fault (String × List Char)
  | _, [] => .error .truncated
  | .plain, c :: s =>
    if c = '"' then .ok (String.ofList acc.reverse, s)
    else if c = '\\' then stringContent care acc (.escaped none) s
    else if c.toNat < 0x20 then .error .malformed
    else stringContent care (c :: acc) .plain s
  | .escaped high, c :: s =>
    if c = 'u' then
      -- a text too short for the digits breaks off, whatever else is in it
      if hasFourBytes s then stringContent care acc (.hex 4 0 high) s else .error .truncated
    else if high.isSome then .error .malformed
    else match simpleEscape? c with
      | some d => stringContent care (d :: acc) .plain s
      | none => .error .malformed
  | .hex left value high, c :: s =>
    match hexValue? c with
    | none => .error .malformed
    | some d =>
      let n := 16 * value + d
      if left > 1 then stringContent care acc (.hex (left - 1) n high) s
      else if care = .skipped then stringContent care acc .plain s
      else match high with
        | some h =>
          if isLow n then
            let c := Char.ofNat (0x10000 + (h - 0xD800) * 0x400 + (n - 0xDC00))
            stringContent care (c :: acc) .plain s
          else .error .malformed
        | none =>
          if isHigh n then stringContent care acc (.wantsEscape n) s
          else if isLow n then .error .malformed
          else stringContent care (Char.ofNat n :: acc) .plain s
  | .wantsEscape high, c :: s =>
    if c = '\\' then stringContent care acc (.escaped (some high)) s else .error .malformed

/-- One digit or more. -/
def someDigits (care : Care) (s : List Char) : Except Fault (List Char × List Char) :=
  match s.span Char.isDigit with
  | ([], []) => .error care.brokenNumber
  | ([], _) => .error .malformed
  | (ds, rest) => .ok (ds, rest)

def fraction (care : Care) : List Char → Except Fault (List Char × List Char)
  | '.' :: s => someDigits care s
  | s => .ok ([], s)

def exponent (care : Care) : List Char → Except Fault (Int × List Char)
  | c :: s =>
    if c = 'e' || c = 'E' then do
      let (negative, s) := Decimal.splitSign s
      let (ds, s) ← someDigits care s
      let n := Decimal.natOfDigits ds
      return (if negative then -n else n, s)
    else .ok (0, c :: s)
  | [] => .ok (0, [])

/-- A number after its sign. No zero leads another digit, and a kept number is a finite double. -/
def number (care : Care) (negative : Bool) (s : List Char) :
    Except Fault (Decimal × List Char) := do
  let (whole, s) ← someDigits care s
  if whole.length > 1 && whole.head? = some '0' then throw .malformed
  let (part, s) ← fraction care s
  let (e, s) ← exponent care s
  let d : Decimal := ⟨negative, Decimal.natOfDigits (whole ++ part), e - part.length⟩
  if care = .kept && !d.nearest.isFinite then throw .malformed
  return (d, s)

/-- The rest of a literal such as `null`. -/
def literal : List Char → List Char → Except Fault (List Char)
  | [], s => .ok s
  | _ :: _, [] => .error .truncated
  | c :: cs, d :: s => if c = d then literal cs s else .error .malformed

/-- A value without parts, if the text starts like one. -/
def scalar? (care : Care) : List Char → Option (Except Fault (Json Decimal × List Char))
  | 'n' :: s => some do return (.null, ← literal ['u', 'l', 'l'] s)
  | 't' :: s => some do return (.bool true, ← literal ['r', 'u', 'e'] s)
  | 'f' :: s => some do return (.bool false, ← literal ['a', 'l', 's', 'e'] s)
  | '"' :: s => some do
    let (text, s) ← stringContent care [] .plain s
    return (.string text, s)
  | '-' :: s => some do
    let (d, s) ← number care true s
    return (.number d, s)
  | c :: s => if c.isDigit then some do
      let (d, s) ← number care false (c :: s)
      return (.number d, s)
    else none
  | [] => none

/-- A key and the colon after it. -/
def key (care : Care) (s : List Char) : Except Fault (String × List Char) :=
  match skipSpace s with
  | '"' :: s => do
    let (k, s) ← stringContent care [] .plain s
    match skipSpace s with
    | ':' :: s => return (k, s)
    | [] => throw .truncated
    | _ => throw .malformed
  | [] => .error .truncated
  | _ => .error .malformed

mutual
/-- A value. The fuel bounds the calls; two for each character are more than enough. -/
def valueWithin (care : Care) : Nat → List Char → Except Fault (Json Decimal × List Char)
  | 0, _ => .error .truncated
  | fuel + 1, s =>
    match skipSpace s with
    | [] => .error .truncated
    | '[' :: s =>
      match skipSpace s with
      | ']' :: s => .ok (.array [], s)
      | s => do
        let (items, s) ← itemsWithin care fuel s
        return (.array items, s)
    | '\x7b' :: s =>
      match skipSpace s with
      | '\x7d' :: s => .ok (.object [], s)
      | s => do
        let (members, s) ← membersWithin care fuel s
        return (ofMembers members, s)
    | s => (scalar? care s).getD (.error .malformed)
/-- The items of an array up to its end, one at least. -/
def itemsWithin (care : Care) :
    Nat → List Char → Except Fault (List (Json Decimal) × List Char)
  | 0, _ => .error .truncated
  | fuel + 1, s => do
    let (item, s) ← valueWithin care fuel s
    match skipSpace s with
    | ',' :: s =>
      let (items, s) ← itemsWithin care fuel s
      return (item :: items, s)
    | ']' :: s => return ([item], s)
    | [] => throw .truncated
    | _ => throw .malformed
/-- The members of an object up to its end, one at least. -/
def membersWithin (care : Care) :
    Nat → List Char → Except Fault (List (String × Json Decimal) × List Char)
  | 0, _ => .error .truncated
  | fuel + 1, s => do
    let (k, s) ← key care s
    let (value, s) ← valueWithin care fuel s
    match skipSpace s with
    | ',' :: s =>
      let (members, s) ← membersWithin care fuel s
      return ((k, value) :: members, s)
    | '\x7d' :: s => return ([(k, value)], s)
    | [] => throw .truncated
    | _ => throw .malformed
end

def value (care : Care) (s : List Char) : Except Fault (Json Decimal × List Char) :=
  valueWithin care (2 * s.length + 2) s

/-- Passes over a value. -/
def skipValue (s : List Char) : Except Fault (List Char) := do return (← value .skipped s).2

/-- Takes a reader's result if nothing but space is left. -/
def whole {α : Type} (reading : Except Fault (α × List Char)) : Except Fault α := do
  let (a, s) ← reading
  if (skipSpace s).isEmpty then return a else throw .malformed

end Reader

/-- Reads a text that is one value. -/
def ofText (text : String) : Except Fault (Json Decimal) :=
  Reader.whole (Reader.value .kept text.toList)

end Assay.Json
