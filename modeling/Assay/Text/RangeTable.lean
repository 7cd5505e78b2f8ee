/-!
# Tables of code points

A table is a list of rows in ascending order, each an arithmetic progression of code points.
Membership stops at the first row that reaches the code point.
-/

namespace Assay.Text

/-- The code points `first`, `first + step`, …, `last`. -/
structure Row where
  first : Nat
  last : Nat
  step : Nat
  deriving DecidableEq, Repr

namespace Row

def contains (r : Row) (n : Nat) : Bool :=
  r.first ≤ n && n ≤ r.last && (n - r.first) % r.step == 0

theorem contains_iff {r : Row} {n : Nat} :
    r.contains n = true ↔ r.first ≤ n ∧ n ≤ r.last ∧ (n - r.first) % r.step = 0 := by
  simp [contains, and_assoc]

/-- Reads `a`, `a-b` or `a-b/s`, with hexadecimal bounds and a one-digit step. -/
def ofText (cs : List Char) : Row :=
  let hex := fun (ds : List Char) => ds.foldl (fun n d => 16 * n + digit d) 0
  match cs.span (· ≠ '-') with
  | (lo, []) => ⟨hex lo, hex lo, 1⟩
  | (lo, _ :: rest) =>
    match rest.span (· ≠ '/') with
    | (hi, _ :: [s]) => ⟨hex lo, hex hi, digit s⟩
    | (hi, _) => ⟨hex lo, hex hi, 1⟩
where
  digit (c : Char) : Nat := if c.isDigit then c.toNat - 48 else c.toNat - 55

end Row

abbrev RangeTable := List Row

namespace RangeTable

def containsCode : RangeTable → Nat → Bool
  | [], _ => false
  | r :: rest, n => if r.last < n then containsCode rest n else r.contains n

def contains (t : RangeTable) (c : Char) : Bool := t.containsCode c.toNat

theorem exists_of_containsCode {t : RangeTable} {n : Nat} (h : t.containsCode n = true) :
    ∃ r ∈ t, r.contains n = true := by
  induction t with
  | nil => simp [containsCode] at h
  | cons r rest ih =>
    by_cases hr : r.last < n
    · obtain ⟨s, hs, hn⟩ := ih (by simpa [containsCode, hr] using h)
      exact ⟨s, List.mem_cons_of_mem _ hs, hn⟩
    · exact ⟨r, List.mem_cons_self, by simpa [containsCode, hr] using h⟩

/-- Reads rows separated by spaces and line ends. -/
def ofText (text : String) : RangeTable :=
  let (first, rest) := words text.toList
  (close first rest).map Row.ofText
where
  /-- The first word, which may be empty, and the others. -/
  words : List Char → List Char × List (List Char)
    | [] => ([], [])
    | c :: cs =>
      let (w, ws) := words cs
      if c = ' ' || c = '\n' then ([], close w ws) else (c :: w, ws)
  close (w : List Char) (ws : List (List Char)) : List (List Char) :=
    if w.isEmpty then ws else w :: ws

end RangeTable

end Assay.Text
