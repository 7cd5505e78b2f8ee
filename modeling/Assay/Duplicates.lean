import Assay.Value.Equality

/-!
# Duplicates in a list

Pairs are compared row by row, each element with those after it, up to the first pair that agrees.
The scan is over any monad, so that the comparisons can be counted or recorded.
-/

namespace Assay.Duplicates

variable {α : Type} {m : Type → Type}

def scan [Monad m] (eq : α → α → m Bool) : List α → m Bool
  | [] => pure false
  | a :: rest => do
    if ← rest.anyM (eq a) then return true
    scan eq rest

/-- Do two elements at different places agree? -/
def anyBy (eq : α → α → Bool) (xs : List α) : Bool := Id.run (scan (fun a b => pure (eq a b)) xs)

theorem anyBy_cons (eq : α → α → Bool) (a : α) (rest : List α) :
    anyBy eq (a :: rest) = (rest.any (eq a) || anyBy eq rest) := by
  simp only [anyBy, scan, List.anyM_pure, pure_bind]
  cases rest.any (eq a) <;> rfl

/-- The answer of the scan and the comparisons it made, in order. -/
def record (eq : α → α → Bool) (xs : List α) : Bool × List (α × α) :=
  let visit a b : StateM (List (α × α)) Bool := do
    modify (· ++ [(a, b)])
    return eq a b
  (scan visit xs).run []

/-- The answer of the scan and the number of comparisons. -/
def count (eq : α → α → Bool) (xs : List α) : Bool × Nat :=
  let visit a b : StateM Nat Bool := do
    modify (· + 1)
    return eq a b
  (scan visit xs).run 0

def anySame (xs : List Value) : Bool := anyBy Value.same xs

end Assay.Duplicates
