import Assay.Duplicates
import Mathlib.Data.List.FinRange
import Mathlib.Data.Nat.Choose.Basic

/-!
# The order in which pairs are compared

A scan goes through the places of a list row by row, and in its row a place meets the places after
it. So every pair is compared at most once, the earlier element first, and the scan ends with the
first pair that agrees.
-/

namespace Assay.Duplicates

variable {α β : Type}

-- ---------------------------------------------------------------------------
-- The places of pairs
-- ---------------------------------------------------------------------------

/-- The places of the pairs of a list of `n` elements, row by row. -/
def places (n : Nat) : List (Fin n × Fin n) :=
  (List.finRange n).flatMap fun i => ((List.finRange n).filter (i < ·)).map (i, ·)

theorem mem_places {n : Nat} {p : Fin n × Fin n} : p ∈ places n ↔ p.1 < p.2 := by
  obtain ⟨i, j⟩ := p
  simp [places]

/-- With one more element in front there is its row, and then the rows that there were. -/
theorem places_succ (n : Nat) : places (n + 1) =
    (List.finRange n).map (fun j => (0, j.succ)) ++
      (places n).map (Prod.map Fin.succ Fin.succ) := by
  have hfirst : (List.finRange (n + 1)).filter ((0 : Fin (n + 1)) < ·) =
      (List.finRange n).map Fin.succ := by
    rw [List.finRange_succ, List.filter_cons_of_neg (by simp), List.filter_map]
    simp [Function.comp_def]
  have hrest (i : Fin n) : (List.finRange (n + 1)).filter (i.succ < ·) =
      ((List.finRange n).filter (i < ·)).map Fin.succ := by
    rw [List.finRange_succ, List.filter_cons_of_neg (by simp), List.filter_map]
    simp [Function.comp_def]
  rw [places, List.finRange_succ, List.flatMap_cons, ← List.finRange_succ, hfirst, List.map_map,
    places, List.map_flatMap, List.flatMap_map]
  simp only [hrest, List.map_map]
  rfl

/-- Earlier rows stand first, and in one row the earlier place. -/
theorem pairwise_places (n : Nat) : (places n).Pairwise (Prod.Lex (· < ·) (· < ·)) := by
  induction n with
  | zero => exact .nil
  | succ n ih =>
    rw [places_succ, List.pairwise_append, List.pairwise_map, List.pairwise_map]
    refine ⟨?first, ?rest, ?across⟩
    case first =>
      exact (List.pairwise_lt_finRange n).imp fun h => .right 0 (Fin.succ_lt_succ_iff.mpr h)
    case rest =>
      refine ih.imp fun h => ?_
      cases h with
      | left j l h => exact .left _ _ (Fin.succ_lt_succ_iff.mpr h)
      | right i h => exact .right _ (Fin.succ_lt_succ_iff.mpr h)
    case across =>
      intro p hp q hq
      obtain ⟨j, -, rfl⟩ := List.mem_map.mp hp
      obtain ⟨⟨i, l⟩, -, rfl⟩ := List.mem_map.mp hq
      exact .left _ _ i.succ_pos

theorem length_places (n : Nat) : (places n).length = n * (n - 1) / 2 := by
  induction n with
  | zero => rfl
  | succ n ih =>
    rw [places_succ, List.length_append, List.length_map, List.length_map, List.length_finRange, ih,
      Nat.triangle_succ, Nat.add_comm]

-- ---------------------------------------------------------------------------
-- Comparisons with effects
-- ---------------------------------------------------------------------------

section
variable {m : Type → Type} [Monad m]

theorem anyM_map (f : α → β) (p : β → m Bool) (xs : List α) :
    (xs.map f).anyM p = xs.anyM fun a => p (f a) := by
  induction xs with
  | nil => rfl
  | cons a rest ih => simp only [List.map_cons, List.anyM_cons, ih]

variable [LawfulMonad m]

theorem anyM_append (p : α → m Bool) (xs ys : List α) :
    (xs ++ ys).anyM p = (do
      if ← xs.anyM p then return true
      ys.anyM p) := by
  induction xs with
  | nil => simp
  | cons a rest ih =>
    simp only [List.cons_append, List.anyM_cons, ih, bind_assoc]
    refine congrArg (p a >>= ·) (funext fun b => ?_)
    cases b <;> simp

/-- The rows in turn are one pass over the pairs. -/
theorem scan_eq_anyM (eq : α → α → m Bool) (xs : List α) :
    scan eq xs = (places xs.length).anyM fun p => eq (xs.get p.1) (xs.get p.2) := by
  induction xs with
  | nil => rfl
  | cons a rest ih =>
    have hrow : (List.finRange rest.length).anyM (fun j => eq a (rest.get j)) =
        rest.anyM (eq a) := by
      rw [← anyM_map rest.get (eq a), List.map_get_finRange]
    show scan eq (a :: rest) = (places (rest.length + 1)).anyM _
    rw [scan, places_succ, anyM_append, anyM_map, anyM_map]
    simp only [Prod.map, List.get_cons_zero, List.get_cons_succ', hrow, ih]

/-- The rest of a list from a place on. From beyond its end there is none. -/
def rest? (xs : List α) (i : Nat) : Option (List α) :=
  if i ≤ xs.length then some (xs.drop i) else none

/-- The row of an element and its place. It is the rest of the list from the next place on. -/
def scanRow (eq : α → α → m Bool) (xs : List α) (e : α × Nat) : OptionT m Bool := do
  let row ← OptionT.mk (pure (rest? xs (e.2 + 1)))
  OptionT.lift (row.anyM (eq e.1))

def scanRows (eq : α → α → m Bool) (xs : List α) : OptionT m Bool := xs.zipIdx.anyM (scanRow eq xs)

theorem run_scanRow (eq : α → α → m Bool) (before : List α) (a : α) (after : List α) :
    (scanRow eq (before ++ a :: after) (a, before.length)).run = some <$> after.anyM (eq a) := by
  simp [scanRow, rest?]

/-- No row begins beyond the end. -/
theorem run_scanRows (eq : α → α → m Bool) (xs : List α) :
    (scanRows eq xs).run = some <$> scan eq xs := by
  -- the rows from any place on
  have hfrom (before after : List α) (h : before ++ after = xs) :
      ((after.zipIdx before.length).anyM (scanRow eq xs)).run = some <$> scan eq after := by
    induction after generalizing before with
    | nil => simp [scan]
    | cons a after ih =>
      have hrest := ih (before ++ [a]) (by simpa using h)
      rw [List.length_append, List.length_singleton] at hrest
      rw [List.zipIdx_cons, List.anyM_cons, OptionT.run_bind, ← h, run_scanRow, h, scan]
      simp only [Option.elimM, bind_map_left, map_bind, Option.elim_some]
      refine congrArg (after.anyM (eq a) >>= ·) (funext fun b => ?_)
      cases b <;> simp [hrest]
  exact hfrom [] xs rfl

end

-- ---------------------------------------------------------------------------
-- Up to the first hit
-- ---------------------------------------------------------------------------

/-- The elements of a list up to the first with the property, and that one. -/
def upTo (p : α → Bool) : List α → List α
  | [] => []
  | a :: rest => if p a then [a] else a :: upTo p rest

theorem upTo_prefix (p : α → Bool) (xs : List α) : upTo p xs <+: xs := by
  induction xs with
  | nil => exact List.prefix_refl _
  | cons a rest ih =>
    rw [upTo]
    split
    · exact List.prefix_append [a] rest
    · exact (List.prefix_cons_inj a).mpr ih

theorem upTo_of_not_any {p : α → Bool} {xs : List α} (h : xs.any p = false) : upTo p xs = xs := by
  induction xs with
  | nil => rfl
  | cons a rest ih =>
    obtain ⟨ha, hr⟩ := Bool.or_eq_false_iff.mp (List.any_cons.symm.trans h)
    rw [upTo, ha, ih hr]
    rfl

theorem upTo_of_any {p : α → Bool} {xs : List α} (h : xs.any p = true) :
    ∃ before a, upTo p xs = before ++ [a] ∧ p a = true ∧ ∀ b ∈ before, p b = false := by
  induction xs with
  | nil => cases h
  | cons a rest ih =>
    cases ha : p a with
    | true => exact ⟨[], a, by simp [upTo, ha], ha, by simp⟩
    | false =>
      obtain ⟨before, last, he, hl, hb⟩ := ih (by simpa [ha] using h)
      exact ⟨a :: before, last, by simp [upTo, ha, he], hl, by simpa [ha] using hb⟩

/-- A pass that notes each element that it looks at. -/
theorem run_anyM_note {σ : Type} (note : σ → α → σ) (p : α → Bool) (xs : List α) (s : σ) :
    StateT.run (m := Id) (xs.anyM fun a => do modify (note · a); return p a) s =
      (xs.any p, (upTo p xs).foldl note s) := by
  induction xs generalizing s with
  | nil => rfl
  | cons a rest ih =>
    have hstep : StateT.run (m := Id)
        ((a :: rest).anyM fun a => do modify (note · a); return p a) s =
        if p a then (true, note s a)
        else StateT.run (m := Id) (rest.anyM fun a => do modify (note · a); return p a)
          (note s a) := by
      rw [List.anyM_cons]
      cases h : p a
      · simp
      · simp
        rfl
    rw [hstep, ih, List.any_cons, upTo]
    cases p a <;> rfl

theorem foldl_snoc (f : α → β) (xs : List α) (seen : List β) :
    xs.foldl (fun seen a => seen ++ [f a]) seen = seen ++ xs.map f := by
  induction xs generalizing seen with
  | nil => exact (List.append_nil seen).symm
  | cons a rest ih =>
    rw [List.foldl_cons, ih, List.append_assoc, List.map_cons, List.singleton_append]

theorem foldl_count (xs : List α) (k : Nat) : xs.foldl (fun k _ => k + 1) k = k + xs.length := by
  induction xs generalizing k with
  | nil => rfl
  | cons a rest ih => rw [List.foldl_cons, ih, List.length_cons, Nat.add_assoc, Nat.add_comm 1]

-- ---------------------------------------------------------------------------
-- The scan
-- ---------------------------------------------------------------------------

variable (eq : α → α → Bool) (xs : List α)

/-- The elements at two places. -/
def pairAt (p : Fin xs.length × Fin xs.length) : α × α := (xs.get p.1, xs.get p.2)

/-- Do the elements at two places agree? -/
def agree (p : Fin xs.length × Fin xs.length) : Bool := eq (xs.get p.1) (xs.get p.2)

theorem anyBy_eq_any : anyBy eq xs = (places xs.length).any (agree eq xs) := by
  rw [anyBy, scan_eq_anyM, List.anyM_pure]
  rfl

theorem record_eq : record eq xs =
    (anyBy eq xs, (upTo (agree eq xs) (places xs.length)).map (pairAt xs)) := by
  rw [record, scan_eq_anyM]
  refine (run_anyM_note (fun seen p => seen ++ [pairAt xs p]) (agree eq xs) _ []).trans ?_
  rw [foldl_snoc, anyBy_eq_any, List.nil_append]

theorem count_eq : count eq xs =
    (anyBy eq xs, (upTo (agree eq xs) (places xs.length)).length) := by
  rw [count, scan_eq_anyM]
  refine (run_anyM_note (fun k _ => k + 1) (agree eq xs) _ 0).trans ?_
  rw [foldl_count, anyBy_eq_any, Nat.zero_add]

theorem anyBy_iff : anyBy eq xs = true ↔
    ∃ i j : Fin xs.length, i < j ∧ eq (xs.get i) (xs.get j) = true := by
  rw [anyBy_eq_any, List.any_eq_true]
  constructor
  · rintro ⟨⟨i, j⟩, hp, h⟩
    exact ⟨i, j, mem_places.mp hp, h⟩
  · rintro ⟨i, j, hij, h⟩
    exact ⟨(i, j), mem_places.mpr hij, h⟩

/-- The answer of a scan, and the places whose elements it compares on the way. -/
structure Visits (visited : List (Fin xs.length × Fin xs.length)) : Prop where
  answer : anyBy eq xs = true ↔ ∃ i j : Fin xs.length, i < j ∧ eq (xs.get i) (xs.get j) = true
  recorded : record eq xs = (anyBy eq xs, visited.map fun p => (xs.get p.1, xs.get p.2))
  counted : count eq xs = (anyBy eq xs, visited.length)
  first : visited <+: places xs.length
  hit : anyBy eq xs = true → ∃ before i j, visited = before ++ [(i, j)] ∧
    eq (xs.get i) (xs.get j) = true ∧ ∀ p ∈ before, eq (xs.get p.1) (xs.get p.2) = false
  miss : anyBy eq xs = false → visited = places xs.length ∧
    visited.length = xs.length * (xs.length - 1) / 2

theorem visits_upTo : Visits eq xs (upTo (agree eq xs) (places xs.length)) where
  answer := anyBy_iff eq xs
  recorded := record_eq eq xs
  counted := count_eq eq xs
  first := upTo_prefix _ _
  hit h := by
    obtain ⟨before, ⟨i, j⟩, he, hij, hb⟩ := upTo_of_any ((anyBy_eq_any eq xs).symm.trans h)
    exact ⟨before, i, j, he, hij, hb⟩
  miss h := by
    rw [upTo_of_not_any ((anyBy_eq_any eq xs).symm.trans h)]
    exact ⟨rfl, length_places _⟩

/-- Of the pairs `i < j` in the order of their rows a scan compares those up to the first that
agrees, each once and with the earlier element first. Comparisons may have effects: they are had in
the same order, and none by a row from beyond the end. -/
theorem visits_pairs_once {α : Type} (xs : List α) :
    (∀ i j, (i, j) ∈ places xs.length ↔ i < j) ∧
    (places xs.length).Pairwise (Prod.Lex (· < ·) (· < ·)) ∧
    (∀ eq, ∃ visited, Visits eq xs visited) ∧
    ∀ (m : Type → Type) [Monad m] [LawfulMonad m] (eq : α → α → m Bool),
      scan eq xs = (places xs.length).anyM (fun p => eq (xs.get p.1) (xs.get p.2)) ∧
      (scanRows eq xs).run = some <$> scan eq xs :=
  ⟨fun _ _ => mem_places, pairwise_places _, fun eq => ⟨_, visits_upTo eq xs⟩,
    fun _ _ _ eq => ⟨scan_eq_anyM eq xs, run_scanRows eq xs⟩⟩

/-- An order in place of an equality holds of the third pair. A comparison that holds when it is
made for the fifth time ends the scan then. -/
theorem visits_pairs_once_order :
    let fifth (_ _ : Nat) : StateM Nat Bool := do
      modify (· + 1)
      return (← get) == 5
    Visits (fun a b => decide (a < b)) [3, 1, 2, 5] [(0, 1), (0, 2), (0, 3)] ∧
    ((scanRows fifth [3, 1, 2, 5]).run.run 0 : Option Bool × Nat) = (some true, 5) := by
  intro fifth
  obtain ⟨-, -, hvisits, heffects⟩ := visits_pairs_once [3, 1, 2, 5]
  obtain ⟨visited, h⟩ := hvisits fun a b => decide (a < b)
  have hl : visited.length = 3 := by
    have hc := congrArg Prod.snd h.counted
    exact hc.symm.trans (by decide)
  have hv : visited = [(0, 1), (0, 2), (0, 3)] := by
    rw [List.prefix_iff_eq_take.mp h.first, hl]
    decide
  refine ⟨hv ▸ h, ?_⟩
  rw [(heffects (StateM Nat) fifth).2]
  rfl

end Assay.Duplicates
