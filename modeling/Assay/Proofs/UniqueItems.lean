import Assay.Proofs.Indiscernible
import Assay.Proofs.SingleChecks

/-!
# Items without duplicates

The check for duplicates compares each item with the later ones only, and membership compares an
item with what is looked for. On well-formed values the sides do not matter, so neither does the
order of the items: an item put in anywhere is a duplicate exactly if it was a member before.
-/

namespace Assay

open Value (Alike)

-- ---------------------------------------------------------------------------
-- Lists of items
-- ---------------------------------------------------------------------------

namespace Duplicates

variable {xs ys : List Value} {x : Value}

theorem anyBy_eq_false_iff {α : Type} (eq : α → α → Bool) (xs : List α) :
    anyBy eq xs = false ↔ xs.Pairwise fun a b => eq a b = false := by
  induction xs with
  | nil => exact iff_of_true rfl .nil
  | cons a rest ih => simp [anyBy_cons, List.pairwise_cons, ih]

theorem anySame_cons (x : Value) (xs : List Value) :
    anySame (x :: xs) = (xs.any (Value.same x) || anySame xs) := anyBy_cons Value.same x xs

/-- Among well-formed values a relation without sides. -/
theorem anySame_eq_false_iff (hw : ∀ v ∈ xs, v.WellFormed) :
    anySame xs = false ↔ xs.Pairwise fun a b => ¬Alike a b := by
  rw [anySame, anyBy_eq_false_iff]
  constructor
  · intro h
    refine h.imp fun hs ha => ?_
    rw [ha.same] at hs
    cases hs
  · intro h
    refine h.imp_of_mem fun ha hb hn => Bool.eq_false_iff.mpr fun hs => ?_
    exact hn ⟨hw _ ha, hw _ hb, hs⟩

theorem anySame_perm (hw : ∀ v ∈ xs, v.WellFormed) (h : xs.Perm ys) :
    anySame ys = anySame xs := by
  have hw' : ∀ v ∈ ys, v.WellFormed := fun v hv => hw v (h.mem_iff.mpr hv)
  have hp : xs.Pairwise (fun a b => ¬Alike a b) ↔ ys.Pairwise fun a b => ¬Alike a b :=
    h.pairwise_iff fun hn hs => hn hs.symm
  have he : anySame ys = false ↔ anySame xs = false := by
    rw [anySame_eq_false_iff hw, anySame_eq_false_iff hw', hp]
  cases hx : anySame xs <;> cases hy : anySame ys <;> simp_all

/-- What is looked for may stand on either side. -/
theorem any_same_comm (hw : ∀ v ∈ xs, v.WellFormed) (hx : x.WellFormed) :
    xs.any (Value.same x) = xs.any (Value.same · x) := by
  rw [Bool.eq_iff_iff, List.any_eq_true, List.any_eq_true]
  constructor
  · rintro ⟨v, hv, hs⟩
    exact ⟨v, hv, Value.same_symm hx (hw v hv) hs⟩
  · rintro ⟨v, hv, hs⟩
    exact ⟨v, hv, Value.same_symm (hw v hv) hx hs⟩

theorem anySame_insert {front back : List Value} (hw : ∀ v ∈ front ++ back, v.WellFormed)
    (hx : x.WellFormed) : anySame (front ++ x :: back) =
      (anySame (front ++ back) || (front ++ back).any (Value.same · x)) := by
  have hall : ∀ v ∈ x :: (front ++ back), v.WellFormed := by
    intro v hv
    rcases List.mem_cons.mp hv with rfl | hv
    · exact hx
    · exact hw v hv
  rw [anySame_perm hall List.perm_middle.symm, anySame_cons, any_same_comm hw hx, Bool.or_comm]

theorem anySame_eq_false_iff_getElem (hw : ∀ v ∈ xs, v.WellFormed) :
    anySame xs = false ↔ ∀ (i j : Nat) (hi : i < xs.length) (hj : j < xs.length), i ≠ j →
      Value.same xs[i] xs[j] = false := by
  rw [anySame, anyBy_eq_false_iff, List.pairwise_iff_getElem]
  constructor
  · intro h i j hi hj hij
    rcases Nat.lt_or_gt_of_ne hij with hlt | hlt
    · exact h i j hi hj hlt
    · refine Bool.eq_false_iff.mpr fun hs => ?_
      have hf := h j i hj hi hlt
      rw [Value.same_symm (hw _ (List.getElem_mem hi)) (hw _ (List.getElem_mem hj)) hs] at hf
      cases hf
  · intro h i j hi hj hij
    exact h i j hi hj (Nat.ne_of_lt hij)

end Duplicates

-- ---------------------------------------------------------------------------
-- The two checks of a chain
-- ---------------------------------------------------------------------------

namespace Chain

variable {ρ : Type} [Rule ρ] {chain : Chain ρ}

theorem rejects_uniq (hg : chain.generator.Keeps) (hk : chain.scope.kind = .array)
    (hn : chain.scope.custom = none) (notice : Notice) (xs : List Value) :
    chain.rejects .uniq notice (.array xs) = Duplicates.anySame xs := by
  rw [rejects_eq hg, Scope.transform_of_asString? hn rfl]
  simp [Check.fails, Check.failsItems, hk, Value.asArray?]

theorem rejects_includes (hg : chain.generator.Keeps) (hk : chain.scope.kind = .array)
    (hn : chain.scope.custom = none) (notice : Notice) (needle : Value) (xs : List Value) :
    chain.rejects (.includes needle) notice (.array xs) = !xs.any (Value.same · needle) := by
  rw [rejects_eq hg, Scope.transform_of_asString? hn rfl]
  simp [Check.fails, Check.failsInclusion, hk, Value.asArray?]

/-- A rule made of a check runs alike on values on which the check fails or passes alike. -/
theorem run_made_check_congr (hg : chain.generator.Keeps) {c : Check} {notice : Notice} {r : ρ}
    (hr : chain.made? (.check c notice) = some r) {a b : Value}
    (h : chain.rejects c notice a = chain.rejects c notice b) :
    Rule.run r chain.scope a = Rule.run r chain.scope b := by
  cases hr
  rw [rejects_eq hg, rejects_eq hg] at h
  simp only [Rule.run, hg _ _, Validator.run, Test.verdict, h]

/-- What the checks for duplicates and for membership find in a list of items. -/
structure UniqueItems (chain : Chain ρ) (notice : Check → Notice) (xs : List Value) : Prop where
  pairs : chain.rejects .uniq (notice .uniq) (.array xs) = false ↔
    ∀ (i j : Nat) (hi : i < xs.length) (hj : j < xs.length), i ≠ j →
      Value.same xs[i] xs[j] = false
  permuted : ∀ ys, xs.Perm ys →
    chain.rejects .uniq (notice .uniq) (.array ys) =
      chain.rejects .uniq (notice .uniq) (.array xs) ∧
    ∀ r, chain.made? (.check .uniq (notice .uniq)) = some r →
      Rule.run r chain.scope (.array ys) = Rule.run r chain.scope (.array xs)
  inserted : ∀ x : Value, x.WellFormed → ∀ front back, front ++ back = xs →
    (chain.rejects .uniq (notice .uniq) (.array (front ++ x :: back)) = true ↔
      chain.rejects .uniq (notice .uniq) (.array xs) = true ∨
        chain.rejects (.includes x) (notice (.includes x)) (.array xs) = false)

/-- In every state under the tag for arrays without a custom transformer. -/
theorem unique_items (hg : chain.generator.Keeps) (hk : chain.scope.kind = .array)
    (hn : chain.scope.custom = none) (notice : Check → Notice) {xs : List Value}
    (hw : ∀ v ∈ xs, v.WellFormed) : chain.UniqueItems notice xs where
  pairs := by rw [rejects_uniq hg hk hn, Duplicates.anySame_eq_false_iff_getElem hw]
  permuted ys hp := by
    have hr : chain.rejects .uniq (notice .uniq) (.array ys) =
        chain.rejects .uniq (notice .uniq) (.array xs) := by
      rw [rejects_uniq hg hk hn, rejects_uniq hg hk hn, Duplicates.anySame_perm hw hp]
    exact ⟨hr, fun r hm => run_made_check_congr hg hm hr⟩
  inserted x hx front back hxs := by
    subst hxs
    rw [rejects_uniq hg hk hn, rejects_uniq hg hk hn, rejects_includes hg hk hn,
      Duplicates.anySame_insert hw hx, Bool.or_eq_true, Bool.not_eq_false']

/-- Two orders of entries, two codes of NaN and both zeros, put in between and then reversed. -/
theorem unique_items_reversed :
    let chain := ((fresh Generator.describe .default).steps
      [.declare (.kind .array) .none, .check .uniq .none, .trim]).result
    let a := Value.object [("p", .number .nan), ("q", .number .zero)]
    let b := Value.object [("q", .number (.ofBits (2 ^ 63))), ("p", .number (.ofBits (2 ^ 64 - 1)))]
    chain.rejects (.includes b) .none (.array [.null, a]) = false ∧
      chain.rejects .uniq .none (.array [.null, b, a]) = true ∧
      chain.rejects .uniq .none (.array [a, b, .null]) = true := by
  intro chain a b
  have hg : chain.generator.Keeps := Generator.describe_keeps
  have ha : a.WellFormed := by
    simp [a, Value.WellFormed, Value.WellFormedEntries, Entries.Distinct, Entries.keys]
  have hb : b.WellFormed := by
    simp [b, Value.WellFormed, Value.WellFormedEntries, Entries.Distinct, Entries.keys]
  have hmember : chain.rejects (.includes b) .none (.array [.null, a]) = false := by
    rw [rejects_includes hg rfl rfl]
    decide +kernel
  have hpair : chain.UniqueItems (fun _ => .none) [.null, a] :=
    unique_items hg rfl rfl _ (by simp [Value.WellFormed, ha])
  have htriple : chain.UniqueItems (fun _ => .none) [.null, b, a] :=
    unique_items hg rfl rfl _ (by simp [Value.WellFormed, ha, hb])
  have htwice : chain.rejects .uniq .none (.array [.null, b, a]) = true :=
    (hpair.inserted b hb [.null] [a] rfl).mpr (.inr hmember)
  have hreversed := (htriple.permuted [a, b, .null] (List.reverse_perm [.null, b, a]).symm).1
  exact ⟨hmember, htwice, hreversed.trans htwice⟩

end Chain

end Assay
