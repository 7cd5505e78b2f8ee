import Assay.Value.Equality
import Mathlib

/-!
# The two equalities of values

`same` is an equivalence on well-formed values and does not see the order of entries; `equals` is
`same` on the values without NaN. The comparison of objects looks up the keys of one side only, so
each passage from one side to the other rests on `Matched.flip`.
-/

namespace Assay

-- ---------------------------------------------------------------------------
-- Entries matched by key
-- ---------------------------------------------------------------------------

namespace Entries

variable {α : Type} {R S : α → α → Prop} {xs ys zs : Entries α}

/-- As many entries, and under each key of the first the second has a related member. -/
def Matched (R : α → α → Prop) (xs ys : Entries α) : Prop :=
  xs.length = ys.length ∧ ∀ k x, (k, x) ∈ xs → ∃ y, (k, y) ∈ ys ∧ R x y

theorem all_get?_iff {f : α → α → Bool} (hy : ys.Distinct) :
    (xs.length == ys.length && xs.all fun e => (get? e.1 ys).any (f e.2)) = true ↔
      Matched (fun x y => f x y = true) xs ys := by
  simp [Matched, Option.any_eq_true, get?_eq_some_iff hy]

theorem Matched.keys_subset (h : Matched R xs ys) : xs.keys ⊆ ys.keys := by
  intro k hk
  obtain ⟨⟨k', x⟩, hm, rfl⟩ := List.mem_map.mp hk
  obtain ⟨y, hy, _⟩ := h.2 _ _ hm
  exact List.mem_map.mpr ⟨_, hy, rfl⟩

/-- Distinct keys of the first are all of those of the second, by their number. -/
theorem Matched.keys_perm (hx : xs.Distinct) (h : Matched R xs ys) : xs.keys.Perm ys.keys :=
  (List.Nodup.subperm hx h.keys_subset).perm_of_length_le (by simp [keys, h.1])

theorem Matched.flip (hx : xs.Distinct) (hy : ys.Distinct) (h : Matched R xs ys) :
    Matched (fun y x => R x y) ys xs := by
  refine ⟨h.1.symm, ?_⟩
  intro k y hm
  have hk : k ∈ xs.keys := (h.keys_perm hx).mem_iff.mpr (List.mem_map.mpr ⟨_, hm, rfl⟩)
  obtain ⟨⟨k', x⟩, hx', rfl⟩ := List.mem_map.mp hk
  obtain ⟨y', hy', hr⟩ := h.2 _ _ hx'
  have he := (get?_of_mem hy hm).symm.trans (get?_of_mem hy hy')
  cases he
  exact ⟨x, hx', hr⟩

theorem matched_iff_get? (hx : xs.Distinct) (hy : ys.Distinct) :
    Matched R xs ys ↔ (∀ k, k ∈ xs.keys ↔ k ∈ ys.keys) ∧
      ∀ k x y, xs.get? k = some x → ys.get? k = some y → R x y := by
  constructor
  · intro h
    refine ⟨fun k => (h.keys_perm hx).mem_iff, fun k x y hkx hky => ?_⟩
    obtain ⟨y', hm, hr⟩ := h.2 k x (mem_of_get? hkx)
    rw [get?_of_mem hy hm] at hky
    cases hky
    exact hr
  · rintro ⟨hk, hr⟩
    have hp : xs.keys.Perm ys.keys := (List.perm_ext_iff_of_nodup hx hy).mpr hk
    refine ⟨by simpa [keys] using hp.length_eq, fun k x hm => ?_⟩
    obtain ⟨⟨k', y⟩, hy', rfl⟩ := List.mem_map.mp ((hk k).mp (List.mem_map.mpr ⟨_, hm, rfl⟩))
    exact ⟨y, hy', hr k' x y (get?_of_mem hx hm) (get?_of_mem hy hy')⟩

theorem Matched.imp (h : Matched R xs ys)
    (hi : ∀ k x y, (k, x) ∈ xs → (k, y) ∈ ys → R x y → S x y) : Matched S xs ys := by
  refine ⟨h.1, ?_⟩
  intro k x hx
  obtain ⟨y, hy, hr⟩ := h.2 k x hx
  exact ⟨y, hy, hi k x y hx hy hr⟩

theorem Matched.trans {T : α → α → Prop} (h : Matched R xs ys) (h' : Matched S ys zs)
    (ht : ∀ k x y z, (k, x) ∈ xs → (k, y) ∈ ys → (k, z) ∈ zs → R x y → S y z → T x z) :
    Matched T xs zs := by
  refine ⟨h.1.trans h'.1, ?_⟩
  intro k x hx
  obtain ⟨y, hy, hr⟩ := h.2 k x hx
  obtain ⟨z, hz, hs⟩ := h'.2 k y hy
  exact ⟨z, hz, ht k x y z hx hy hz hr hs⟩

theorem matched_and_left {P : α → Prop} :
    Matched (fun x y => P x ∧ R x y) xs ys ↔ (∀ e ∈ xs, P e.2) ∧ Matched R xs ys := by
  constructor
  · intro h
    refine ⟨?_, h.imp fun _ _ _ _ _ hr => hr.2⟩
    rintro ⟨k, x⟩ hx
    obtain ⟨_, _, hp, _⟩ := h.2 k x hx
    exact hp
  · rintro ⟨hp, h⟩
    exact h.imp fun k x y hx _ hr => ⟨hp (k, x) hx, hr⟩

end Entries

-- ---------------------------------------------------------------------------
-- Items matched by place
-- ---------------------------------------------------------------------------

theorem forall₂_imp_mem {α : Type} {R S : α → α → Prop} {xs ys : List α}
    (h : List.Forall₂ R xs ys) (hi : ∀ x y, x ∈ xs → y ∈ ys → R x y → S x y) :
    List.Forall₂ S xs ys := by
  induction h with
  | nil => exact .nil
  | cons hr _ ih =>
    refine .cons (hi _ _ (by simp) (by simp) hr) (ih fun x y hx hy => ?_)
    exact hi x y (List.mem_cons_of_mem _ hx) (List.mem_cons_of_mem _ hy)

theorem forall₂_trans_mem {α : Type} {R S T : α → α → Prop} {xs ys zs : List α}
    (h : List.Forall₂ R xs ys) (h' : List.Forall₂ S ys zs)
    (ht : ∀ x y z, x ∈ xs → y ∈ ys → z ∈ zs → R x y → S y z → T x z) :
    List.Forall₂ T xs zs := by
  induction h generalizing zs with
  | nil =>
    cases h'
    exact .nil
  | cons hr _ ih =>
    cases h' with
    | cons hs h' =>
      refine .cons (ht _ _ _ (by simp) (by simp) (by simp) hr hs) (ih h' fun x y z hx hy hz => ?_)
      exact ht x y z (List.mem_cons_of_mem _ hx) (List.mem_cons_of_mem _ hy)
        (List.mem_cons_of_mem _ hz)

-- ---------------------------------------------------------------------------
-- Both comparisons on arrays and objects
-- ---------------------------------------------------------------------------

namespace Value

open Entries (Matched)

theorem same_array_iff {xs ys : List Value} :
    same (.array xs) (.array ys) = true ↔ List.Forall₂ (fun x y => same x y = true) xs ys := by
  rw [same]
  induction xs generalizing ys with
  | nil => cases ys <;> simp [sameItems]
  | cons x xs ih => cases ys <;> simp [sameItems, ih]

theorem equals_array_iff {xs ys : List Value} :
    equals (.array xs) (.array ys) = true ↔ List.Forall₂ (fun x y => equals x y = true) xs ys := by
  rw [equals]
  induction xs generalizing ys with
  | nil => cases ys <;> simp [equalsItems]
  | cons x xs ih => cases ys <;> simp [equalsItems, ih]

theorem sameEntries_eq_all (xs ys : List (String × Value)) :
    sameEntries xs ys = xs.all fun e => (Entries.get? e.1 ys).any (same e.2) := by
  induction xs with
  | nil => rfl
  | cons e rest ih =>
    rw [sameEntries, ih, List.all_cons]
    cases Entries.get? e.1 ys <;> rfl

theorem equalsEntries_eq_all (xs ys : List (String × Value)) :
    equalsEntries xs ys = xs.all fun e => (Entries.get? e.1 ys).any (equals · e.2) := by
  induction xs with
  | nil => rw [equalsEntries, List.all_nil]
  | cons e rest ih =>
    rw [equalsEntries, ih, List.all_cons]
    split
    · rename_i y hy
      simp [hy]
    · rename_i hn
      simp [hn]

theorem same_object_iff {xs ys : List (String × Value)} (hy : Entries.Distinct ys) :
    same (.object xs) (.object ys) = true ↔ Matched (fun x y => same x y = true) xs ys := by
  rw [same, sameEntries_eq_all, Entries.all_get?_iff hy]

/-- The member of the second object stands on the left. -/
theorem equals_object_iff {xs ys : List (String × Value)} (hy : Entries.Distinct ys) :
    equals (.object xs) (.object ys) = true ↔ Matched (fun x y => equals y x = true) xs ys := by
  rw [equals, equalsEntries_eq_all, Entries.all_get?_iff (f := fun x y => equals y x) hy]

-- ---------------------------------------------------------------------------
-- `same` is an equivalence
-- ---------------------------------------------------------------------------

theorem same_number_iff {x y : Double} :
    same (.number x) (.number y) = true ↔ x.value? = y.value? := by
  rw [same, Double.numEq_or_isNaN_iff]

theorem same_number_left {x : Double} {b : Value} (h : same (.number x) b = true) :
    ∃ y, b = .number y := by
  cases b <;> simp_all [same, equals]

theorem same_array_left {xs : List Value} {b : Value} (h : same (.array xs) b = true) :
    ∃ ys, b = .array ys := by
  cases b <;> simp_all [same, equals]

theorem same_object_left {xs : List (String × Value)} {b : Value}
    (h : same (.object xs) b = true) : ∃ ys, b = .object ys := by
  cases b <;> simp_all [same, equals]

theorem same_refl {a : Value} (ha : a.WellFormed) : same a a = true := by
  induction a using Value.induction with
  | number x => exact same_number_iff.mpr rfl
  | array xs ih =>
    have hi := wellFormedItems_iff.mp ha
    exact same_array_iff.mpr (List.forall₂_same.mpr fun x hx => ih x hx (hi x hx))
  | object xs ih =>
    obtain ⟨hd, hm⟩ := ha
    have hi := wellFormedEntries_iff.mp hm
    refine (same_object_iff hd).mpr ⟨rfl, fun k x hx => ⟨x, hx, ih _ hx (hi _ hx)⟩⟩
  | _ => simp [same, equals, Symbol.is]

theorem same_symm {a b : Value} (ha : a.WellFormed) (hb : b.WellFormed) (h : same a b = true) :
    same b a = true := by
  induction a using Value.induction generalizing b with
  | number x =>
    obtain ⟨y, rfl⟩ := same_number_left h
    exact same_number_iff.mpr (same_number_iff.mp h).symm
  | array xs ih =>
    obtain ⟨ys, rfl⟩ := same_array_left h
    have hx := wellFormedItems_iff.mp ha
    have hy := wellFormedItems_iff.mp hb
    have hf : List.Forall₂ (fun x y => same y x = true) xs ys :=
      forall₂_imp_mem (same_array_iff.mp h) fun x y mx my => ih x mx (hx x mx) (hy y my)
    exact same_array_iff.mpr hf.flip
  | object xs ih =>
    obtain ⟨ys, rfl⟩ := same_object_left h
    have hx := wellFormedEntries_iff.mp ha.2
    have hy := wellFormedEntries_iff.mp hb.2
    have hf : Matched (fun x y => same y x = true) xs ys :=
      ((same_object_iff hb.1).mp h).imp fun k x y mx my => ih _ mx (hx _ mx) (hy _ my)
    exact (same_object_iff ha.1).mpr (hf.flip ha.1 hb.1)
  | _ => cases b <;> simp_all [same, equals, Symbol.is]

theorem same_trans {a b c : Value} (ha : a.WellFormed) (hb : b.WellFormed) (hc : c.WellFormed)
    (hab : same a b = true) (hbc : same b c = true) : same a c = true := by
  induction a using Value.induction generalizing b c with
  | number x =>
    obtain ⟨y, rfl⟩ := same_number_left hab
    obtain ⟨z, rfl⟩ := same_number_left hbc
    exact same_number_iff.mpr ((same_number_iff.mp hab).trans (same_number_iff.mp hbc))
  | array xs ih =>
    obtain ⟨ys, rfl⟩ := same_array_left hab
    obtain ⟨zs, rfl⟩ := same_array_left hbc
    have hx := wellFormedItems_iff.mp ha
    have hy := wellFormedItems_iff.mp hb
    have hz := wellFormedItems_iff.mp hc
    exact same_array_iff.mpr <| forall₂_trans_mem (same_array_iff.mp hab) (same_array_iff.mp hbc)
      fun x y z mx my mz => ih x mx (hx x mx) (hy y my) (hz z mz)
  | object xs ih =>
    obtain ⟨ys, rfl⟩ := same_object_left hab
    obtain ⟨zs, rfl⟩ := same_object_left hbc
    have hx := wellFormedEntries_iff.mp ha.2
    have hy := wellFormedEntries_iff.mp hb.2
    have hz := wellFormedEntries_iff.mp hc.2
    have hm := (same_object_iff hb.1).mp hab
    have hn := (same_object_iff hc.1).mp hbc
    exact (same_object_iff hc.1).mpr <| hm.trans hn
      fun k x y z mx my mz => ih _ mx (hx _ mx) (hy _ my) (hz _ mz)
  | _ =>
    cases b <;> simp [same, equals] at hab
    all_goals cases c <;> simp_all [same, equals, Symbol.is]

mutual
/-- The second value is the first with the entries of objects in other orders, at any depth. -/
inductive Reordered : Value → Value → Prop
  | refl (v : Value) : Reordered v v
  | array {xs ys : List Value} : ReorderedItems xs ys → Reordered (.array xs) (.array ys)
  | object {xs ys zs : List (String × Value)} : ReorderedMembers xs ys → ys.Perm zs →
      Reordered (.object xs) (.object zs)
inductive ReorderedItems : List Value → List Value → Prop
  | nil : ReorderedItems [] []
  | cons {x y : Value} {xs ys : List Value} : Reordered x y → ReorderedItems xs ys →
      ReorderedItems (x :: xs) (y :: ys)
inductive ReorderedMembers : List (String × Value) → List (String × Value) → Prop
  | nil : ReorderedMembers [] []
  | cons {k : String} {x y : Value} {xs ys : List (String × Value)} : Reordered x y →
      ReorderedMembers xs ys → ReorderedMembers ((k, x) :: xs) ((k, y) :: ys)
end

theorem ReorderedItems.forall₂ {xs ys : List Value} (h : ReorderedItems xs ys) :
    List.Forall₂ Reordered xs ys := by
  induction xs generalizing ys with
  | nil =>
    cases h
    exact .nil
  | cons x xs ih =>
    cases h with
    | cons hr h => exact .cons hr (ih h)

theorem ReorderedMembers.keys_eq {xs ys : List (String × Value)} (h : ReorderedMembers xs ys) :
    Entries.keys ys = Entries.keys xs := by
  induction xs generalizing ys with
  | nil =>
    cases h
    rfl
  | cons e xs ih =>
    cases h with
    | cons _ h => exact congrArg (_ :: ·) (ih h)

theorem ReorderedMembers.matched {xs ys : List (String × Value)} (h : ReorderedMembers xs ys) :
    Matched Reordered xs ys := by
  induction xs generalizing ys with
  | nil =>
    cases h
    exact ⟨rfl, fun _ _ hm => nomatch hm⟩
  | cons e xs ih =>
    cases h with
    | @cons k x y _ ys hr h =>
      obtain ⟨hl, hm⟩ := ih h
      refine ⟨congrArg (· + 1) hl, ?_⟩
      intro k' x' hx
      rcases List.mem_cons.mp hx with he | hx
      · cases he
        exact ⟨y, by simp, hr⟩
      · obtain ⟨y', hy', hr'⟩ := hm k' x' hx
        exact ⟨y', List.mem_cons_of_mem _ hy', hr'⟩

theorem same_of_reordered {a b : Value} (ha : a.WellFormed) (h : Reordered a b) :
    same a b = true := by
  induction a using Value.induction generalizing b with
  | array xs ih =>
    cases h with
    | refl => exact same_refl ha
    | array h =>
      have hx := wellFormedItems_iff.mp ha
      exact same_array_iff.mpr (forall₂_imp_mem h.forall₂ fun x y mx _ => ih x mx (hx x mx))
  | object xs ih =>
    cases h with
    | refl => exact same_refl ha
    | @object _ ys zs h hp =>
      have hx := wellFormedEntries_iff.mp ha.2
      have hk : (Entries.keys zs).Nodup := by
        have hperm : (Entries.keys ys).Perm (Entries.keys zs) := hp.map _
        exact hperm.nodup_iff.mp (h.keys_eq ▸ ha.1)
      have hm : Matched Reordered xs zs := by
        obtain ⟨hl, hm⟩ := h.matched
        refine ⟨hl.trans hp.length_eq, fun k x mx => ?_⟩
        obtain ⟨y, my, hr⟩ := hm k x mx
        exact ⟨y, hp.mem_iff.mp my, hr⟩
      exact (same_object_iff hk).mpr (hm.imp fun k x y mx _ => ih _ mx (hx _ mx))
  | _ =>
    cases h
    exact same_refl ha

/-- On well-formed values `same` is reflexive, whatever NaN is inside, symmetric and transitive, and
a value is the same as each of its reorderings. -/
theorem same_equivalence {a b c : Value} (ha : a.WellFormed) (hb : b.WellFormed)
    (hc : c.WellFormed) :
    same a a = true ∧ (same a b = true → same b a = true) ∧
    (same a b = true → same b c = true → same a c = true) ∧
    ∀ d, Reordered a d → same a d = true :=
  ⟨same_refl ha, same_symm ha hb, same_trans ha hb hc, fun _ => same_of_reordered ha⟩

/-- Two codes of NaN, both zeros and two orders of entries, below an array. -/
theorem same_equivalence_nested :
    same (.array [.object [("p", .number Double.zero),
        ("q", .number (Double.ofBits (2 ^ 64 - 1)))]])
      (.array [.object [("q", .number Double.nan), ("p", .number (Double.ofBits (2 ^ 63)))]])
      = true := by
  have ha : (array [object [("q", number Double.nan),
      ("p", number (Double.ofBits (2 ^ 63)))]]).WellFormed := by
    simp [WellFormed, WellFormedItems, WellFormedEntries, Entries.Distinct, Entries.keys]
  have hb : (array [object [("p", number Double.zero),
      ("q", number (Double.ofBits (2 ^ 64 - 1)))]]).WellFormed := by
    simp [WellFormed, WellFormedItems, WellFormedEntries, Entries.Distinct, Entries.keys]
  exact (same_equivalence ha hb ha).2.1 (by decide +kernel)

-- ---------------------------------------------------------------------------
-- `equals` is `same` without NaN
-- ---------------------------------------------------------------------------

theorem equals_number_iff {x y : Double} :
    equals (.number x) (.number y) = true ↔
      same (.number x) (.number y) = true ∧ x.isNaN = false := by
  rw [equals, Double.numEq_iff, same_number_iff]

theorem nanFree_of_same {a b : Value} (ha : a.WellFormed) (hb : b.WellFormed)
    (h : same a b = true) (hn : a.NaNFree) : b.NaNFree := by
  induction a using Value.induction generalizing b with
  | number x =>
    obtain ⟨y, rfl⟩ := same_number_left h
    have hv := same_number_iff.mp h
    have hx : x.isNaN = false := hn
    show y.isNaN = false
    rw [← Bool.not_eq_true, ← Double.value?_eq_none_iff, ← hv, Double.value?_eq_none_iff, hx]
    exact Bool.false_ne_true
  | array xs ih =>
    obtain ⟨ys, rfl⟩ := same_array_left h
    have hx := wellFormedItems_iff.mp ha
    have hy := wellFormedItems_iff.mp hb
    have hn := nanFreeItems_iff.mp hn
    have hf : List.Forall₂ (fun x y => y.NaNFree ∧ same x y = true) xs ys :=
      forall₂_imp_mem (same_array_iff.mp h) fun x y mx my hs =>
        ⟨ih x mx (hx x mx) (hy y my) hs (hn x mx), hs⟩
    exact nanFreeItems_iff.mpr ((List.forall₂_and_left ys xs).mp hf.flip).1
  | object xs ih =>
    obtain ⟨ys, rfl⟩ := same_object_left h
    have hx := wellFormedEntries_iff.mp ha.2
    have hy := wellFormedEntries_iff.mp hb.2
    have hn := nanFreeEntries_iff.mp hn
    have hf : Matched (fun x y => y.NaNFree ∧ same x y = true) xs ys :=
      ((same_object_iff hb.1).mp h).imp fun k x y mx my hs =>
        ⟨ih _ mx (hx _ mx) (hy _ my) hs (hn _ mx), hs⟩
    exact nanFreeEntries_iff.mpr (Entries.matched_and_left.mp (hf.flip ha.1 hb.1)).1
  | _ => cases b <;> simp_all [same, equals, NaNFree]

theorem same_and_nanFree_comm {a b : Value} (ha : a.WellFormed) (hb : b.WellFormed) :
    same a b = true ∧ a.NaNFree ↔ same b a = true ∧ b.NaNFree := by
  constructor
  · rintro ⟨h, hn⟩
    exact ⟨same_symm ha hb h, nanFree_of_same ha hb h hn⟩
  · rintro ⟨h, hn⟩
    exact ⟨same_symm hb ha h, nanFree_of_same hb ha h hn⟩

/-- The induction is on both sizes: members of objects change sides in `equals`. -/
theorem equals_iff {a b : Value} (ha : a.WellFormed) (hb : b.WellFormed) :
    equals a b = true ↔ same a b = true ∧ a.NaNFree := by
  induction hn : sizeOf a + sizeOf b using Nat.strongRecOn generalizing a b with
  | ind n ih =>
    cases a with
    | number x =>
      cases b with
      | number y => exact equals_number_iff
      | _ => simp [same, equals]
    | array xs =>
      cases b with
      | array ys =>
        have hx := wellFormedItems_iff.mp ha
        have hy := wellFormedItems_iff.mp hb
        have hi : ∀ x y, x ∈ xs → y ∈ ys →
            (equals x y = true ↔ x.NaNFree ∧ same x y = true) := by
          intro x y mx my
          have hlx := List.sizeOf_lt_of_mem mx
          have hly := List.sizeOf_lt_of_mem my
          rw [and_comm]
          refine ih _ ?_ (hx x mx) (hy y my) rfl
          simp only [← hn, array.sizeOf_spec]
          omega
        rw [equals_array_iff, same_array_iff, NaNFree, nanFreeItems_iff, and_comm,
          ← List.forall₂_and_left]
        exact ⟨fun h => forall₂_imp_mem h fun x y mx my => (hi x y mx my).mp,
          fun h => forall₂_imp_mem h fun x y mx my => (hi x y mx my).mpr⟩
      | _ => simp [same, equals]
    | object xs =>
      cases b with
      | object ys =>
        have hx := wellFormedEntries_iff.mp ha.2
        have hy := wellFormedEntries_iff.mp hb.2
        have hi : ∀ k x y, (k, x) ∈ xs → (k, y) ∈ ys →
            (equals y x = true ↔ x.NaNFree ∧ same x y = true) := by
          intro k x y mx my
          have hlx : sizeOf x < sizeOf xs := Entries.sizeOf_lt_of_mem mx
          have hly : sizeOf y < sizeOf ys := Entries.sizeOf_lt_of_mem my
          rw [and_comm, same_and_nanFree_comm (hx _ mx) (hy _ my)]
          refine ih _ ?_ (hy _ my) (hx _ mx) rfl
          simp only [← hn, object.sizeOf_spec]
          omega
        rw [equals_object_iff hb.1, same_object_iff hb.1, NaNFree, nanFreeEntries_iff, and_comm,
          ← Entries.matched_and_left]
        exact ⟨fun h => h.imp fun k x y mx my => (hi k x y mx my).mp,
          fun h => h.imp fun k x y mx my => (hi k x y mx my).mpr⟩
      | _ => simp [same, equals]
    | _ => cases b <;> simp [same, equals, NaNFree]

theorem equals_symm {a b : Value} (ha : a.WellFormed) (hb : b.WellFormed)
    (h : equals a b = true) : equals b a = true := by
  rw [equals_iff hb ha, ← same_and_nanFree_comm ha hb, ← equals_iff ha hb]
  exact h

theorem equals_trans {a b c : Value} (ha : a.WellFormed) (hb : b.WellFormed) (hc : c.WellFormed)
    (hab : equals a b = true) (hbc : equals b c = true) : equals a c = true := by
  obtain ⟨hs, hn⟩ := (equals_iff ha hb).mp hab
  obtain ⟨ht, _⟩ := (equals_iff hb hc).mp hbc
  exact (equals_iff ha hc).mpr ⟨same_trans ha hb hc hs ht, hn⟩

theorem equals_self_iff {a : Value} (ha : a.WellFormed) : equals a a = true ↔ a.NaNFree := by
  rw [equals_iff ha ha]
  exact and_iff_right (same_refl ha)

/-- On well-formed values `==` is `same` from a value without NaN: symmetric, transitive, and
reflexive on the values without NaN alone. -/
theorem beq_same_off_nan {a b c : Value} (ha : a.WellFormed) (hb : b.WellFormed)
    (hc : c.WellFormed) :
    ((a == b) = true ↔ same a b = true ∧ a.NaNFree) ∧
    ((a == b) = true → (b == a) = true) ∧
    ((a == b) = true → (b == c) = true → (a == c) = true) ∧
    ((a == a) = true ↔ a.NaNFree) :=
  ⟨equals_iff ha hb, equals_symm ha hb, equals_trans ha hb hc, equals_self_iff ha⟩

/-- A NaN below an object that is the same as another and does not even equal itself. -/
theorem beq_same_off_nan_nested :
    same (.object [("p", .null), ("q", .array [.number Double.nan])])
      (.object [("q", .array [.number Double.nan]), ("p", .null)]) = true ∧
    ¬(object [("p", .null), ("q", .array [.number Double.nan])] ==
      object [("p", .null), ("q", .array [.number Double.nan])]) = true := by
  have ha : (object [("p", null), ("q", array [number Double.nan])]).WellFormed := by
    simp [WellFormed, WellFormedItems, WellFormedEntries, Entries.Distinct, Entries.keys]
  refine ⟨by decide +kernel, ?_⟩
  rw [(beq_same_off_nan ha ha ha).2.2.2]
  simp only [NaNFree, NaNFreeEntries, NaNFreeItems]
  decide

end Value

end Assay
