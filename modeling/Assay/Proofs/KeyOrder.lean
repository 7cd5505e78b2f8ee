import Assay.Entries
import Mathlib.Data.List.Pairwise
import Mathlib.Data.String.Basic

/-!
# Entries in the order of their keys

What the two ways of building entries from a list give: `sorted` always ascends, and on distinct
keys both keep every entry. Ascending entries are determined by which entries they hold, so on
distinct keys `sorted` does not see the order it is given.
-/

namespace Assay.Entries

variable {α β γ : Type}

-- ---------------------------------------------------------------------------
-- Values replaced under their keys
-- ---------------------------------------------------------------------------

def mapValues (f : α → β) (es : Entries α) : Entries β := es.map fun e => (e.1, f e.2)

@[simp]
theorem mapValues_cons (f : α → β) (k : String) (v : α) (es : Entries α) :
    mapValues f ((k, v) :: es) = (k, f v) :: mapValues f es := rfl

@[simp]
theorem keys_mapValues (f : α → β) (es : Entries α) : (es.mapValues f).keys = es.keys := by
  simp [mapValues, keys, Function.comp_def]

theorem mapValues_mapValues (g : β → γ) (f : α → β) (es : Entries α) :
    (es.mapValues f).mapValues g = es.mapValues fun v => g (f v) := by
  simp [mapValues, Function.comp_def]

theorem mapValues_congr {f g : α → β} {es : Entries α} (h : ∀ e ∈ es, f e.2 = g e.2) :
    es.mapValues f = es.mapValues g := by
  refine List.map_congr_left fun e he => ?_
  rw [h e he]

theorem mapValues_eq_self {f : α → α} {es : Entries α} (h : ∀ e ∈ es, f e.2 = e.2) :
    es.mapValues f = es := by
  rw [mapValues, List.map_congr_left (g := id), List.map_id]
  intro e he
  rw [h e he]
  rfl

theorem forall_mem_mapValues {f : α → β} {es : Entries α} {p : β → Prop} :
    (∀ e ∈ es.mapValues f, p e.2) ↔ ∀ e ∈ es, p (f e.2) :=
  List.forall_mem_map

theorem distinct_mapValues {f : α → β} {es : Entries α} :
    (es.mapValues f).Distinct ↔ es.Distinct := by
  rw [Distinct, keys_mapValues, Distinct]

-- ---------------------------------------------------------------------------
-- Ascending keys
-- ---------------------------------------------------------------------------

/-- Each key is below those after it. -/
def Ascending (es : Entries α) : Prop := es.keys.Pairwise (· < ·)

instance (es : Entries α) : Decidable es.Ascending :=
  inferInstanceAs (Decidable (es.keys.Pairwise (· < ·)))

theorem ascending_cons {k : String} {v : α} {es : Entries α} :
    Ascending ((k, v) :: es) ↔ (∀ k' ∈ es.keys, k < k') ∧ es.Ascending :=
  List.pairwise_cons

theorem ascending_mapValues {f : α → β} {es : Entries α} :
    (es.mapValues f).Ascending ↔ es.Ascending := by
  rw [Ascending, keys_mapValues, Ascending]

theorem Ascending.distinct {es : Entries α} (h : es.Ascending) : es.Distinct :=
  h.imp fun hlt => ne_of_lt hlt

/-- One place for each entry: two ascending orders of the same entries are one. -/
theorem Ascending.eq_of_perm {es es' : Entries α} (h : es.Ascending) (h' : es'.Ascending)
    (hp : es.Perm es') : es = es' := by
  refine List.Perm.eq_of_pairwise ?_ (List.pairwise_map.mp h)
    (List.pairwise_map.mp h') hp
  intro a b _ _ hab hba
  exact absurd hba (lt_asymm hab)

theorem Distinct.perm {es es' : Entries α} (h : es.Distinct) (hp : es.Perm es') : es'.Distinct :=
  (hp.map Prod.fst).nodup_iff.mp h

-- ---------------------------------------------------------------------------
-- One entry put in its place
-- ---------------------------------------------------------------------------

theorem mem_keys_putSorted {key k : String} {value : α} {es : Entries α} :
    k ∈ (es.putSorted key value).keys ↔ k = key ∨ k ∈ es.keys := by
  induction es with
  | nil => simp [putSorted, keys]
  | cons e es ih =>
    obtain ⟨k', v⟩ := e
    simp only [keys] at ih
    by_cases he : k' = key
    · simp [putSorted, keys, he]
    · by_cases hlt : key < k'
      · simp [putSorted, keys, he, hlt]
      · simp [putSorted, keys, he, hlt, ih, or_left_comm]

theorem Ascending.putSorted {es : Entries α} (h : es.Ascending) (key : String) (value : α) :
    (es.putSorted key value).Ascending := by
  induction es with
  | nil => exact List.pairwise_singleton _ _
  | cons e es ih =>
    obtain ⟨k, v⟩ := e
    obtain ⟨hk, hes⟩ := ascending_cons.mp h
    rw [Entries.putSorted]
    split
    · exact ascending_cons.mpr ⟨hk, hes⟩
    · rename_i hne
      split
      · rename_i hlt
        refine ascending_cons.mpr ⟨?_, h⟩
        intro k' hm
        rcases List.mem_cons.mp hm with rfl | hm
        · exact hlt
        · exact hlt.trans (hk k' hm)
      · rename_i hnlt
        refine ascending_cons.mpr ⟨?_, ih hes⟩
        intro k' hm
        rcases mem_keys_putSorted.mp hm with rfl | hm
        · exact lt_of_le_of_ne (not_lt.mp hnlt) hne
        · exact hk k' hm

theorem mem_of_mem_putSorted {key : String} {value : α} {es : Entries α} {e : String × α}
    (h : e ∈ es.putSorted key value) : e = (key, value) ∨ e ∈ es := by
  induction es with
  | nil => exact .inl (List.mem_singleton.mp h)
  | cons e' es ih =>
    obtain ⟨k, v⟩ := e'
    rw [putSorted] at h
    split at h
    · rename_i he
      rw [he] at h
      exact (List.mem_cons.mp h).imp_right (List.mem_cons_of_mem _)
    · split at h
      · exact List.mem_cons.mp h
      · rcases List.mem_cons.mp h with rfl | hm
        · exact .inr (List.mem_cons_self ..)
        · exact (ih hm).imp_right (List.mem_cons_of_mem _)

theorem putSorted_perm {key : String} {value : α} {es : Entries α} (h : key ∉ es.keys) :
    (es.putSorted key value).Perm ((key, value) :: es) := by
  induction es with
  | nil => exact .refl _
  | cons e es ih =>
    obtain ⟨k, v⟩ := e
    have hne : k ≠ key := fun he => h (by simp [keys, he])
    have hes : key ∉ keys es := fun hm => h (List.mem_cons_of_mem _ hm)
    rw [putSorted, if_neg hne]
    split
    · exact .refl _
    · exact ((ih hes).cons _).trans (.swap _ _ _)

theorem mapValues_putSorted (f : α → β) (key : String) (value : α) (es : Entries α) :
    (es.putSorted key value).mapValues f = (es.mapValues f).putSorted key (f value) := by
  induction es with
  | nil => rfl
  | cons e es ih =>
    obtain ⟨k, v⟩ := e
    by_cases he : k = key
    · simp [putSorted, he]
    · by_cases hlt : key < k
      · simp [putSorted, he, hlt]
      · simp [putSorted, he, hlt, ih]

theorem put_of_not_mem {key : String} {value : α} {es : Entries α} (h : key ∉ es.keys) :
    es.put key value = es ++ [(key, value)] := by
  induction es with
  | nil => rfl
  | cons e es ih =>
    obtain ⟨k, v⟩ := e
    have hne : k ≠ key := fun he => h (by simp [keys, he])
    have hes : key ∉ keys es := fun hm => h (List.mem_cons_of_mem _ hm)
    rw [put, if_neg hne, ih hes]
    rfl

-- ---------------------------------------------------------------------------
-- A whole list
-- ---------------------------------------------------------------------------

theorem ascending_sorted (l : List (String × α)) : (sorted l).Ascending := by
  have step : ∀ (l : List (String × α)) (es : Entries α), es.Ascending →
      (l.foldl (fun es (k, v) => es.putSorted k v) es).Ascending := by
    intro l
    induction l with
    | nil => exact fun _ h => h
    | cons e l ih => exact fun es h => ih _ (h.putSorted e.1 e.2)
  exact step l [] .nil

theorem mem_of_mem_sorted {l : List (String × α)} {e : String × α} (h : e ∈ sorted l) : e ∈ l := by
  have step : ∀ (l : List (String × α)) (es : Entries α),
      e ∈ l.foldl (fun es (k, v) => es.putSorted k v) es → e ∈ es ∨ e ∈ l := by
    intro l
    induction l with
    | nil => exact fun _ h => .inl h
    | cons e' l ih =>
      intro es h
      rcases ih _ h with hm | hm
      · rcases mem_of_mem_putSorted hm with rfl | hm
        · exact .inr (List.mem_cons_self ..)
        · exact .inl hm
      · exact .inr (List.mem_cons_of_mem _ hm)
  exact (step l [] h).resolve_left (List.not_mem_nil)

theorem sorted_mapValues (f : α → β) (l : List (String × α)) :
    sorted (mapValues f l) = (sorted l).mapValues f := by
  have step : ∀ (l : List (String × α)) (es : Entries α),
      (mapValues f l).foldl (fun es (k, v) => es.putSorted k v) (es.mapValues f) =
        (l.foldl (fun es (k, v) => es.putSorted k v) es).mapValues f := by
    intro l
    induction l with
    | nil => exact fun _ => rfl
    | cons e l ih =>
      intro es
      obtain ⟨k, v⟩ := e
      rw [mapValues_cons, List.foldl_cons, List.foldl_cons, ← ih, mapValues_putSorted]
  exact step l []

theorem not_mem_keys_of_distinct {es l : Entries α} {e : String × α} (h : Distinct (es ++ e :: l)) :
    e.1 ∉ es.keys := by
  have hm : (e.1 :: keys (es ++ l)).Nodup := h.perm List.perm_middle
  have hn := (List.nodup_cons.mp hm).1
  rw [keys, List.map_append, List.mem_append] at hn
  exact fun hk => hn (.inl hk)

/-- The entries placed so far and those to come have distinct keys between them. -/
theorem sorted_perm {l : List (String × α)} (h : Distinct l) : (sorted l).Perm l := by
  have step : ∀ (l : List (String × α)) (es : Entries α), Distinct (es ++ l) →
      (l.foldl (fun es (k, v) => es.putSorted k v) es).Perm (es ++ l) := by
    intro l
    induction l with
    | nil =>
      intro es _
      rw [List.append_nil]
      exact .refl _
    | cons e l ih =>
      intro es h
      have hp : (es ++ e :: l).Perm (es.putSorted e.1 e.2 ++ l) :=
        List.perm_middle.trans ((putSorted_perm (not_mem_keys_of_distinct h)).append_right l).symm
      exact (ih _ (h.perm hp)).trans hp.symm
  exact step l [] h

theorem ofList_of_distinct {l : List (String × α)} (h : Distinct l) : ofList l = l := by
  have step : ∀ (l : List (String × α)) (es : Entries α), Distinct (es ++ l) →
      l.foldl (fun es (k, v) => es.put k v) es = es ++ l := by
    intro l
    induction l with
    | nil => exact fun es _ => (List.append_nil es).symm
    | cons e l ih =>
      intro es h
      have hput : es.put e.1 e.2 = es ++ [e] := put_of_not_mem (not_mem_keys_of_distinct h)
      rw [List.append_cons] at h ⊢
      rw [List.foldl_cons, ← ih _ h, ← hput]
  exact step l [] h

theorem sorted_of_ascending {l : List (String × α)} (h : Ascending l) : sorted l = l :=
  (ascending_sorted l).eq_of_perm h (sorted_perm h.distinct)

theorem sorted_of_perm {l l' : List (String × α)} (h : Distinct l) (hp : l.Perm l') :
    sorted l = sorted l' := by
  refine (ascending_sorted l).eq_of_perm (ascending_sorted l') ?_
  exact (sorted_perm h).trans (hp.trans (sorted_perm (h.perm hp)).symm)

end Assay.Entries
