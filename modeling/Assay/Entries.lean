/-!
# Entries under keys

A list of values under text keys, at most one for each key. `ofList` keeps the order of first
appearance, `sorted` orders by key; in both a later value takes the place of an earlier one.
-/

namespace Assay

abbrev Entries (α : Type u) := List (String × α)

namespace Entries

variable {α : Type u}

def keys (es : Entries α) : List String := es.map Prod.fst

def get? (key : String) : Entries α → Option α
  | [] => none
  | (k, v) :: rest => if k = key then some v else get? key rest

/-- Replaces the value under the key where it stands, or adds it at the end. -/
def put (key : String) (value : α) : Entries α → Entries α
  | [] => [(key, value)]
  | (k, v) :: rest => if k = key then (k, value) :: rest else (k, v) :: put key value rest

def ofList (l : List (String × α)) : Entries α := l.foldl (fun es (k, v) => es.put k v) []

/-- Replaces the value under the key, or inserts it before the first greater key. -/
def putSorted (key : String) (value : α) : Entries α → Entries α
  | [] => [(key, value)]
  | (k, v) :: rest =>
    if k = key then (k, value) :: rest
    else if key < k then (key, value) :: (k, v) :: rest
    else (k, v) :: putSorted key value rest

def sorted (l : List (String × α)) : Entries α := l.foldl (fun es (k, v) => es.putSorted k v) []

/-- No key twice. -/
def Distinct (es : Entries α) : Prop := es.keys.Nodup

instance (es : Entries α) : Decidable es.Distinct := inferInstanceAs (Decidable es.keys.Nodup)

theorem mem_of_get? {es : Entries α} {key : String} {value : α} (h : es.get? key = some value) :
    (key, value) ∈ es := by
  induction es with
  | nil => simp [get?] at h
  | cons e rest ih =>
    obtain ⟨k, v⟩ := e
    simp only [get?] at h
    split at h
    · rename_i hk
      cases h
      simp [hk]
    · exact List.mem_cons_of_mem _ (ih h)

theorem sizeOf_lt_of_mem [SizeOf α] {es : Entries α} {e : String × α} (h : e ∈ es) :
    sizeOf e.2 < sizeOf es := by
  obtain ⟨k, v⟩ := e
  have hs := List.sizeOf_lt_of_mem h
  simp only [Prod.mk.sizeOf_spec] at hs ⊢
  omega

theorem sizeOf_lt_of_get? [SizeOf α] {es : Entries α} {key : String} {value : α}
    (h : es.get? key = some value) : sizeOf value < sizeOf es :=
  sizeOf_lt_of_mem (mem_of_get? h)

theorem get?_of_mem {es : Entries α} (hd : es.Distinct) {key : String} {value : α}
    (h : (key, value) ∈ es) : es.get? key = some value := by
  induction es with
  | nil => cases h
  | cons e rest ih =>
    obtain ⟨k, v⟩ := e
    obtain ⟨hk, hrest⟩ := List.nodup_cons.mp hd
    rcases List.mem_cons.mp h with he | hm
    · cases he
      simp [get?]
    · have hne : k ≠ key := by
        rintro rfl
        exact hk (List.mem_map.mpr ⟨_, hm, rfl⟩)
      simp [get?, hne, ih hrest hm]

theorem get?_eq_some_iff {es : Entries α} (hd : es.Distinct) {key : String} {value : α} :
    es.get? key = some value ↔ (key, value) ∈ es :=
  ⟨mem_of_get?, get?_of_mem hd⟩

theorem get?_eq_none_iff {es : Entries α} {key : String} :
    es.get? key = none ↔ key ∉ es.keys := by
  induction es with
  | nil => simp [get?, keys]
  | cons e rest ih =>
    obtain ⟨k, v⟩ := e
    by_cases h : k = key
    · simp [get?, keys, h]
    · have hk : keys ((k, v) :: rest) = k :: keys rest := rfl
      rw [get?, if_neg h, ih, hk, List.mem_cons, not_or, and_iff_right (Ne.symm h)]

theorem get?_put (key k : String) (value : α) (es : Entries α) :
    (es.put key value).get? k = if k = key then some value else es.get? k := by
  induction es with
  | nil => simp [put, get?, eq_comm]
  | cons e rest ih =>
    obtain ⟨k', v⟩ := e
    by_cases h : k' = key
    · subst h
      by_cases hk : k = k'
      · subst hk; simp [put, get?]
      · simp [put, get?, hk, Ne.symm hk]
    · by_cases hk : k' = k
      · subst hk; simp [put, get?, h]
      · simp [put, get?, h, hk, ih]

theorem keys_put (key : String) (value : α) (es : Entries α) :
    (es.put key value).keys = if key ∈ es.keys then es.keys else es.keys ++ [key] := by
  induction es with
  | nil => simp [put, keys]
  | cons e rest ih =>
    obtain ⟨k, v⟩ := e
    by_cases h : k = key
    · subst h; simp [put, keys]
    · have hk : (put key value ((k, v) :: rest)).keys = k :: keys (put key value rest) := by
        simp [put, keys, h]
      rw [hk, ih]
      by_cases hm : key ∈ keys rest
      · simp_all [keys]
      · have : ¬ key = k := fun e => h e.symm
        simp_all [keys]

theorem distinct_put {es : Entries α} (h : es.Distinct) (key : String) (value : α) :
    (es.put key value).Distinct := by
  unfold Distinct at h ⊢
  rw [keys_put]
  split
  · exact h
  · rename_i hm
    exact List.nodup_append.2 ⟨h, by simp, fun a ha b hb e => hm (by simp_all)⟩

theorem distinct_ofList (l : List (String × α)) : (ofList l).Distinct := by
  have step : ∀ (l : List (String × α)) (es : Entries α), es.Distinct →
      (l.foldl (fun es (k, v) => es.put k v) es).Distinct := by
    intro l
    induction l with
    | nil => exact fun _ h => h
    | cons e rest ih => exact fun es h => ih _ (distinct_put h e.1 e.2)
  exact step l [] (by simp [Distinct, keys])

end Entries

end Assay
