import Assay.Proofs.JsonProjection
import Mathlib.Data.List.Induction

/-!
# Objects and the entries they are made of

An object has each key of its list of entries once, where the list has it first and with the value
the list has for it last. Every way to build a value passes through such lists or through maps with
keys of their own, so the well-formed values are those that can be built.
-/

namespace Assay

-- ---------------------------------------------------------------------------
-- The last entry under a key
-- ---------------------------------------------------------------------------

namespace Entries

variable {α : Type} {key k : String} {value v x : α} {l : List (String × α)}

/-- The last entry under the key has the value. -/
def LastUnder (l : List (String × α)) (key : String) (value : α) : Prop :=
  ∃ before after, l = before ++ (key, value) :: after ∧ key ∉ keys after

theorem not_lastUnder_nil : ¬LastUnder [] key value := by
  rintro ⟨before, after, h, -⟩
  exact List.append_ne_nil_of_right_ne_nil before (List.cons_ne_nil _ after) h.symm

theorem LastUnder.mem (h : LastUnder l key value) : (key, value) ∈ l := by
  obtain ⟨before, after, rfl, -⟩ := h
  exact List.mem_append_right _ (List.mem_cons_self ..)

theorem keys_concat (l : List (String × α)) (key : String) (value : α) :
    keys (l ++ [(key, value)]) = keys l ++ [key] :=
  List.map_append

theorem lastUnder_concat : LastUnder (l ++ [(key, x)]) k value ↔
    (k = key ∧ value = x) ∨ (k ≠ key ∧ LastUnder l k value) := by
  constructor
  · rintro ⟨before, after, h, hk⟩
    obtain rfl | ⟨after, e, rfl⟩ := after.eq_nil_or_concat'
    · obtain ⟨rfl, rfl⟩ := Prod.mk.inj (List.append_singleton_inj.mp h).2
      exact .inl ⟨rfl, rfl⟩
    · rw [← List.cons_append, ← List.append_assoc, List.append_singleton_inj] at h
      rw [← h.2, keys_concat, List.mem_append, List.mem_singleton, not_or] at hk
      exact .inr ⟨hk.2, before, after, h.1, hk.1⟩
  · rintro (⟨rfl, rfl⟩ | ⟨hne, before, after, rfl, hk⟩)
    · exact ⟨l, [], rfl, List.not_mem_nil⟩
    · refine ⟨before, after ++ [(key, x)], by rw [List.append_assoc, List.cons_append], ?_⟩
      rw [keys_concat, List.mem_append, List.mem_singleton]
      exact not_or.mpr ⟨hk, hne⟩

-- ---------------------------------------------------------------------------
-- A list made into entries
-- ---------------------------------------------------------------------------

theorem ofList_concat (l : List (String × α)) (key : String) (value : α) :
    ofList (l ++ [(key, value)]) = (ofList l).put key value := by
  rw [ofList, List.foldl_append]
  rfl

theorem get?_ofList : (ofList l).get? k = some value ↔ LastUnder l k value := by
  induction l using List.reverseRecOn with
  | nil => exact iff_of_false nofun not_lastUnder_nil
  | append_singleton l e ih =>
    rw [ofList_concat, get?_put, lastUnder_concat, ← ih]
    by_cases hk : k = e.1
    · simp [hk, eq_comm]
    · simp [hk]

theorem mem_keys_ofList : k ∈ (ofList l).keys ↔ k ∈ keys l := by
  induction l using List.reverseRecOn with
  | nil => exact .rfl
  | append_singleton l e ih =>
    rw [ofList_concat, keys_put, keys_concat, List.mem_append, List.mem_singleton, ← ih]
    split
    · rename_i he
      exact ⟨.inl, fun h => h.elim id fun hk => hk ▸ he⟩
    · rw [List.mem_append, List.mem_singleton]

/-- Each key is placed after the keys that come before it for the first time. -/
theorem firsts_ofList (l : List (String × α)) :
    (ofList l).keys.Pairwise fun j k => (keys l).idxOf j < (keys l).idxOf k := by
  induction l using List.reverseRecOn with
  | nil => exact .nil
  | append_singleton l e ih =>
    have hold : (ofList l).keys.Pairwise fun j k =>
        (keys l ++ [e.1]).idxOf j < (keys l ++ [e.1]).idxOf k := by
      refine ih.imp_of_mem fun hj hk hlt => ?_
      rwa [List.idxOf_append_of_mem (mem_keys_ofList.mp hj),
        List.idxOf_append_of_mem (mem_keys_ofList.mp hk)]
    rw [ofList_concat, keys_put, keys_concat]
    split
    · exact hold
    · rename_i hnew
      refine List.pairwise_append.mpr ⟨hold, List.pairwise_singleton _ _, fun j hj k hk => ?_⟩
      have hj := mem_keys_ofList.mp hj
      have hlt := List.idxOf_lt_length_of_mem hj
      rw [List.mem_singleton.mp hk, List.idxOf_append_of_mem hj,
        List.idxOf_append_of_notMem (mt mem_keys_ofList.mpr hnew)]
      omega

theorem LastUnder.unique (h : LastUnder l k value) (h' : LastUnder l k x) : value = x :=
  Option.some.inj ((get?_ofList.mpr h).symm.trans (get?_ofList.mpr h'))

theorem mem_keys_iff_lastUnder : k ∈ keys l ↔ ∃ value, LastUnder l k value := by
  have hk : k ∈ keys l ↔ (ofList l).get? k ≠ none := by
    rw [ne_eq, get?_eq_none_iff, not_not, mem_keys_ofList]
  rw [hk, Option.ne_none_iff_exists']
  exact exists_congr fun _ => get?_ofList

-- ---------------------------------------------------------------------------
-- Entries that no step gives a key twice
-- ---------------------------------------------------------------------------

/-- What a map with keys can become: entries are put into it, taken out and moved. -/
inductive Grown : Entries α → Prop
  | empty : Grown []
  | put {es : Entries α} (h : Grown es) (key : String) (value : α) : Grown (es.put key value)
  | remove {es es' : Entries α} (h : Grown es) (hs : es'.Sublist es) : Grown es'
  | reorder {es es' : Entries α} (h : Grown es) (hp : es.Perm es') : Grown es'

theorem Grown.distinct {es : Entries α} (h : Grown es) : es.Distinct := by
  induction h with
  | empty => exact List.nodup_nil
  | put _ key value ih => exact distinct_put ih key value
  | remove _ hs ih => exact ih.sublist (hs.map Prod.fst)
  | reorder _ hp ih => exact ih.perm hp

end Entries

namespace Value

open Entries (LastUnder)

variable {l l' : List (String × Value)}

-- ---------------------------------------------------------------------------
-- Objects of a list of entries
-- ---------------------------------------------------------------------------

/-- The object has the keys of the entries, once and by their first places, and the last values. -/
structure MadeOf (v : Value) (l : List (String × Value)) : Prop where
  keys : ∃ es, v.asObject? = some es ∧ es.keys.Nodup ∧
    (∀ k, k ∈ es.keys ↔ k ∈ Entries.keys l) ∧
    es.keys.Pairwise fun j k => (Entries.keys l).idxOf j < (Entries.keys l).idxOf k
  member : ∀ k w, v.get? k = some w ↔ LastUnder l k w
  absent : ∀ k, v.get? k = none ↔ k ∉ Entries.keys l

theorem ofEntries_madeOf (l : List (String × Value)) : MadeOf (ofEntries l) l := by
  constructor
  case keys =>
    exact ⟨_, rfl, Entries.distinct_ofList l, fun _ => Entries.mem_keys_ofList,
      Entries.firsts_ofList l⟩
  case member => exact fun _ _ => Entries.get?_ofList
  case absent =>
    intro k
    rw [← Entries.mem_keys_ofList, ← Entries.get?_eq_none_iff]
    rfl

/-- Equal objects have the same keys, and equal last values under each. -/
theorem ofEntries_beq_iff (h : ∀ e ∈ l, e.2.WellFormed) (h' : ∀ e ∈ l', e.2.WellFormed) :
    (ofEntries l == ofEntries l') = true ↔
      (∀ k, k ∈ Entries.keys l ↔ k ∈ Entries.keys l') ∧
        ∀ k x y, LastUnder l k x → LastUnder l' k y → (x == y) = true := by
  have hd := Entries.distinct_ofList l'
  refine (equals_object_iff hd).trans ?_
  rw [Entries.matched_iff_get? (Entries.distinct_ofList l) hd]
  simp only [Entries.mem_keys_ofList, Entries.get?_ofList]
  refine and_congr_right fun _ => ?_
  constructor
  · intro hm k x y hx hy
    exact equals_symm (h' _ hy.mem) (h _ hx.mem) (hm k x y hx hy)
  · intro hm k x y hx hy
    exact equals_symm (h _ hx.mem) (h' _ hy.mem) (hm k x y hx hy)

theorem ofEntries_beq_iff_nanFree (h : ∀ e ∈ l, e.2.WellFormed) (h' : ∀ e ∈ l', e.2.WellFormed)
    (hs : ∀ k v, LastUnder l k v ↔ LastUnder l' k v) :
    (ofEntries l == ofEntries l') = true ↔ ∀ k v, LastUnder l k v → v.NaNFree := by
  have hk : ∀ k, k ∈ Entries.keys l ↔ k ∈ Entries.keys l' := by
    intro k
    rw [Entries.mem_keys_iff_lastUnder, Entries.mem_keys_iff_lastUnder]
    exact exists_congr (hs k)
  rw [ofEntries_beq_iff h h', and_iff_right hk]
  constructor
  · intro hm k v hv
    exact (equals_self_iff (h _ hv.mem)).mp (hm k v v hv ((hs k v).mp hv))
  · intro hn k x y hx hy
    obtain rfl := hx.unique ((hs k y).mpr hy)
    exact (equals_self_iff (h _ hx.mem)).mpr (hn k x hx)

/-- Objects of two lists compare by keys and last values; if these are the same, only a NaN tells
them apart. -/
structure ComparedByLast (l l' : List (String × Value)) : Prop where
  beq_iff : (ofEntries l == ofEntries l') = true ↔
    (∀ k, k ∈ Entries.keys l ↔ k ∈ Entries.keys l') ∧
      ∀ k x y, LastUnder l k x → LastUnder l' k y → (x == y) = true
  same_last : (∀ k v, LastUnder l k v ↔ LastUnder l' k v) →
    ((ofEntries l == ofEntries l') = true ↔ ∀ k v, LastUnder l k v → v.NaNFree)

-- ---------------------------------------------------------------------------
-- Values that can be built
-- ---------------------------------------------------------------------------

/-- The values that constructors and conversions give, of parts that they gave before. -/
inductive Built : Value → Prop
  | undefined : Built .undefined
  | null : Built .null
  | bool (b : Bool) : Built (.bool b)
  | number (x : Double) : Built (.number x)
  | bigint (n : Int) : Built (.bigint n)
  | string (s : String) : Built (.string s)
  | symbol (s : Symbol) : Built (.symbol s)
  | array {items : List Value} (h : ∀ v ∈ items, Built v) : Built (.array items)
  | ofEntries {l : List (String × Value)} (h : ∀ e ∈ l, Built e.2) : Built (.ofEntries l)
  | object {es : Entries Value} (hg : es.Grown) (h : ∀ e ∈ es, Built e.2) : Built (.object es)
  | ofOption {v : Option Value} (h : ∀ w ∈ v, Built w) : Built (.ofOption v)
  | ofDoubles (j : Json Double) : Built (.ofDoubles j)

theorem wellFormed_ofEntries (h : ∀ e ∈ l, e.2.WellFormed) : (ofEntries l).WellFormed := by
  refine ⟨Entries.distinct_ofList l, wellFormedEntries_iff.mpr fun e he => h e ?_⟩
  exact (Entries.get?_ofList.mp (Entries.get?_of_mem (Entries.distinct_ofList l) he)).mem

theorem wellFormed_ofDoubles (j : Json Double) : (ofDoubles j).WellFormed := by
  induction j using Json.induction with
  | array items ih =>
    rw [ofDoubles_array]
    exact wellFormedItems_iff.mpr (List.forall_mem_map.mpr ih)
  | object members ih =>
    rw [ofDoubles_object_eq]
    exact wellFormed_ofEntries (Entries.forall_mem_mapValues.mpr ih)
  | _ => trivial

theorem Built.wellFormed {v : Value} (h : v.Built) : v.WellFormed := by
  induction h with
  | array _ ih => exact wellFormedItems_iff.mpr ih
  | ofEntries _ ih => exact wellFormed_ofEntries ih
  | object hg _ ih => exact ⟨hg.distinct, wellFormedEntries_iff.mpr ih⟩
  | @ofOption v _ ih =>
    cases v with
    | none => trivial
    | some w => exact ih w rfl
  | ofDoubles j => exact wellFormed_ofDoubles j
  | _ => trivial

/-- Every value that is well formed can be built: its objects are made of their own entries. -/
theorem built_iff {v : Value} : v.Built ↔ v.WellFormed := by
  refine ⟨Built.wellFormed, fun hv => ?_⟩
  induction v using Value.induction with
  | undefined => exact .undefined
  | null => exact .null
  | bool b => exact .bool b
  | number x => exact .number x
  | bigint n => exact .bigint n
  | string s => exact .string s
  | symbol s => exact .symbol s
  | array items ih => exact .array fun v hm => ih v hm (wellFormedItems_iff.mp hv v hm)
  | object entries ih =>
    rw [← Entries.ofList_of_distinct hv.1]
    exact .ofEntries fun e hm => ih e hm (wellFormedEntries_iff.mp hv.2 e hm)

/-- An object of any entries has their keys, once and in the order of first appearance, and under
each the last value. Objects are equal if their keys and last values are, so two lists with the same
last values give equal objects exactly when these hold no NaN, whatever the order and the
duplicates. What can be built has distinct keys at every depth, and nothing else has. -/
theorem object_entries :
    (∀ l, MadeOf (ofEntries l) l) ∧
    (∀ l l', (∀ e ∈ l, e.2.Built) → (∀ e ∈ l', e.2.Built) → ComparedByLast l l') ∧
    ∀ v : Value, v.Built ↔ v.WellFormed := by
  refine ⟨ofEntries_madeOf, ?_, fun v => built_iff⟩
  intro l l' h h'
  have hw : ∀ e ∈ l, e.2.WellFormed := fun e he => (h e he).wellFormed
  have hw' : ∀ e ∈ l', e.2.WellFormed := fun e he => (h' e he).wellFormed
  exact ⟨ofEntries_beq_iff hw hw', ofEntries_beq_iff_nanFree hw hw'⟩

/-- A key that comes back with another value, and lists that agree on the last values only. -/
theorem object_entries_duplicates :
    let inner := ofEntries [("k", .null), ("k", .bool false)]
    let l := [("b", .null), ("a", inner), ("b", .bool true)]
    let l' := [("a", .undefined), ("b", .bool true), ("a", inner)]
    (ofEntries l).get? "b" = some (.bool true) ∧ (ofEntries l).get? "c" = none ∧
      (ofEntries l == ofEntries l') = true ∧ (array [ofEntries l']).WellFormed := by
  intro inner l l'
  obtain ⟨hm, he, hb⟩ := object_entries
  have hi : inner.Built := .ofEntries (by simp [Built.null, Built.bool])
  have hl : ∀ e ∈ l, e.2.Built := by simp [l, Built.null, Built.bool, hi]
  have hl' : ∀ e ∈ l', e.2.Built := by simp [l', Built.undefined, Built.bool, hi]
  have hn : ∀ e ∈ l, e.2.NaNFree := by
    simp [l, inner, ofEntries, Entries.ofList, Entries.put, NaNFree, NaNFreeEntries]
  have hs : ∀ k v, LastUnder l k v ↔ LastUnder l' k v := by
    intro k v
    have ho : Entries.ofList l = [("b", .bool true), ("a", inner)] := rfl
    have ho' : Entries.ofList l' = [("a", inner), ("b", .bool true)] := rfl
    rw [← Entries.get?_ofList, ← Entries.get?_ofList, ho, ho']
    by_cases hk : "b" = k
    · simp [← hk, Entries.get?]
    · simp [hk, Entries.get?]
  refine ⟨?_, ?_, ((he l l' hl hl').same_last hs).mpr fun k v hv => hn _ hv.mem, ?_⟩
  · exact ((hm l).member _ _).mpr ⟨[("b", .null), ("a", inner)], [], rfl, List.not_mem_nil⟩
  · exact ((hm l).absent _).mpr (by decide)
  · exact (hb _).mp (.array (by simpa using Built.ofEntries hl'))

end Value

end Assay
