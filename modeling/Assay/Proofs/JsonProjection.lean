import Assay.Proofs.Equality
import Assay.Proofs.KeyOrder
import Assay.Proofs.NearestDecimals
import Assay.Value.Interchange

/-!
# Values through JSON

The way to JSON and back is a projection of values: it leaves what `Projected` says, a second pass
changes nothing, and JSON does not tell a value from its image. The other way round, JSON whose
members ascend and whose numbers are in range comes back with the nearest doubles in place of the
numbers, and nothing else does.
-/

namespace Assay

-- ---------------------------------------------------------------------------
-- JSON with its invariant
-- ---------------------------------------------------------------------------

namespace Json

variable {ν μ : Type}

/-- Induction over the parts of a JSON value. -/
@[elab_as_elim]
theorem induction {motive : Json ν → Prop} (null : motive .null) (bool : ∀ b, motive (.bool b))
    (number : ∀ n, motive (.number n)) (string : ∀ s, motive (.string s))
    (array : ∀ items, (∀ j ∈ items, motive j) → motive (.array items))
    (object : ∀ members, (∀ e ∈ members, motive e.2) → motive (.object members)) :
    (j : Json ν) → motive j
  | .null => null
  | .bool b => bool b
  | .number n => number n
  | .string s => string s
  | .array items => array items fun j _ => induction null bool number string array object j
  | .object members => object members fun e he =>
    have := Entries.sizeOf_lt_of_mem he
    induction null bool number string array object e.2

mutual
/-- The members of every object inside ascend. -/
def Ordered : Json ν → Prop
  | .array items => OrderedItems items
  | .object members => Entries.Ascending members ∧ OrderedMembers members
  | _ => True
def OrderedItems : List (Json ν) → Prop
  | [] => True
  | j :: rest => Ordered j ∧ OrderedItems rest
def OrderedMembers : List (String × Json ν) → Prop
  | [] => True
  | (_, j) :: rest => Ordered j ∧ OrderedMembers rest
end

theorem ordered_array {items : List (Json ν)} :
    (array items).Ordered ↔ ∀ j ∈ items, j.Ordered := by
  rw [Ordered]
  induction items with
  | nil => simp [OrderedItems]
  | cons j rest ih => simp [OrderedItems, ih]

theorem ordered_object {members : List (String × Json ν)} :
    (object members).Ordered ↔ Entries.Ascending members ∧ ∀ e ∈ members, e.2.Ordered := by
  have h : OrderedMembers members ↔ ∀ e ∈ members, e.2.Ordered := by
    induction members with
    | nil => simp [OrderedMembers]
    | cons e rest ih => simp [OrderedMembers, ih]
  rw [Ordered, h]

mutual
/-- Every number inside is such. -/
def AllNumbers (p : ν → Prop) : Json ν → Prop
  | .number n => p n
  | .array items => AllNumbersItems p items
  | .object members => AllNumbersMembers p members
  | _ => True
def AllNumbersItems (p : ν → Prop) : List (Json ν) → Prop
  | [] => True
  | j :: rest => AllNumbers p j ∧ AllNumbersItems p rest
def AllNumbersMembers (p : ν → Prop) : List (String × Json ν) → Prop
  | [] => True
  | (_, j) :: rest => AllNumbers p j ∧ AllNumbersMembers p rest
end

theorem allNumbers_array {p : ν → Prop} {items : List (Json ν)} :
    (array items).AllNumbers p ↔ ∀ j ∈ items, j.AllNumbers p := by
  rw [AllNumbers]
  induction items with
  | nil => simp [AllNumbersItems]
  | cons j rest ih => simp [AllNumbersItems, ih]

theorem allNumbers_object {p : ν → Prop} {members : List (String × Json ν)} :
    (object members).AllNumbers p ↔ ∀ e ∈ members, e.2.AllNumbers p := by
  rw [AllNumbers]
  induction members with
  | nil => simp [AllNumbersMembers]
  | cons e rest ih => simp [AllNumbersMembers, ih]

theorem map_array (f : ν → μ) (items : List (Json ν)) :
    (array items).map f = .array (items.map fun j => j.map f) := by
  have h : mapItems f items = items.map fun j => j.map f := by
    induction items with
    | nil => rfl
    | cons j rest ih => rw [mapItems, ih, List.map_cons]
  rw [map, h]

theorem map_object (f : ν → μ) (members : Entries (Json ν)) :
    (object members).map f = .object (members.mapValues fun j => j.map f) := by
  have h : mapMembers f members = members.mapValues fun j => j.map f := by
    induction members with
    | nil => rfl
    | cons e rest ih => rw [mapMembers, ih, Entries.mapValues_cons]
  rw [map, h]

theorem ordered_map {f : ν → μ} {j : Json ν} : (j.map f).Ordered ↔ j.Ordered := by
  induction j using Json.induction with
  | array items ih =>
    rw [map_array, ordered_array, ordered_array, List.forall_mem_map]
    exact forall₂_congr ih
  | object members ih =>
    rw [map_object, ordered_object, ordered_object, Entries.ascending_mapValues,
      Entries.forall_mem_mapValues]
    exact and_congr_right fun _ => forall₂_congr ih
  | _ => simp [map, Ordered]

theorem allNumbers_map {f : ν → μ} {p : μ → Prop} {j : Json ν} :
    (j.map f).AllNumbers p ↔ j.AllNumbers fun n => p (f n) := by
  induction j using Json.induction with
  | array items ih =>
    rw [map_array, allNumbers_array, allNumbers_array, List.forall_mem_map]
    exact forall₂_congr ih
  | object members ih =>
    rw [map_object, allNumbers_object, allNumbers_object, Entries.forall_mem_mapValues]
    exact forall₂_congr ih
  | _ => simp [map, AllNumbers]

end Json

namespace Value

-- ---------------------------------------------------------------------------
-- The three maps on arrays and objects
-- ---------------------------------------------------------------------------

theorem toJson_array (items : List Value) : (array items).toJson = .array (items.map toJson) := by
  have h : toJsonItems items = items.map toJson := by
    induction items with
    | nil => rfl
    | cons v rest ih => rw [toJsonItems, ih, List.map_cons]
  rw [toJson, h]

theorem toJson_object (entries : Entries Value) :
    (object entries).toJson = .object (Entries.sorted (entries.mapValues toJson)) := by
  have h : toJsonEntries entries = entries.mapValues toJson := by
    induction entries with
    | nil => rfl
    | cons e rest ih => rw [toJsonEntries, ih, Entries.mapValues_cons]
  rw [toJson, h, Json.ofMembers]

theorem ofDoubles_array (items : List (Json Double)) :
    ofDoubles (.array items) = .array (items.map ofDoubles) := by
  have h : ofDoublesItems items = items.map ofDoubles := by
    induction items with
    | nil => rfl
    | cons j rest ih => rw [ofDoublesItems, ih, List.map_cons]
  rw [ofDoubles, h]

theorem ofDoubles_object_eq (members : Entries (Json Double)) :
    ofDoubles (.object members) = .ofEntries (members.mapValues ofDoubles) := by
  have h : ofDoublesMembers members = members.mapValues ofDoubles := by
    induction members with
    | nil => rfl
    | cons e rest ih => rw [ofDoublesMembers, ih, Entries.mapValues_cons]
  rw [ofDoubles, h]

theorem ofDoubles_object {members : Entries (Json Double)} (h : members.Distinct) :
    ofDoubles (.object members) = .object (members.mapValues ofDoubles) := by
  rw [ofDoubles_object_eq, ofEntries, Entries.ofList_of_distinct (Entries.distinct_mapValues.mpr h)]

theorem normalise_array (items : List Value) :
    (array items).normalise = .array (items.map normalise) := by
  have h : normaliseItems items = items.map normalise := by
    induction items with
    | nil => rfl
    | cons v rest ih => rw [normaliseItems, ih, List.map_cons]
  rw [normalise, h]

theorem normalise_object (entries : Entries Value) :
    (object entries).normalise = .object (Entries.sorted (entries.mapValues normalise)) := by
  have h : normaliseEntries entries = entries.mapValues normalise := by
    induction entries with
    | nil => rfl
    | cons e rest ih => rw [normaliseEntries, ih, Entries.mapValues_cons]
  rw [normalise, h]

-- ---------------------------------------------------------------------------
-- The projection
-- ---------------------------------------------------------------------------

theorem ofDoubles_toJson (v : Value) : ofDoubles v.toJson = v.normalise := by
  induction v using Value.induction with
  | number x =>
    rw [toJson, normalise]
    split <;> rfl
  | array items ih =>
    rw [toJson_array, ofDoubles_array, normalise_array, List.map_map]
    exact congrArg _ (List.map_congr_left ih)
  | object entries ih =>
    rw [toJson_object, ofDoubles_object (Entries.ascending_sorted _).distinct, normalise_object,
      ← Entries.sorted_mapValues, Entries.mapValues_mapValues, Entries.mapValues_congr ih]
  | _ => rfl

theorem toJson_normalise (v : Value) : v.normalise.toJson = v.toJson := by
  induction v using Value.induction with
  | number x =>
    rw [normalise]
    split
    · rfl
    · rename_i h
      rw [toJson, toJson, if_neg h]
  | array items ih =>
    rw [normalise_array, toJson_array, toJson_array, List.map_map]
    exact congrArg _ (List.map_congr_left ih)
  | object entries ih =>
    have hs := Entries.ascending_sorted (Entries.mapValues normalise entries)
    have ha := Entries.ascending_mapValues (f := toJson).mpr hs
    rw [normalise_object, toJson_object, toJson_object, Entries.sorted_of_ascending ha,
      ← Entries.sorted_mapValues, Entries.mapValues_mapValues, Entries.mapValues_congr ih]
  | _ => rfl

-- ---------------------------------------------------------------------------
-- What is left of a value
-- ---------------------------------------------------------------------------

mutual
/-- The second value is what JSON leaves of the first. -/
inductive Projected : Value → Value → Prop
  | undefined : Projected .undefined .null
  | null : Projected .null .null
  | bool (b : Bool) : Projected (.bool b) (.bool b)
  | number {x : Double} (h : x.isFinite = true) : Projected (.number x) (.number x)
  | notFinite {x : Double} (h : x.isFinite = false) : Projected (.number x) .null
  | bigint (n : Int) : Projected (.bigint n) (.string (toString n))
  | string (s : String) : Projected (.string s) (.string s)
  | symbol (s : Symbol) : Projected (.symbol s) .null
  | array {xs ys : List Value} : ProjectedItems xs ys → Projected (.array xs) (.array ys)
  | object {xs ys zs : List (String × Value)} : ProjectedMembers xs ys → ys.Perm zs →
      Entries.Ascending zs → Projected (.object xs) (.object zs)
inductive ProjectedItems : List Value → List Value → Prop
  | nil : ProjectedItems [] []
  | cons {x y : Value} {xs ys : List Value} : Projected x y → ProjectedItems xs ys →
      ProjectedItems (x :: xs) (y :: ys)
inductive ProjectedMembers : List (String × Value) → List (String × Value) → Prop
  | nil : ProjectedMembers [] []
  | cons {k : String} {x y : Value} {xs ys : List (String × Value)} : Projected x y →
      ProjectedMembers xs ys → ProjectedMembers ((k, x) :: xs) ((k, y) :: ys)
end

theorem projectedItems_map {f : Value → Value} {xs : List Value}
    (h : ∀ x ∈ xs, Projected x (f x)) : ProjectedItems xs (xs.map f) := by
  induction xs with
  | nil => exact .nil
  | cons x xs ih =>
    exact .cons (h x (List.mem_cons_self ..)) (ih fun y hy => h y (List.mem_cons_of_mem _ hy))

theorem projectedMembers_mapValues {f : Value → Value} {xs : Entries Value}
    (h : ∀ e ∈ xs, Projected e.2 (f e.2)) : ProjectedMembers xs (xs.mapValues f) := by
  induction xs with
  | nil => exact .nil
  | cons e xs ih =>
    exact .cons (h e (List.mem_cons_self ..)) (ih fun y hy => h y (List.mem_cons_of_mem _ hy))

theorem ProjectedItems.eq_map {f : Value → Value} {xs ys : List Value} (h : ProjectedItems xs ys)
    (hf : ∀ x ∈ xs, ∀ y, Projected x y → y = f x) : ys = xs.map f := by
  induction xs generalizing ys with
  | nil =>
    cases h
    rfl
  | cons x xs ih =>
    cases h with
    | cons hx h =>
      rw [hf x (List.mem_cons_self ..) _ hx, ih h fun y hy => hf y (List.mem_cons_of_mem _ hy),
        List.map_cons]

theorem ProjectedMembers.eq_mapValues {f : Value → Value} {xs ys : Entries Value}
    (h : ProjectedMembers xs ys) (hf : ∀ e ∈ xs, ∀ y, Projected e.2 y → y = f e.2) :
    ys = xs.mapValues f := by
  induction xs generalizing ys with
  | nil =>
    cases h
    rfl
  | cons e xs ih =>
    cases h with
    | cons hx h =>
      rw [hf _ (List.mem_cons_self ..) _ hx, ih h fun y hy => hf y (List.mem_cons_of_mem _ hy),
        Entries.mapValues_cons]

theorem projected_normalise {v : Value} (hv : v.WellFormed) : Projected v v.normalise := by
  induction v using Value.induction with
  | undefined => exact .undefined
  | null => exact .null
  | bool b => exact .bool b
  | number x =>
    rw [normalise]
    split
    · exact .number ‹_›
    · exact .notFinite (Bool.eq_false_iff.mpr ‹_›)
  | bigint n => exact .bigint n
  | string s => exact .string s
  | symbol s => exact .symbol s
  | array items ih =>
    rw [normalise_array]
    exact .array (projectedItems_map fun v hm => ih v hm (wellFormedItems_iff.mp hv v hm))
  | object entries ih =>
    have hd := Entries.distinct_mapValues (f := normalise).mpr hv.1
    rw [normalise_object]
    refine .object (projectedMembers_mapValues fun e hm => ?_) (Entries.sorted_perm hd).symm
      (Entries.ascending_sorted _)
    exact ih e hm (wellFormedEntries_iff.mp hv.2 e hm)

/-- Sorted entries are the only ascending ones there are, so nothing else is left of an object. -/
theorem Projected.eq_normalise {v w : Value} (h : Projected v w) : w = v.normalise := by
  induction v using Value.induction generalizing w with
  | number x =>
    rw [normalise]
    cases h with
    | number hx => rw [if_pos hx]
    | notFinite hx => rw [if_neg (Bool.eq_false_iff.mp hx)]
  | array items ih =>
    cases h with
    | array h => rw [normalise_array, h.eq_map fun v hm _ => ih v hm]
  | object entries ih =>
    cases h with
    | object h hp ha =>
      have hs := Entries.sorted_of_perm ha.distinct hp.symm
      rw [normalise_object, ← h.eq_mapValues fun e hm _ => ih e hm, ← hs,
        Entries.sorted_of_ascending ha]
  | _ =>
    cases h
    rfl

theorem projected_iff {v w : Value} (hv : v.WellFormed) :
    Projected v w ↔ ofDoubles v.toJson = w := by
  rw [ofDoubles_toJson]
  constructor
  · exact fun h => h.eq_normalise.symm
  · rintro rfl
    exact projected_normalise hv

-- ---------------------------------------------------------------------------
-- Values that JSON holds
-- ---------------------------------------------------------------------------

mutual
/-- Null, booleans, finite numbers and text, in arrays and objects. -/
def InJson : Value → Prop
  | .null | .bool _ | .string _ => True
  | .number x => x.isFinite = true
  | .array items => InJsonItems items
  | .object entries => InJsonEntries entries
  | .undefined | .bigint _ | .symbol _ => False
def InJsonItems : List Value → Prop
  | [] => True
  | v :: rest => InJson v ∧ InJsonItems rest
def InJsonEntries : List (String × Value) → Prop
  | [] => True
  | (_, v) :: rest => InJson v ∧ InJsonEntries rest
end

theorem inJson_array {items : List Value} : (array items).InJson ↔ ∀ v ∈ items, v.InJson := by
  rw [InJson]
  induction items with
  | nil => simp [InJsonItems]
  | cons v rest ih => simp [InJsonItems, ih]

theorem inJson_object {entries : List (String × Value)} :
    (object entries).InJson ↔ ∀ e ∈ entries, e.2.InJson := by
  rw [InJson]
  induction entries with
  | nil => simp [InJsonEntries]
  | cons e rest ih => simp [InJsonEntries, ih]

theorem inJson_normalise (v : Value) : v.normalise.InJson := by
  induction v using Value.induction with
  | number x =>
    rw [normalise]
    split
    · assumption
    · trivial
  | array items ih =>
    rw [normalise_array, inJson_array, List.forall_mem_map]
    exact ih
  | object entries ih =>
    rw [normalise_object, inJson_object]
    intro e he
    exact Entries.forall_mem_mapValues.mpr ih e (Entries.mem_of_mem_sorted he)
  | _ => trivial

/-- Both sides of a reordering have the same leaves. -/
theorem Reordered.inJson {v w : Value} (h : Reordered v w) (hw : w.InJson) : v.InJson := by
  induction v using Value.induction generalizing w with
  | array items ih =>
    cases h with
    | refl => exact hw
    | array h =>
      rw [inJson_array] at hw ⊢
      have hb : List.Forall₂ (fun x y => x.InJson ∧ Reordered x y) items _ :=
        forall₂_imp_mem h.forall₂ fun x y mx my hr => ⟨ih x mx hr (hw y my), hr⟩
      exact ((List.forall₂_and_left _ _).mp hb).1
  | object entries ih =>
    cases h with
    | refl => exact hw
    | object h hp =>
      rw [inJson_object] at hw ⊢
      rintro ⟨k, x⟩ hx
      obtain ⟨y, hy, hr⟩ := h.matched.2 k x hx
      exact ih _ hx hr (hw _ (hp.mem_iff.mp hy))
  | _ =>
    cases h
    exact hw

theorem reorderedItems_map {f : Value → Value} {xs : List Value}
    (h : ∀ x ∈ xs, Reordered x (f x)) : ReorderedItems xs (xs.map f) := by
  induction xs with
  | nil => exact .nil
  | cons x xs ih =>
    exact .cons (h x (List.mem_cons_self ..)) (ih fun y hy => h y (List.mem_cons_of_mem _ hy))

theorem reorderedMembers_mapValues {f : Value → Value} {xs : Entries Value}
    (h : ∀ e ∈ xs, Reordered e.2 (f e.2)) : ReorderedMembers xs (xs.mapValues f) := by
  induction xs with
  | nil => exact .nil
  | cons e xs ih =>
    exact .cons (h e (List.mem_cons_self ..)) (ih fun y hy => h y (List.mem_cons_of_mem _ hy))

theorem reordered_normalise {v : Value} (hv : v.WellFormed) (hj : v.InJson) :
    Reordered v v.normalise := by
  induction v using Value.induction with
  | number x =>
    have hx : x.isFinite = true := hj
    rw [normalise, if_pos hx]
    exact .refl _
  | array items ih =>
    rw [normalise_array]
    refine .array (reorderedItems_map fun v hm => ?_)
    exact ih v hm (wellFormedItems_iff.mp hv v hm) (inJson_array.mp hj v hm)
  | object entries ih =>
    have hd := Entries.distinct_mapValues (f := normalise).mpr hv.1
    rw [normalise_object]
    refine .object (reorderedMembers_mapValues fun e hm => ?_) (Entries.sorted_perm hd).symm
    exact ih e hm (wellFormedEntries_iff.mp hv.2 e hm) (inJson_object.mp hj e hm)
  | undefined | bigint | symbol => exact hj.elim
  | _ => exact .refl _

theorem reordered_normalise_iff {v : Value} (hv : v.WellFormed) :
    Reordered v v.normalise ↔ v.InJson :=
  ⟨fun h => h.inJson (inJson_normalise v), reordered_normalise hv⟩

theorem ReorderedItems.map_eq {β : Type} {f : Value → β} {xs ys : List Value}
    (h : ReorderedItems xs ys) (hf : ∀ x ∈ xs, ∀ y, Reordered x y → f y = f x) :
    ys.map f = xs.map f := by
  induction xs generalizing ys with
  | nil =>
    cases h
    rfl
  | cons x xs ih =>
    cases h with
    | cons hx h =>
      rw [List.map_cons, hf x (List.mem_cons_self ..) _ hx,
        ih h fun y hy => hf y (List.mem_cons_of_mem _ hy), List.map_cons]

theorem ReorderedMembers.mapValues_eq {β : Type} {f : Value → β} {xs ys : Entries Value}
    (h : ReorderedMembers xs ys) (hf : ∀ e ∈ xs, ∀ y, Reordered e.2 y → f y = f e.2) :
    ys.mapValues f = xs.mapValues f := by
  induction xs generalizing ys with
  | nil =>
    cases h
    rfl
  | cons e xs ih =>
    cases h with
    | cons hx h =>
      rw [Entries.mapValues_cons, hf _ (List.mem_cons_self ..) _ hx,
        ih h fun y hy => hf y (List.mem_cons_of_mem _ hy), Entries.mapValues_cons]

/-- JSON does not see the order of entries. -/
theorem Reordered.toJson_eq {v w : Value} (h : Reordered v w) (hv : v.WellFormed) :
    w.toJson = v.toJson := by
  induction v using Value.induction generalizing w with
  | array items ih =>
    have hi := wellFormedItems_iff.mp hv
    cases h with
    | refl => rfl
    | array h =>
      rw [toJson_array, toJson_array, h.map_eq fun v hm _ hr => ih v hm hr (hi v hm)]
  | object entries ih =>
    have hi := wellFormedEntries_iff.mp hv.2
    cases h with
    | refl => rfl
    | @object _ ys zs h hp =>
      have hm : Entries.mapValues toJson ys = Entries.mapValues toJson entries :=
        h.mapValues_eq fun e hm _ hr => ih e hm hr (hi e hm)
      have hd := Entries.distinct_mapValues (f := toJson).mpr hv.1
      have hz : (Entries.mapValues toJson entries).Perm (Entries.mapValues toJson zs) :=
        hm ▸ hp.map _
      rw [toJson_object, toJson_object, Entries.sorted_of_perm hd hz]
  | _ =>
    cases h
    rfl

-- ---------------------------------------------------------------------------
-- JSON through values
-- ---------------------------------------------------------------------------

theorem ordered_toJson (v : Value) : v.toJson.Ordered := by
  induction v using Value.induction with
  | number x =>
    rw [toJson]
    split <;> trivial
  | array items ih =>
    rw [toJson_array, Json.ordered_array, List.forall_mem_map]
    exact ih
  | object entries ih =>
    rw [toJson_object, Json.ordered_object]
    refine ⟨Entries.ascending_sorted _, fun e he => ?_⟩
    exact Entries.forall_mem_mapValues.mpr ih e (Entries.mem_of_mem_sorted he)
  | _ => trivial

theorem allNumbers_toJson (v : Value) : v.toJson.AllNumbers (·.isFinite = true) := by
  induction v using Value.induction with
  | number x =>
    rw [toJson]
    split
    · assumption
    · trivial
  | array items ih =>
    rw [toJson_array, Json.allNumbers_array, List.forall_mem_map]
    exact ih
  | object entries ih =>
    rw [toJson_object, Json.allNumbers_object]
    intro e he
    exact Entries.forall_mem_mapValues.mpr ih e (Entries.mem_of_mem_sorted he)
  | _ => trivial

theorem toJson_ofDoubles {j : Json Double} (ho : j.Ordered)
    (hf : j.AllNumbers (·.isFinite = true)) : (ofDoubles j).toJson = j := by
  induction j using Json.induction with
  | number x =>
    rw [ofDoubles, toJson]
    exact if_pos hf
  | array items ih =>
    rw [ofDoubles_array, toJson_array, List.map_map]
    refine congrArg _ ((List.map_congr_left fun j hm => ?_).trans (List.map_id _))
    exact ih j hm (Json.ordered_array.mp ho j hm) (Json.allNumbers_array.mp hf j hm)
  | object members ih =>
    obtain ⟨ha, ho⟩ := Json.ordered_object.mp ho
    have hi : ∀ e ∈ members, (ofDoubles e.2).toJson = e.2 := fun e hm =>
      ih e hm (ho e hm) (Json.allNumbers_object.mp hf e hm)
    rw [ofDoubles_object ha.distinct, toJson_object, Entries.mapValues_mapValues,
      Entries.mapValues_eq_self hi, Entries.sorted_of_ascending ha]
  | _ => rfl

theorem toJson_ofDoubles_iff {j : Json Double} :
    (ofDoubles j).toJson = j ↔ j.Ordered ∧ j.AllNumbers (·.isFinite = true) := by
  constructor
  · intro h
    rw [← h]
    exact ⟨ordered_toJson _, allNumbers_toJson _⟩
  · exact fun h => toJson_ofDoubles h.1 h.2

/-- Members in order and numbers in range are what comes back, rounded. -/
theorem toJson_ofJson_iff {j : Json Decimal} :
    (ofJson j).toJson = j.map Decimal.nearest ↔ j.Ordered ∧ j.AllNumbers Decimal.InRange := by
  have hrange : (fun d : Decimal => d.nearest.isFinite = true) = Decimal.InRange :=
    funext fun d => propext d.isFinite_nearest
  rw [ofJson, toJson_ofDoubles_iff, Json.ordered_map, Json.allNumbers_map, hrange]

-- ---------------------------------------------------------------------------
-- Out and back, back and out
-- ---------------------------------------------------------------------------

/-- The way to JSON and back leaves of a well-formed value what `Projected` says and nothing else; a
second pass changes nothing, neither in the value nor in its JSON. The value itself comes back, up
to the order of entries, exactly when JSON holds it, and its reorderings have the same JSON. JSON
comes back rounded exactly when its members are in order and its numbers in range, and a number in
range is rounded to the double nearest to it, a tie to the even one, with the sign it is written
with: no other double is that. -/
theorem json_projection {v : Value} (hv : v.WellFormed) :
    (∀ w, Projected v w ↔ ofDoubles v.toJson = w) ∧
    ofDoubles (ofDoubles v.toJson).toJson = ofDoubles v.toJson ∧
    (ofDoubles v.toJson).toJson = v.toJson ∧
    (Reordered v (ofDoubles v.toJson) ↔ v.InJson) ∧
    (∀ w, Reordered v w → w.toJson = v.toJson) ∧
    (∀ j : Json Decimal, (ofJson j).toJson = j.map Decimal.nearest ↔
      j.Ordered ∧ j.AllNumbers Decimal.InRange) ∧
    ∀ d : Decimal, d.InRange → ∀ x : Double,
      x = d.nearest ↔ x.Rounds d.real ∧ x.negative = d.negative := by
  have hj : (ofDoubles v.toJson).toJson = v.toJson := by rw [ofDoubles_toJson, toJson_normalise]
  refine ⟨fun w => projected_iff hv, congrArg ofDoubles hj, hj, ?_,
    fun w h => h.toJson_eq hv, fun j => toJson_ofJson_iff, fun d hd x => Decimal.eq_nearest_iff hd⟩
  rw [ofDoubles_toJson]
  exact reordered_normalise_iff hv

/-- Entries out of order over an array with a big integer, a negative zero and undefined, and an
integer half way between two doubles. -/
theorem json_projection_nested :
    ofDoubles (toJson (.object [("b", .array [.bigint (-12), .number (Double.ofBits (2 ^ 63)),
        .undefined]), ("a", .number Double.nan)])) =
      .object [("a", .null), ("b", .array [.string "-12", .number (Double.ofBits (2 ^ 63)),
        .null])] ∧
    ¬Reordered (.array [.undefined]) (ofDoubles (toJson (.array [.undefined]))) ∧
    (ofJson (.array [.number ⟨true, 9007199254740993, 0⟩])).toJson =
      .array [.number (Double.ofInt (-9007199254740992))] ∧
    (Double.ofInt (-9007199254740992)).Rounds (-9007199254740993) := by
  have hv : (object [("b", array [bigint (-12), number (Double.ofBits (2 ^ 63)), undefined]),
      ("a", number Double.nan)]).WellFormed := by
    simp [WellFormed, WellFormedItems, WellFormedEntries, Entries.Distinct, Entries.keys]
  have hu : (array [undefined]).WellFormed := ⟨trivial, trivial⟩
  obtain ⟨-, -, -, hback, -, hjson, hnearest⟩ := json_projection hu
  let half : Decimal := ⟨true, 9007199254740993, 0⟩
  have hn : half.nearest = Double.ofInt (-9007199254740992) := by decide +kernel
  have hrange : half.InRange := half.isFinite_nearest.mp (by decide +kernel)
  have hreal : half.real = -9007199254740993 := by simp [half, Decimal.real, Decimal.magnitude]
  refine ⟨((json_projection hv).1 _).mp ?_, ?_, ?_, ?_⟩
  · have hb : Projected (array [bigint (-12), number (Double.ofBits (2 ^ 63)), undefined])
        (array [string "-12", number (Double.ofBits (2 ^ 63)), null]) :=
      .array (.cons (.bigint (-12)) (.cons (.number (by decide)) (.cons .undefined .nil)))
    exact .object (.cons hb (.cons (.notFinite (by decide)) .nil)) (.swap _ _ _) (by decide)
  · rw [hback]
    exact fun h => h.1
  · rw [(hjson (.array [.number half])).mpr ⟨⟨trivial, trivial⟩, hrange, trivial⟩, Json.map_array,
      List.map_singleton, Json.map, hn]
  · rw [← hreal]
    exact ((hnearest half hrange _).mp hn.symm).1

end Value

end Assay
