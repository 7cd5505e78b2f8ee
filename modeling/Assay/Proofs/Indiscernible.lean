import Assay.Proofs.Equality
import Assay.Proofs.Histories

/-!
# Values that are the same are not told apart

No check of the catalogue sees what `same` does not see: the sign of zero, the code of a NaN, the
order of entries. Each way to read a value respects `same`, so each check without a closure does,
and so does every rule of a chain that is built of such checks.
-/

namespace Assay

-- ---------------------------------------------------------------------------
-- Ways to read a value
-- ---------------------------------------------------------------------------

namespace Value

/-- Well-formed values that `same` relates. -/
structure Alike (a b : Value) : Prop where
  left : a.WellFormed
  right : b.WellFormed
  same : Value.same a b = true

namespace Alike

variable {a b c d : Value} {xs ys : List Value}

theorem refl (h : a.WellFormed) : Alike a a := ⟨h, h, same_refl h⟩

theorem symm (h : Alike a b) : Alike b a := ⟨h.right, h.left, same_symm h.left h.right h.same⟩

theorem trans (h : Alike a b) (h' : Alike b c) : Alike a c :=
  ⟨h.left, h'.right, same_trans h.left h.right h'.right h.same h'.same⟩

theorem same_eq (h : Alike a b) (h' : Alike c d) : Value.same a c = Value.same b d := by
  rw [Bool.eq_iff_iff]
  constructor
  · intro hs
    exact ((h.symm.trans ⟨h.left, h'.left, hs⟩).trans h').same
  · intro hs
    exact ((h.trans ⟨h.right, h'.right, hs⟩).trans h'.symm).same

theorem kind_eq (h : Alike a b) : a.kind = b.kind := by
  have hs := h.same
  cases a <;> cases b <;> first | rfl | simp [Value.same, equals] at hs

theorem asString?_eq (h : Alike a b) : a.asString? = b.asString? := by
  have hs := h.same
  cases a <;> cases b <;> first | rfl | simp_all [Value.same, equals, asString?]

theorem asBool?_eq (h : Alike a b) : a.asBool? = b.asBool? := by
  have hs := h.same
  cases a <;> cases b <;> first | rfl | simp_all [Value.same, equals, asBool?]

/-- The items are alike by place. -/
theorem asArray? (h : Alike a b) : Option.Rel (List.Forall₂ Alike) a.asArray? b.asArray? := by
  cases a with
  | array xs =>
    obtain ⟨ys, rfl⟩ := same_array_left h.same
    have hx := wellFormedItems_iff.mp h.left
    have hy := wellFormedItems_iff.mp h.right
    exact .some (forall₂_imp_mem (same_array_iff.mp h.same) fun x y mx my hs =>
      ⟨hx x mx, hy y my, hs⟩)
  | _ =>
    cases b with
    | array ys => simpa [kind] using h.kind_eq
    | _ => exact .none

theorem any_asArray? (h : Alike a b) {p q : List Value → Bool}
    (hp : ∀ xs ys, List.Forall₂ Alike xs ys → p xs = q ys) :
    a.asArray?.any p = b.asArray?.any q := by
  have ho := h.asArray?
  generalize a.asArray? = x, b.asArray? = y at ho
  cases ho with
  | none => rfl
  | some hi => exact hp _ _ hi

theorem length_asArray? (h : Alike a b) :
    a.asArray?.map List.length = b.asArray?.map List.length := by
  have ho := h.asArray?
  generalize a.asArray? = x, b.asArray? = y at ho
  cases ho with
  | none => rfl
  | some hi => exact congrArg some hi.length_eq

/-- Numbers are in the same place on the scale. -/
theorem asNumeric? (h : Alike a b) :
    a.asNumeric?.map Numeric.value? = b.asNumeric?.map Numeric.value? := by
  cases a with
  | number x =>
    obtain ⟨y, rfl⟩ := same_number_left h.same
    exact congrArg some (same_number_iff.mp h.same)
  | _ =>
    have hs := h.same
    cases b <;> simp_all [Value.same, equals, Value.asNumeric?]

theorem isEmpty_eq (h : Alike a b) : a.isEmpty = b.isEmpty := by
  cases a with
  | array xs =>
    obtain ⟨ys, rfl⟩ := same_array_left h.same
    have hl := (same_array_iff.mp h.same).length_eq
    cases xs <;> cases ys <;> simp_all [isEmpty]
  | object xs =>
    obtain ⟨ys, rfl⟩ := same_object_left h.same
    have hl := ((same_object_iff h.right.1).mp h.same).1
    cases xs <;> cases ys <;> simp_all [isEmpty]
  | _ =>
    have hs := h.same
    cases b <;> simp_all [Value.same, equals, isEmpty]

theorem any_eq (h : List.Forall₂ Alike xs ys) {p q : Value → Bool}
    (hp : ∀ x y, Alike x y → p x = q y) : xs.any p = ys.any q := by
  induction h with
  | nil => rfl
  | cons hx _ ih => rw [List.any_cons, List.any_cons, hp _ _ hx, ih]

theorem anySame_eq (h : List.Forall₂ Alike xs ys) :
    Duplicates.anySame xs = Duplicates.anySame ys := by
  induction h with
  | nil => rfl
  | cons hx hr ih =>
    have hrow := any_eq hr fun _ _ hz => hx.same_eq hz
    simp only [Duplicates.anySame, Duplicates.anyBy_cons] at ih ⊢
    rw [hrow, ih]

end Alike

end Value

open Value (Alike)

-- ---------------------------------------------------------------------------
-- Checks
-- ---------------------------------------------------------------------------

namespace Numeric

/-- Depends on the place of the number on the scale alone. -/
def ByPlace (p : Numeric → Bool) : Prop := ∀ m n, m.value? = n.value? → p m = p n

/-- Whatever is read off the order beside a fixed number. -/
theorem byPlace_compare? (k : Numeric) (f : Option Ordering → Bool) :
    ByPlace fun n => f (n.compare? k) :=
  fun _ _ h => congrArg f (compare?_congr h k)

variable (k : Numeric)

theorem byPlace_lt : ByPlace (·.lt k) := byPlace_compare? k (· == some .lt)

theorem byPlace_gt : ByPlace (·.gt k) := byPlace_compare? k (· == some .gt)

theorem byPlace_le : ByPlace (·.le k) :=
  byPlace_compare? k fun o => o == some .lt || o == some .eq

theorem byPlace_ge : ByPlace (·.ge k) :=
  byPlace_compare? k fun o => o == some .gt || o == some .eq

theorem byPlace_sign? (f : Option Ordering → Bool) : ByPlace fun n => f n.sign? := by
  simpa only [sign?_eq] using byPlace_compare? zero f

theorem ByPlace.all_eq {p : Numeric → Bool} (hp : ByPlace p) {o o' : Option Numeric}
    (h : o.map value? = o'.map value?) : o.all p = o'.all p := by
  cases o <;> cases o' <;> simp_all
  exact hp _ _ h

end Numeric

namespace Scope

variable {a b : Value}

theorem count?_eq (scope : Scope) (h : Alike a b) : scope.count? a = scope.count? b := by
  unfold count?
  split
  · rw [h.asString?_eq]
  · exact h.length_asArray?
  · rfl

theorem magnitude?_eq (scope : Scope) (h : Alike a b) :
    (scope.magnitude? a).map Numeric.value? = (scope.magnitude? b).map Numeric.value? := by
  unfold magnitude?
  split
  · exact h.asNumeric?
  · rw [scope.count?_eq h]

/-- Without a custom transformer only text is changed. -/
theorem transform_of_asString? {scope : Scope} (hc : scope.custom = none) {v : Value}
    (hv : v.asString? = none) : scope.transform v = v := by
  cases v <;> simp_all [transform, Value.asString?]

theorem wellFormed_transform {scope : Scope}
    (hc : ∀ g, scope.custom = some g → ∀ v, v.WellFormed → (g v).WellFormed) {v : Value}
    (h : v.WellFormed) : (scope.transform v).WellFormed := by
  cases hs : scope.custom with
  | some g =>
    simp only [transform, hs]
    exact hc g hs v h
  | none =>
    cases v with
    | string s =>
      simp only [transform, hs]
      split <;> trivial
    | _ => rwa [transform_of_asString? hs rfl]

theorem transform_alike {scope : Scope} (hc : scope.custom = none) (h : Alike a b) :
    Alike (scope.transform a) (scope.transform b) := by
  cases ha : a.asString? with
  | none => rwa [transform_of_asString? hc ha, transform_of_asString? hc (h.asString?_eq ▸ ha)]
  | some s =>
    have hb := h.asString?_eq ▸ ha
    have he : a = b := by cases a <;> cases b <;> simp_all [Value.asString?]
    subst he
    exact .refl (wellFormed_transform (by simp [hc]) h.left)

end Scope

namespace Check

/-- Takes no closure; a needle is a well-formed value. -/
def Builtin : Check → Prop
  | .is _ | .isNot _ | .uniqBy _ => False
  | .includes needle => needle.WellFormed
  | .required | .min _ | .max _ | .length _ | .email | .pattern _ | .startsWith _ | .endsWith _
  | .uppercase | .lowercase | .gt _ | .gte _ | .lt _ | .lte _ | .positive | .negative
  | .uniq => True

variable {scope : Scope} {a b : Value}

theorem failsText_eq (h : Alike a b) (accepts : String → Bool) :
    failsText scope a accepts = failsText scope b accepts := by
  rw [failsText, failsText, h.asString?_eq]

theorem failsNumber_eq (h : Alike a b) {violates : Numeric → Bool}
    (hv : Numeric.ByPlace violates) :
    failsNumber scope a violates = failsNumber scope b violates := by
  rw [failsNumber, failsNumber, hv.all_eq h.asNumeric?]

/-- In the needle and in the value at once. -/
theorem failsInclusion_eq {x y : Value} (hn : Alike x y) (h : Alike a b) :
    failsInclusion scope x a = failsInclusion scope y b := by
  unfold failsInclusion
  split
  · rw [h.asString?_eq, hn.asString?_eq]
  · rw [h.any_asArray? fun xs ys hi => Alike.any_eq hi fun _ _ hz => hz.same_eq hn]
  · rfl

theorem fails_eq {c : Check} (hc : c.Builtin) (h : Alike a b) :
    c.fails scope a = c.fails scope b := by
  cases c with
  | required => exact h.isEmpty_eq
  | is p => exact hc.elim
  | isNot p => exact hc.elim
  | uniqBy eq => exact hc.elim
  | min bound => simp only [fails, (Numeric.byPlace_lt bound).all_eq (scope.magnitude?_eq h)]
  | max bound => simp only [fails, (Numeric.byPlace_gt bound).all_eq (scope.magnitude?_eq h)]
  | length n => simp only [fails, scope.count?_eq h]
  | email => exact failsText_eq h _
  | pattern p => exact failsText_eq h _
  | startsWith t => exact failsText_eq h _
  | endsWith t => exact failsText_eq h _
  | uppercase => exact failsText_eq h _
  | lowercase => exact failsText_eq h _
  | includes needle => exact failsInclusion_eq (.refl hc) h
  | gt bound => exact failsNumber_eq h (Numeric.byPlace_le bound)
  | gte bound => exact failsNumber_eq h (Numeric.byPlace_lt bound)
  | lt bound => exact failsNumber_eq h (Numeric.byPlace_ge bound)
  | lte bound => exact failsNumber_eq h (Numeric.byPlace_gt bound)
  | positive =>
    exact failsNumber_eq h (Numeric.byPlace_sign? fun o => o == some .lt || o == some .eq)
  | negative =>
    exact failsNumber_eq h (Numeric.byPlace_sign? fun o => o == some .gt || o == some .eq)
  | uniq =>
    simp only [fails, failsItems]
    rw [h.any_asArray? fun _ _ hi => Alike.anySame_eq hi]

end Check

-- ---------------------------------------------------------------------------
-- Rules and chains
-- ---------------------------------------------------------------------------

theorem Declaration.accepts_eq (d : Declaration) {a b : Value} (h : Alike a b) :
    d.accepts a = d.accepts b := by
  cases d with
  | kind k => rw [accepts, accepts, h.kind_eq]
  | literal l => rw [accepts, accepts, h.asBool?_eq]

def Test.Builtin : Test → Prop
  | .declared _ _ => True
  | .checked c _ => c.Builtin
  | .custom _ => False

/-- The whole verdict, with the text and the runs of a deferred message. -/
theorem Test.verdict_eq {t : Test} (ht : t.Builtin) (scope : Scope) {a b : Value}
    (h : Alike a b) : t.verdict scope a = t.verdict scope b := by
  cases t with
  | declared d message =>
    cases message with
    | none => rfl
    | some m => simp only [verdict, d.accepts_eq h]
  | checked c message => simp only [verdict, Check.fails_eq ht h]
  | custom judge => exact ht.elim

theorem Validator.run_eq {x : Validator} (hx : x.test.Builtin) {scope : Scope}
    (hc : scope.custom = none) {a b : Value} (h : Alike a b) : x.run scope a = x.run scope b := by
  simp only [run, Test.verdict_eq hx scope (Scope.transform_alike hc h)]

namespace Step

/-- Declares, checks without a closure, sets the tag or a flag. -/
def Builtin : Step → Prop
  | .declare _ _ | .patternText _ _ _ | .retag _ | .trim | .lower | .upper => True
  | .check c _ => c.Builtin
  | .rule _ _ _ | .transform _ => False

theorem Builtin.test {s : Step} (hs : s.Builtin) {code : String} {test : Test}
    {params : Option String} (h : s.rule? = some (code, test, params)) : test.Builtin := by
  cases s with
  | declare d notice =>
    cases h
    trivial
  | check c notice =>
    cases h
    exact hs
  | patternText engine source notice =>
    simp only [rule?] at h
    split at h
    · cases h
      trivial
    · cases h
  | rule code judge params => exact hs.elim
  | _ => cases h

theorem mem_of_lastTransformer? {program : List Step} {g : Value → Value}
    (h : lastTransformer? program = some g) : .transform g ∈ program := by
  obtain ⟨s, hs, ht⟩ := List.mem_filterMap.mp (List.mem_of_getLast? h)
  cases s with
  | transform g' =>
    cases ht
    exact hs
  | _ => cases ht

theorem lastTransformer?_of_builtin {program : List Step} (h : ∀ s ∈ program, s.Builtin) :
    lastTransformer? program = none :=
  Option.eq_none_iff_forall_ne_some.mpr fun _ hg => h _ (mem_of_lastTransformer? hg)

end Step

section

variable {ρ : Type} [Rule ρ]

theorem Rule.runAll_congr {rules : List ρ} {scope : Scope} {a b : Value}
    (h : ∀ r ∈ rules, Rule.run r scope a = Rule.run r scope b) :
    Rule.runAll rules scope a = Rule.runAll rules scope b := by
  induction rules with
  | nil => rfl
  | cons r rest ih =>
    rw [runAll, runAll, h r List.mem_cons_self, ih fun r hr => h r (List.mem_cons_of_mem _ hr)]

theorem Rule.firstFailure_congr {rules : List ρ} {scope : Scope} {a b : Value}
    (h : ∀ r ∈ rules, Rule.run r scope a = Rule.run r scope b) :
    Rule.firstFailure rules scope a = Rule.firstFailure rules scope b := by
  induction rules with
  | nil => rfl
  | cons r rest ih =>
    rw [firstFailure, firstFailure, h r List.mem_cons_self,
      ih fun r hr => h r (List.mem_cons_of_mem _ hr)]

namespace Session

variable {f : Factory ρ} {before : Trace} {history : List Command} {n : Nat} {cell : Cell ρ}

theorem run_eq_after (hg : f.generator.Keeps)
    (hc : (after f before history).cells[n]? = some cell)
    (hp : ∀ s ∈ program f before history n, s.Builtin) {a b : Value} (h : Alike a b) :
    ∀ r ∈ cell.chain.rules, Rule.run r cell.chain.scope a = Rule.run r cell.chain.scope b := by
  have hn : cell.chain.scope.custom = none := by
    rw [(inForce_after hc).custom, Step.lastTransformer?_of_builtin hp]
  intro r hr
  rw [rules_after hc] at hr
  obtain ⟨⟨code, test, params⟩, hm, rfl⟩ := List.mem_map.mp hr
  obtain ⟨s, hs, hr⟩ := List.mem_filterMap.mp hm
  rw [Rule.run, Rule.run, hg]
  exact Validator.run_eq ((hp s hs).test hr) hn h

theorem runRules_congr (s : Session ρ) {rules : List ρ} {scope : Scope} (mode : RunMode)
    {a b : Value} (h : ∀ r ∈ rules, Rule.run r scope a = Rule.run r scope b) :
    s.runRules rules scope mode a = s.runRules rules scope mode b := by
  cases mode <;> simp only [runRules, Rule.runAll_congr h, Rule.firstFailure_congr h]

theorem exec_run_congr {s : Session ρ} (hc : s.cells[n]? = some cell) (h : Handle) (mode : RunMode)
    {a b : Value}
    (hr : ∀ r ∈ cell.chain.rules, Rule.run r cell.chain.scope a = Rule.run r cell.chain.scope b) :
    s.exec (.run n h mode a) = s.exec (.run n h mode b) := by
  simp only [exec, withCell]
  cases hf : s.cell? n h with
  | none => rfl
  | some c =>
    cases hc.symm.trans (cell?_eq_some_iff.mp hf).1
    exact s.runRules_congr mode hr

/-- A check changes no scope, so it makes no difference to the scope of the others. -/
theorem scope_after (hc : (after f before history).cells[n]? = some cell) {p q : List Step}
    {c : Check} {notice : Notice} (hp : program f before history n = p ++ .check c notice :: q) :
    cell.chain.scope = (p ++ q).foldl Step.rescope (Scope.initial cell.chain.settings) := by
  have hs : cell.chain.scope = _ := congrArg Chain.scope (chain_after hc)
  rw [Chain.scope_steps, hp, List.foldl_append, List.foldl_cons] at hs
  rw [hs, List.foldl_append]
  rfl

/-- What passes before and after a check, and at it. -/
theorem isNone_reference (scope : Scope) (p q : List Step) (c : Check) (notice : Notice)
    (v : Value) :
    (reference scope (p ++ .check c notice :: q) v).map Option.isNone =
      (reference scope p v).map Option.isNone ++
        (!c.fails scope (scope.transform v)) :: (reference scope q v).map Option.isNone := by
  have hc : Step.test? (.check c notice) = some (.checked c notice.message) := rfl
  simp only [reference, List.filterMap_append, List.filterMap_cons, hc, List.map_append,
    List.map_cons, ← Option.not_isSome, Test.isSome_verdict_checked]

/-- Rules of a chain without closures say the same of values that are the same, with the same texts
and effects. In any chain whose transformers keep values well-formed, a needle can be replaced by
one that is the same, and each rule passes as before. -/
theorem same_values_same_results (hg : f.generator.Keeps)
    (hc : (after f before history).cells[n]? = some cell) :
    ((∀ s ∈ program f before history n, s.Builtin) →
      ∀ a b, a.WellFormed → b.WellFormed → Value.same a b = true →
        (∀ r ∈ cell.chain.rules, Rule.run r cell.chain.scope a = Rule.run r cell.chain.scope b) ∧
        ∀ h mode, (after f before history).exec (.run n h mode a) =
          (after f before history).exec (.run n h mode b)) ∧
    ∀ (other : Factory ρ) (past : Trace) (commands : List Command) (m : Nat) (twin : Cell ρ)
      (p q : List Step) (x y : Value) (notice notice' : Notice),
      other.generator.Keeps → (after other past commands).cells[m]? = some twin →
      twin.chain.settings = cell.chain.settings →
      program f before history n = p ++ .check (.includes x) notice :: q →
      program other past commands m = p ++ .check (.includes y) notice' :: q →
      x.WellFormed → y.WellFormed → Value.same x y = true →
      (∀ g, .transform g ∈ p ++ q → ∀ v, v.WellFormed → (g v).WellFormed) →
      ∀ v, v.WellFormed →
        (cell.chain.run v).result.map Option.isNone =
          (twin.chain.run v).result.map Option.isNone := by
  constructor
  · intro hp a b ha hb hs
    have hr := run_eq_after hg hc hp ⟨ha, hb, hs⟩
    exact ⟨hr, fun h mode => exec_run_congr hc h mode hr⟩
  · intro other past commands m twin p q x y notice notice' hg' hc' hset hp hp' hx hy hs ht v hv
    have hscope : twin.chain.scope = cell.chain.scope := by
      rw [scope_after hc hp, scope_after hc' hp', hset]
    have hw : (cell.chain.scope.transform v).WellFormed := by
      refine Scope.wellFormed_transform (fun g hcustom => ht g ?_) hv
      rw [(inForce_after hc).custom, hp] at hcustom
      simpa using Step.mem_of_lastTransformer? hcustom
    have hfails : Check.failsInclusion cell.chain.scope x (cell.chain.scope.transform v) =
        Check.failsInclusion cell.chain.scope y (cell.chain.scope.transform v) :=
      Check.failsInclusion_eq ⟨hx, hy, hs⟩ (.refl hw)
    rw [result_run_after hc hg, result_run_after hc' hg', hp, hp', hscope, isNone_reference,
      isNone_reference, Check.fails, Check.fails, hfails]

end Session

end

/-- An order of entries, a zero and a needle that is another NaN, none of them seen. -/
theorem same_values_same_results_reordered :
    let f := Factory.mk Generator.describe (some fun _ => [.declare (.kind .array) .none]) .default
    let history (needle : Value) : List Command :=
      [.build 0 .whole (.check .uniq .none), .build 0 .extension (.check (.includes needle) .none)]
    let s (needle : Value) := Session.after f .empty (history needle)
    let v (zero : Double) (entries : List (String × Value)) : Value :=
      .array [.number zero, .object entries]
    (s (.number .nan)).exec (.run 0 .context .verdicts
        (v .zero [("p", .null), ("q", .number .nan)])) =
      (s (.number .nan)).exec (.run 0 .context .verdicts
        (v (.ofBits (2 ^ 63)) [("q", .number (.ofBits (2 ^ 64 - 1))), ("p", .null)])) ∧
    ∃ c d, (s (.number .nan)).cells[0]? = some c ∧
      (s (.number (.ofBits (2 ^ 64 - 1)))).cells[0]? = some d ∧
      (c.chain.run (.array [.number .nan])).result.map Option.isNone =
        (d.chain.run (.array [.number .nan])).result.map Option.isNone := by
  intro f history s v
  obtain ⟨c, hc⟩ : ∃ c, (s (.number .nan)).cells[0]? = some c := ⟨_, rfl⟩
  obtain ⟨d, hd⟩ : ∃ d, (s (.number (.ofBits (2 ^ 64 - 1)))).cells[0]? = some d := ⟨_, rfl⟩
  have h := Session.same_values_same_results Generator.describe_keeps hc
  have hset (needle : Value) : (s needle).cells[0]?.map (·.chain.settings) = some .default := rfl
  have hp : Session.program f .empty (history (.number .nan)) 0 =
    [.declare (.kind .array) .none, .check .uniq .none,
      .check (.includes (.number .nan)) .none] := rfl
  refine ⟨(h.1 ?_ _ _ ?_ ?_ ?_).2 .context .verdicts, c, d, hc, hd, ?_⟩
  · rw [hp]
    simp [Step.Builtin, Check.Builtin, Value.WellFormed]
  · simp [v, Value.WellFormed, Value.WellFormedItems, Value.WellFormedEntries, Entries.Distinct,
      Entries.keys]
  · simp [v, Value.WellFormed, Value.WellFormedItems, Value.WellFormedEntries, Entries.Distinct,
      Entries.keys]
  · decide +kernel
  · refine h.2 f .empty (history (.number (.ofBits (2 ^ 64 - 1)))) 0 d
      [.declare (.kind .array) .none, .check .uniq .none] [] _ _ .none .none
      Generator.describe_keeps hd ?_ hp rfl trivial trivial ?_ ?_ _ ?_
    · have hcs := hset (.number .nan)
      have hds := hset (.number (.ofBits (2 ^ 64 - 1)))
      rw [hc] at hcs
      rw [hd] at hds
      exact Option.some.inj (hds.trans hcs.symm)
    · decide +kernel
    · simp
    · simp [Value.WellFormed, Value.WellFormedItems]

end Assay
