import Assay.Proofs.Histories
import Mathlib.Data.List.Forall2

/-!
# The scope law of the catalogue

Tag and shape of the value decide much of what a check says before its argument is looked at.
Outside its tags a check passes; under one of them a value of another shape fails, save in the two
checks for duplicates. So there are tags under which only rules without a scope fail.
-/

namespace Assay

/-- Is the value of the shape that the tag speaks of? Both tags for numbers speak of both forms. -/
def Kind.fits (tag : Kind) (v : Value) : Bool :=
  if tag.isNumeric then v.kind.isNumeric else v.kind == tag

namespace Check

/-- The tags under which a check looks at values, if it has a scope. -/
def tags? : Check → Option (List Kind)
  | .required | .is _ | .isNot _ => none
  | .email | .pattern _ | .startsWith _ | .endsWith _ | .uppercase | .lowercase => some [.string]
  | .gt _ | .gte _ | .lt _ | .lte _ | .positive | .negative => some [.number, .bigint]
  | .min _ | .max _ => some [.string, .number, .bigint, .array]
  | .length _ | .includes _ => some [.string, .array]
  | .uniq | .uniqBy _ => some [.array]

/-- Passes values of another shape under its own tag. -/
def isLenient : Check → Bool
  | .uniq | .uniqBy _ => true
  | _ => false

end Check

-- ---------------------------------------------------------------------------
-- Checks outside their tags, and on values of another shape
-- ---------------------------------------------------------------------------

namespace Value

variable {v : Value}

theorem asString?_of_not_fits (h : Kind.fits .string v = false) : v.asString? = none := by
  cases v <;> first | rfl | cases h

theorem asArray?_of_not_fits (h : Kind.fits .array v = false) : v.asArray? = none := by
  cases v <;> first | rfl | cases h

theorem asNumeric?_of_not_fits {tag : Kind} (ht : tag.isNumeric = true) (h : tag.fits v = false) :
    v.asNumeric? = none := by
  rw [Kind.fits, if_pos ht] at h
  cases v <;> first | rfl | cases h

end Value

theorem Scope.count?_of_not_fits {scope : Scope} {v : Value} (hv : scope.kind.fits v = false) :
    scope.count? v = none := by
  unfold Scope.count?
  split
  · rename_i hk
    rw [Value.asString?_of_not_fits (hk ▸ hv)]
    rfl
  · rename_i hk
    rw [Value.asArray?_of_not_fits (hk ▸ hv)]
    rfl
  · rfl

/-- What tag and shape decide of a test, whatever else it looks at. -/
structure Scoped (tags : List Kind) (lenient : Bool) (fails : Scope → Value → Bool) : Prop where
  outside {scope : Scope} {v : Value} : scope.kind ∉ tags → fails scope v = false
  misfit {scope : Scope} {v : Value} : scope.kind ∈ tags → scope.kind.fits v = false →
    fails scope v = !lenient

namespace Scoped

theorem text (accepts : String → Bool) :
    Scoped [.string] false fun scope v => Check.failsText scope v accepts where
  outside h := by simp_all [Check.failsText]
  misfit {scope v} h hv := by
    have hk : scope.kind = .string := List.mem_singleton.mp h
    rw [hk] at hv
    simp [Check.failsText, hk, Value.asString?_of_not_fits hv]

theorem number (violates : Numeric → Bool) :
    Scoped [.number, .bigint] false fun scope v => Check.failsNumber scope v violates where
  outside h := by simp_all [Check.failsNumber, Kind.isNumeric]
  misfit {scope v} h hv := by
    have hk : scope.kind.isNumeric = true := by simpa [Kind.isNumeric] using h
    simp [Check.failsNumber, hk, Value.asNumeric?_of_not_fits hk hv]

theorem items (repeats : List Value → Bool) :
    Scoped [.array] true fun scope v => Check.failsItems scope v repeats where
  outside h := by simp_all [Check.failsItems]
  misfit {scope v} h hv := by
    have hk : scope.kind = .array := List.mem_singleton.mp h
    rw [hk] at hv
    simp [Check.failsItems, Value.asArray?_of_not_fits hv]

theorem inclusion (needle : Value) :
    Scoped [.string, .array] false fun scope v => Check.failsInclusion scope needle v where
  outside h := by
    unfold Check.failsInclusion
    split <;> simp_all
  misfit {scope v} h hv := by
    unfold Check.failsInclusion
    split
    · rename_i hk
      rw [hk] at hv
      simp [Value.asString?_of_not_fits hv]
    · rename_i hk
      rw [hk] at hv
      simp [Value.asArray?_of_not_fits hv]
    · simp_all

theorem count (violates : Nat → Bool) :
    Scoped [.string, .array] false fun scope v =>
      scope.counts && (scope.count? v).all violates where
  outside h := by simp_all [Scope.counts]
  misfit {scope v} h hv := by
    have hk : scope.counts = true := by simpa [Scope.counts] using h
    simp [hk, Scope.count?_of_not_fits hv]

theorem magnitude (violates : Numeric → Bool) :
    Scoped [.string, .number, .bigint, .array] false fun scope v =>
      scope.measures && (scope.magnitude? v).all violates where
  outside h := by simp_all [Scope.measures, Scope.counts, Kind.isNumeric]
  misfit {scope v} h hv := by
    have hk : scope.measures = true := by
      simp only [List.mem_cons, List.not_mem_nil, or_false] at h
      rcases h with h | h | h | h <;> simp [Scope.measures, Scope.counts, h, Kind.isNumeric]
    have hm : scope.magnitude? v = none := by
      unfold Scope.magnitude?
      split
      · rename_i hn
        exact Value.asNumeric?_of_not_fits hn hv
      · rw [Scope.count?_of_not_fits hv]
        rfl
    simp [hk, hm]

end Scoped

namespace Check

variable {c : Check} {tags : List Kind}

theorem scoped_of_tags? (h : c.tags? = some tags) : Scoped tags c.isLenient c.fails := by
  cases c with
  | required => cases h
  | is p => cases h
  | isNot p => cases h
  | min bound => cases h; exact .magnitude _
  | max bound => cases h; exact .magnitude _
  | length n => cases h; exact .count _
  | includes needle => cases h; exact .inclusion needle
  | uniq => cases h; exact .items _
  | uniqBy eq => cases h; exact .items _
  | email | pattern | startsWith | endsWith | uppercase | lowercase => cases h; exact .text _
  | gt | gte | lt | lte | positive | negative => cases h; exact .number _

theorem tags?_subset (h : c.tags? = some tags) : tags ⊆ [.string, .number, .bigint, .array] := by
  cases c <;> cases h <;> decide

end Check

-- ---------------------------------------------------------------------------
-- Chains
-- ---------------------------------------------------------------------------

namespace Step

/-- The check of the rule that the step appends. -/
def check? : Step → Option Check
  | .check c _ => some c
  | .patternText engine source _ =>
    match engine.compile source with
    | .ok p => some (.pattern p)
    | .error _ => none
  | _ => none

/-- Appends a rule that can fail under every tag. -/
def Unscoped : Step → Prop
  | .check .required _ | .check (.is _) _ | .check (.isNot _) _ | .rule _ _ _ => True
  | .declare _ notice => notice.message.isSome = true
  | _ => False

/-- What the tag and the transformed value alone decide of the verdict on them. -/
structure Obeys (tag : Kind) (v : Value) (s : Step) (verdict : Verdict) : Prop where
  outside (c : Check) (tags : List Kind) : s.check? = some c → c.tags? = some tags → tag ∉ tags →
    verdict = none
  misfit (c : Check) (tags : List Kind) : s.check? = some c → c.tags? = some tags → tag ∈ tags →
    tag.fits v = false → verdict.isSome = !c.isLenient
  unscoped : tag ∈ [.boolean, .object, .symbol, .null, .undefined] → verdict.isSome = true →
    s.Unscoped

theorem obeys_of_check (s : Step) {c : Check} {scope : Scope} {v : Value} {verdict : Verdict}
    (hs : s.check? = some c) (hv : verdict.isSome = c.fails scope v)
    (hu : c.tags? = none → s.Unscoped) : s.Obeys scope.kind v verdict where
  outside c' tags hc ht hn := by
    cases hs.symm.trans hc
    rw [(Check.scoped_of_tags? ht).outside hn] at hv
    simpa using hv
  misfit c' tags hc ht hm hf := by
    cases hs.symm.trans hc
    rw [hv, (Check.scoped_of_tags? ht).misfit hm hf]
  unscoped hm hf := by
    cases ht : c.tags? with
    | none => exact hu ht
    | some tags =>
      -- none of these tags is in the scope of any check
      have hn : scope.kind ∉ tags := fun h => by
        have hin := Check.tags?_subset ht h
        cases hk : scope.kind <;> simp [hk] at hm hin
      rw [hv, (Check.scoped_of_tags? ht).outside hn] at hf
      cases hf

theorem obeys_of_no_check (s : Step) {tag : Kind} {v : Value} {verdict : Verdict}
    (hs : s.check? = none) (hu : verdict.isSome = true → s.Unscoped) : s.Obeys tag v verdict where
  outside c tags hc := by cases hs.symm.trans hc
  misfit c tags hc := by cases hs.symm.trans hc
  unscoped _ hf := hu hf

theorem obeys (s : Step) {test : Test} (hs : s.test? = some test) (scope : Scope) (v : Value) :
    s.Obeys scope.kind v (test.verdict scope v).result := by
  cases s with
  | check c notice =>
    cases hs
    refine obeys_of_check _ rfl (Test.isSome_verdict_checked ..) fun ht => ?_
    cases c <;> trivial
  | patternText engine source notice =>
    simp only [test?, rule?] at hs
    split at hs
    · rename_i p hp
      cases hs
      have hc : check? (.patternText engine source notice) = some (.pattern p) := by
        simp only [check?, hp]
      exact obeys_of_check _ hc (Test.isSome_verdict_checked ..) fun ht => by cases ht
    · cases hs
  | declare d notice =>
    cases hs
    refine obeys_of_no_check _ rfl fun hf => ?_
    cases hm : notice.message with
    | none =>
      rw [hm] at hf
      cases hf
    | some m => simp [Unscoped, hm]
  | rule code judge params => exact obeys_of_no_check _ rfl fun _ => trivial
  | _ => cases hs

/-- One verdict for each step that appends a rule, in their order. -/
theorem forall₂_reference {R : Step → Verdict → Prop} {scope : Scope} {v : Value}
    (program : List Step) (h : ∀ s test, s.test? = some test →
      R s (test.verdict scope (scope.transform v)).result) :
    List.Forall₂ R (program.filter (·.rule?.isSome)) (reference scope program v) := by
  induction program with
  | nil => exact .nil
  | cons s rest ih =>
    cases hs : s.rule? with
    | none => simpa [reference, test?, hs] using ih
    | some made =>
      have ht : s.test? = some made.2.1 := by simp [test?, hs]
      simpa [reference, ht, hs] using And.intro (h s _ ht) ih

end Step

section

variable {ρ : Type} [Rule ρ]

/-- Every rule of a chain obeys the law of its step under the tag and transformer that are in force
when it runs, whatever history the chain has. -/
theorem scope_law {f : Factory ρ} (hg : f.generator.Keeps) {before : Trace}
    {history : List Command} {n : Nat} {cell : Cell ρ}
    (hc : (Session.after f before history).cells[n]? = some cell) (v : Value) :
    List.Forall₂ (Step.Obeys cell.chain.scope.kind (cell.chain.scope.transform v))
      ((Session.program f before history n).filter (·.rule?.isSome)) (cell.chain.run v).result ∧
    ∀ h, cell.reachable h = true →
      ((Session.after f before history).exec (.run n h .verdicts v)).2.verdicts? =
        some (cell.chain.run v).result := by
  constructor
  · rw [Session.result_run_after hc hg]
    exact Step.forall₂_reference _ fun s _ hs => s.obeys hs _ _
  · intro h hh
    have hf := congrArg (Option.map Cell.chain) (Session.cell?_eq_some_iff.mpr ⟨hc, hh⟩)
    rw [Session.verdicts?_run hf, Chain.run, Rule.result_runAll]

end

/-- Two checks under the tag for arrays, on what a transformer makes of a text. -/
theorem scope_law_transformed :
    let f := Factory.mk Generator.describe (some fun _ => [.check (.length 3) .none]) .default
    let history : List Command := [.build 0 .whole (.check .uniq .none),
      .build 0 .context (.transform fun _ => .null), .build 0 .extension (.retag .array)]
    ∃ failure, ((Session.after f .empty history).exec
      (.run 0 .whole .verdicts (.string "abc"))).2.verdicts? = some [some failure, none] := by
  intro f history
  obtain ⟨cell, hc⟩ : ∃ c, (Session.after f .empty history).cells[0]? = some c := ⟨_, rfl⟩
  have hs : (Session.after f .empty history).cells[0]?.map (fun c =>
      (c.chain.scope.kind, c.chain.scope.transform (.string "abc"), c.reachable .whole)) =
    some (.array, .null, true) := rfl
  rw [hc] at hs
  obtain ⟨hk, ht, hr⟩ : cell.chain.scope.kind = .array ∧
      cell.chain.scope.transform (.string "abc") = .null ∧ cell.reachable .whole = true := by
    simpa using hs
  obtain ⟨h, hrun⟩ := scope_law Generator.describe_keeps hc (.string "abc")
  have hp : (Session.program f .empty history 0).filter (·.rule?.isSome) =
    [.check (.length 3) .none, .check .uniq .none] := rfl
  rw [hk, ht, hp] at h
  rw [hrun .whole hr]
  generalize (cell.chain.run (.string "abc")).result = results at h
  cases h with
  | @cons _ a _ _ ha h =>
    cases h with
    | @cons _ b _ _ hb h =>
      cases h
      have hfirst := ha.misfit _ _ rfl rfl (by decide) rfl
      have hsecond := hb.misfit _ _ rfl rfl (by decide) rfl
      obtain ⟨failure, rfl⟩ := Option.isSome_iff_exists.mp hfirst
      obtain rfl : b = none := by simpa [Check.isLenient] using hsecond
      exact ⟨failure, rfl⟩

end Assay
