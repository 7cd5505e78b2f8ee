import Assay.Proofs.CaseMapping
import Assay.Proofs.Indiscernible
import Assay.Proofs.SingleChecks

/-!
# Normalisation by flags

What the flags make of a text, they leave as it is. Trimming comes first and is not undone by a
change of case; lowering comes before raising, and after both neither changes the pair of them.
-/

namespace Assay

namespace TextFlags

variable {f : TextFlags} {s : List Char}

/-- A text that each of the flags that are set has dealt with, the two for case together. -/
structure Settled (f : TextFlags) (s : List Char) : Prop where
  unpadded : f.trim = true → Text.Unpadded s
  lowered : f.lower = true → f.upper = false → Text.Lowered s
  raised : f.upper = true → Text.Raised s
  recased : f.lower = true → f.upper = true → Text.upper (Text.lower s) = s

theorem Settled.apply_eq {s : String} (h : f.Settled s.toList) : f.apply s = s := by
  have htrim : (if f.trim then Text.trim s.toList else s.toList) = s.toList := by
    split
    · exact (h.unpadded ‹_›).trim_eq
    · rfl
  simp only [apply, htrim]
  cases hl : f.lower with
  | false =>
    cases hu : f.upper with
    | false => simp
    | true => simp [(h.raised hu).upper_eq]
  | true =>
    cases hu : f.upper with
    | false => simp [(h.lowered hl hu).lower_eq]
    | true => simp [h.recased hl hu]

theorem settled_apply (f : TextFlags) (s : String) : f.Settled (f.apply s).toList := by
  rw [apply, String.toList_ofList]
  generalize ht : (if f.trim then Text.trim s.toList else s.toList) = trimmed
  generalize hl : (if f.lower then Text.lower trimmed else trimmed) = lowered
  have hlower : f.lower = true → Text.Lowered lowered := fun h => by
    rw [← hl, if_pos h]
    exact Text.lowered_lower
  have htrim : f.trim = true → Text.Unpadded lowered := fun h => by
    have htrimmed : Text.Unpadded trimmed := by
      rw [← ht, if_pos h]
      exact Text.unpadded_trim _
    rw [← hl]
    split
    · exact htrimmed.lower
    · exact htrimmed
  cases hu : f.upper with
  | false =>
    rw [if_neg Bool.false_ne_true]
    exact ⟨htrim, fun h _ => hlower h, fun h => by simp [hu] at h, fun _ h => by simp [hu] at h⟩
  | true =>
    rw [if_pos rfl]
    exact ⟨fun h => (htrim h).upper, fun _ h => by simp [hu] at h, fun _ => Text.raised_upper,
      fun h _ => (hlower h).upper_lower_upper⟩

theorem apply_apply (f : TextFlags) (s : String) : f.apply (f.apply s) = f.apply s :=
  (f.settled_apply s).apply_eq

end TextFlags

namespace Scope

variable {scope : Scope}

theorem transform_string (hn : scope.custom = none) (hk : scope.kind = .string) (s : String) :
    scope.transform (.string s) = .string (scope.flags.apply s) := by
  simp only [transform, hn, hk, decide_true, Bool.true_and]
  split
  · rfl
  · rename_i h
    rw [TextFlags.apply_of_not_any (Bool.eq_false_iff.mpr h)]

theorem transform_eq_self (hn : scope.custom = none) {v : Value}
    (h : ¬(scope.kind = .string ∧ v.kind = .string)) : scope.transform v = v := by
  cases v with
  | string s =>
    have hk : scope.kind ≠ .string := fun hk => h ⟨hk, rfl⟩
    simp [transform, hn, hk]
  | _ => simp [transform, hn]

theorem transform_transform (hn : scope.custom = none) (v : Value) :
    scope.transform (scope.transform v) = scope.transform v := by
  by_cases h : scope.kind = .string ∧ v.kind = .string
  · obtain ⟨hk, hv⟩ := h
    cases v with
    | string s =>
      rw [transform_string hn hk, transform_string hn hk, TextFlags.apply_apply]
    | _ => cases hv
  · rw [transform_eq_self hn h, transform_eq_self hn h]

theorem kind_transform (hn : scope.custom = none) (v : Value) :
    (scope.transform v).kind = v.kind := by
  by_cases h : scope.kind = .string ∧ v.kind = .string
  · obtain ⟨hk, hv⟩ := h
    cases v with
    | string s =>
      rw [transform_string hn hk]
      rfl
    | _ => cases hv
  · rw [transform_eq_self hn h]

end Scope

namespace Chain

variable {ρ : Type} [Rule ρ]

/-- A value and what the flags make of it are the same to every rule, and flags that are set leave
the checks for them nothing to find. -/
structure Normalises (chain : Chain ρ) (v : Value) : Prop where
  idempotent : chain.scope.transform (chain.scope.transform v) = chain.scope.transform v
  rules : ∀ r : ρ, Rule.run r chain.scope (chain.scope.transform v) = Rule.run r chain.scope v
  run : chain.run (chain.scope.transform v) = chain.run v
  kind : (chain.scope.transform v).kind = v.kind
  untouched : ¬(chain.scope.kind = .string ∧ v.kind = .string) → chain.scope.transform v = v
  uppercase : chain.generator.Keeps → chain.scope.kind = .string → v.kind = .string →
    chain.scope.flags.upper = true → ∀ notice, chain.rejects .uppercase notice v = false
  lowercase : chain.generator.Keeps → chain.scope.kind = .string → v.kind = .string →
    chain.scope.flags.lower = true → chain.scope.flags.upper = false →
      ∀ notice, chain.rejects .lowercase notice v = false
  trimmed : chain.scope.kind = .string → v.kind = .string → chain.scope.flags.trim = true →
    ∃ s, chain.scope.transform v = .string s ∧ Text.Unpadded s.toList

theorem normalises {chain : Chain ρ} (hn : chain.scope.custom = none) (v : Value) :
    chain.Normalises v := by
  have hidem := Scope.transform_transform hn v
  have hrules : ∀ r : ρ,
      Rule.run r chain.scope (chain.scope.transform v) = Rule.run r chain.scope v := fun r => by
    rw [Rule.run, Rule.run, Validator.run, hidem]
    rfl
  -- under the tag for text, a text becomes one that every flag has dealt with
  have htext : chain.scope.kind = .string → v.kind = .string →
      ∃ s, chain.scope.transform v = .string s ∧ chain.scope.flags.Settled s.toList := by
    intro hk hv
    cases v with
    | string s => exact ⟨_, Scope.transform_string hn hk s, TextFlags.settled_apply _ s⟩
    | _ => cases hv
  refine ⟨hidem, hrules, Rule.runAll_congr fun r _ => hrules r, Scope.kind_transform hn v,
    Scope.transform_eq_self hn, ?uppercase, ?lowercase, ?trimmed⟩
  case uppercase =>
    intro hg hk hv hu notice
    obtain ⟨s, hs, h⟩ := htext hk hv
    rw [rejects_eq hg, hs]
    simp [Check.fails, Check.failsText, Value.asString?, (h.raised hu).upper_eq]
  case lowercase =>
    intro hg hk hv hl hu notice
    obtain ⟨s, hs, h⟩ := htext hk hv
    rw [rejects_eq hg, hs]
    simp [Check.fails, Check.failsText, Value.asString?, (h.lowered hl hu).lower_eq]
  case trimmed =>
    intro hk hv ht
    obtain ⟨s, hs, h⟩ := htext hk hv
    exact ⟨s, hs, h.unpadded ht⟩

/-- Between two blanks, of which one is not of ASCII, a letter that lowering makes two of. -/
theorem normalises_dotted :
    let chain := ((fresh Generator.identity .default).steps
      [.retag .string, .check .lowercase .none, .trim, .lower]).result
    let v := Value.string " \u0130ZM\u0130R\u00a0"
    chain.scope.transform v = .string "i\u0307zmi\u0307r" ∧ chain.Normalises v ∧
      chain.rejects .lowercase .none v = false := by
  intro chain v
  have h : chain.Normalises v := normalises rfl v
  refine ⟨?_, h, h.lowercase Generator.identity_keeps rfl rfl rfl rfl .none⟩
  have ht : Text.lower (Text.trim " \u0130ZM\u0130R\u00a0".toList) =
    "i\u0307zmi\u0307r".toList := by decide +kernel
  rw [Scope.transform_string rfl rfl]
  exact congrArg Value.string ((congrArg String.ofList ht).trans String.ofList_toList)

end Chain

end Assay
