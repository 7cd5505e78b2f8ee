import Assay.Proofs.Normalisation
import Assay.Proofs.SizeChecks

/-!
# Empty values

A text or an array is empty if its size is zero, whatever the measure, and a bound of one asks for
no more than that it is not. Trimming leaves nothing of a text of blanks and something of any other,
and a change of case neither empties a text nor fills an empty one.
-/

namespace Assay

namespace Text

variable {s : List Char}

theorem lower_eq_nil_iff : lower s = [] ↔ s = [] := (rendered_lowerAfter []).eq_nil_iff

theorem upper_eq_nil_iff : upper s = [] ↔ s = [] := (rendered_upper s).eq_nil_iff

end Text

theorem TextFlags.apply_eq_empty_iff {f : TextFlags} {s : String} :
    f.apply s = "" ↔ (if f.trim then Text.trim s.toList else s.toList) = [] := by
  rw [apply, ← String.toList_inj, String.toList_ofList, String.toList_empty]
  generalize (if f.trim then Text.trim s.toList else s.toList) = t
  cases f.lower <;> cases f.upper <;> simp [Text.lower_eq_nil_iff, Text.upper_eq_nil_iff]

theorem LengthMode.measure_eq_zero_iff {m : LengthMode} {s : String} :
    m.measure s = 0 ↔ s = "" := by
  rw [← String.toList_eq_nil_iff, measure]
  cases s.toList with
  | nil => simp
  | cons c rest =>
    have := m.weight_pos c
    simp
    omega

/-- Only no count at all is less than one. -/
theorem Numeric.ofNat_lt_one_iff {k : Nat} {one : Numeric} (ho : one.extended? = some 1) :
    (ofNat k).lt one = true ↔ k = 0 := by
  constructor
  · intro h
    refine Nat.eq_zero_of_not_pos fun hk => ?_
    have hone := lt_of_le_of_lt (ofNat_le_ofNat hk) h
    obtain ⟨b, hb, hlt⟩ := (ofNat_lt_iff (by decide)).mp hone
    cases ho.symm.trans hb
    simp at hlt
  · rintro rfl
    exact (ofNat_lt_iff (by decide)).mpr ⟨1, ho, by simp⟩

/-- What the checks that ask for some content say alike. -/
structure Emptiness (fails : Check → Bool) : Prop where
  min : ∀ one : Numeric, one.extended? = some 1 → fails .required = fails (.min one)
  length : fails .required = !fails (.length 0)

theorem Scope.isEmpty_iff_count? {scope : Scope} {v : Value} {k : Nat}
    (hc : scope.count? v = some k) : v.isEmpty = true ↔ k = 0 := by
  unfold count? at hc
  split at hc
  · cases v with
    | string s =>
      obtain rfl : scope.lengths.measure s = k := by simpa [Value.asString?] using hc
      simp [Value.isEmpty, LengthMode.measure_eq_zero_iff]
    | _ => cases hc
  · cases v with
    | array items =>
      obtain rfl : items.length = k := by simpa [Value.asArray?] using hc
      simp [Value.isEmpty]
    | _ => cases hc
  · cases hc

theorem Check.emptiness {scope : Scope} (hk : scope.counts = true) {v : Value}
    (hv : v.kind = scope.kind) : Emptiness (Check.fails · scope v) := by
  obtain ⟨k, hc⟩ : ∃ k, scope.count? v = some k := by
    simp only [Scope.counts, Bool.or_eq_true, beq_iff_eq] at hk
    rcases hk with hk | hk <;> rw [hk] at hv <;> cases v <;> cases hv <;>
      simp [Scope.count?, hk, Value.asString?, Value.asArray?]
  have hrequired := Scope.isEmpty_iff_count? hc
  constructor
  case min =>
    intro one ho
    rw [Bool.eq_iff_iff, fails, fails, hrequired, Scope.measures_of_counts hk,
      Scope.magnitude?_of_counts hk, hc]
    exact (Numeric.ofNat_lt_one_iff ho).symm
  case length =>
    rw [Bool.eq_iff_iff, fails, fails, hrequired, hk, hc]
    simp

namespace Chain

variable {ρ : Type} [Rule ρ]

/-- In every state and under every measure, a text or an array is refused as empty if it is shorter
than one, and then only its length is zero. Without a transformer of its own, what the chain finds
empty are the texts of blanks if it trims, whatever it does to case, and else the one without
characters. -/
theorem empty_values {chain : Chain ρ} (hg : chain.generator.Keeps) (notice : Check → Notice) :
    (∀ v, chain.scope.kind = .string ∨ chain.scope.kind = .array →
      (chain.scope.transform v).kind = chain.scope.kind →
        Emptiness fun c => chain.rejects c (notice c) v) ∧
    (chain.scope.custom = none → chain.scope.kind = .string → ∀ s : String,
      (chain.scope.flags.trim = true →
        (chain.rejects .required (notice .required) (.string s) = true ↔
          ∀ c ∈ s.toList, Text.isBlank c = true)) ∧
      (chain.scope.flags.trim = false →
        (chain.rejects .required (notice .required) (.string s) = true ↔ s = ""))) := by
  constructor
  · intro v hk hv
    simp only [rejects_eq hg]
    exact Check.emptiness (by simpa [Scope.counts] using hk) hv
  · intro hn hk s
    have hempty : chain.rejects .required (notice .required) (.string s) = true ↔
        (if chain.scope.flags.trim then Text.trim s.toList else s.toList) = [] := by
      rw [rejects_eq hg, Scope.transform_string hn hk, ← TextFlags.apply_eq_empty_iff]
      exact String.isEmpty_iff
    constructor
    · intro ht
      rw [hempty, if_pos ht, Text.trim_eq_nil_iff]
    · intro ht
      rw [hempty, if_neg (by simp [ht]), String.toList_eq_nil_iff]

/-- Three blanks of one, two and three bytes, under flags that leave none of them. -/
theorem empty_values_blank :
    let chain := ((fresh Generator.describe ⟨.array, .bytes⟩).steps
      [.check .required .none, .upper, .trim, .retag .string]).result
    let v := Value.string " \u00a0\u3000"
    chain.rejects .required .none v = true ∧
      chain.rejects (.min (.integer 1)) .none v = true ∧
      chain.rejects (.length 0) .none v = false ∧
      chain.rejects .required .none (.string " \u00a0x\u3000") = false := by
  intro chain v
  have hg : chain.generator.Keeps := Generator.describe_keeps
  obtain ⟨hsizes, htexts⟩ := empty_values hg fun _ => .none
  have htrim (s : String) := (htexts rfl rfl s).1 rfl
  have hv : chain.rejects .required .none v = true := by
    refine (htrim _).mpr ?_
    simp only [String.reduceToList, List.forall_mem_cons]
    exact ⟨by decide, by decide, by decide, List.forall_mem_nil _⟩
  have h := hsizes v (.inl rfl) rfl
  refine ⟨hv, ?_, ?_, ?_⟩
  · rw [← h.min (.integer 1) (by simp [Numeric.extended?]), hv]
  · have hl := h.length
    rw [hv] at hl
    simpa using hl
  · refine Bool.eq_false_iff.mpr fun hx => absurd ((htrim _).mp hx) ?_
    simp only [String.reduceToList, List.forall_mem_cons]
    decide

end Chain

end Assay
