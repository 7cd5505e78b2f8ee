import Assay.Proofs.CaseTables
import Mathlib.Data.List.Basic
import Mathlib.Data.List.TakeWhile

/-!
# Case mapping of text

Lowered and raised texts are the ones that the mappings leave as they are, and both mappings make
such texts. The sigma at the end of a word is the one place where lowering looks around itself, and
raising takes both small sigmas to the same capital. A text without blanks at its ends has none
there after a mapping either.
-/

namespace Assay.Text

variable {s t : List Char} {c : Char}

-- ---------------------------------------------------------------------------
-- Lowered and raised texts
-- ---------------------------------------------------------------------------

/-- Each character is one that lowering leaves alone. -/
def Lowered (s : List Char) : Prop := ∀ c ∈ s, lowerChar c = [c]

def Raised (s : List Char) : Prop := ∀ c ∈ s, upperChar c = [c]

theorem lowerChar_capitalSigma : lowerChar capitalSigma = [smallSigma] := by decide

/-- Either small sigma is lowered and raised to the capital, and neither is a blank. -/
theorem small_sigmas : ∀ d ∈ [finalSigma, smallSigma],
    lowerChar d = [d] ∧ upperChar d = [capitalSigma] ∧ isBlank d = false :=
  List.forall_mem_cons.mpr ⟨by decide, List.forall_mem_singleton.mpr (by decide)⟩

theorem lowerAfter_cons_of_ne (h : c ≠ capitalSigma) (before : List Char) :
    lowerAfter before (c :: s) = lowerChar c ++ lowerAfter (c :: before) s := by
  rw [lowerAfter, if_neg h]

theorem lowerAfter_cons_sigma (before : List Char) : ∃ d ∈ [finalSigma, smallSigma],
    lowerAfter before (capitalSigma :: s) = d :: lowerAfter (capitalSigma :: before) s := by
  rw [lowerAfter, if_pos rfl]
  split
  · exact ⟨finalSigma, by simp, rfl⟩
  · exact ⟨smallSigma, by simp, rfl⟩

theorem lowered_lowerAfter (before : List Char) : Lowered (lowerAfter before s) := by
  induction s generalizing before with
  | nil => exact List.forall_mem_nil _
  | cons c s ih =>
    by_cases hc : c = capitalSigma
    · subst hc
      obtain ⟨d, hd, he⟩ := lowerAfter_cons_sigma (s := s) before
      rw [he]
      exact List.forall_mem_cons.mpr ⟨(small_sigmas d hd).1, ih _⟩
    · rw [lowerAfter_cons_of_ne hc]
      exact List.forall_mem_append.mpr ⟨fun d hd => lowerChar_of_mem hd, ih _⟩

theorem lowered_lower : Lowered (lower s) := lowered_lowerAfter []

theorem Lowered.lowerAfter_eq (h : Lowered s) (before : List Char) : lowerAfter before s = s := by
  induction s generalizing before with
  | nil => rfl
  | cons c s ih =>
    obtain ⟨hc, hs⟩ := List.forall_mem_cons.mp h
    have hne : c ≠ capitalSigma := by
      rintro rfl
      rw [lowerChar_capitalSigma] at hc
      exact absurd hc (by decide)
    rw [lowerAfter_cons_of_ne hne, hc, ih hs, List.singleton_append]

theorem Lowered.lower_eq (h : Lowered s) : lower s = s := h.lowerAfter_eq []

theorem raised_upper : Raised (upper s) := by
  intro d hd
  obtain ⟨c, _, hc⟩ := List.mem_flatMap.mp hd
  exact upperChar_of_mem hc

theorem flatMap_eq_self {f : Char → List Char} (h : ∀ c ∈ s, f c = [c]) : s.flatMap f = s := by
  rw [List.flatMap_congr h, List.flatMap_singleton']

theorem Raised.upper_eq (h : Raised s) : upper s = s := flatMap_eq_self h

-- ---------------------------------------------------------------------------
-- Lowering before raising
-- ---------------------------------------------------------------------------

/-- Once raised, a text no longer shows which sigmas were at the end of a word. -/
theorem upper_lowerAfter (before : List Char) :
    upper (lowerAfter before s) = s.flatMap fun c => upper (lowerChar c) := by
  induction s generalizing before with
  | nil => rfl
  | cons c s ih =>
    rw [List.flatMap_cons]
    by_cases hc : c = capitalSigma
    · subst hc
      obtain ⟨d, hd, he⟩ := lowerAfter_cons_sigma (s := s) before
      have hsigma : upper [d] = upper (lowerChar capitalSigma) := by
        rw [lowerChar_capitalSigma, upper, upper, List.flatMap_singleton, List.flatMap_singleton,
          (small_sigmas d hd).2.1, (small_sigmas smallSigma (by simp)).2.1]
      rw [he, ← List.singleton_append, upper_append, hsigma, ih]
    · rw [lowerAfter_cons_of_ne hc, upper_append, ih]

theorem Lowered.upper_lower_upper (h : Lowered s) : upper (lower (upper s)) = upper s := by
  rw [lower, upper_lowerAfter]
  refine flatMap_eq_self fun d hd => ?_
  obtain ⟨c, hc, hdc⟩ := List.mem_flatMap.mp hd
  exact flatMap_upperChar_lowerChar (h c hc) hdc

-- ---------------------------------------------------------------------------
-- Blanks at the ends
-- ---------------------------------------------------------------------------

/-- Neither the first character nor the last is a blank. -/
structure Unpadded (s : List Char) : Prop where
  first : ∀ c, s.head? = some c → isBlank c = false
  last : ∀ c, s.getLast? = some c → isBlank c = false

theorem unpadded_trim (s : List Char) : Unpadded (trim s) where
  first := fun c hc => by
    -- what is left begins as it did before its end was trimmed
    have hpre : trim s <+: trimStart s := by
      rw [trim, trimEnd, ← List.reverse_suffix, List.reverse_reverse]
      exact List.dropWhile_suffix _
    obtain ⟨t, ht⟩ := hpre
    refine head?_trimStart (s := s) ?_
    rw [← ht, List.head?_append, hc, Option.some_or]
  last := fun _ => getLast?_trimEnd

theorem Unpadded.trimEnd_eq (h : Unpadded s) : trimEnd s = s := by
  have hend : s.reverse.dropWhile isBlank = s.reverse :=
    dropWhile_eq_self fun c hc => h.last c (by rwa [List.head?_reverse] at hc)
  rw [trimEnd, hend, List.reverse_reverse]

theorem Unpadded.trim_eq (h : Unpadded s) : trim s = s := by
  have hstart : trimStart s = s := dropWhile_eq_self h.first
  rw [trim, hstart, h.trimEnd_eq]

theorem trimStart_append {before : List Char} (h : ∀ c ∈ before, isBlank c = true)
    (s : List Char) : trimStart (before ++ s) = trimStart s := List.dropWhile_append_of_pos h

theorem trimEnd_append {after : List Char} (h : ∀ c ∈ after, isBlank c = true)
    (s : List Char) : trimEnd (s ++ after) = trimEnd s := by
  have hr : ∀ c ∈ after.reverse, isBlank c = true := fun c hc => h c (List.mem_reverse.mp hc)
  rw [trimEnd, List.reverse_append, List.dropWhile_append_of_pos hr]
  rfl

theorem exists_append_trimStart (s : List Char) :
    ∃ before, s = before ++ trimStart s ∧ ∀ c ∈ before, isBlank c = true :=
  ⟨s.takeWhile isBlank, List.takeWhile_append_dropWhile.symm, fun _ => List.mem_takeWhile_imp⟩

theorem exists_trimEnd_append (s : List Char) :
    ∃ after, s = trimEnd s ++ after ∧ ∀ c ∈ after, isBlank c = true := by
  obtain ⟨before, hs, hb⟩ := exists_append_trimStart s.reverse
  refine ⟨before.reverse, ?_, fun c hc => hb c (List.mem_reverse.mp hc)⟩
  rw [trimEnd, ← List.reverse_append]
  exact List.reverse_eq_iff.mp hs

/-- Trimming finds what stands between blanks and neither begins nor ends with one. -/
theorem trim_eq_iff : trim s = t ↔ Unpadded t ∧ ∃ before after, s = before ++ t ++ after ∧
    (∀ c ∈ before, isBlank c = true) ∧ ∀ c ∈ after, isBlank c = true := by
  constructor
  · rintro rfl
    obtain ⟨before, hs, hb⟩ := exists_append_trimStart s
    obtain ⟨after, ht, ha⟩ := exists_trimEnd_append (trimStart s)
    refine ⟨unpadded_trim s, before, after, ?_, hb, ha⟩
    rw [List.append_assoc, trim, ← ht, ← hs]
  · rintro ⟨ht, before, after, rfl, hb, ha⟩
    rw [List.append_assoc, trim, trimStart_append hb]
    cases t with
    | nil =>
      have hall : trimStart after = [] := List.dropWhile_eq_nil_iff.mpr ha
      rw [List.nil_append, hall]
      rfl
    | cons c rest =>
      have hstart : trimStart (c :: rest ++ after) = c :: rest ++ after :=
        dropWhile_eq_self fun d hd => ht.first d hd
      rw [hstart, trimEnd_append ha, ht.trimEnd_eq]

theorem trim_eq_nil_iff : trim s = [] ↔ ∀ c ∈ s, isBlank c = true := by
  rw [trim_eq_iff]
  constructor
  · rintro ⟨-, before, after, rfl, hb, ha⟩
    rw [List.append_nil]
    exact List.forall_mem_append.mpr ⟨hb, ha⟩
  · intro h
    exact ⟨⟨nofun, nofun⟩, s, [], by simp, h, nofun⟩

/-- Piece by piece, one for each character, and blanks only for blanks. -/
inductive Rendered : List Char → List Char → Prop
  | nil : Rendered [] []
  | cons {c piece rest out} (nonempty : piece ≠ [])
      (blanks : isBlank c = false → ∀ d ∈ piece, isBlank d = false) (others : Rendered rest out) :
      Rendered (c :: rest) (piece ++ out)

namespace Rendered

theorem eq_nil_iff (h : Rendered s t) : t = [] ↔ s = [] := by
  cases h with
  | nil => exact Iff.rfl
  | cons hp _ _ => simp [hp]

theorem unpadded (h : Rendered s t) (hs : Unpadded s) : Unpadded t where
  first := fun d hd => by
    cases h with
    | nil => cases hd
    | cons hp hb _ =>
      rw [List.head?_append_of_ne_nil _ hp] at hd
      exact hb (hs.first _ rfl) d (List.mem_of_head? hd)
  last := by
    have hlast := hs.last
    clear hs
    induction h with
    | nil => exact fun d hd => absurd hd (by simp)
    | @cons c piece s t _ hb ht ih =>
      intro d hd
      by_cases hn : s = []
      · have htn := ht.eq_nil_iff.mpr hn
        subst hn htn
        rw [List.append_nil] at hd
        exact hb (hlast c rfl) d (List.mem_of_getLast? hd)
      · rw [List.getLast?_append_of_ne_nil _ (mt ht.eq_nil_iff.mp hn)] at hd
        refine ih (fun e he => hlast e ?_) d hd
        rw [← List.singleton_append, List.getLast?_append_of_ne_nil _ hn, he]

end Rendered

theorem rendered_upper (s : List Char) : Rendered s (upper s) := by
  induction s with
  | nil => exact .nil
  | cons c s ih =>
    exact .cons settles_raising.mapChar_ne_nil (fun hc _ => not_isBlank_upperChar hc) ih

theorem rendered_lowerAfter (before : List Char) : Rendered s (lowerAfter before s) := by
  induction s generalizing before with
  | nil => exact .nil
  | cons c s ih =>
    by_cases hc : c = capitalSigma
    · subst hc
      obtain ⟨d, hd, he⟩ := lowerAfter_cons_sigma (s := s) before
      rw [he, ← List.singleton_append]
      have hb : ∀ e ∈ [d], isBlank e = false :=
        List.forall_mem_singleton.mpr (small_sigmas d hd).2.2
      exact .cons (List.cons_ne_nil _ _) (fun _ => hb) (ih _)
    · rw [lowerAfter_cons_of_ne hc]
      exact .cons settles_lowering.mapChar_ne_nil (fun hb _ => not_isBlank_lowerChar hb) (ih _)

theorem Unpadded.lower (h : Unpadded s) : Unpadded (lower s) := (rendered_lowerAfter []).unpadded h

theorem Unpadded.upper (h : Unpadded s) : Unpadded (upper s) := (rendered_upper s).unpadded h

end Assay.Text
