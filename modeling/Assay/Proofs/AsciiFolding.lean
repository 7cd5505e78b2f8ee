import Assay.Pattern.Charset

/-!
# What folds onto ASCII

Under case folding a set of ASCII characters takes in no others than those of ASCII, the long s and
the Kelvin sign. The tables are looked at row by row; no list of all characters is made.
-/

namespace Assay

namespace Text

theorem toNat_ofNat {n : Nat} (h : n < 0xD800 ∨ 0xE000 ≤ n ∧ n < 0x110000) :
    (Char.ofNat n).toNat = n := by
  have hv : n.isValidChar := by
    unfold Nat.isValidChar
    omega
  rw [Char.ofNat, dif_pos hv]
  rfl

/-- By its code, where there are few. -/
theorem forall_ascii {p : Char → Prop} (h : ∀ n < 128, p (Char.ofNat n)) {c : Char}
    (hc : c.toNat < 128) : p c := by
  rw [← Char.ofNat_toNat c]
  exact h _ hc

/-- A row stays in ASCII, is the one for the Kelvin sign, or leads to characters beyond ASCII. -/
theorem lowering_rows : ∀ s ∈ lowering,
    s.row.last < 128 ∨ (s.row.first = 0x212A ∧ s.row.last = 0x212A) ∨
    (128 ≤ s.row.first + s.distance ∧ s.row.last + s.distance < 0xD800) ∨
    (0xE000 ≤ s.row.first + s.distance ∧ s.row.last + s.distance < 0x110000) := by
  decide +kernel

theorem foldingExceptions_rows :
    ∀ e ∈ foldingExceptions, (Char.ofNat e.2).toNat < 128 → e.1 = 0x17F := by
  decide

theorem foldCase_ascii {c : Char} (hc : c.toNat < 128) : foldCase c = c.toLower :=
  forall_ascii (p := fun c => foldCase c = c.toLower) (by decide) hc

theorem ascii_of_foldCase {c : Char} (h : (foldCase c).toNat < 128) :
    c.toNat < 128 ∨ c.toNat = 0x17F ∨ c.toNat = 0x212A := by
  unfold foldCase at h
  split at h
  · rename_i n hl
    obtain ⟨l, l', he, _⟩ := List.lookup_eq_some_iff.mp hl
    exact .inr (.inl (foldingExceptions_rows (c.toNat, n) (by simp [he]) h))
  · unfold ShiftTable.apply at h
    split at h
    · rename_i n hi
      obtain ⟨s, hs, hc, rfl⟩ := ShiftTable.exists_of_image? hi
      obtain ⟨hf, hl, _⟩ := Row.contains_iff.mp hc
      rcases lowering_rows s hs with hr | ⟨hf', hl'⟩ | hr | hr
      · exact .inl (by omega)
      · exact .inr (.inr (by omega))
      · unfold Shift.target at h
        rw [toNat_ofNat (.inl (by omega))] at h
        omega
      · unfold Shift.target at h
        rw [toNat_ofNat (.inr (by omega))] at h
        omega
    · exact .inl h

theorem foldCase_longS : foldCase (Char.ofNat 0x17F) = 's' := by decide

theorem foldCase_kelvin : foldCase (Char.ofNat 0x212A) = 'k' := by decide

/-- Where a character of ASCII comes from. -/
theorem foldCase_eq_ascii {c d : Char} (hd : d.toNat < 128) : foldCase c = d ↔
    (c.toNat < 128 ∧ c.toLower = d) ∨ (c.toNat = 0x17F ∧ d = 's') ∨
      (c.toNat = 0x212A ∧ d = 'k') := by
  constructor
  · rintro rfl
    rcases ascii_of_foldCase hd with hc | hc | hc
    · exact .inl ⟨hc, (foldCase_ascii hc).symm⟩
    · refine .inr (.inl ⟨hc, ?_⟩)
      rw [← Char.ofNat_toNat c, hc, foldCase_longS]
    · refine .inr (.inr ⟨hc, ?_⟩)
      rw [← Char.ofNat_toNat c, hc, foldCase_kelvin]
  · rintro (⟨hc, rfl⟩ | ⟨hc, rfl⟩ | ⟨hc, rfl⟩)
    · exact foldCase_ascii hc
    · rw [← Char.ofNat_toNat c, hc, foldCase_longS]
    · rw [← Char.ofNat_toNat c, hc, foldCase_kelvin]

/-- A capital letter, or a character that is its own lower case. -/
theorem capital_or_lower {c : Char} (hc : c.toNat < 128) :
    (0x41 ≤ c.toNat ∧ c.toNat ≤ 0x5A ∧ c.toLower.toNat = c.toNat + 32) ∨
    ((c.toNat < 0x41 ∨ 0x5A < c.toNat) ∧ c.toLower = c) :=
  forall_ascii (p := fun c => (0x41 ≤ c.toNat ∧ c.toNat ≤ 0x5A ∧ c.toLower.toNat = c.toNat + 32) ∨
    ((c.toNat < 0x41 ∨ 0x5A < c.toNat) ∧ c.toLower = c)) (by decide) hc

theorem toLower_of_no_capital {c : Char} (hc : c.toNat < 128)
    (h : c.toNat < 0x41 ∨ 0x5A < c.toNat) : c.toLower = c := by
  rcases capital_or_lower hc with hc | ⟨_, hc⟩
  · omega
  · exact hc

theorem toNat_toLower {c : Char} (hc : c.toNat < 128) :
    c.toLower.toNat = if 0x41 ≤ c.toNat ∧ c.toNat ≤ 0x5A then c.toNat + 32 else c.toNat := by
  rcases capital_or_lower hc with ⟨hl, hu, hn⟩ | ⟨hn, he⟩
  · rw [hn, if_pos ⟨hl, hu⟩]
  · rw [he, if_neg (by omega)]

theorem foldCase_foldCase_ascii {c : Char} (h : (foldCase c).toNat < 128) :
    foldCase (foldCase c) = foldCase c := by
  rw [foldCase_ascii h]
  refine toLower_of_no_capital h ?_
  rcases (foldCase_eq_ascii h).mp rfl with ⟨hc, hl⟩ | ⟨_, hl⟩ | ⟨_, hl⟩
  · have hn := toNat_toLower hc
    rw [hl] at hn
    split at hn <;> omega
  · rw [hl]
    decide
  · rw [hl]
    decide

/-- A character of ASCII that is no letter. -/
def Uncased (c : Char) : Prop :=
  c.toNat < 0x41 ∨ 0x5A < c.toNat ∧ c.toNat < 0x61 ∨ 0x7A < c.toNat ∧ c.toNat < 128

instance (c : Char) : Decidable (Uncased c) := inferInstanceAs (Decidable (_ ∨ _))

/-- Only a character that is no letter folds onto one, and it is that. -/
theorem foldCase_eq_uncased {c d : Char} (hd : Uncased d) : foldCase c = d ↔ c = d := by
  unfold Uncased at hd
  rw [foldCase_eq_ascii (by omega)]
  constructor
  · rintro (⟨hc, hl⟩ | ⟨_, rfl⟩ | ⟨_, rfl⟩)
    · have hn := toNat_toLower hc
      rw [hl] at hn
      refine hl ▸ (toLower_of_no_capital hc ?_).symm
      split at hn <;> omega
    · exact absurd hd (by decide)
    · exact absurd hd (by decide)
  · rintro rfl
    exact .inl ⟨by omega, toLower_of_no_capital (by omega) (by omega)⟩

theorem isUpper_iff {c : Char} : c.isUpper = true ↔ 0x41 ≤ c.toNat ∧ c.toNat ≤ 0x5A :=
  decide_eq_true_iff

theorem isLower_iff {c : Char} : c.isLower = true ↔ 0x61 ≤ c.toNat ∧ c.toNat ≤ 0x7A :=
  Bool.and_eq_true_iff.trans (and_congr decide_eq_true_iff decide_eq_true_iff)

theorem isAlpha_iff {c : Char} : c.isAlpha = true ↔
    (0x41 ≤ c.toNat ∧ c.toNat ≤ 0x5A) ∨ (0x61 ≤ c.toNat ∧ c.toNat ≤ 0x7A) :=
  Bool.or_eq_true_iff.trans (or_congr isUpper_iff isLower_iff)

theorem isDigit_iff {c : Char} : c.isDigit = true ↔ 0x30 ≤ c.toNat ∧ c.toNat ≤ 0x39 :=
  Bool.and_eq_true_iff.trans (and_congr decide_eq_true_iff decide_eq_true_iff)

/-- Onto a small letter fold the letters and the two characters beyond ASCII. -/
theorem foldCase_small_letter {c : Char} :
    (0x61 ≤ (foldCase c).toNat ∧ (foldCase c).toNat ≤ 0x7A) ↔
      c.isAlpha = true ∨ c.toNat = 0x17F ∨ c.toNat = 0x212A := by
  constructor
  · intro h
    have hf : (foldCase c).toNat < 128 := by omega
    rcases (foldCase_eq_ascii hf).mp rfl with ⟨hc, hl⟩ | ⟨hc, _⟩ | ⟨hc, _⟩
    · have hn := toNat_toLower hc
      rw [hl] at hn
      refine .inl (isAlpha_iff.mpr ?_)
      split at hn <;> omega
    · exact .inr (.inl hc)
    · exact .inr (.inr hc)
  · rintro (hc | hc | hc)
    · have hl := isAlpha_iff.mp hc
      have hn := toNat_toLower (c := c) (by omega)
      rw [foldCase_ascii (by omega)]
      split at hn <;> omega
    · rw [← Char.ofNat_toNat c, hc, foldCase_longS]
      decide
    · rw [← Char.ofNat_toNat c, hc, foldCase_kelvin]
      decide

theorem mem_caseVariants_ascii {c d : Char} (hd : d.toNat < 128) :
    d ∈ caseVariants c ↔ d.toLower = foldCase c := by
  simp only [caseVariants, List.mem_cons, List.mem_filter, decide_eq_true_eq]
  constructor
  · rintro (rfl | rfl | ⟨_, h⟩)
    · exact (foldCase_ascii hd).symm
    · rw [← foldCase_ascii hd, foldCase_foldCase_ascii hd]
    · rw [← foldCase_ascii hd, h]
  · intro h
    rcases capital_or_lower hd with ⟨hl, hu, hn⟩ | ⟨_, hn⟩
    · -- the row of the capital letters leads back from the lower case
      have hs : (⟨⟨0x41, 0x5A, 1⟩, 32⟩ : Shift).source? (foldCase c).toNat = some d.toNat := by
        have hm : (((foldCase c).toNat : Int) - 32).toNat = d.toNat := by
          rw [← h, hn]
          omega
        have hc : (⟨0x41, 0x5A, 1⟩ : Row).contains d.toNat = true :=
          Row.contains_iff.mpr ⟨hl, hu, Nat.mod_one _⟩
        simp only [Shift.source?, hm, hc, if_pos]
      have hr : (⟨⟨0x41, 0x5A, 1⟩, 32⟩ : Shift) ∈ lowering := List.mem_cons_self ..
      refine .inr (.inr ⟨List.mem_map.mpr ⟨d.toNat, ?_, Char.ofNat_toNat d⟩, ?_⟩)
      · exact List.mem_append_left _ (List.mem_filterMap.mpr ⟨_, hr, hs⟩)
      · rw [foldCase_ascii hd, h]
    · exact .inr (.inl (hn.symm.trans h))

end Text

namespace Pattern.Charset

open Text

variable {a b : Charset} {c : Char}

theorem contains_anyCase_union :
    (anyCase (.union a b)).contains c = ((anyCase a).contains c || (anyCase b).contains c) := by
  rw [Bool.eq_iff_iff]
  simp only [contains, List.any_eq_true, Bool.or_eq_true, and_or_left, exists_or]

theorem contains_anyCase_nothing : (anyCase .nothing).contains c = false := by
  simp [contains]

theorem contains_anyCase_ascii (ha : ∀ d, a.contains d = true → d.toNat < 128) :
    (anyCase a).contains c = true ↔ ∃ d, a.contains d = true ∧ d.toLower = foldCase c := by
  simp only [contains, List.any_eq_true]
  constructor
  · rintro ⟨d, hm, hd⟩
    exact ⟨d, hd, (mem_caseVariants_ascii (ha d hd)).mp hm⟩
  · rintro ⟨d, hd, h⟩
    exact ⟨d, (mem_caseVariants_ascii (ha d hd)).mpr h, hd⟩

theorem contains_range {first last : Nat} :
    (range first last).contains c = true ↔ first ≤ c.toNat ∧ c.toNat ≤ last := by
  simp [contains]

/-- A range without capital letters asks what a character folds onto. -/
theorem contains_anyCase_range {first last : Nat}
    (h : last < 0x41 ∨ 0x5A < first ∧ last < 128) :
    (anyCase (.range first last)).contains c = true ↔
      first ≤ (foldCase c).toNat ∧ (foldCase c).toNat ≤ last := by
  have ha : ∀ d, (range first last).contains d = true → d.toLower = d := fun d hd => by
    have hr := contains_range.mp hd
    exact toLower_of_no_capital (by omega) (by omega)
  rw [contains_anyCase_ascii fun d hd => by have := contains_range.mp hd; omega]
  constructor
  · rintro ⟨d, hd, hl⟩
    rw [← hl, ha d hd]
    exact contains_range.mp hd
  · intro hr
    have hc : (range first last).contains (foldCase c) = true := contains_range.mpr hr
    exact ⟨foldCase c, hc, ha _ hc⟩

theorem contains_anyCase_letters : (anyCase (.range 0x61 0x7A)).contains c = true ↔
    c.isAlpha = true ∨ c.toNat = 0x17F ∨ c.toNat = 0x212A := by
  rw [contains_anyCase_range (by omega), foldCase_small_letter]

theorem contains_anyCase_one {d : Char} (h : Uncased d) :
    (anyCase (.one d)).contains c = true ↔ c = d := by
  rw [one, contains_anyCase_range (by unfold Uncased at h; omega), ← foldCase_eq_uncased h,
    ← Char.toNat_inj]
  omega

theorem contains_anyCase_digits : (anyCase (.range 0x30 0x39)).contains c = true ↔
    c.isDigit = true := by
  rw [contains_anyCase_range (by omega), isDigit_iff]
  constructor
  · intro h
    rwa [← (foldCase_eq_uncased (d := foldCase c) (.inl (by omega))).mp rfl] at h
  · intro h
    rwa [(foldCase_eq_uncased (.inl (by omega))).mpr rfl]

end Pattern.Charset

end Assay
