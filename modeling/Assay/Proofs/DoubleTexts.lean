import Assay.Decimal
import Assay.Proofs.ShortestDecimals

/-!
# Texts of doubles

The text of a finite double reads back as the decimal that was found for it, so two doubles that are
not NaN have the same text only if they are the same.
-/

namespace Assay

-- ---------------------------------------------------------------------------
-- Decimals read from digits
-- ---------------------------------------------------------------------------

/-- Digits of a decimal, and nothing else. -/
def Digits (s : List Char) : Prop := ∀ c ∈ s, c.isDigit = true

theorem digits_toDigits (n : Nat) : Digits (Nat.toDigits 10 n) := fun _ hc =>
  Nat.isDigit_of_mem_toDigits (by decide) (by decide) hc

theorem digits_zeros (k : Nat) : Digits (List.replicate k '0') := fun _ hc =>
  (List.eq_of_mem_replicate hc).symm ▸ rfl

theorem Digits.append {s t : List Char} (hs : Digits s) (ht : Digits t) : Digits (s ++ t) :=
  List.forall_mem_append.mpr ⟨hs, ht⟩

namespace Decimal

theorem natOfDigits_eq (ds : List Char) : natOfDigits ds = Nat.ofDigitChars 10 ds 0 := rfl

theorem natOfDigits_toDigits (n : Nat) : natOfDigits (Nat.toDigits 10 n) = n :=
  Nat.ofDigitChars_ten_toDigits

theorem natOfDigits_append_zeros (ds : List Char) (k : Nat) :
    natOfDigits (ds ++ List.replicate k '0') = natOfDigits ds * 10 ^ k := by
  rw [natOfDigits_eq, Nat.ofDigitChars_append, Nat.ofDigitChars_replicate_zero, natOfDigits_eq,
    Nat.mul_comm]

theorem natOfDigits_zeros_append (k : Nat) (ds : List Char) :
    natOfDigits (List.replicate k '0' ++ ds) = natOfDigits ds := by
  rw [natOfDigits_eq, Nat.ofDigitChars_append, Nat.ofDigitChars_replicate_zero, Nat.mul_zero,
    natOfDigits_eq]

variable {whole fraction : List Char}

theorem splitSign_digits (hw : Digits whole) (hn : whole ≠ []) (rest : List Char) :
    splitSign (whole ++ rest) = (false, whole ++ rest) := by
  obtain ⟨c, ds, rfl⟩ := List.exists_cons_of_ne_nil hn
  have hc : c.isDigit = true := hw c (List.mem_cons_self ..)
  rw [List.cons_append]
  unfold splitSign
  split
  case h_1 h =>
    obtain ⟨rfl, _⟩ := List.cons.inj h
    exact absurd hc (by decide)
  case h_2 h =>
    obtain ⟨rfl, _⟩ := List.cons.inj h
    exact absurd hc (by decide)
  case h_3 => rfl

theorem span_digits (hw : Digits whole) : whole.span Char.isDigit = (whole, []) := by
  rw [List.span_eq_takeWhile_dropWhile, List.takeWhile_eq_self_iff.mpr hw,
    List.dropWhile_eq_nil_iff.mpr hw]

theorem ofText?_digits (hw : Digits whole) (hn : whole ≠ []) :
    ofText? whole = some ⟨false, natOfDigits whole, 0⟩ := by
  have hs : splitSign whole = (false, whole) := by simpa using splitSign_digits hw hn []
  simp only [ofText?, hs, span_digits hw]
  simp [hn]

theorem ofText?_point (hw : Digits whole) (hn : whole ≠ []) (hf : Digits fraction) :
    ofText? (whole ++ '.' :: fraction) =
      some ⟨false, natOfDigits (whole ++ fraction), -fraction.length⟩ := by
  have hspan : (whole ++ '.' :: fraction).span Char.isDigit = (whole, '.' :: fraction) := by
    rw [List.span_eq_takeWhile_dropWhile, List.takeWhile_append_of_pos hw,
      List.dropWhile_append_of_pos hw]
    simp
  simp only [ofText?, splitSign_digits hw hn, hspan, span_digits hf]
  simp [hn]

/-- The magnitude in quarters of a unit. -/
def quarters (d : Decimal) : ℚ := Double.quarters d.digits d.exponent

end Decimal

-- ---------------------------------------------------------------------------
-- Digits written with a point
-- ---------------------------------------------------------------------------

namespace Double

theorem quarters_mul_ten_pow (d k : Nat) (e : Int) :
    quarters (d * 10 ^ k) e = quarters d (k + e) := by
  rw [quarters, quarters, zpow_add₀ (by norm_num), zpow_natCast]
  push_cast
  ring

/-- The digits of a number without the zeros at the end. -/
def leading (n : Nat) : List Char :=
  ((Nat.toDigits 10 n).reverse.dropWhile (· = '0')).reverse

theorem exists_leading_append_zeros (n : Nat) :
    ∃ k, Nat.toDigits 10 n = leading n ++ List.replicate k '0' := by
  have hz : ∀ c ∈ (Nat.toDigits 10 n).reverse.takeWhile (· = '0'), c = '0' :=
    fun c hc => by simpa using List.mem_takeWhile_imp hc
  refine ⟨((Nat.toDigits 10 n).reverse.takeWhile (· = '0')).length, ?_⟩
  rw [leading, ← List.reverse_replicate, ← List.eq_replicate_of_mem hz, ← List.reverse_append,
    List.takeWhile_append_dropWhile, List.reverse_reverse]

/-- Digits with the point so many places from the left. -/
def place (ds : List Char) (point : Int) : List Char :=
  if point ≤ 0 then '0' :: '.' :: (List.replicate (-point).toNat '0' ++ ds)
  else if ds.length ≤ point then ds ++ List.replicate (point - ds.length).toNat '0'
  else ds.take point.toNat ++ '.' :: ds.drop point.toNat

theorem positional_eq (n : Nat) (shift : Int) : positional n shift = place (leading n)
    ((leading n).length + (shift + ((Nat.toDigits 10 n).length - (leading n).length : Nat))) := rfl

/-- Wherever the point is put, the digits stand for the same number. -/
theorem ofText?_place {ds : List Char} (hd : Digits ds) (point : Int) : ∃ d,
    Decimal.ofText? (place ds point) = some d ∧
      d.quarters = quarters (Decimal.natOfDigits ds) (point - ds.length) := by
  unfold place
  split
  case isTrue hp =>
    have hf := (digits_zeros (-point).toNat).append hd
    refine ⟨_, Decimal.ofText?_point (digits_zeros 1) (by decide) hf, ?_⟩
    rw [Decimal.quarters, ← List.append_assoc, List.replicate_append_replicate,
      Decimal.natOfDigits_zeros_append]
    congr 1
    dsimp only
    rw [List.length_append, List.length_replicate]
    omega
  case isFalse hp =>
    split
    case isTrue hl =>
      have hw := hd.append (digits_zeros (point - ds.length).toNat)
      refine ⟨_, Decimal.ofText?_digits hw ?_, ?_⟩
      · refine List.ne_nil_of_length_pos ?_
        rw [List.length_append, List.length_replicate]
        omega
      · rw [Decimal.natOfDigits_append_zeros, Decimal.quarters, quarters_mul_ten_pow]
        congr 1
        dsimp only
        omega
    case isFalse hl =>
      have hw : Digits (ds.take point.toNat) := fun c hc => hd c (List.mem_of_mem_take hc)
      have hf : Digits (ds.drop point.toNat) := fun c hc => hd c (List.mem_of_mem_drop hc)
      refine ⟨_, Decimal.ofText?_point hw ?_ hf, ?_⟩
      · refine List.ne_nil_of_length_pos ?_
        rw [List.length_take]
        omega
      · rw [Decimal.quarters, List.take_append_drop]
        congr 1
        dsimp only
        rw [List.length_drop]
        omega

theorem ofText?_positional (n : Nat) (shift : Int) : ∃ d,
    Decimal.ofText? (positional n shift) = some d ∧ d.quarters = quarters n shift := by
  obtain ⟨k, hk⟩ := exists_leading_append_zeros n
  have hd : Digits (leading n) := fun c hc =>
    digits_toDigits n c (hk ▸ List.mem_append_left _ hc)
  have hdropped : (Nat.toDigits 10 n).length - (leading n).length = k := by
    rw [hk, List.length_append, List.length_replicate, Nat.add_sub_cancel_left]
  have hn : quarters n shift = quarters (Decimal.natOfDigits (leading n)) (k + shift) := by
    rw [← quarters_mul_ten_pow, ← Decimal.natOfDigits_append_zeros, ← hk,
      Decimal.natOfDigits_toDigits]
  rw [positional_eq, hdropped, hn]
  obtain ⟨d, hread, hq⟩ := ofText?_place hd ((leading n).length + (shift + k))
  refine ⟨d, hread, hq.trans ?_⟩
  congr 1
  omega

-- ---------------------------------------------------------------------------
-- Texts that agree
-- ---------------------------------------------------------------------------

variable {code : Nat}

/-- What is written of a finite magnitude is a number that rounds to it. -/
theorem ofText?_magnitudeText (h : code < infinityCode) : ∃ d,
    Decimal.ofText? (magnitudeText code) = some d ∧ (interval code).Holds d.quarters := by
  have hi : code ≠ infinityCode := Nat.ne_of_lt h
  by_cases h0 : code = 0
  · subst h0
    have hq : Decimal.quarters ⟨false, 0, 0⟩ = 0 := by
      rw [Decimal.quarters, quarters, Nat.cast_zero, zero_mul, zero_mul]
    refine ⟨⟨false, 0, 0⟩, by decide, ?_⟩
    rw [hq]
    have hends : (interval 0).closed = true := rfl
    refine ⟨by simp [interval_eq, unitsOfCode], Nat.cast_nonneg _, fun hc => ?_⟩
    rw [hends] at hc
    cases hc
  · obtain ⟨d, hread, hq⟩ := ofText?_positional (shortest code).1 (shortest code).2
    refine ⟨d, ?_, hq ▸ holds_shortest (Nat.pos_of_ne_zero h0) h⟩
    rwa [magnitudeText, if_neg hi, if_neg h0]

theorem magnitudeText_infinityCode : magnitudeText infinityCode = ['i', 'n', 'f'] := if_pos rfl

theorem magnitudeText_ne_infinity (h : code < infinityCode) :
    magnitudeText code ≠ magnitudeText infinityCode := by
  obtain ⟨d, hread, -⟩ := ofText?_magnitudeText h
  intro he
  have hnone : Decimal.ofText? ['i', 'n', 'f'] = none := by decide
  rw [he, magnitudeText_infinityCode, hnone] at hread
  cases hread

theorem magnitudeText_inj {a b : Nat} (ha : a ≤ infinityCode) (hb : b ≤ infinityCode)
    (h : magnitudeText a = magnitudeText b) : a = b := by
  rcases Nat.lt_or_eq_of_le ha with ha | rfl
  · rcases Nat.lt_or_eq_of_le hb with hb | rfl
    · obtain ⟨d, hread, hd⟩ := ofText?_magnitudeText ha
      obtain ⟨d', hread', hd'⟩ := ofText?_magnitudeText hb
      rw [h, hread', Option.some_inj] at hread
      exact holds_unique hd (hread ▸ hd')
    · exact absurd h (magnitudeText_ne_infinity ha)
  · rcases Nat.lt_or_eq_of_le hb with hb | rfl
    · exact absurd h.symm (magnitudeText_ne_infinity hb)
    · rfl

theorem mem_place {ds : List Char} (hd : Digits ds) {point : Int} {c : Char}
    (hc : c ∈ place ds point) : c.isDigit = true ∨ c = '.' := by
  have hz : ∀ k, c ∈ List.replicate k '0' → c.isDigit = true := fun k => digits_zeros k c
  unfold place at hc
  split at hc
  case isTrue =>
    simp only [List.mem_cons, List.mem_append] at hc
    rcases hc with rfl | rfl | hc | hc
    · exact .inl (by decide)
    · exact .inr rfl
    · exact .inl (hz _ hc)
    · exact .inl (hd c hc)
  case isFalse =>
    split at hc
    case isTrue =>
      rcases List.mem_append.mp hc with hc | hc
      · exact .inl (hd c hc)
      · exact .inl (hz _ hc)
    case isFalse =>
      simp only [List.mem_cons, List.mem_append] at hc
      rcases hc with hc | rfl | hc
      · exact .inl (hd c (List.mem_of_mem_take hc))
      · exact .inr rfl
      · exact .inl (hd c (List.mem_of_mem_drop hc))

/-- Figures, or the word for what is too large. -/
theorem magnitudeText_cases (h : code ≤ infinityCode) : magnitudeText code = ['i', 'n', 'f'] ∨
    magnitudeText code ≠ [] ∧ ∀ c ∈ magnitudeText code, c.isDigit = true ∨ c = '.' := by
  rcases Nat.lt_or_eq_of_le h with h | rfl
  · refine .inr ⟨?_, fun c hc => ?_⟩
    · obtain ⟨d, hread, -⟩ := ofText?_magnitudeText h
      intro he
      rw [he] at hread
      cases hread
    · rw [magnitudeText, if_neg (Nat.ne_of_lt h)] at hc
      split at hc
      · obtain rfl := List.mem_singleton.mp hc
        exact .inl (by decide)
      · obtain ⟨k, hk⟩ := exists_leading_append_zeros (shortest code).1
        rw [positional_eq] at hc
        exact mem_place (fun c hc => digits_toDigits _ c (hk ▸ List.mem_append_left _ hc)) hc
  · exact .inl magnitudeText_infinityCode

theorem mem_magnitudeText (h : code ≤ infinityCode) {c : Char} (hc : c ∈ magnitudeText code) :
    c.isDigit = true ∨ c ∈ ['.', 'i', 'n', 'f'] := by
  rcases magnitudeText_cases h with he | ⟨-, hd⟩
  · exact .inr (List.mem_cons_of_mem _ (he ▸ hc))
  · exact (hd c hc).imp_right fun hp => by simp [hp]

theorem getLast?_magnitudeText (h : code ≤ infinityCode) : ∃ c,
    (magnitudeText code).getLast? = some c ∧ (c.isDigit = true ∨ c ∈ ['.', 'f']) := by
  rcases magnitudeText_cases h with he | ⟨hn, hd⟩
  · exact ⟨'f', he ▸ rfl, .inr (by decide)⟩
  · refine ⟨_, List.getLast?_eq_some_getLast hn, ?_⟩
    exact (hd _ (List.getLast_mem hn)).imp_right fun hp => by simp [hp]

variable {x y : Double}

theorem code_le_of_not_isNaN (h : x.isNaN = false) : x.code ≤ infinityCode :=
  Nat.le_of_not_lt (of_decide_eq_false h)

theorem toList_text_of_isNaN (h : x.isNaN = true) : x.text.toList = ['N', 'a', 'N'] := by
  rw [text, if_pos h]
  rfl

theorem toList_text (h : x.isNaN = false) : x.text.toList =
    (if x.negative then ['-'] else []) ++ magnitudeText x.code := by
  rw [text, if_neg (by simp [h]), String.toList_ofList]
  cases x.negative <;> rfl

theorem mem_text_of_not_isNaN (h : x.isNaN = false) {c : Char} (hc : c ∈ x.text.toList) :
    c.isDigit = true ∨ c ∈ ['-', '.', 'i', 'n', 'f'] := by
  rw [toList_text h] at hc
  rcases List.mem_append.mp hc with hc | hc
  · refine .inr ?_
    split at hc
    · exact List.mem_singleton.mp hc ▸ List.mem_cons_self ..
    · cases hc
  · exact (mem_magnitudeText (code_le_of_not_isNaN h) hc).imp_right (List.mem_cons_of_mem _)

/-- Digits, the sign, the point and the letters of two words. -/
theorem mem_text {c : Char} (hc : c ∈ x.text.toList) :
    c.isDigit = true ∨ c ∈ ['-', '.', 'i', 'n', 'f', 'N', 'a'] := by
  cases h : x.isNaN with
  | true =>
    rw [toList_text_of_isNaN h] at hc
    refine .inr ?_
    simp only [List.mem_cons] at hc ⊢
    tauto
  | false =>
    refine (mem_text_of_not_isNaN h hc).imp_right fun hm => ?_
    exact List.mem_append_left ['N', 'a'] hm

theorem getLast?_text (x : Double) : ∃ c, x.text.toList.getLast? = some c ∧
    (c.isDigit = true ∨ c ∈ ['.', 'f', 'N']) := by
  cases h : x.isNaN with
  | true => exact ⟨'N', by rw [toList_text_of_isNaN h]; rfl, .inr (by decide)⟩
  | false =>
    obtain ⟨c, hc, hm⟩ := getLast?_magnitudeText (code_le_of_not_isNaN h)
    refine ⟨c, ?_, hm.imp_right (List.mem_append_left ['N'])⟩
    rw [toList_text h, List.getLast?_append, hc, Option.some_or]

theorem isNaN_eq_of_text_eq (h : x.text = y.text) : x.isNaN = y.isNaN := by
  have hN {x y : Double} (h : x.text = y.text) (hx : x.isNaN = true) : y.isNaN = true := by
    refine Bool.eq_true_of_not_eq_false fun hy => ?_
    have hm : 'N' ∈ y.text.toList := by
      rw [← h, toList_text_of_isNaN hx]
      exact List.mem_cons_self ..
    exact absurd (mem_text_of_not_isNaN hy hm) (by decide)
  rw [Bool.eq_iff_iff]
  exact ⟨hN h, hN h.symm⟩

theorem minus_mem_text_iff (h : x.isNaN = false) :
    '-' ∈ x.text.toList ↔ x.negative = true := by
  have hm : '-' ∉ magnitudeText x.code := fun hm =>
    absurd (mem_magnitudeText (code_le_of_not_isNaN h) hm) (by decide)
  rw [toList_text h]
  cases x.negative <;> simp [hm]

/-- Doubles other than NaN are told apart by their texts, the two zeros by the sign. -/
theorem text_inj (hx : x.isNaN = false) (hy : y.isNaN = false) (h : x.text = y.text) : x = y := by
  have hs : x.negative = y.negative := by
    rw [Bool.eq_iff_iff, ← minus_mem_text_iff hx, h, minus_mem_text_iff hy]
  have hl := congrArg String.toList h
  rw [toList_text hx, toList_text hy, hs] at hl
  have hc := magnitudeText_inj (code_le_of_not_isNaN hx) (code_le_of_not_isNaN hy)
    (List.append_cancel_left hl)
  cases x
  cases y
  cases hs
  cases hc
  rfl

theorem value?_eq_of_text_eq (h : x.text = y.text) : x.value? = y.value? := by
  have hn := isNaN_eq_of_text_eq h
  cases hx : x.isNaN with
  | true => rw [value?_eq_none_iff.mpr hx, value?_eq_none_iff.mpr (hn ▸ hx)]
  | false => rw [text_inj hx (hn ▸ hx) h]

end Double

end Assay
