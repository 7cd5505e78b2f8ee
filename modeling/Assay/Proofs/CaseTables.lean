import Assay.Proofs.AsciiFolding
import Assay.Text.Blank

/-!
# What the case tables move and make

A case mapping moves the code points of its rows and expansions, and makes others of them. No code
point that it makes is one that it moves, or a blank; what raising makes, lowering leaves alone or
takes to a code point that raising sends back. Sets of code points are compared as bits of one
number, so that no pair of rows is looked at.
-/

namespace Assay.Text

-- ---------------------------------------------------------------------------
-- Sets of code points
-- ---------------------------------------------------------------------------

namespace Row

/-- The code points of a row that is not empty. -/
def codes (r : Row) : List Nat := List.range' r.first ((r.last - r.first) / r.step + 1) r.step

theorem mem_codes {r : Row} (h : r.first ≤ r.last) {n : Nat} :
    n ∈ r.codes ↔ r.contains n = true := by
  rw [codes, List.mem_range', contains_iff]
  constructor
  · rintro ⟨i, hi, rfl⟩
    have hle : r.step * i ≤ r.last - r.first :=
      Nat.le_trans (Nat.mul_le_mul_left _ (Nat.le_of_lt_succ hi)) (Nat.mul_div_le ..)
    refine ⟨Nat.le_add_right .., by omega, ?_⟩
    rw [Nat.add_sub_cancel_left, Nat.mul_mod_right]
  · rintro ⟨hf, hl, hs⟩
    have hd := Nat.div_add_mod (n - r.first) r.step
    refine ⟨(n - r.first) / r.step, Nat.lt_succ_of_le (Nat.div_le_div_right (by omega)), ?_⟩
    omega

/-- All of a row is in the other: it is one code point, or takes its steps in steps of the other. -/
def Within (r t : Row) : Prop :=
  r.last ≤ t.last ∧ t.first ≤ r.first ∧ (r.first - t.first) % t.step = 0 ∧
    (r.first = r.last ∨ r.step % t.step = 0)

instance (r t : Row) : Decidable (r.Within t) := inferInstanceAs (Decidable (_ ∧ _))

theorem Within.contains {r t : Row} (h : r.Within t) {n : Nat} (hn : r.contains n = true) :
    t.contains n = true := by
  obtain ⟨hl, hf, hs, hstep⟩ := h
  obtain ⟨hnf, hnl, hns⟩ := contains_iff.mp hn
  refine contains_iff.mpr ⟨by omega, by omega, ?_⟩
  have hfirst : t.step ∣ r.first - t.first := Nat.dvd_of_mod_eq_zero hs
  have hrest : t.step ∣ n - r.first := by
    rcases hstep with he | hd
    · rw [show n - r.first = 0 by omega]
      exact Nat.dvd_zero _
    · exact Nat.dvd_trans (Nat.dvd_of_mod_eq_zero hd) (Nat.dvd_of_mod_eq_zero hns)
  have hsum := Nat.dvd_add hrest hfirst
  rw [show n - r.first + (r.first - t.first) = n - t.first by omega] at hsum
  exact Nat.mod_eq_zero_of_dvd hsum

end Row

/-- A number with one bit for each code. -/
def bits (codes : List Nat) : Nat := codes.foldr (fun n m => 1 <<< n ||| m) 0

theorem testBit_bits {codes : List Nat} {n : Nat} :
    (bits codes).testBit n = true ↔ n ∈ codes := by
  induction codes with
  | nil => simp [bits]
  | cons m codes ih =>
    have hm : (1 <<< m).testBit n = true ↔ n = m := by
      rw [Nat.one_shiftLeft, Nat.testBit_two_pow, decide_eq_true_eq, eq_comm]
    have hc : bits (m :: codes) = 1 <<< m ||| bits codes := rfl
    rw [hc, Nat.testBit_or, Bool.or_eq_true, ih, hm, List.mem_cons]

theorem not_mem_of_bits {a b : List Nat} (h : bits a &&& bits b = 0) {n : Nat} (ha : n ∈ a) :
    n ∉ b := by
  intro hb
  have ht : (bits a &&& bits b).testBit n = true := by
    rw [Nat.testBit_and, testBit_bits.mpr ha, testBit_bits.mpr hb]
    rfl
  rw [h, Nat.zero_testBit] at ht
  cases ht

theorem mem_of_bits {a b c : List Nat} (h : bits a &&& bits b ||| bits c = bits c) {n : Nat}
    (ha : n ∈ a) (hb : n ∈ b) : n ∈ c := by
  have ht : (bits a &&& bits b ||| bits c).testBit n = true := by
    rw [Nat.testBit_or, Nat.testBit_and, testBit_bits.mpr ha, testBit_bits.mpr hb]
    rfl
  rw [h] at ht
  exact testBit_bits.mp ht

-- ---------------------------------------------------------------------------
-- Rows that move
-- ---------------------------------------------------------------------------

namespace Shift

/-- The row that the shift makes of one. -/
def onto (s : Shift) (r : Row) : Row := ⟨s.target r.first, s.target r.last, r.step⟩

/-- Moves a row that is not empty, and to characters. -/
def Valid (s : Shift) : Prop :=
  s.row.first ≤ s.row.last ∧ 0 ≤ s.row.first + s.distance ∧
    (s.row.last + s.distance < 0xD800 ∨
      0xE000 ≤ s.row.first + s.distance ∧ s.row.last + s.distance < 0x110000)

instance (s : Shift) : Decidable s.Valid := inferInstanceAs (Decidable (_ ∧ _))

variable {s : Shift} {n : Nat}

theorem Valid.toNat_ofNat_target (h : s.Valid) (hn : s.row.contains n = true) :
    (Char.ofNat (s.target n)).toNat = s.target n := by
  obtain ⟨_, hpos, hv⟩ := h
  obtain ⟨hf, hl, _⟩ := Row.contains_iff.mp hn
  refine toNat_ofNat ?_
  unfold target
  omega

theorem Valid.onto_le (h : s.Valid) : (s.onto s.row).first ≤ (s.onto s.row).last := by
  have := h.1
  simp only [onto, target]
  omega

theorem contains_onto {r : Row} (h : 0 ≤ r.first + s.distance) (hn : r.contains n = true) :
    (s.onto r).contains (s.target n) = true := by
  obtain ⟨hf, hl, hs⟩ := Row.contains_iff.mp hn
  have hd : s.target n - s.target r.first = n - r.first := by
    unfold target
    omega
  refine Row.contains_iff.mpr ⟨?_, ?_, ?_⟩
  · simp only [onto, target]
    omega
  · simp only [onto, target]
    omega
  · simp only [onto, hd, hs]

end Shift

namespace ShiftTable

/-- Every row is not empty and starts after the one before, the first at the bound or later. -/
def Ascends : Nat → ShiftTable → Prop
  | _, [] => True
  | bound, s :: rest =>
    bound ≤ s.row.first ∧ s.row.first ≤ s.row.last ∧ Ascends (s.row.last + 1) rest

instance decidableAscends : (bound : Nat) → (t : ShiftTable) → Decidable (Ascends bound t)
  | _, [] => isTrue trivial
  | bound, s :: rest =>
    have := decidableAscends (s.row.last + 1) rest
    inferInstanceAs (Decidable (bound ≤ s.row.first ∧ s.row.first ≤ s.row.last ∧ _))

variable {t : ShiftTable} {bound : Nat}

theorem Ascends.le_first (h : Ascends bound t) {s : Shift} (hs : s ∈ t) : bound ≤ s.row.first := by
  induction t generalizing bound with
  | nil => cases hs
  | cons r rest ih =>
    obtain ⟨hb, hr, hrest⟩ := h
    rcases List.mem_cons.mp hs with rfl | hs
    · exact hb
    · have := ih hrest hs
      omega

theorem Ascends.image? (h : Ascends bound t) {s : Shift} (hs : s ∈ t) {n : Nat}
    (hn : s.row.contains n = true) : t.image? n = some (s.target n) := by
  induction t generalizing bound with
  | nil => cases hs
  | cons r rest ih =>
    obtain ⟨_, _, hrest⟩ := h
    obtain ⟨hf, hl, _⟩ := Row.contains_iff.mp hn
    rcases List.mem_cons.mp hs with rfl | hs
    · rw [ShiftTable.image?, if_neg (Nat.not_lt.mpr hl), if_pos hn]
    · have hr : r.row.last < n := Nat.lt_of_lt_of_le (hrest.le_first hs) hf
      rw [ShiftTable.image?, if_pos hr, ih hrest hs]

/-- The row of an ascending table that a code point could be in. -/
def rowFor? (t : ShiftTable) (n : Nat) : Option Shift := t.find? fun s => Nat.ble n s.row.last

theorem mem_of_rowFor? {n : Nat} {s : Shift} (h : s ∈ t.rowFor? n) : s ∈ t :=
  List.mem_of_find?_eq_some h

end ShiftTable

-- ---------------------------------------------------------------------------
-- Mappings that settle
-- ---------------------------------------------------------------------------

section

variable {expansions : List (Nat × List Nat)} {t : ShiftTable} {c d : Char}

/-- The code points that a mapping moves. -/
def moved (expansions : List (Nat × List Nat)) (t : ShiftTable) : List Nat :=
  t.flatMap (·.row.codes) ++ expansions.map Prod.fst

/-- The code points that the rows are shifted to. -/
def shifted (t : ShiftTable) : List Nat := t.flatMap fun s => (s.onto s.row).codes

/-- The code points that a mapping makes of those that it moves. -/
def made (expansions : List (Nat × List Nat)) (t : ShiftTable) : List Nat :=
  shifted t ++ expansions.flatMap Prod.snd

/-- A mapping that moves each code point in one way, and makes none that it moves, and no blank. -/
structure Settles (expansions : List (Nat × List Nat)) (t : ShiftTable) : Prop where
  ascends : t.Ascends 0
  valid : ∀ s ∈ t, s.Valid
  expands : ∀ e ∈ expansions, e.2 ≠ [] ∧ ∀ n ∈ e.2, n < 0xD800
  exclusive : bits (t.flatMap (·.row.codes)) &&& bits (expansions.map Prod.fst) = 0
  apart : bits (made expansions t) &&& bits (moved expansions t) = 0
  blankless : bits (made expansions t) &&& bits (blanks.flatMap Row.codes) = 0

theorem settles : Settles loweringExpansions lowering ∧ Settles raisingExpansions raising := by
  constructor <;> constructor <;> decide +kernel

theorem settles_lowering : Settles loweringExpansions lowering := settles.1

theorem settles_raising : Settles raisingExpansions raising := settles.2

theorem mem_of_lookup {n : Nat} {ns : List Nat} (h : expansions.lookup n = some ns) :
    (n, ns) ∈ expansions := by
  obtain ⟨l, l', he, _⟩ := List.lookup_eq_some_iff.mp h
  simp [he]

theorem lookup_of_not_mem (h : c.toNat ∉ expansions.map Prod.fst) :
    expansions.lookup c.toNat = none := by
  rw [List.lookup_eq_none_iff]
  intro e he
  rw [bne_iff_ne]
  exact fun heq => h (heq ▸ List.mem_map_of_mem he)

namespace Settles

variable (h : Settles expansions t)
include h

theorem mapChar_of_contains {s : Shift} (hs : s ∈ t) (hc : s.row.contains c.toNat = true) :
    mapChar expansions t c = [Char.ofNat (s.target c.toNat)] := by
  have hm : c.toNat ∈ t.flatMap (·.row.codes) :=
    List.mem_flatMap.mpr ⟨s, hs, (Row.mem_codes (h.valid s hs).1).mpr hc⟩
  rw [mapChar, lookup_of_not_mem (not_mem_of_bits h.exclusive hm)]
  simp only [ShiftTable.apply, h.ascends.image? hs hc]

theorem mapChar_of_not_moved (hc : c.toNat ∉ moved expansions t) :
    mapChar expansions t c = [c] := by
  rw [moved, List.mem_append, not_or] at hc
  obtain ⟨ht, he⟩ := hc
  have hi : t.image? c.toNat = none := by
    refine Option.eq_none_iff_forall_not_mem.mpr fun n hn => ?_
    obtain ⟨s, hs, hr, _⟩ := ShiftTable.exists_of_image? hn
    exact ht (List.mem_flatMap.mpr ⟨s, hs, (Row.mem_codes (h.valid s hs).1).mpr hr⟩)
  rw [mapChar, lookup_of_not_mem he]
  simp only [ShiftTable.apply, hi]

/-- A character of the mapping of one is the character itself, unmoved, or one that is made. -/
theorem mem_mapChar (hd : d ∈ mapChar expansions t c) :
    (mapChar expansions t c = [c] ∧ d = c) ∨ d.toNat ∈ made expansions t := by
  unfold mapChar at hd ⊢
  split at hd
  · rename_i ns hl
    obtain ⟨n, hn, rfl⟩ := List.mem_map.mp hd
    have hm := mem_of_lookup hl
    rw [toNat_ofNat (.inl ((h.expands _ hm).2 n hn))]
    exact .inr (List.mem_append_right _ (List.mem_flatMap.mpr ⟨_, hm, hn⟩))
  · rw [List.mem_singleton] at hd
    subst hd
    unfold ShiftTable.apply
    split
    · rename_i n hi
      obtain ⟨s, hs, hc, rfl⟩ := ShiftTable.exists_of_image? hi
      obtain ⟨hle, hpos, hv⟩ := h.valid s hs
      rw [(h.valid s hs).toNat_ofNat_target hc]
      refine .inr (List.mem_append_left _ (List.mem_flatMap.mpr ⟨s, hs, ?_⟩))
      exact (Row.mem_codes (h.valid s hs).onto_le).mpr (Shift.contains_onto hpos hc)
    · exact .inl ⟨rfl, rfl⟩

theorem mapChar_of_mem (hd : d ∈ mapChar expansions t c) : mapChar expansions t d = [d] := by
  rcases h.mem_mapChar hd with ⟨hc, rfl⟩ | hm
  · exact hc
  · exact h.mapChar_of_not_moved (not_mem_of_bits h.apart hm)

theorem mapChar_ne_nil : mapChar expansions t c ≠ [] := by
  unfold mapChar
  split
  · rename_i ns hl
    exact fun hn => (h.expands _ (mem_of_lookup hl)).1 (List.map_eq_nil_iff.mp hn)
  · exact List.cons_ne_nil _ _

theorem not_isBlank (hc : isBlank c = false) (hd : d ∈ mapChar expansions t c) :
    isBlank d = false := by
  rcases h.mem_mapChar hd with ⟨_, rfl⟩ | hm
  · exact hc
  · rw [Bool.eq_false_iff]
    intro hblank
    obtain ⟨r, hr, hn⟩ := RangeTable.exists_of_containsCode hblank
    have hle : ∀ r ∈ blanks, r.first ≤ r.last := by decide
    exact not_mem_of_bits h.blankless hm
      (List.mem_flatMap.mpr ⟨r, hr, (Row.mem_codes (hle r hr)).mpr hn⟩)

end Settles

end

-- ---------------------------------------------------------------------------
-- Lowering and raising
-- ---------------------------------------------------------------------------

theorem lowerChar_of_mem {c d : Char} (h : d ∈ lowerChar c) : lowerChar d = [d] :=
  settles_lowering.mapChar_of_mem h

theorem upperChar_of_mem {c d : Char} (h : d ∈ upperChar c) : upperChar d = [d] :=
  settles_raising.mapChar_of_mem h

theorem not_isBlank_lowerChar {c d : Char} (hc : isBlank c = false) (h : d ∈ lowerChar c) :
    isBlank d = false :=
  settles_lowering.not_isBlank hc h

theorem not_isBlank_upperChar {c d : Char} (hc : isBlank c = false) (h : d ∈ upperChar c) :
    isBlank d = false :=
  settles_raising.not_isBlank hc h

/-- Each row that raising makes, one row of lowering takes on to a row that raising sends back, most
often to the row that it was made of. -/
theorem raising_rows_return : ∀ s ∈ raising,
    ∃ l ∈ lowering.rowFor? (s.target s.row.first), (s.onto s.row).Within l.row ∧
      ∃ u ∈ s :: (raising.rowFor? (l.target (s.target s.row.first))).toList,
        (l.onto (s.onto s.row)).Within u.row ∧ u.distance = -l.distance := by
  decide +kernel

/-- Of the characters in expansions lowering moves only those that rows of raising make as well. -/
theorem raisingExpansions_shifted : bits (raisingExpansions.flatMap Prod.snd) &&&
    bits (moved loweringExpansions lowering) ||| bits (shifted raising) =
    bits (shifted raising) := by
  decide +kernel

theorem flatMap_upperChar_lowerChar_of_shifted {c : Char} (h : c.toNat ∈ shifted raising) :
    (lowerChar c).flatMap upperChar = [c] := by
  obtain ⟨s, hs, hm⟩ := List.mem_flatMap.mp h
  have hc := (Row.mem_codes (settles_raising.valid s hs).onto_le).mp hm
  obtain ⟨l, hl, hsl, u, hu, hlu, hd⟩ := raising_rows_return s hs
  replace hl := ShiftTable.mem_of_rowFor? hl
  replace hu : u ∈ raising := by
    rcases List.mem_cons.mp hu with rfl | hu
    · exact hs
    · exact ShiftTable.mem_of_rowFor? (Option.mem_toList.mp hu)
  have hcl := hsl.contains hc
  obtain ⟨_, hpos, _⟩ := settles_lowering.valid l hl
  have hv := (settles_lowering.valid l hl).toNat_ofNat_target hcl
  have hle := (Row.contains_iff.mp hcl).1
  have hfirst : 0 ≤ (s.onto s.row).first + l.distance := by
    have := hsl.2.1
    omega
  have hcu : u.row.contains (Char.ofNat (l.target c.toNat)).toNat = true := by
    rw [hv]
    exact hlu.contains (Shift.contains_onto hfirst hc)
  have hback : u.target (l.target c.toNat) = c.toNat := by
    unfold Shift.target
    omega
  rw [lowerChar, settles_lowering.mapChar_of_contains hl hcl, List.flatMap_singleton, upperChar,
    settles_raising.mapChar_of_contains hu hcu, hv, hback, Char.ofNat_toNat]

/-- What raising makes of a character that lowering leaves alone, lowering and raising restore. -/
theorem flatMap_upperChar_lowerChar {c d : Char} (hc : lowerChar c = [c]) (hd : d ∈ upperChar c) :
    (lowerChar d).flatMap upperChar = [d] := by
  have hu := upperChar_of_mem hd
  have hfix : lowerChar d = [d] → (lowerChar d).flatMap upperChar = [d] := fun hl => by
    rw [hl, List.flatMap_singleton, hu]
  rcases settles_raising.mem_mapChar hd with ⟨_, rfl⟩ | hm
  · exact hfix hc
  · by_cases hl : d.toNat ∈ moved loweringExpansions lowering
    · refine flatMap_upperChar_lowerChar_of_shifted ?_
      rcases List.mem_append.mp hm with hs | he
      · exact hs
      · exact mem_of_bits raisingExpansions_shifted he hl
    · exact hfix (settles_lowering.mapChar_of_not_moved hl)

end Assay.Text
