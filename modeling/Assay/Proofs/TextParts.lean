import Assay.Proofs.SingleChecks
import Mathlib.Logic.Function.Basic

/-!
# Parts of a text

The checks for a beginning, an end and a part of a text ask for a split of its characters. A search
through the bytes finds the same splits: where the bytes of a text occur in another, they begin and
end with characters of it.
-/

namespace Assay

namespace Text

-- ---------------------------------------------------------------------------
-- Bytes
-- ---------------------------------------------------------------------------

/-- The characters one after the other, in UTF-8. -/
def bytes (s : List Char) : List UInt8 := s.flatMap String.utf8EncodeChar

theorem toByteArray_bytes (s : List Char) : (bytes s).toByteArray = s.utf8Encode := rfl

@[simp] theorem bytes_nil : bytes [] = [] := rfl

theorem bytes_cons (c : Char) (s : List Char) :
    bytes (c :: s) = String.utf8EncodeChar c ++ bytes s :=
  List.flatMap_cons

@[simp] theorem bytes_append (s t : List Char) : bytes (s ++ t) = bytes s ++ bytes t :=
  List.flatMap_append

/-- The bytes begin with those of a character, if there are any. -/
def Begins (b : List UInt8) : Prop := ∀ x ∈ b.head?, x.IsUTF8FirstByte

/-- Only the first byte of a character looks like one. -/
theorem utf8EncodeChar_cases (c : Char) : ∃ x rest, String.utf8EncodeChar c = x :: rest ∧
    x.IsUTF8FirstByte ∧ ∀ y ∈ rest, ¬ y.IsUTF8FirstByte := by
  cases h : String.utf8EncodeChar c with
  | nil => exact absurd h String.utf8EncodeChar_ne_nil
  | cons x rest =>
    have hfirst (i : Nat) (hi : i < (x :: rest).length) :
        (x :: rest)[i].IsUTF8FirstByte ↔ i = 0 := by
      simp only [← h]
      exact UInt8.isUTF8FirstByte_getElem_utf8EncodeChar
    refine ⟨x, rest, rfl, (hfirst 0 (by simp)).mpr rfl, fun y hy => ?_⟩
    obtain ⟨i, hi, rfl⟩ := List.mem_iff_getElem.mp hy
    exact fun hy => absurd ((hfirst (i + 1) (by simpa using hi)).mp hy) (by omega)

theorem begins_bytes_append {n : List Char} (hn : n ≠ []) (b : List UInt8) :
    Begins (bytes n ++ b) := by
  obtain ⟨c, rest, rfl⟩ := List.exists_cons_of_ne_nil hn
  obtain ⟨x, xs, hc, hx, -⟩ := utf8EncodeChar_cases c
  intro y hy
  rw [bytes_cons, hc] at hy
  cases hy
  exact hx

/-- Bytes are cut between characters where the rest begins with those of a character. -/
theorem split_of_bytes {s : List Char} {a b : List UInt8} (hb : Begins b) (h : bytes s = a ++ b) :
    ∃ t u, s = t ++ u ∧ bytes t = a ∧ bytes u = b := by
  induction s generalizing a with
  | nil =>
    obtain ⟨rfl, rfl⟩ := List.append_eq_nil_iff.mp h.symm
    exact ⟨[], [], rfl, rfl, rfl⟩
  | cons c s ih =>
    cases a with
    | nil => exact ⟨[], c :: s, rfl, rfl, h⟩
    | cons y a =>
      obtain ⟨x, xs, hc, -, hxs⟩ := utf8EncodeChar_cases c
      rw [bytes_cons, hc, List.cons_append, List.cons_append, List.cons.injEq] at h
      obtain ⟨rfl, hcut⟩ := h
      rcases List.append_eq_append_iff.mp hcut with ⟨a', rfl, hs⟩ | ⟨b', rfl, rfl⟩
      · obtain ⟨t, u, rfl, rfl, rfl⟩ := ih hs
        exact ⟨c :: t, u, rfl, by rw [bytes_cons, hc]; rfl, rfl⟩
      · -- the cut is within the character or at its end
        cases b' with
        | nil => exact ⟨[c], s, rfl, by simp [bytes_cons, hc], rfl⟩
        | cons z b' => exact absurd (hb z rfl) (hxs z (by simp))

theorem prefix_of_bytes {s n : List Char} {b : List UInt8} (h : bytes s = bytes n ++ b) :
    ∃ u, s = n ++ u ∧ bytes u = b := by
  have harray : n.utf8Encode ++ b.toByteArray = s.utf8Encode := by
    rw [← toByteArray_bytes, ← toByteArray_bytes, h, List.toByteArray_append]
  obtain ⟨u, rfl⟩ := List.isPrefix_of_utf8Encode_append_eq_utf8Encode _ harray
  rw [bytes_append] at h
  exact ⟨u, rfl, List.append_cancel_left h⟩

/-- Where the bytes of a text occur, it occurs itself. -/
theorem occurrence_of_bytes {s n : List Char} (hn : n ≠ []) {a b : List UInt8}
    (h : bytes s = a ++ bytes n ++ b) : ∃ t u, s = t ++ n ++ u ∧ bytes t = a ∧ bytes u = b := by
  rw [List.append_assoc] at h
  obtain ⟨t, v, rfl, rfl, hv⟩ := split_of_bytes (begins_bytes_append hn b) h
  obtain ⟨u, rfl, rfl⟩ := prefix_of_bytes hv
  exact ⟨t, u, (List.append_assoc ..).symm, rfl, rfl⟩

end Text

-- ---------------------------------------------------------------------------
-- Checks
-- ---------------------------------------------------------------------------

/-- The checks for parts of a text, on a value that has been transformed to it. -/
structure TextParts (s : String) (fails : Check → Bool) : Prop where
  startsWith : ∀ n, fails (.startsWith n) = false ↔ ∃ t, s = n ++ t
  endsWith : ∀ n, fails (.endsWith n) = false ↔ ∃ t, s = t ++ n
  includes : ∀ n, fails (.includes (.string n)) = false ↔ ∃ t u, s = t ++ n ++ u
  affix : ∀ n, fails (.startsWith n) = false ∨ fails (.endsWith n) = false →
    fails (.includes (.string n)) = false
  empty : fails (.startsWith "") = false ∧ fails (.endsWith "") = false ∧
    fails (.includes (.string "")) = false
  misfit : ∀ needle : Value, needle.asString? = none → fails (.includes needle) = true
  startsWith_bytes : ∀ n, fails (.startsWith n) = false ↔ ∃ b, s.toUTF8 = n.toUTF8 ++ b
  endsWith_bytes : ∀ n, fails (.endsWith n) = false ↔ ∃ a, s.toUTF8 = a ++ n.toUTF8
  includes_bytes : ∀ n, fails (.includes (.string n)) = false ↔
    ∃ a b, s.toUTF8 = a ++ n.toUTF8 ++ b
  /-- No occurrence of the bytes begins or ends within a character. -/
  boundaries : ∀ n, n ≠ "" → ∀ a b, s.toUTF8 = a ++ n.toUTF8 ++ b →
    ∃ t u, s = t ++ n ++ u ∧ t.toUTF8 = a ∧ u.toUTF8 = b

namespace Text

variable {s n : String}

theorem toList_surjective : Function.Surjective String.toList := fun s =>
  ⟨.ofList s, String.toList_ofList⟩

theorem startsWith_toList : startsWith s.toList n.toList = true ↔ ∃ t, s = n ++ t := by
  rw [startsWith_iff, toList_surjective.exists]
  simp [← String.toList_inj]

theorem endsWith_toList : endsWith s.toList n.toList = true ↔ ∃ t, s = t ++ n := by
  rw [endsWith_iff, toList_surjective.exists]
  simp [← String.toList_inj]

theorem occursIn_toList : occursIn n.toList s.toList = true ↔ ∃ t u, s = t ++ n ++ u := by
  rw [occursIn_iff, toList_surjective.exists]
  simp only [toList_surjective.exists]
  simp [← String.toList_inj]

theorem toUTF8_eq (s : String) : s.toUTF8 = (bytes s.toList).toByteArray :=
  String.utf8Encode_toList.symm

theorem data_toUTF8 (s : String) : s.toUTF8.data.toList = bytes s.toList := by
  rw [toUTF8_eq, List.toList_data_toByteArray]

theorem toUTF8_ofList {t : List Char} {a : ByteArray} (h : bytes t = a.data.toList) :
    (String.ofList t).toUTF8 = a := by
  rw [toUTF8_eq, String.toList_ofList, h]
  exact ByteArray.ext (by simp)

theorem toUTF8_append (s t : String) : (s ++ t).toUTF8 = s.toUTF8 ++ t.toUTF8 :=
  String.toByteArray_append

theorem boundaries (hn : n ≠ "") {a b : ByteArray} (h : s.toUTF8 = a ++ n.toUTF8 ++ b) :
    ∃ t u, s = t ++ n ++ u ∧ t.toUTF8 = a ∧ u.toUTF8 = b := by
  have hbytes : bytes s.toList = a.data.toList ++ bytes n.toList ++ b.data.toList := by
    simp only [← data_toUTF8, h, ByteArray.data_append, Array.toList_append]
  obtain ⟨t, u, hs, ha, hb⟩ := occurrence_of_bytes (by simpa using hn) hbytes
  refine ⟨.ofList t, .ofList u, ?_, toUTF8_ofList ha, toUTF8_ofList hb⟩
  exact String.toList_inj.mp (by simpa using hs)

theorem startsWith_bytes : (∃ t, s = n ++ t) ↔ ∃ b, s.toUTF8 = n.toUTF8 ++ b := by
  constructor
  · rintro ⟨t, rfl⟩
    exact ⟨t.toUTF8, toUTF8_append n t⟩
  · rintro ⟨b, hb⟩
    have hbytes : bytes s.toList = bytes n.toList ++ b.data.toList := by
      simp only [← data_toUTF8, hb, ByteArray.data_append, Array.toList_append]
    obtain ⟨u, hs, -⟩ := prefix_of_bytes hbytes
    exact startsWith_toList.mp (startsWith_iff.mpr ⟨u, hs⟩)

theorem endsWith_bytes : (∃ t, s = t ++ n) ↔ ∃ a, s.toUTF8 = a ++ n.toUTF8 := by
  constructor
  · rintro ⟨t, rfl⟩
    exact ⟨t.toUTF8, toUTF8_append t n⟩
  · rintro ⟨a, ha⟩
    by_cases hn : n = ""
    · exact ⟨s, by simp [hn]⟩
    · have hend : s.toUTF8 = a ++ n.toUTF8 ++ .empty := by rw [ha, ByteArray.append_empty]
      obtain ⟨t, u, rfl, -, hu⟩ := boundaries hn hend
      obtain rfl : u = "" := String.toByteArray_inj.mp hu
      exact ⟨t, String.append_empty⟩

theorem occursIn_bytes : (∃ t u, s = t ++ n ++ u) ↔ ∃ a b, s.toUTF8 = a ++ n.toUTF8 ++ b := by
  constructor
  · rintro ⟨t, u, rfl⟩
    exact ⟨t.toUTF8, u.toUTF8, by rw [toUTF8_append, toUTF8_append]⟩
  · rintro ⟨a, b, h⟩
    by_cases hn : n = ""
    · exact ⟨"", s, by simp [hn]⟩
    · obtain ⟨t, u, hs, -⟩ := boundaries hn h
      exact ⟨t, u, hs⟩

end Text

theorem Check.textParts {scope : Scope} (hk : scope.kind = .string) (s : String) :
    TextParts s fun c => c.fails scope (.string s) := by
  have hstarts (n : String) : (Check.startsWith n).fails scope (.string s) = false ↔
      ∃ t, s = n ++ t := by
    simp [fails, failsText, hk, Value.asString?, ← Text.startsWith_toList]
  have hends (n : String) : (Check.endsWith n).fails scope (.string s) = false ↔
      ∃ t, s = t ++ n := by
    simp [fails, failsText, hk, Value.asString?, ← Text.endsWith_toList]
  have hincludes (n : String) : (Check.includes (.string n)).fails scope (.string s) = false ↔
      ∃ t u, s = t ++ n ++ u := by
    simp [fails, failsInclusion, hk, Value.asString?, ← Text.occursIn_toList]
  constructor
  case startsWith => exact hstarts
  case endsWith => exact hends
  case includes => exact hincludes
  case affix =>
    rintro n (h | h)
    · obtain ⟨t, ht⟩ := (hstarts n).mp h
      exact (hincludes n).mpr ⟨"", t, by simpa using ht⟩
    · obtain ⟨t, ht⟩ := (hends n).mp h
      exact (hincludes n).mpr ⟨t, "", by simpa using ht⟩
  case empty =>
    refine ⟨(hstarts "").mpr ⟨s, ?_⟩, (hends "").mpr ⟨s, ?_⟩, (hincludes "").mpr ⟨"", s, ?_⟩⟩
    all_goals simp
  case misfit =>
    intro needle h
    simp [fails, failsInclusion, hk, h]
  case startsWith_bytes => exact fun n => (hstarts n).trans Text.startsWith_bytes
  case endsWith_bytes => exact fun n => (hends n).trans Text.endsWith_bytes
  case includes_bytes => exact fun n => (hincludes n).trans Text.occursIn_bytes
  case boundaries => exact fun n hn a b => Text.boundaries hn

namespace Chain

variable {ρ : Type} [Rule ρ]

/-- Under the tag for text, the checks of a chain for parts of a text mean splits of its characters,
and what is part of a text is part of every wider one. -/
theorem text_parts {chain : Chain ρ} (hg : chain.generator.Keeps) (notice : Check → Notice)
    (hk : chain.scope.kind = .string) {v : Value} {s : String}
    (hs : chain.scope.transform v = .string s) :
    TextParts s (fun c => chain.rejects c (notice c) v) ∧
    ∀ (n t u : String) (w : Value), chain.scope.transform w = .string (t ++ s ++ u) →
      chain.rejects (.includes (.string n)) (notice (.includes (.string n))) v = false →
      chain.rejects (.includes (.string n)) (notice (.includes (.string n))) w = false := by
  have hparts (v : Value) (s : String) (hs : chain.scope.transform v = .string s) :
      TextParts s fun c => chain.rejects c (notice c) v := by
    simp only [rejects_eq hg, hs]
    exact Check.textParts hk s
  refine ⟨hparts v s hs, fun n t u w hw h => ?_⟩
  obtain ⟨a, b, rfl⟩ := ((hparts v s hs).includes n).mp h
  exact ((hparts w _ hw).includes n).mpr ⟨t ++ a, b ++ u, by simp only [String.append_assoc]⟩

/-- A part after one that begins like it; the text and the wider one are lowered first. -/
theorem text_parts_overlapping :
    let chain := ((fresh Generator.describe ⟨.string, .utf16⟩).steps [.trim, .lower]).result
    let v := Value.string " ÄÄÄB "
    chain.scope.transform v = .string "äääb" ∧
      chain.rejects (.includes (.string "ääb")) .none v = false ∧
      chain.rejects (.includes (.string "ääb")) .none (.string "😀ÄÄÄB") = false ∧
      chain.rejects (.startsWith "ääb") .none v = true ∧
      chain.rejects (.includes (.bigint 7)) .none v = true := by
  intro chain v
  have hg : chain.generator.Keeps := Generator.describe_keeps
  have hv : chain.scope.transform v = .string "äääb" := rfl
  obtain ⟨h, hwider⟩ := text_parts hg (fun _ => .none) rfl hv
  have hpart := (h.includes "ääb").mpr ⟨"ä", "", rfl⟩
  refine ⟨hv, hpart, hwider "ääb" "😀" "" _ rfl hpart, ?_, h.misfit (.bigint 7) rfl⟩
  refine Bool.of_not_eq_false fun hstart => ?_
  obtain ⟨t, ht⟩ := (h.startsWith "ääb").mp hstart
  simpa using congrArg String.toList ht

end Chain

end Assay
