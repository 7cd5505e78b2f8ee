/-!
# Occurrences of one text in another

Each test is a `Bool` over characters, with a lemma that says which splits of the text it asks for.
-/

namespace Assay.Text

def startsWith (s n : List Char) : Bool := n.isPrefixOf s

def endsWith (s n : List Char) : Bool := n.isSuffixOf s

/-- Does `n` stand somewhere in the text? Every place is tried. -/
def occursIn (n : List Char) : List Char → Bool
  | [] => n.isEmpty
  | c :: s => n.isPrefixOf (c :: s) || occursIn n s

theorem startsWith_iff {s n : List Char} : startsWith s n = true ↔ ∃ t, s = n ++ t := by
  rw [startsWith, List.isPrefixOf_iff_prefix]
  constructor <;> rintro ⟨t, h⟩ <;> exact ⟨t, h.symm⟩

theorem endsWith_iff {s n : List Char} : endsWith s n = true ↔ ∃ t, s = t ++ n := by
  rw [endsWith, List.isSuffixOf_iff_suffix]
  constructor <;> rintro ⟨t, h⟩ <;> exact ⟨t, h.symm⟩

theorem occursIn_iff {n s : List Char} : occursIn n s = true ↔ ∃ t u, s = t ++ n ++ u := by
  induction s with
  | nil => simp [occursIn, List.isEmpty_iff]
  | cons c s ih =>
    simp only [occursIn, Bool.or_eq_true, ih]
    constructor
    · rintro (h | ⟨t, u, rfl⟩)
      · obtain ⟨u, hu⟩ := startsWith_iff.1 h
        exact ⟨[], u, hu⟩
      · exact ⟨c :: t, u, rfl⟩
    · rintro ⟨t, u, h⟩
      cases t with
      | nil => exact Or.inl (startsWith_iff.2 ⟨u, h⟩)
      | cons d t =>
        obtain ⟨rfl, rfl⟩ := List.cons.inj h
        exact Or.inr ⟨t, u, rfl⟩

end Assay.Text
