import Assay.Proofs.EmailGrammar

/-!
# Plain addresses

A plain text is all ASCII without a backslash, and its domain has labels of letters, digits and
hyphens before a top level of letters. Accepted texts are plain but for three characters: the
backslash, which the classes of local parts and labels list, and the two characters beyond ASCII
that fold onto letters.
-/

namespace Assay.Email

/-- The text of an address that holds no surprise. -/
structure Plain (s : List Char) : Prop where
  ascii : ∀ c ∈ s, c.toNat < 128
  no_backslash : '\\' ∉ s
  domain : ∃ start labels top, s = start ++ '@' :: (labels.flatMap (· ++ ['.']) ++ top) ∧
    '@' ∉ start ∧ labels ≠ [] ∧
    (∀ l ∈ labels, l ≠ [] ∧ ∀ c ∈ l, c.isAlpha = true ∨ c.isDigit = true ∨ c = '-') ∧
    2 ≤ top.length ∧ ∀ c ∈ top, c.isAlpha = true

theorem Plain.not_mem {s : List Char} (h : Plain s) : ∀ c ∈ '\\' :: foldingLetters, c ∉ s := by
  intro c hc hm
  rcases List.mem_cons.mp hc with rfl | hc
  · exact h.no_backslash hm
  · have hb : ∀ d ∈ foldingLetters, ¬d.toNat < 128 :=
      List.forall_mem_cons.mpr ⟨by decide, List.forall_mem_singleton.mpr (by decide)⟩
    exact hb c hc (h.ascii c hm)

-- ---------------------------------------------------------------------------
-- The characters of an address
-- ---------------------------------------------------------------------------

theorem Letter.isAlpha {c : Char} (h : Letter c) (hc : c ∉ foldingLetters) : c.isAlpha = true := by
  have hl := isLetter_iff.mpr h
  rw [isLetter, Bool.or_eq_true, List.contains_iff_mem] at hl
  exact hl.resolve_right hc

theorem Among.mono {c : Char} {few many : List Char} (h : Among few c) (hs : few ⊆ many) :
    Among many c := by
  rcases h with h | h | h
  · exact .inl h
  · exact .inr (.inl h)
  · exact .inr (.inr (hs h))

theorem Among.ascii {c : Char} {others : List Char} (h : Among others c)
    (ho : ∀ d ∈ others, d.toNat < 128) (hc : c ∉ foldingLetters) : c.toNat < 128 := by
  rcases h with h | h | h
  · have := Text.isAlpha_iff.mp (h.isAlpha hc)
    omega
  · have := Text.isDigit_iff.mp h
    omega
  · exact ho c h

theorem Label.among {l : List Char} (h : Label l) : ∀ c ∈ l, Among ['-', '\\'] c := by
  obtain ⟨c, r, rfl, hc, hr⟩ := h
  exact List.forall_mem_cons.mpr ⟨hc.mono (List.nil_subset _), hr⟩

theorem Label.plain {l : List Char} (h : Label l) (hb : '\\' ∉ l)
    (hf : ∀ c ∈ foldingLetters, c ∉ l) :
    l ≠ [] ∧ ∀ c ∈ l, c.isAlpha = true ∨ c.isDigit = true ∨ c = '-' := by
  constructor
  · obtain ⟨c, r, rfl, _⟩ := h
    exact List.cons_ne_nil c r
  · intro c hc
    rcases h.among c hc with hl | hd | ho
    · exact .inl (hl.isAlpha fun hm => hf c hm hc)
    · exact .inr (.inl hd)
    · rcases List.mem_cons.mp ho with rfl | ho
      · exact .inr (.inr rfl)
      · rw [List.mem_singleton.mp ho] at hc
        exact absurd hc hb

namespace Address

variable {a : Address}

theorem mem_labels {l : List Char} (hl : l ∈ a.labels) {c : Char} (hc : c ∈ l) : c ∈ a.text := by
  have hd : c ∈ a.labels.flatMap (· ++ ['.']) :=
    List.mem_flatMap.mpr ⟨l, hl, List.mem_append_left _ hc⟩
  exact List.mem_append_right _ (List.mem_cons_of_mem _ (List.mem_append_left _ hd))

theorem mem_top {c : Char} (hc : c ∈ a.top) : c ∈ a.text :=
  List.mem_append_right _ (List.mem_cons_of_mem _ (List.mem_append_right _ hc))

theorem among {c : Char} (hc : c ∈ a.text) : Among ['@', '.', '\\', '-', '+', '\x27', '_'] c := by
  have hp : ∀ {d}, d ∈ ['@', '.', '\\', '-', '+', '\x27', '_'] → Among _ d := fun h => .inr (.inr h)
  rcases List.mem_append.mp hc with h | h
  · exact (a.localPart_among c h).mono (List.subset_cons_self ..)
  rcases List.mem_cons.mp h with rfl | h
  · exact hp (by simp)
  rcases List.mem_append.mp h with h | h
  · obtain ⟨l, hl, h⟩ := List.mem_flatMap.mp h
    rcases List.mem_append.mp h with h | h
    · exact ((a.labels_label l hl).among c h).mono (by simp)
    · rw [List.mem_singleton.mp h]
      exact hp (by simp)
  · exact .inl (a.top_letters c h)

theorem plain_iff : Plain a.text ↔ ∀ c ∈ '\\' :: foldingLetters, c ∉ a.text := by
  refine ⟨Plain.not_mem, fun h => ?_⟩
  obtain ⟨hb, hf⟩ := List.forall_mem_cons.mp h
  have hstart : '@' ∉ a.localPart :=
    no_at_of_isLocal (isLocal_iff.mpr ⟨a.localPart_among, a.localPart_last⟩)
  have hlabels : ∀ l ∈ a.labels,
      l ≠ [] ∧ ∀ c ∈ l, c.isAlpha = true ∨ c.isDigit = true ∨ c = '-' := fun l hl =>
    (a.labels_label l hl).plain (fun hc => hb (mem_labels hl hc))
      fun c hm hc => hf c hm (mem_labels hl hc)
  have htop : ∀ c ∈ a.top, c.isAlpha = true := fun c hc =>
    (a.top_letters c hc).isAlpha fun hm => hf c hm (mem_top hc)
  exact ⟨fun c hc => (among hc).ascii (by simp) fun hm => hf c hm hc, hb,
    a.localPart, a.labels, a.top, rfl, hstart, a.labels_ne_nil, hlabels, a.two_le_top, htop⟩

end Address

/-- An accepted text is plain exactly if it has no backslash and none of the two characters beyond
ASCII that fold onto letters. -/
theorem plain_iff_of_accepts {s : String} (h : accepts s.toList = true) :
    Plain s.toList ↔ ∀ c ∈ '\\' :: foldingLetters, c ∉ s.toList := by
  obtain ⟨⟨a, ha⟩, _⟩ := accepts_iff.mp h
  rw [← ha]
  exact a.plain_iff

theorem plain_iff_of_accepts_apostrophe :
    accepts "o\x27neil@sub-1.example.org".toList = true ∧
      Plain "o\x27neil@sub-1.example.org".toList := by
  have h : accepts "o\x27neil@sub-1.example.org".toList = true := by decide +kernel
  have hnot : '\\' ∉ "o\x27neil@sub-1.example.org".toList ∧
      foldingLetters.all (fun c => !"o\x27neil@sub-1.example.org".toList.contains c) = true := by
    decide +kernel
  refine ⟨h, (plain_iff_of_accepts h).mpr (List.forall_mem_cons.mpr ⟨hnot.1, ?_⟩)⟩
  simpa using hnot.2

theorem not_plain_of_any {s : List Char} (h : ('\\' :: foldingLetters).any s.contains = true) :
    ¬Plain s := by
  obtain ⟨c, hc, hm⟩ := List.any_eq_true.mp h
  exact fun hp => hp.not_mem c hc (List.contains_iff_mem.mp hm)

/-- Accepted are a backslash in a label, and in a top level the Kelvin sign. -/
theorem accepts_not_plain :
    accepts "a@exa\\mple.com".toList = true ∧ ¬Plain "a@exa\\mple.com".toList ∧
      accepts "a@example.\u212aom".toList = true ∧ ¬Plain "a@example.\u212aom".toList :=
  ⟨by decide +kernel, not_plain_of_any (by decide +kernel), by decide +kernel,
    not_plain_of_any (by decide +kernel)⟩

end Assay.Email
