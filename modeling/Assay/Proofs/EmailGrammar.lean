import Assay.Email
import Assay.Proofs.AsciiFolding
import Assay.Proofs.Matching
import Mathlib.Data.List.TakeDrop
import Mathlib.Tactic.Tauto

/-!
# The grammar of addresses

`Address` lists the parts of an address and what each asks for. `accepts` holds of the texts of
addresses that neither start with a dot nor have two in a row. The pattern `source`, read and
searched for as any other, is found in exactly the texts of addresses, so the test by parts is the
two tests for dots and the pattern.
-/

namespace Assay.Email

-- ---------------------------------------------------------------------------
-- Addresses
-- ---------------------------------------------------------------------------

/-- A letter of ASCII, or one of the two characters beyond that fold onto one. -/
def Letter (c : Char) : Prop := c.isAlpha = true ∨ c.toNat = 0x17F ∨ c.toNat = 0x212A

/-- A letter, a digit or one of the others. -/
def Among (others : List Char) (c : Char) : Prop := Letter c ∨ c.isDigit = true ∨ c ∈ others

/-- A letter or a digit, then those and some others. -/
def Label (s : List Char) : Prop :=
  ∃ c r, s = c :: r ∧ Among [] c ∧ ∀ d ∈ r, Among ['-', '\\'] d

structure Address where
  localPart : List Char
  labels : List (List Char)
  top : List Char
  localPart_among : ∀ c ∈ localPart, Among ['.', '\\', '-', '+', '\x27', '_'] c
  localPart_last : ∃ c, localPart.getLast? = some c ∧ Among ['-', '+', '_'] c
  labels_ne_nil : labels ≠ []
  labels_label : ∀ l ∈ labels, Label l
  two_le_top : 2 ≤ top.length
  top_letters : ∀ c ∈ top, Letter c

namespace Address

def domain (a : Address) : List Char := a.labels.flatMap (· ++ ['.']) ++ a.top

def text (a : Address) : List Char := a.localPart ++ '@' :: a.domain

end Address

-- ---------------------------------------------------------------------------
-- The parts
-- ---------------------------------------------------------------------------

theorem isLetter_iff {c : Char} : isLetter c = true ↔ Letter c := by
  have h : ∀ {n}, (Char.ofNat n).toNat = n → (c = Char.ofNat n ↔ c.toNat = n) := fun {n} hn =>
    ⟨fun hc => hc ▸ hn, fun hc => by rw [← hc, Char.ofNat_toNat]⟩
  have hs : c = Char.ofNat 0x17F ↔ c.toNat = 0x17F := h rfl
  have hk : c = Char.ofNat 0x212A ↔ c.toNat = 0x212A := h rfl
  rw [isLetter, Bool.or_eq_true, List.contains_iff_mem, foldingLetters,
    List.mem_cons, List.mem_singleton, hs, hk, Letter]

theorem isAlphanumeric_iff {c : Char} : isAlphanumeric c = true ↔ Among [] c := by
  simp [isAlphanumeric, isLetter_iff, Among]

theorem isLocalEnd_iff {c : Char} : isLocalEnd c = true ↔ Among ['-', '+', '_'] c := by
  simp only [isLocalEnd, Bool.or_eq_true, decide_eq_true_eq, isAlphanumeric_iff, Among,
    List.mem_cons, List.not_mem_nil]
  tauto

theorem isLocalChar_iff {c : Char} :
    isLocalChar c = true ↔ Among ['.', '\\', '-', '+', '\x27', '_'] c := by
  simp only [isLocalChar, Bool.or_eq_true, decide_eq_true_eq, isLocalEnd_iff, Among,
    List.mem_cons, List.not_mem_nil]
  tauto

theorem isLabelChar_iff {c : Char} : isLabelChar c = true ↔ Among ['-', '\\'] c := by
  simp only [isLabelChar, Bool.or_eq_true, decide_eq_true_eq, isAlphanumeric_iff, Among,
    List.mem_cons, List.not_mem_nil]
  tauto

theorem isLocal_iff {s : List Char} : isLocal s = true ↔
    (∀ c ∈ s, Among ['.', '\\', '-', '+', '\x27', '_'] c) ∧
    ∃ c, s.getLast? = some c ∧ Among ['-', '+', '_'] c := by
  simp only [isLocal, Bool.and_eq_true, List.all_eq_true, Option.any_eq_true, isLocalChar_iff,
    isLocalEnd_iff]

theorem isLabel_iff {s : List Char} : isLabel s = true ↔ Label s := by
  cases s with
  | nil => simp [isLabel, Label]
  | cons c r =>
    rw [isLabel, Bool.and_eq_true, List.all_eq_true, isAlphanumeric_iff]
    simp only [isLabelChar_iff]
    constructor
    · exact fun h => ⟨c, r, rfl, h⟩
    · rintro ⟨_, _, h, hl⟩
      cases h
      exact hl

theorem isTopLevel_iff {s : List Char} :
    isTopLevel s = true ↔ 2 ≤ s.length ∧ ∀ c ∈ s, Letter c := by
  simp [isTopLevel, isLetter_iff]

-- ---------------------------------------------------------------------------
-- The dots of a domain
-- ---------------------------------------------------------------------------

theorem parts_ne_nil (s : List Char) : parts s ≠ [] := by
  cases s with
  | nil => simp [parts]
  | cons c s =>
    rw [parts]
    split
    · simp
    · split <;> simp

theorem parts_cons_of_ne {c : Char} (hc : c ≠ '.') {s part : List Char} {rest : List (List Char)}
    (h : parts s = part :: rest) : parts (c :: s) = (c :: part) :: rest := by
  rw [parts, if_neg hc, h]

/-- The parts of a text give it back, all but the last closed by a dot. -/
theorem join_parts {s top : List Char} {labels : List (List Char)} (h : parts s = labels ++ [top]) :
    s = labels.flatMap (· ++ ['.']) ++ top := by
  induction s generalizing labels top with
  | nil =>
    cases labels with
    | nil =>
      cases h
      rfl
    | cons l labels => simp [parts] at h
  | cons c s ih =>
    obtain ⟨part, rest, hs⟩ := List.exists_cons_of_ne_nil (parts_ne_nil s)
    by_cases hc : c = '.'
    · subst hc
      rw [parts, if_pos rfl] at h
      cases labels with
      | nil => exact absurd (List.cons.inj h).2 (parts_ne_nil s)
      | cons l labels =>
        obtain ⟨rfl, hr⟩ := List.cons.inj h
        rw [ih hr]
        rfl
    · rw [parts_cons_of_ne hc hs] at h
      cases labels with
      | nil =>
        cases h
        have hj : s = part := ih (hs.trans (List.nil_append _).symm)
        rw [hj]
        rfl
      | cons l labels =>
        obtain ⟨rfl, rfl⟩ := List.cons.inj h
        have hj : s = (part :: labels).flatMap (· ++ ['.']) ++ top := ih hs
        rw [hj]
        rfl

theorem parts_of_no_dot {s : List Char} (h : '.' ∉ s) : parts s = [s] := by
  induction s with
  | nil => rfl
  | cons c s ih =>
    obtain ⟨hc, hs⟩ := List.ne_and_not_mem_of_not_mem_cons h
    exact parts_cons_of_ne (Ne.symm hc) (ih hs)

theorem parts_append_dot {s t : List Char} (h : '.' ∉ s) :
    parts (s ++ '.' :: t) = s :: parts t := by
  induction s with
  | nil => rfl
  | cons c s ih =>
    obtain ⟨hc, hs⟩ := List.ne_and_not_mem_of_not_mem_cons h
    exact parts_cons_of_ne (Ne.symm hc) (ih hs)

theorem parts_join {labels : List (List Char)} {top : List Char} (hl : ∀ l ∈ labels, '.' ∉ l)
    (ht : '.' ∉ top) : parts (labels.flatMap (· ++ ['.']) ++ top) = labels ++ [top] := by
  induction labels with
  | nil => exact parts_of_no_dot ht
  | cons l labels ih =>
    obtain ⟨hl, hls⟩ := List.forall_mem_cons.mp hl
    rw [List.flatMap_cons, List.append_assoc, List.append_assoc, List.singleton_append,
      parts_append_dot hl, ih hls, List.cons_append]

theorem Label.no_dot {l : List Char} (h : Label l) : '.' ∉ l := by
  obtain ⟨c, r, rfl, hc, hr⟩ := h
  intro hm
  rcases List.mem_cons.mp hm with rfl | hm
  · exact absurd hc (by unfold Among Letter; decide)
  · exact absurd (hr _ hm) (by unfold Among Letter; decide)

theorem isDomain_iff_parts {s : List Char} : isDomain s = true ↔
    ∃ labels top, parts s = labels ++ [top] ∧ labels ≠ [] ∧ (∀ l ∈ labels, Label l) ∧
      2 ≤ top.length ∧ ∀ c ∈ top, Letter c := by
  rw [isDomain]
  constructor
  · intro h
    split at h
    · rename_i top label labels hp
      rw [Bool.and_eq_true, List.all_eq_true, isTopLevel_iff] at h
      have hr : parts s = (label :: labels).reverse ++ [top] := by
        rw [← List.reverse_reverse (parts s), hp, List.reverse_cons]
      refine ⟨(label :: labels).reverse, top, hr, by simp, fun l hl => ?_, h.1⟩
      exact isLabel_iff.mp (h.2 l (List.mem_reverse.mp hl))
    · cases h
  · rintro ⟨labels, top, hp, hn, hl, ht⟩
    obtain ⟨label, rest, hr⟩ := List.exists_cons_of_ne_nil (List.reverse_ne_nil_iff.mpr hn)
    rw [hp, List.reverse_append, hr, List.reverse_singleton, List.singleton_append]
    rw [Bool.and_eq_true, List.all_eq_true, isTopLevel_iff]
    refine ⟨ht, fun l hm => isLabel_iff.mpr (hl l ?_)⟩
    exact List.mem_reverse.mp (hr ▸ hm)

theorem isDomain_iff {s : List Char} : isDomain s = true ↔
    ∃ labels top, s = labels.flatMap (· ++ ['.']) ++ top ∧ labels ≠ [] ∧
      (∀ l ∈ labels, Label l) ∧ 2 ≤ top.length ∧ ∀ c ∈ top, Letter c := by
  rw [isDomain_iff_parts]
  constructor
  · rintro ⟨labels, top, hp, hr⟩
    exact ⟨labels, top, join_parts hp, hr⟩
  · rintro ⟨labels, top, rfl, hn, hl, hr⟩
    refine ⟨labels, top, parts_join (fun l hm => (hl l hm).no_dot) ?_, hn, hl, hr⟩
    exact fun hm => absurd (hr.2 _ hm) (by unfold Letter; decide)

-- ---------------------------------------------------------------------------
-- The whole text
-- ---------------------------------------------------------------------------

theorem exists_address_iff {s : List Char} : (∃ a : Address, a.text = s) ↔
    ∃ start domain, s = start ++ '@' :: domain ∧ isLocal start = true ∧
      isDomain domain = true := by
  constructor
  · rintro ⟨a, rfl⟩
    refine ⟨a.localPart, a.domain, rfl, isLocal_iff.mpr ⟨a.localPart_among, a.localPart_last⟩, ?_⟩
    exact isDomain_iff.mpr
      ⟨a.labels, a.top, rfl, a.labels_ne_nil, a.labels_label, a.two_le_top, a.top_letters⟩
  · rintro ⟨start, domain, rfl, hs, hd⟩
    obtain ⟨hs, hl⟩ := isLocal_iff.mp hs
    obtain ⟨labels, top, rfl, hn, hls, ht, htl⟩ := isDomain_iff.mp hd
    exact ⟨⟨start, labels, top, hs, hl, hn, hls, ht, htl⟩, rfl⟩

theorem no_at_of_isLocal {s : List Char} (h : isLocal s = true) : '@' ∉ s := fun hm =>
  absurd ((isLocal_iff.mp h).1 _ hm) (by unfold Among Letter; decide)

theorem span_at {s start domain : List Char} (h : '@' ∉ start) :
    s.span (· ≠ '@') = (start, '@' :: domain) ↔ s = start ++ '@' :: domain := by
  rw [List.span_eq_takeWhile_dropWhile, Prod.mk.injEq]
  constructor
  · rintro ⟨hs, hd⟩
    rw [← hs, ← hd, List.takeWhile_append_dropWhile]
  · rintro rfl
    have hp : ∀ c ∈ start, decide (c ≠ '@') = true := fun c hc =>
      decide_eq_true fun he => h (he ▸ hc)
    rw [List.takeWhile_append_of_pos hp, List.dropWhile_append_of_pos hp]
    simp

theorem accepts_iff_span {s : List Char} : accepts s = true ↔
    (Text.startsWith s ['.'] = false ∧ Text.occursIn ['.', '.'] s = false) ∧
    ∃ start domain, s.span (· ≠ '@') = (start, '@' :: domain) ∧ isLocal start = true ∧
      isDomain domain = true := by
  rw [accepts, Bool.and_eq_true, Bool.and_eq_true, Bool.not_eq_true', Bool.not_eq_true']
  refine and_congr_right fun _ => ?_
  constructor
  · intro h
    split at h
    · rename_i start domain hs
      exact ⟨start, domain, hs, Bool.and_eq_true_iff.mp h⟩
    · cases h
  · rintro ⟨start, domain, hs, hl, hd⟩
    rw [hs]
    exact Bool.and_eq_true_iff.mpr ⟨hl, hd⟩

/-- The first `@` ends the local part, which has none. -/
theorem accepts_iff {s : List Char} : accepts s = true ↔
    (∃ a : Address, a.text = s) ∧ (¬∃ t, s = '.' :: t) ∧ ¬∃ t u, s = t ++ ['.', '.'] ++ u := by
  rw [accepts_iff_span, exists_address_iff, and_comm, ← Bool.not_eq_true, ← Bool.not_eq_true,
    Text.startsWith_iff, Text.occursIn_iff]
  refine and_congr_left fun _ => exists_congr fun start => exists_congr fun domain => ?_
  exact and_congr_left fun h => span_at (no_at_of_isLocal h.1)

-- ---------------------------------------------------------------------------
-- The pattern
-- ---------------------------------------------------------------------------

open Pattern (Charset Expression)
open Pattern.Expression (Matches matches_empty matches_one_seq matches_seq matches_star_one
  matches_star_iff matches_empty_seq matches_anchor_seq)
open Pattern.Charset (contains_anyCase_union contains_anyCase_digits contains_anyCase_letters
  contains_anyCase_nothing contains_anyCase_one)

/-- The pattern of an address, in any case. -/
def source : String :=
  "(?i)^[a-z0-9_\x27+\\-\\\\.]*[a-z0-9_+-]@([a-z0-9][a-z0-9\\\\-]*\\.)+[a-z]\x7b2,\x7d$"

/-- Letters, digits and some others, in any case. -/
def classOf (others : List Char) : Charset :=
  .anyCase (.unionAll (others.map .one ++ [.range 0x30 0x39, .range 0x61 0x7A]))

def labelExpression : Expression :=
  .seq (.one (classOf []) false) <| .seq (.star (.one (classOf ['-', '\\']) false)) <|
    .seq (.one (.anyCase (.one '.')) false) .empty

def letterExpression : Expression := .one (.anyCase (.range 0x61 0x7A)) false

def topExpression : Expression :=
  .seq letterExpression (.seq letterExpression (.star letterExpression))

def expression : Expression :=
  .seq .empty <| .seq (.anchor .textStart) <|
  .seq (.star (.one (classOf ['.', '\\', '-', '+', '\x27', '_']) false)) <|
  .seq (.one (classOf ['-', '+', '_']) false) <| .seq (.one (.anyCase (.one '@')) false) <|
  .seq (.seq labelExpression (.star labelExpression)) <| .seq topExpression <|
  .seq (.anchor .textEnd) .empty

theorem ofText_source : Pattern.ofText source = .ok ⟨source, expression⟩ := by
  have h : (Pattern.ofText source).toOption = some ⟨source, expression⟩ := by decide +kernel
  cases hp : Pattern.ofText source with
  | ok p =>
    rw [hp] at h
    exact congrArg _ (Option.some.inj h)
  | error f =>
    rw [hp] at h
    cases h

theorem contains_classOf {others : List Char} (ho : ∀ d ∈ others, Text.Uncased d) {c : Char} :
    (classOf others).contains c = true ↔ Among others c := by
  rw [classOf]
  induction others with
  | nil =>
    show (Charset.anyCase
      (.union (.range 0x30 0x39) (.union (.range 0x61 0x7A) .nothing))).contains c = true ↔ _
    simp [contains_anyCase_union, contains_anyCase_digits, contains_anyCase_letters,
      contains_anyCase_nothing, Among, Letter, or_comm]
  | cons d others ih =>
    obtain ⟨hd, ho⟩ := List.forall_mem_cons.mp ho
    have hu : Charset.unionAll ((d :: others).map .one ++ [.range 0x30 0x39, .range 0x61 0x7A]) =
      .union (.one d) (.unionAll (others.map .one ++ [.range 0x30 0x39, .range 0x61 0x7A])) := rfl
    rw [hu, contains_anyCase_union, Bool.or_eq_true, contains_anyCase_one hd, ih ho]
    simp only [Among, List.mem_cons]
    tauto

theorem contains_letter {c : Char} :
    (Charset.anyCase (.range 0x61 0x7A)).contains c = true ↔ Letter c :=
  contains_anyCase_letters

variable {before after : Option Char} {s : List Char}

theorem matches_label :
    Matches labelExpression before s after ↔ ∃ l, s = l ++ ['.'] ∧ Label l := by
  have hc : ∀ {c}, (classOf []).contains c = true ↔ Among [] c := contains_classOf (by simp)
  have hd : ∀ {c}, (classOf ['-', '\\']).contains c = true ↔ Among ['-', '\\'] c :=
    contains_classOf (by simp [Text.Uncased])
  have hp : ∀ {c}, (Charset.anyCase (.one '.')).contains c = true ↔ c = '.' :=
    contains_anyCase_one (by decide)
  rw [labelExpression, matches_one_seq]
  constructor
  · rintro ⟨c, _, rfl, hm, ht⟩
    obtain ⟨r, _, rfl, hr, ht⟩ := matches_seq.mp ht
    obtain ⟨p, _, rfl, he, ht⟩ := matches_one_seq.mp ht
    cases matches_empty.mp ht
    cases hp.mp he
    exact ⟨c :: r, rfl, c, r, rfl, hc.mp hm, fun d h => hd.mp (matches_star_one.mp hr d h)⟩
  · rintro ⟨_, rfl, c, r, rfl, hm, hr⟩
    refine ⟨c, r ++ ['.'], rfl, hc.mpr hm, .seq ?_ ?_⟩
    · exact matches_star_one.mpr fun d h => hd.mpr (hr d h)
    · exact matches_one_seq.mpr ⟨'.', [], rfl, hp.mpr rfl, .empty⟩

theorem matches_top :
    Matches topExpression before s after ↔ 2 ≤ s.length ∧ ∀ c ∈ s, Letter c := by
  rw [topExpression, letterExpression, matches_one_seq]
  constructor
  · rintro ⟨c, _, rfl, hc, ht⟩
    obtain ⟨d, r, rfl, hd, hr⟩ := matches_one_seq.mp ht
    have hr := matches_star_one.mp hr
    refine ⟨by simp, List.forall_mem_cons.mpr ⟨contains_letter.mp hc, ?_⟩⟩
    exact List.forall_mem_cons.mpr ⟨contains_letter.mp hd, fun x hx => contains_letter.mp (hr x hx)⟩
  · rintro ⟨hn, hs⟩
    match s, hn with
    | c :: d :: r, _ =>
      obtain ⟨hc, hs⟩ := List.forall_mem_cons.mp hs
      obtain ⟨hd, hr⟩ := List.forall_mem_cons.mp hs
      refine ⟨c, d :: r, rfl, contains_letter.mpr hc, ?_⟩
      refine matches_one_seq.mpr ⟨d, r, rfl, contains_letter.mpr hd, ?_⟩
      exact matches_star_one.mpr fun x hx => contains_letter.mpr (hr x hx)

theorem matches_labels : Matches (.seq labelExpression (.star labelExpression)) before s after ↔
    ∃ labels, s = labels.flatMap (· ++ ['.']) ∧ labels ≠ [] ∧ ∀ l ∈ labels, Label l := by
  have hs : ∀ {before s after}, Matches (.star labelExpression) before s after ↔
      ∃ labels : List (List Char), s = labels.flatMap (· ++ ['.']) ∧ ∀ l ∈ labels, Label l :=
    matches_star_iff fun _ _ _ => matches_label
  rw [matches_seq]
  constructor
  · rintro ⟨_, _, rfl, hu, hv⟩
    obtain ⟨l, rfl, hl⟩ := matches_label.mp hu
    obtain ⟨ls, rfl, hls⟩ := hs.mp hv
    exact ⟨l :: ls, rfl, List.cons_ne_nil _ _, List.forall_mem_cons.mpr ⟨hl, hls⟩⟩
  · rintro ⟨labels, rfl, hn, hl⟩
    obtain ⟨l, ls, rfl⟩ := List.exists_cons_of_ne_nil hn
    obtain ⟨hl, hls⟩ := List.forall_mem_cons.mp hl
    exact ⟨_, _, rfl, matches_label.mpr ⟨l, rfl, hl⟩, hs.mpr ⟨ls, rfl, hls⟩⟩

/-- From the top level on; nothing follows it. -/
theorem matches_rest :
    Matches (.seq topExpression (.seq (.anchor .textEnd) .empty)) before s after ↔
      after = none ∧ 2 ≤ s.length ∧ ∀ c ∈ s, Letter c := by
  rw [matches_seq]
  constructor
  · rintro ⟨u, _, rfl, hu, hv⟩
    obtain ⟨ha, hv⟩ := matches_anchor_seq.mp hv
    cases matches_empty.mp hv
    rw [List.append_nil]
    exact ⟨Option.isNone_iff_eq_none.mp ha, matches_top.mp hu⟩
  · rintro ⟨rfl, hs⟩
    refine ⟨s, [], (List.append_nil s).symm, matches_top.mpr hs, ?_⟩
    exact matches_anchor_seq.mpr ⟨rfl, .empty⟩

theorem matches_domain :
    Matches (.seq (.seq labelExpression (.star labelExpression)) <| .seq topExpression <|
      .seq (.anchor .textEnd) .empty) before s after ↔ after = none ∧ isDomain s = true := by
  rw [matches_seq, isDomain_iff]
  constructor
  · rintro ⟨_, top, rfl, hu, hv⟩
    obtain ⟨labels, rfl, hn, hl⟩ := matches_labels.mp hu
    obtain ⟨ha, ht⟩ := matches_rest.mp hv
    exact ⟨ha, labels, top, rfl, hn, hl, ht⟩
  · rintro ⟨ha, labels, top, rfl, hn, hl, ht⟩
    exact ⟨_, top, rfl, matches_labels.mpr ⟨labels, rfl, hn, hl⟩, matches_rest.mpr ⟨ha, ht⟩⟩

theorem isLocal_append {u : List Char} {c : Char} : isLocal (u ++ [c]) = true ↔
    (∀ d ∈ u, Among ['.', '\\', '-', '+', '\x27', '_'] d) ∧ Among ['-', '+', '_'] c := by
  have hc : Among ['-', '+', '_'] c → Among ['.', '\\', '-', '+', '\x27', '_'] c := by
    simp only [Among, List.mem_cons]
    tauto
  rw [isLocal_iff, List.getLast?_concat, List.forall_mem_append, List.forall_mem_singleton]
  constructor
  · rintro ⟨⟨hu, _⟩, _, h, hl⟩
    cases h
    exact ⟨hu, hl⟩
  · exact fun ⟨hu, hl⟩ => ⟨⟨hu, hc hl⟩, c, rfl, hl⟩

theorem matches_expression : Matches expression before s after ↔
    before = none ∧ after = none ∧ ∃ a : Address, a.text = s := by
  have hl : ∀ {c}, (classOf ['.', '\\', '-', '+', '\x27', '_']).contains c = true ↔
      Among ['.', '\\', '-', '+', '\x27', '_'] c := contains_classOf (by simp [Text.Uncased])
  have he : ∀ {c}, (classOf ['-', '+', '_']).contains c = true ↔ Among ['-', '+', '_'] c :=
    contains_classOf (by simp [Text.Uncased])
  have hat : ∀ {c}, (Charset.anyCase (.one '@')).contains c = true ↔ c = '@' :=
    contains_anyCase_one (by decide)
  rw [expression, matches_empty_seq, matches_anchor_seq, exists_address_iff, matches_seq]
  constructor
  · rintro ⟨hb, u, _, rfl, hu, hv⟩
    obtain ⟨c, _, rfl, hc, hv⟩ := matches_one_seq.mp hv
    obtain ⟨p, domain, rfl, hp, hv⟩ := matches_one_seq.mp hv
    cases hat.mp hp
    obtain ⟨ha, hd⟩ := matches_domain.mp hv
    refine ⟨Option.isNone_iff_eq_none.mp hb, ha, u ++ [c], domain, by simp, ?_, hd⟩
    exact isLocal_append.mpr ⟨fun d h => hl.mp (matches_star_one.mp hu d h), he.mp hc⟩
  · rintro ⟨rfl, rfl, start, domain, rfl, hs, hd⟩
    obtain ⟨c, hlast, _⟩ := (isLocal_iff.mp hs).2
    obtain ⟨u, rfl⟩ := List.getLast?_eq_some_iff.mp hlast
    obtain ⟨hu, hc⟩ := isLocal_append.mp hs
    refine ⟨rfl, u, c :: '@' :: domain, by simp, ?_, ?_⟩
    · exact matches_star_one.mpr fun d h => hl.mpr (hu d h)
    refine matches_one_seq.mpr ⟨c, '@' :: domain, rfl, he.mpr hc, ?_⟩
    exact matches_one_seq.mpr ⟨'@', domain, rfl, hat.mpr rfl, matches_domain.mpr ⟨rfl, hd⟩⟩

theorem unmarked_expression : expression.Unmarked := by
  simp [expression, labelExpression, topExpression, letterExpression, Expression.Unmarked]

/-- Both anchors hold at the ends of the text alone, so the part found is all of it. -/
theorem found_iff {s : String} :
    Pattern.found ⟨source, expression⟩ s = true ↔ ∃ a : Address, a.text = s.toList := by
  rw [Pattern.found, unmarked_expression.search_iff]
  constructor
  · rintro ⟨t, u, v, hs, h⟩
    obtain ⟨ht, hv, ha⟩ := matches_expression.mp h
    cases List.getLast?_eq_none_iff.mp ht
    cases List.head?_eq_none_iff.mp hv
    rwa [hs, List.nil_append, List.append_nil]
  · intro ha
    refine ⟨[], s.toList, [], by simp, matches_expression.mpr ⟨rfl, rfl, ha⟩⟩

/-- A text is accepted exactly if it is that of an `Address`, starts with no dot and has no two in a
row, and this is the verdict of the two tests for dots with the pattern. -/
theorem accepts_exactly (s : String) :
    (accepts s.toList = true ↔ (∃ a : Address, a.text = s.toList) ∧
      (¬∃ t, s.toList = '.' :: t) ∧ ¬∃ t u, s.toList = t ++ ['.', '.'] ++ u) ∧
    ∃ p, Pattern.ofText source = .ok p ∧
      (p.found s = true ↔ ∃ a : Address, a.text = s.toList) ∧
      accepts s.toList = (!Text.startsWith s.toList ['.'] && !Text.occursIn ['.', '.'] s.toList
        && p.found s) := by
  refine ⟨accepts_iff, ⟨source, expression⟩, ofText_source, found_iff, ?_⟩
  rw [Bool.eq_iff_iff, accepts_iff, Bool.and_eq_true, Bool.and_eq_true, Bool.not_eq_true',
    Bool.not_eq_true', ← Bool.not_eq_true, ← Bool.not_eq_true, Text.startsWith_iff,
    Text.occursIn_iff, found_iff, and_comm]
  rfl

end Assay.Email
