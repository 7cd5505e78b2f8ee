import Assay.Pattern.Basic
import Mathlib.Tactic.Tauto

/-!
# Marks find what an expression matches

`Matches` says which texts an expression matches, between the characters before and after, without
marks or steps. `search_iff`: going over a text once, the marks find exactly the texts with such a
part. A mark inside an expression stands for a match begun before; `Continues` says what is left to
read of it, and one step of the marks reads one character of both.
-/

namespace Assay.Pattern.Expression

-- ---------------------------------------------------------------------------
-- What an expression matches
-- ---------------------------------------------------------------------------

/-- The expression matches the text between two characters, or the ends of the whole text. -/
inductive Matches : Expression → Option Char → List Char → Option Char → Prop
  | empty {before after : Option Char} : Matches .empty before [] after
  | one {set : Charset} {marked : Bool} {before after : Option Char} {c : Char}
      (h : set.contains c = true) : Matches (.one set marked) before [c] after
  | anchor {x : Anchor} {before after : Option Char} (h : x.holds before after = true) :
      Matches (.anchor x) before [] after
  | seq {e f : Expression} {before after : Option Char} {u v : List Char}
      (hu : Matches e before u (v.head?.or after)) (hv : Matches f (u.getLast?.or before) v after) :
      Matches (.seq e f) before (u ++ v) after
  | left {e f : Expression} {before after : Option Char} {s : List Char}
      (h : Matches e before s after) : Matches (.alt e f) before s after
  | right {e f : Expression} {before after : Option Char} {s : List Char}
      (h : Matches f before s after) : Matches (.alt e f) before s after
  | none {e : Expression} {before after : Option Char} : Matches (.star e) before [] after
  | more {e : Expression} {before after : Option Char} {u v : List Char}
      (hu : Matches e before u (v.head?.or after))
      (hv : Matches (.star e) (u.getLast?.or before) v after) :
      Matches (.star e) before (u ++ v) after

/-- A way through the expression from one of its marks reads the text and ends. -/
inductive Continues : Expression → Option Char → List Char → Option Char → Prop
  | one {set : Charset} {before after : Option Char} : Continues (.one set true) before [] after
  | first {e f : Expression} {before after : Option Char} {u v : List Char}
      (hu : Continues e before u (v.head?.or after))
      (hv : Matches f (u.getLast?.or before) v after) : Continues (.seq e f) before (u ++ v) after
  | second {e f : Expression} {before after : Option Char} {s : List Char}
      (h : Continues f before s after) : Continues (.seq e f) before s after
  | left {e f : Expression} {before after : Option Char} {s : List Char}
      (h : Continues e before s after) : Continues (.alt e f) before s after
  | right {e f : Expression} {before after : Option Char} {s : List Char}
      (h : Continues f before s after) : Continues (.alt e f) before s after
  | round {e : Expression} {before after : Option Char} {u v : List Char}
      (hu : Continues e before u (v.head?.or after))
      (hv : Matches (.star e) (u.getLast?.or before) v after) :
      Continues (.star e) before (u ++ v) after

section

variable {e f : Expression} {before after : Option Char} {c : Char} {s u v : List Char}

theorem getLast?_cons_or (c : Char) (u : List Char) (b : Option Char) :
    (c :: u).getLast?.or b = u.getLast?.or (some c) := by
  rw [List.getLast?_cons, Option.or_some, Option.some_or]

/-- Both parts of no text are none. -/
theorem exists_append_nil {p : List Char → List Char → Prop} :
    (∃ u v, [] = u ++ v ∧ p u v) ↔ p [] [] := by
  constructor
  · rintro ⟨u, v, h, hp⟩
    obtain ⟨rfl, rfl⟩ := List.append_eq_nil_iff.mp h.symm
    exact hp
  · exact fun hp => ⟨[], [], rfl, hp⟩

/-- The first of the parts of a text is empty or has its first character. -/
theorem exists_append_cons {p : List Char → List Char → Prop} :
    (∃ u v, c :: s = u ++ v ∧ p u v) ↔ p [] (c :: s) ∨ ∃ u v, s = u ++ v ∧ p (c :: u) v := by
  constructor
  · rintro ⟨u, v, h, hp⟩
    cases u with
    | nil =>
      rw [List.nil_append] at h
      exact .inl (h ▸ hp)
    | cons d u =>
      obtain ⟨rfl, rfl⟩ := List.cons.inj h
      exact .inr ⟨u, v, rfl, hp⟩
  · rintro (hp | ⟨u, v, rfl, hp⟩)
    · exact ⟨[], c :: s, rfl, hp⟩
    · exact ⟨c :: u, v, rfl, hp⟩

theorem matches_empty : Matches .empty before s after ↔ s = [] := by
  constructor
  · intro h
    cases h
    rfl
  · rintro rfl
    exact .empty

theorem matches_one {set : Charset} {marked : Bool} :
    Matches (.one set marked) before s after ↔ ∃ c, s = [c] ∧ set.contains c = true := by
  constructor
  · intro h
    cases h with
    | one h => exact ⟨_, rfl, h⟩
  · rintro ⟨c, rfl, h⟩
    exact .one h

theorem matches_anchor {x : Anchor} :
    Matches (.anchor x) before s after ↔ s = [] ∧ x.holds before after = true := by
  constructor
  · intro h
    cases h with
    | anchor h => exact ⟨rfl, h⟩
  · rintro ⟨rfl, h⟩
    exact .anchor h

theorem matches_seq : Matches (.seq e f) before s after ↔
    ∃ u v, s = u ++ v ∧ Matches e before u (v.head?.or after) ∧
      Matches f (u.getLast?.or before) v after := by
  constructor
  · intro h
    cases h with
    | seq hu hv => exact ⟨_, _, rfl, hu, hv⟩
  · rintro ⟨u, v, rfl, hu, hv⟩
    exact .seq hu hv

theorem matches_alt :
    Matches (.alt e f) before s after ↔ Matches e before s after ∨ Matches f before s after := by
  constructor
  · intro h
    cases h with
    | left h => exact .inl h
    | right h => exact .inr h
  · rintro (h | h)
    · exact .left h
    · exact .right h

theorem Matches.star_mono {g : Expression}
    (hg : ∀ before u after, Matches e before u after → Matches g before u after)
    (h : Matches (.star e) before s after) : Matches (.star g) before s after := by
  generalize he : Expression.star e = x at h
  induction h with
  | none => exact .none
  | more hu _ _ ih =>
    cases he
    exact .more (hg _ _ _ hu) (ih rfl)
  | _ => cases he

-- ---------------------------------------------------------------------------
-- What is left of a match begun before
-- ---------------------------------------------------------------------------

theorem not_continues_empty : ¬Continues .empty before s after := nofun

theorem not_continues_anchor {x : Anchor} : ¬Continues (.anchor x) before s after := nofun

theorem continues_one {set : Charset} {marked : Bool} :
    Continues (.one set marked) before s after ↔ s = [] ∧ marked = true := by
  constructor
  · intro h
    cases h
    exact ⟨rfl, rfl⟩
  · rintro ⟨rfl, rfl⟩
    exact .one

theorem continues_seq : Continues (.seq e f) before s after ↔
    (∃ u v, s = u ++ v ∧ Continues e before u (v.head?.or after) ∧
      Matches f (u.getLast?.or before) v after) ∨ Continues f before s after := by
  constructor
  · intro h
    cases h with
    | first hu hv => exact .inl ⟨_, _, rfl, hu, hv⟩
    | second h => exact .inr h
  · rintro (⟨u, v, rfl, hu, hv⟩ | h)
    · exact .first hu hv
    · exact .second h

theorem continues_alt : Continues (.alt e f) before s after ↔
    Continues e before s after ∨ Continues f before s after := by
  constructor
  · intro h
    cases h with
    | left h => exact .inl h
    | right h => exact .inr h
  · rintro (h | h)
    · exact .left h
    · exact .right h

theorem continues_star : Continues (.star e) before s after ↔
    ∃ u v, s = u ++ v ∧ Continues e before u (v.head?.or after) ∧
      Matches (.star e) (u.getLast?.or before) v after := by
  constructor
  · intro h
    cases h with
    | round hu hv => exact ⟨_, _, rfl, hu, hv⟩
  · rintro ⟨u, v, rfl, hu, hv⟩
    exact .round hu hv

-- ---------------------------------------------------------------------------
-- A place
-- ---------------------------------------------------------------------------

theorem reach_skips (e : Expression) (before after : Option Char) :
    (e.reach before after).skips = true ↔ Matches e before [] after := by
  induction e with
  | empty => exact ⟨fun _ => .empty, fun _ => rfl⟩
  | one set marked => simp [reach, matches_one]
  | anchor x => simp [reach, matches_anchor]
  | seq e f ihe ihf =>
    rw [matches_seq, exists_append_nil]
    simp [reach, ihe, ihf]
  | alt e f ihe ihf => simp [reach, matches_alt, ihe, ihf]
  | star e _ => exact ⟨fun _ => .none, fun _ => rfl⟩

theorem reach_ends (e : Expression) (before after : Option Char) :
    (e.reach before after).ends = true ↔ Continues e before [] after := by
  induction e with
  | empty => simp [reach, not_continues_empty]
  | one set marked => simp [reach, continues_one]
  | anchor x => simp [reach, not_continues_anchor]
  | seq e f ihe ihf =>
    rw [continues_seq, exists_append_nil]
    simp [reach, ihe, ihf, reach_skips]
  | alt e f ihe ihf => simp [reach, continues_alt, ihe, ihf]
  | star e ih =>
    rw [continues_star, exists_append_nil]
    simp [reach, ih, Matches.none]

-- ---------------------------------------------------------------------------
-- The next character
-- ---------------------------------------------------------------------------

theorem matches_seq_cons : Matches (.seq e f) before (c :: s) after ↔
    (Matches e before [] (some c) ∧ Matches f before (c :: s) after) ∨
    ∃ u v, s = u ++ v ∧ Matches e before (c :: u) (v.head?.or after) ∧
      Matches f (u.getLast?.or (some c)) v after := by
  rw [matches_seq, exists_append_cons]
  simp only [getLast?_cons_or]
  rfl

theorem continues_seq_cons : Continues (.seq e f) before (c :: s) after ↔
    ((Continues e before [] (some c) ∧ Matches f before (c :: s) after) ∨
      ∃ u v, s = u ++ v ∧ Continues e before (c :: u) (v.head?.or after) ∧
        Matches f (u.getLast?.or (some c)) v after) ∨
    Continues f before (c :: s) after := by
  rw [continues_seq, exists_append_cons]
  simp only [getLast?_cons_or]
  rfl

/-- The first character is read by a round of its own; rounds that read nothing are passed over. -/
theorem matches_star_cons : Matches (.star e) before (c :: s) after ↔
    ∃ u v, s = u ++ v ∧ Matches e before (c :: u) (v.head?.or after) ∧
      Matches (.star e) (u.getLast?.or (some c)) v after := by
  constructor
  · intro h
    generalize hg : Expression.star e = g at h
    generalize ht : c :: s = t at h
    induction h with
    | none => cases ht
    | @more _ _ _ u v hu hv _ ih =>
      cases hg
      cases u with
      | nil => exact ih rfl ht
      | cons d u =>
        obtain ⟨rfl, rfl⟩ := List.cons.inj ht
        refine ⟨u, v, rfl, hu, ?_⟩
        rwa [getLast?_cons_or] at hv
    | _ => cases hg
  · rintro ⟨u, v, rfl, hu, hv⟩
    refine Matches.more (u := c :: u) hu ?_
    rwa [getLast?_cons_or]

theorem continues_star_cons : Continues (.star e) before (c :: s) after ↔
    (Continues e before [] (some c) ∧ Matches (.star e) before (c :: s) after) ∨
    ∃ u v, s = u ++ v ∧ Continues e before (c :: u) (v.head?.or after) ∧
      Matches (.star e) (u.getLast?.or (some c)) v after := by
  rw [continues_star, exists_append_cons]
  simp only [getLast?_cons_or]
  rfl

-- ---------------------------------------------------------------------------
-- One step
-- ---------------------------------------------------------------------------

/-- The marks have no part in what matches. -/
theorem matches_step (e : Expression) (b : Option Char) (c : Char) (enter : Bool) :
    Matches (e.step b c enter) before s after ↔ Matches e before s after := by
  induction e generalizing before s after enter with
  | empty | anchor => rfl
  | one set marked => rw [step, matches_one, matches_one]
  | seq e f ihe ihf => simp only [step, matches_seq, ihe, ihf]
  | alt e f ihe ihf => simp only [step, matches_alt, ihe, ihf]
  | star e ih =>
    rw [step]
    exact ⟨Matches.star_mono fun _ _ _ => (ih _).mp, Matches.star_mono fun _ _ _ => (ih _).mpr⟩

theorem exists_and_or {q : Prop} {m k n : List Char → List Char → Prop} :
    (∃ u v, s = u ++ v ∧ (q ∧ m u v ∨ k u v) ∧ n u v) ↔
      (q ∧ ∃ u v, s = u ++ v ∧ m u v ∧ n u v) ∨ ∃ u v, s = u ++ v ∧ k u v ∧ n u v := by
  constructor
  · rintro ⟨u, v, hs, ⟨hq, hm⟩ | hk, hn⟩
    · exact .inl ⟨hq, u, v, hs, hm, hn⟩
    · exact .inr ⟨u, v, hs, hk, hn⟩
  · rintro (⟨hq, u, v, hs, hm, hn⟩ | ⟨u, v, hs, hk, hn⟩)
    · exact ⟨u, v, hs, .inl ⟨hq, hm⟩, hn⟩
    · exact ⟨u, v, hs, .inr hk, hn⟩

/-- What a mark may read after a step it could read before, with the character in front, or else the
whole of it begins at that character. -/
theorem continues_step (e : Expression) (before : Option Char) (c : Char) (enter : Bool) :
    Continues (e.step before c enter) (some c) s after ↔
      (enter = true ∧ Matches e before (c :: s) after) ∨ Continues e before (c :: s) after := by
  induction e generalizing s after enter with
  | empty => simp [step, not_continues_empty, matches_empty]
  | one set marked =>
    rw [step, continues_one, matches_one, continues_one, Bool.and_eq_true]
    constructor
    · rintro ⟨rfl, he, hc⟩
      exact .inl ⟨he, c, rfl, hc⟩
    · rintro (⟨he, d, hd, hc⟩ | ⟨hs, _⟩)
      · obtain ⟨rfl, rfl⟩ := List.cons.inj hd
        exact ⟨rfl, he, hc⟩
      · cases hs
  | anchor x => simp [step, not_continues_anchor, matches_anchor]
  | seq e f ihe ihf =>
    rw [step, continues_seq, matches_seq_cons, continues_seq_cons]
    simp only [ihe, ihf, matches_step, exists_and_or, Bool.or_eq_true, Bool.and_eq_true,
      reach_skips, reach_ends]
    grind
  | alt e f ihe ihf =>
    simp only [step, continues_alt, matches_alt, ihe, ihf]
    tauto
  | star e ih =>
    have hm : ∀ {b v}, Matches (.star (e.step before c
        (enter || (e.reach before (some c)).ends))) b v after ↔ Matches (.star e) b v after :=
      matches_step (.star e) before c enter
    rw [step, continues_star, continues_star_cons]
    simp only [ih, hm, exists_and_or, Bool.or_eq_true, reach_ends, ← matches_star_cons]
    tauto

-- ---------------------------------------------------------------------------
-- Rows and repetitions
-- ---------------------------------------------------------------------------

theorem matches_empty_seq : Matches (.seq .empty f) before s after ↔ Matches f before s after := by
  rw [matches_seq]
  constructor
  · rintro ⟨u, v, rfl, hu, hv⟩
    cases matches_empty.mp hu
    exact hv
  · exact fun h => ⟨[], s, rfl, .empty, h⟩

theorem matches_anchor_seq {x : Anchor} : Matches (.seq (.anchor x) f) before s after ↔
    x.holds before (s.head?.or after) = true ∧ Matches f before s after := by
  rw [matches_seq]
  constructor
  · rintro ⟨u, v, rfl, hu, hv⟩
    obtain ⟨rfl, hx⟩ := matches_anchor.mp hu
    exact ⟨hx, hv⟩
  · rintro ⟨hx, h⟩
    exact ⟨[], s, rfl, .anchor hx, h⟩

theorem matches_one_seq {set : Charset} {marked : Bool} :
    Matches (.seq (.one set marked) f) before s after ↔
      ∃ c t, s = c :: t ∧ set.contains c = true ∧ Matches f (some c) t after := by
  rw [matches_seq]
  constructor
  · rintro ⟨u, v, rfl, hu, hv⟩
    obtain ⟨c, rfl, hc⟩ := matches_one.mp hu
    exact ⟨c, v, rfl, hc, hv⟩
  · rintro ⟨c, t, rfl, hc, ht⟩
    exact ⟨[c], t, rfl, .one hc, ht⟩

theorem matches_star_one {set : Charset} {marked : Bool} :
    Matches (.star (.one set marked)) before s after ↔ ∀ c ∈ s, set.contains c = true := by
  induction s generalizing before with
  | nil => exact ⟨fun _ _ h => (List.not_mem_nil h).elim, fun _ => .none⟩
  | cons c s ih =>
    rw [matches_star_cons, List.forall_mem_cons]
    constructor
    · rintro ⟨u, v, rfl, hu, hv⟩
      obtain ⟨d, hd, hc⟩ := matches_one.mp hu
      obtain ⟨rfl, rfl⟩ := List.cons.inj hd
      exact ⟨hc, ih.mp hv⟩
    · rintro ⟨hc, hs⟩
      exact ⟨[], s, rfl, .one hc, ih.mpr hs⟩

/-- Rounds of an expression that matches the same texts wherever they stand. -/
theorem matches_star_iff {α : Type} {text : α → List Char} {p : α → Prop}
    (he : ∀ before u after, Matches e before u after ↔ ∃ x, u = text x ∧ p x) :
    Matches (.star e) before s after ↔ ∃ xs : List α, s = xs.flatMap text ∧ ∀ x ∈ xs, p x := by
  constructor
  · intro h
    generalize hg : Expression.star e = g at h
    induction h with
    | none => exact ⟨[], rfl, fun _ h => (List.not_mem_nil h).elim⟩
    | more hu _ _ ih =>
      cases hg
      obtain ⟨x, rfl, hx⟩ := (he _ _ _).mp hu
      obtain ⟨xs, rfl, hxs⟩ := ih rfl
      exact ⟨x :: xs, rfl, List.forall_mem_cons.mpr ⟨hx, hxs⟩⟩
    | _ => cases hg
  · rintro ⟨xs, rfl, hxs⟩
    induction xs generalizing before with
    | nil => exact .none
    | cons x xs ih =>
      obtain ⟨hx, hxs⟩ := List.forall_mem_cons.mp hxs
      exact .more ((he _ _ _).mpr ⟨x, rfl, hx⟩) (ih hxs)

-- ---------------------------------------------------------------------------
-- A whole text
-- ---------------------------------------------------------------------------

/-- A match begun before ends in the text, or some part of it matches. -/
theorem search_iff (e : Expression) (before : Option Char) (s : List Char) :
    e.search before s = true ↔
      (∃ u v, s = u ++ v ∧ Continues e before u v.head?) ∨
      ∃ t r, s = t ++ r ∧ ∃ u v, r = u ++ v ∧ Matches e (t.getLast?.or before) u v.head? := by
  induction s generalizing e before with
  | nil =>
    rw [search, accepts, Bool.or_eq_true, reach_skips, reach_ends, exists_append_nil,
      exists_append_nil, exists_append_nil]
    exact or_comm
  | cons c s ih =>
    rw [search, accepts, Bool.or_eq_true, Bool.or_eq_true, ih, reach_skips, reach_ends,
      exists_append_cons, exists_append_cons, exists_append_cons]
    simp only [continues_step, matches_step, getLast?_cons_or, List.getLast?_nil, Option.none_or,
      List.head?_cons, true_and, and_or_left, exists_or]
    grind

/-- No mark stands anywhere, as in a pattern before a search. -/
def Unmarked : Expression → Prop
  | .empty | .anchor _ => True
  | .one _ marked => marked = false
  | .seq a b | .alt a b => a.Unmarked ∧ b.Unmarked
  | .star a => a.Unmarked

theorem Unmarked.not_continues (he : e.Unmarked) : ¬Continues e before s after := by
  intro h
  induction h with
  | one => cases he
  | first _ _ ih => exact ih he.1
  | second _ ih => exact ih he.2
  | left _ ih => exact ih he.1
  | right _ ih => exact ih he.2
  | round _ _ ih => exact ih he

/-- Without marks a search is the question whether some part of the text matches where it stands. -/
theorem Unmarked.search_iff (he : e.Unmarked) :
    e.search none s = true ↔ ∃ t u v, s = t ++ u ++ v ∧ Matches e t.getLast? u v.head? := by
  rw [Expression.search_iff, or_iff_right fun ⟨_, _, _, h⟩ => he.not_continues h]
  constructor
  · rintro ⟨t, _, rfl, u, v, rfl, h⟩
    refine ⟨t, u, v, (List.append_assoc ..).symm, ?_⟩
    rwa [Option.or_none] at h
  · rintro ⟨t, u, v, rfl, h⟩
    refine ⟨t, u ++ v, List.append_assoc .., u, v, rfl, ?_⟩
    rwa [Option.or_none]

end

end Assay.Pattern.Expression
