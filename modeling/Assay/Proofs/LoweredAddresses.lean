import Assay.Proofs.Normalisation
import Assay.Proofs.PlainAddresses
import Assay.Proofs.ScopeLaw
import Assay.Proofs.Wording

/-!
# Addresses in lower case

Lowering a text neither makes nor breaks an address. The test looks at a character only up to its
shape: any letter, any digit, or the character itself. Lowering keeps the shape of the characters
that can stand in an address, and of any other it leaves one that cannot stand there either.
-/

namespace Assay.Email

-- ---------------------------------------------------------------------------
-- Shapes
-- ---------------------------------------------------------------------------

/-- What the test sees of a character. -/
def shape (c : Char) : Char := if isLetter c then 'a' else if c.isDigit then '0' else c

theorem not_isDigit_of_isLetter {c : Char} (h : isLetter c = true) : c.isDigit = false := by
  rw [Bool.eq_false_iff]
  intro hd
  have hn := Text.isDigit_iff.mp hd
  rcases isLetter_iff.mp h with hl | hl | hl
  · have := Text.isAlpha_iff.mp hl
    omega
  · omega
  · omega

theorem shape_eq_self {c : Char} (h : isAlphanumeric c = false) : shape c = c := by
  obtain ⟨hl, hd⟩ := Bool.or_eq_false_iff.mp h
  simp [shape, hl, hd]

section
variable (c : Char) (s : List Char)

/-- A letter, a digit or any other character. -/
theorem shape_cases : isLetter c = true ∧ shape c = 'a' ∨
    (isLetter c = false ∧ c.isDigit = true) ∧ shape c = '0' ∨
    isAlphanumeric c = false ∧ shape c = c := by
  cases hl : isLetter c with
  | true => exact .inl ⟨rfl, by simp [shape, hl]⟩
  | false =>
    cases hd : c.isDigit with
    | true => exact .inr (.inl ⟨⟨rfl, rfl⟩, by simp [shape, hl, hd]⟩)
    | false =>
      have hn : isAlphanumeric c = false := by simp [isAlphanumeric, hl, hd]
      exact .inr (.inr ⟨hn, shape_eq_self hn⟩)

@[simp] theorem isLetter_shape : isLetter (shape c) = isLetter c := by
  obtain ⟨hl, h⟩ | ⟨⟨hl, -⟩, h⟩ | ⟨-, h⟩ := shape_cases c
  · rw [h, hl]
    rfl
  · rw [h, hl]
    rfl
  · rw [h]

@[simp] theorem isDigit_shape : (shape c).isDigit = c.isDigit := by
  obtain ⟨hl, h⟩ | ⟨⟨-, hd⟩, h⟩ | ⟨-, h⟩ := shape_cases c
  · rw [h, not_isDigit_of_isLetter hl]
    rfl
  · rw [h, hd]
    rfl
  · rw [h]

@[simp] theorem isAlphanumeric_shape : isAlphanumeric (shape c) = isAlphanumeric c := by
  simp [isAlphanumeric]

/-- A mark is seen as it is, and nothing else is seen as a mark. -/
theorem shape_eq_iff {m : Char} (hm : isAlphanumeric m = false) : shape c = m ↔ c = m := by
  constructor
  · intro h
    have hc : isAlphanumeric c = false := by rw [← isAlphanumeric_shape, h, hm]
    rwa [shape_eq_self hc] at h
  · rintro rfl
    exact shape_eq_self hm

@[simp] theorem isLocalEnd_shape : isLocalEnd (shape c) = isLocalEnd c := by
  simp (disch := decide) only [isLocalEnd, isAlphanumeric_shape, shape_eq_iff]

@[simp] theorem isLocalChar_shape : isLocalChar (shape c) = isLocalChar c := by
  simp (disch := decide) only [isLocalChar, isLocalEnd_shape, shape_eq_iff]

@[simp] theorem isLabelChar_shape : isLabelChar (shape c) = isLabelChar c := by
  simp (disch := decide) only [isLabelChar, isAlphanumeric_shape, shape_eq_iff]

theorem isLocal_shape : isLocal (s.map shape) = isLocal s := by
  simp [isLocal, List.all_map, Function.comp_def, List.getLast?_map, Option.any_map]

theorem isLabel_shape : isLabel (s.map shape) = isLabel s := by
  cases s with
  | nil => rfl
  | cons c s => simp [isLabel, List.all_map, Function.comp_def]

theorem isTopLevel_shape : isTopLevel (s.map shape) = isTopLevel s := by
  simp [isTopLevel, List.all_map, Function.comp_def]

theorem parts_shape : parts (s.map shape) = (parts s).map (List.map shape) := by
  induction s with
  | nil => rfl
  | cons c s ih =>
    simp (disch := decide) only [List.map_cons, parts, ih, shape_eq_iff]
    split
    · rfl
    · cases parts s <;> rfl

theorem isDomain_shape : isDomain (s.map shape) = isDomain s := by
  rw [isDomain, isDomain, parts_shape, ← List.map_reverse]
  rcases (parts s).reverse with _ | ⟨top, _ | ⟨label, labels⟩⟩
  · rfl
  · rfl
  · simp [isTopLevel_shape, isLabel_shape, List.all_map, Function.comp_def]

theorem isPrefixOf_shape {n : List Char} (hn : n.any isAlphanumeric = false) :
    n.isPrefixOf (s.map shape) = n.isPrefixOf s := by
  induction n generalizing s with
  | nil => rfl
  | cons m n ih =>
    obtain ⟨hm, hn⟩ := Bool.or_eq_false_iff.mp hn
    cases s with
    | nil => rfl
    | cons c s =>
      have hc : (m == shape c) = (m == c) := by
        rw [Bool.eq_iff_iff, beq_iff_eq, beq_iff_eq, eq_comm, shape_eq_iff c hm, eq_comm]
      rw [List.map_cons, List.isPrefixOf, List.isPrefixOf, hc, ih s hn]

theorem occursIn_shape {n : List Char} (hn : n.any isAlphanumeric = false) :
    Text.occursIn n (s.map shape) = Text.occursIn n s := by
  induction s with
  | nil => rfl
  | cons c s ih =>
    have h := isPrefixOf_shape (c :: s) hn
    rw [List.map_cons] at h ⊢
    rw [Text.occursIn, Text.occursIn, h, ih]

theorem span_shape : (s.map shape).span (· ≠ '@') =
    ((s.span (· ≠ '@')).1.map shape, (s.span (· ≠ '@')).2.map shape) := by
  have hp : (fun c => decide (c ≠ '@')) ∘ shape = fun c => decide (c ≠ '@') := by
    funext c
    simp (disch := decide) only [Function.comp_apply, ne_eq, shape_eq_iff]
  rw [List.span_eq_takeWhile_dropWhile, List.span_eq_takeWhile_dropWhile, List.takeWhile_map,
    List.dropWhile_map, hp]

/-- The test sees shapes only. -/
theorem accepts_shape : accepts (s.map shape) = accepts s := by
  unfold accepts
  rw [Text.startsWith, isPrefixOf_shape s (by decide), occursIn_shape s (by decide), span_shape]
  rw [Text.startsWith]
  obtain ⟨start, rest⟩ := s.span (· ≠ '@')
  cases rest with
  | nil => rfl
  | cons c domain =>
    by_cases hc : c = '@'
    · have hat : shape '@' = '@' := (shape_eq_iff '@' (by decide)).mpr rfl
      simp [hc, hat, isLocal_shape, isDomain_shape]
    · have hat : shape c ≠ '@' := mt (shape_eq_iff c (by decide)).mp hc
      simp [hc, hat]

end

-- ---------------------------------------------------------------------------
-- Characters that can stand in an address
-- ---------------------------------------------------------------------------

/-- Of ASCII, or one of the two that fold onto a letter of ASCII. -/
def Native (c : Char) : Prop := c.toNat < 128 ∨ c.toNat = 0x17F ∨ c.toNat = 0x212A

instance (c : Char) : Decidable (Native c) := inferInstanceAs (Decidable (_ ∨ _))

theorem Among.native {c : Char} {others : List Char} (h : Among others c)
    (ho : ∀ d ∈ others, d.toNat < 128) : Native c := by
  rcases h with (h | h) | h | h
  · have := Text.isAlpha_iff.mp h
    exact .inl (by omega)
  · exact .inr h
  · have := Text.isDigit_iff.mp h
    exact .inl (by omega)
  · exact .inl (ho c h)

theorem native_of_accepts {s : List Char} (h : accepts s = true) : ∀ c ∈ s, Native c := by
  obtain ⟨⟨a, rfl⟩, -⟩ := accepts_iff.mp h
  exact fun c hc => (a.among hc).native (by simp)

/-- A row stays in ASCII, is the one for the Kelvin sign, or leads into a gap between such
characters. -/
theorem lowering_rows_gaps : ∀ s ∈ Text.lowering,
    s.row.last < 128 ∨ (s.row.first = 0x212A ∧ s.row.last = 0x212A) ∨
    (128 ≤ s.row.first + s.distance ∧ s.row.last + s.distance < 0x17F) ∨
    (0x17F < s.row.first + s.distance ∧ s.row.last + s.distance < 0x212A) ∨
    0x212A < s.row.first + s.distance := by
  decide +kernel

/-- Lowering leaves of any other character one that cannot stand in an address either. -/
theorem native_of_lowerChar {c : Char} (h : ∀ d ∈ Text.lowerChar c, Native d) : Native c := by
  unfold Text.lowerChar Text.mapChar at h
  split at h
  · rename_i ns hl
    have hn : ns = [0x69, 0x307] :=
      congrArg Prod.snd (List.mem_singleton.mp (Text.mem_of_lookup hl))
    exact absurd (h (Char.ofNat 0x307) (by simp [hn])) (by decide)
  · replace h := h _ (List.mem_singleton_self _)
    unfold Text.ShiftTable.apply at h
    split at h
    · rename_i n hi
      obtain ⟨s, hs, hc, rfl⟩ := Text.ShiftTable.exists_of_image? hi
      rw [Native, (Text.settles_lowering.valid s hs).toNat_ofNat_target hc] at h
      obtain ⟨hf, hl, -⟩ := Text.Row.contains_iff.mp hc
      have hgaps := lowering_rows_gaps s hs
      unfold Text.Shift.target at h
      unfold Native
      omega
    · exact h

theorem map_shape_lowerChar {c : Char} (h : Native c) :
    (Text.lowerChar c).map shape = [shape c] := by
  rcases h with h | h | h
  · exact Text.forall_ascii (p := fun c => (Text.lowerChar c).map shape = [shape c]) (by decide) h
  · rw [← Char.ofNat_toNat c, h]
    decide
  · rw [← Char.ofNat_toNat c, h]
    decide

-- ---------------------------------------------------------------------------
-- Texts
-- ---------------------------------------------------------------------------

theorem native_of_lowerAfter {s : List Char} (before : List Char)
    (h : ∀ d ∈ Text.lowerAfter before s, Native d) : ∀ c ∈ s, Native c := by
  induction s generalizing before with
  | nil => exact List.forall_mem_nil _
  | cons c s ih =>
    by_cases hc : c = Text.capitalSigma
    · subst hc
      obtain ⟨d, hd, he⟩ := Text.lowerAfter_cons_sigma (s := s) before
      rw [he] at h
      have hn : ∀ d ∈ [Text.finalSigma, Text.smallSigma], ¬Native d :=
        List.forall_mem_cons.mpr ⟨by decide, List.forall_mem_singleton.mpr (by decide)⟩
      exact absurd (h d List.mem_cons_self) (hn d hd)
    · rw [Text.lowerAfter_cons_of_ne hc] at h
      obtain ⟨hpiece, hrest⟩ := List.forall_mem_append.mp h
      exact List.forall_mem_cons.mpr ⟨native_of_lowerChar hpiece, ih _ hrest⟩

theorem map_shape_lowerAfter {s : List Char} (before : List Char) (h : ∀ c ∈ s, Native c) :
    (Text.lowerAfter before s).map shape = s.map shape := by
  induction s generalizing before with
  | nil => rfl
  | cons c s ih =>
    obtain ⟨hc, hs⟩ := List.forall_mem_cons.mp h
    have hne : c ≠ Text.capitalSigma := by
      rintro rfl
      exact absurd hc (by decide)
    rw [Text.lowerAfter_cons_of_ne hne, List.map_append, map_shape_lowerChar hc, ih _ hs,
      List.map_cons, List.singleton_append]

theorem accepts_lower (s : List Char) : accepts (Text.lower s) = accepts s := by
  by_cases h : ∀ c ∈ s, Native c
  · rw [← accepts_shape, Text.lower, map_shape_lowerAfter [] h, accepts_shape]
  · have hs : accepts s = false := Bool.eq_false_iff.mpr fun ha => h (native_of_accepts ha)
    have hl : accepts (Text.lower s) = false :=
      Bool.eq_false_iff.mpr fun ha => h (native_of_lowerAfter [] (native_of_accepts ha))
    rw [hs, hl]

end Assay.Email

namespace Assay

-- ---------------------------------------------------------------------------
-- The flag for lower case
-- ---------------------------------------------------------------------------

theorem TextFlags.accepts_apply {flags : TextFlags} (hu : flags.upper = false) (s : String) :
    Email.accepts (flags.apply s).toList =
      Email.accepts (if flags.trim then Text.trim s.toList else s.toList) := by
  rw [apply, String.toList_ofList, if_neg (by simp [hu])]
  split
  · exact Email.accepts_lower _
  · rfl

/-- The scope with the flag for lower case set or not. -/
def Scope.withLower (scope : Scope) (lower : Bool) : Scope :=
  { scope with flags := { scope.flags with lower } }

/-- No transformer of its own, and nothing is raised. -/
structure Scope.Unraised (scope : Scope) : Prop where
  custom : scope.custom = none
  upper : scope.flags.upper = false

theorem Scope.Unraised.withLower {scope : Scope} (h : scope.Unraised) (lower : Bool) :
    (scope.withLower lower).Unraised := ⟨h.custom, h.upper⟩

theorem Check.fails_email_withLower {scope : Scope} (h : scope.Unraised) (lower : Bool)
    (v : Value) : Check.email.fails (scope.withLower lower) ((scope.withLower lower).transform v) =
      Check.email.fails scope (scope.transform v) := by
  have hlower := h.withLower lower
  by_cases ht : scope.kind = .string ∧ v.kind = .string
  · obtain ⟨hk, hv⟩ := ht
    cases v with
    | string s =>
      rw [Scope.transform_string hlower.custom hk, Scope.transform_string h.custom hk]
      simp only [fails, failsText, Value.asString?, Option.any_some,
        TextFlags.accepts_apply hlower.upper, TextFlags.accepts_apply h.upper]
      rfl
    | _ => cases hv
  · rw [Scope.transform_eq_self hlower.custom ht, Scope.transform_eq_self h.custom ht]
    rfl

theorem Test.verdict_email_withLower {scope : Scope} (h : scope.Unraised) (lower : Bool)
    (message : Option Message) (v : Value) :
    (Test.checked .email message).verdict (scope.withLower lower)
        ((scope.withLower lower).transform v) =
      (Test.checked .email message).verdict scope (scope.transform v) := by
  simp only [verdict, Check.fails_email_withLower h]

-- ---------------------------------------------------------------------------
-- Programs without the steps that lower
-- ---------------------------------------------------------------------------

namespace Step

def lowers : Step → Bool
  | .lower => true
  | _ => false

/-- The program without the steps that lower. -/
def unlowered (program : List Step) : List Step := program.filter (!·.lowers)

theorem withLower_rescope {s : Step} (h : s.lowers = false) (scope : Scope) (lower : Bool) :
    (s.rescope scope).withLower lower = s.rescope (scope.withLower lower) := by
  cases s <;> first | rfl | cases h

theorem withLower_foldl_rescope (program : List Step) (scope : Scope) (lower : Bool) :
    (program.foldl rescope scope).withLower lower =
      (unlowered program).foldl rescope (scope.withLower lower) := by
  induction program generalizing scope with
  | nil => rfl
  | cons s rest ih =>
    rw [List.foldl_cons, ih, unlowered, unlowered]
    cases h : s.lowers with
    | false => rw [List.filter_cons_of_pos (by simp [h]), List.foldl_cons, withLower_rescope h]
    | true =>
      cases s with
      | lower => rfl
      | _ => cases h

theorem filter_rule?_unlowered (program : List Step) :
    (unlowered program).filter (·.rule?.isSome) = program.filter (·.rule?.isSome) := by
  rw [unlowered, List.filter_filter]
  refine List.filter_congr fun s _ => ?_
  cases s <;> simp [lowers, rule?]

end Step

variable {ρ : Type} [Rule ρ]

namespace Session

/-- A chain with the same steps after whatever else has happened in its session, but for steps that
lower. -/
structure LoweredTwin (f : Factory ρ) (before : Trace) (history : List Command) (n : Nat)
    (cell : Cell ρ) (other : Factory ρ) (past : Trace) (commands : List Command) (m : Nat)
    (twin : Cell ρ) : Prop where
  keeps : other.generator.Keeps
  found : (after other past commands).cells[m]? = some twin
  settings : twin.chain.settings = cell.chain.settings
  steps : Step.unlowered (program other past commands m) =
    Step.unlowered (program f before history n)

variable {f : Factory ρ} {before : Trace} {history : List Command} {n : Nat} {cell : Cell ρ}

theorem LoweredTwin.withLower_eq {other : Factory ρ} {past : Trace} {commands : List Command}
    {m : Nat} {twin : Cell ρ} (hc : (after f before history).cells[n]? = some cell)
    (h : LoweredTwin f before history n cell other past commands m twin) (lower : Bool) :
    twin.chain.scope.withLower lower = cell.chain.scope.withLower lower := by
  rw [scope_foldl_after hc, scope_foldl_after h.found, Step.withLower_foldl_rescope,
    Step.withLower_foldl_rescope, h.steps, h.settings]

/-- Along the steps that append rules, an email rule says what it would say without the flag. -/
theorem run_email_after (hg : f.generator.Keeps)
    (hc : (after f before history).cells[n]? = some cell) (hs : cell.chain.scope.Unraised)
    (v : Value) :
    List.Forall₂ (fun s verdict => ∀ notice, s = .check .email notice →
        verdict = ((Test.checked .email notice.message).verdict (cell.chain.scope.withLower false)
          ((cell.chain.scope.withLower false).transform v)).result)
      ((Step.unlowered (program f before history n)).filter (·.rule?.isSome))
      (cell.chain.run v).result := by
  rw [result_run_after hc hg, Step.filter_rule?_unlowered]
  refine Step.forall₂_reference _ fun s test ht notice he => ?_
  subst he
  cases ht
  rw [Test.verdict_email_withLower hs]

/-- The test for addresses does not see whether a text has been lowered, so no email rule sees
whether the flag is set: not in the state of a chain, and not in any history of it. -/
theorem email_ignores_lowering :
    (∀ s, Email.accepts (Text.lower s) = Email.accepts s) ∧
    (∀ chain : Chain ρ, chain.generator.Keeps → chain.scope.Unraised → ∀ notice v lower,
      Chain.rejects { chain with scope := chain.scope.withLower lower } .email notice v =
        chain.rejects .email notice v) ∧
    ∀ (f : Factory ρ) before history n cell, f.generator.Keeps →
      (after f before history).cells[n]? = some cell → cell.chain.scope.Unraised →
      ∀ other past commands m twin, LoweredTwin f before history n cell other past commands m twin →
      ∀ v, List.Forall₂ (fun s verdicts => ∀ notice, s = .check .email notice →
          verdicts.1 = verdicts.2)
        ((program f before history n).filter (·.rule?.isSome))
        ((cell.chain.run v).result.zip (twin.chain.run v).result) := by
  refine ⟨Email.accepts_lower, ?state, ?history⟩
  case state =>
    intro chain hg hs notice v lower
    have hkeeps : Chain.generator { chain with scope := chain.scope.withLower lower } |>.Keeps := hg
    rw [Chain.rejects_eq hg, Chain.rejects_eq hkeeps]
    exact Check.fails_email_withLower hs lower v
  case history =>
    intro f before history n cell hg hc hs other past commands m twin ht v
    have heq := ht.withLower_eq hc false
    have htwin : twin.chain.scope.Unraised := by
      obtain ⟨hcustom, hupper⟩ := heq ▸ hs.withLower false
      exact ⟨hcustom, hupper⟩
    have hcell := run_email_after hg hc hs v
    have hother := run_email_after ht.keeps ht.found htwin v
    rw [ht.steps, heq] at hother
    rw [← Step.filter_rule?_unlowered]
    refine (forall₂_zip hcell hother).imp ?_
    rintro s verdicts ⟨h, h'⟩ notice he
    rw [h notice he, h' notice he]

end Session

/-- An address with a Kelvin sign, and a check that only a lowered text passes. -/
theorem email_ignores_lowering_kelvin :
    let f := Factory.mk Generator.describe (some fun _ => [.check .email .none]) ⟨.string, .utf16⟩
    let history : List Command :=
      [.build 0 .whole .trim, .build 0 .context (.check .lowercase .none)]
    let lowered : List Command := [.build 0 .context .lower]
    let v := Value.string " ANN@EXAMPLE.\u212aOM "
    ∃ cell twin, (Session.after f .empty history).cells[0]? = some cell ∧
      (Session.after f .empty (lowered ++ history)).cells[0]? = some twin ∧
      cell.chain.rejects .email .none v = false ∧ twin.chain.rejects .email .none v = false ∧
      ∀ w, ∃ verdict rest others, (cell.chain.run w).result = verdict :: rest ∧
        (twin.chain.run w).result = verdict :: others := by
  intro f history lowered v
  obtain ⟨cell, twin, hc, ht, hg, hu, hk, hf, hchain⟩ : ∃ cell twin,
      (Session.after f .empty history).cells[0]? = some cell ∧
      (Session.after f .empty (lowered ++ history)).cells[0]? = some twin ∧
      cell.chain.generator.Keeps ∧ cell.chain.scope.Unraised ∧ cell.chain.scope.kind = .string ∧
      cell.chain.scope.flags.trim = true ∧
      twin.chain = { cell.chain with scope := cell.chain.scope.withLower true } :=
    ⟨_, _, rfl, rfl, Generator.describe_keeps, ⟨rfl, rfl⟩, rfl, rfl, rfl⟩
  have ha : Email.accepts (Text.trim " ANN@EXAMPLE.\u212aOM ".toList) = true := by decide
  have hv : cell.chain.rejects .email .none v = false := by
    rw [Chain.rejects_eq hg, Scope.transform_string hu.custom hk, Check.fails, Check.failsText, hk]
    simp only [Value.asString?, Option.any_some, TextFlags.accepts_apply hu.upper, hf, if_true, ha]
    rfl
  obtain ⟨-, hstate, hhistory⟩ := Session.email_ignores_lowering (ρ := Descriptor)
  have htwin : Session.LoweredTwin f .empty history 0 cell f .empty (lowered ++ history) 0 twin :=
    ⟨Generator.describe_keeps, ht, by rw [hchain], rfl⟩
  refine ⟨cell, twin, hc, ht, hv, ?_, fun w => ?_⟩
  · rw [hchain, hstate cell.chain hg hu .none v true, hv]
  · have h := hhistory f .empty history 0 cell Generator.describe_keeps hc hu _ _ _ _ _ htwin w
    have hp : (Session.program f .empty history 0).filter (·.rule?.isSome) =
      [.check .email .none, .check .lowercase .none] := rfl
    rw [hp] at h
    generalize (cell.chain.run w).result = xs at h ⊢
    generalize (twin.chain.run w).result = ys at h ⊢
    rcases xs with _ | ⟨x, xs⟩
    · cases h
    rcases ys with _ | ⟨y, ys⟩
    · cases h
    obtain rfl : x = y := (List.forall₂_cons.mp h).1 .none rfl
    exact ⟨x, xs, ys, rfl, rfl⟩

end Assay
