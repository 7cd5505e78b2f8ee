import Assay.Proofs.DoubleTexts
import Assay.Proofs.Equality
import Assay.Proofs.SingleChecks
import Assay.Proofs.Wording
import Assay.Value.Display

/-!
# Legible values

A value without symbols and objects can be told from its text. A text is read from the front: a
string ends at the first quote that is not escaped, an array where its own bracket closes, and any
other value before the first character that is not its own. So no value but one that is the same
begins in the same way, and the message about an inclusion names what was looked for.
-/

namespace Assay

-- ---------------------------------------------------------------------------
-- Quoted text
-- ---------------------------------------------------------------------------

namespace Text.Quoted

def hexValue (c : Char) : Nat := if c.isDigit then c.toNat - 48 else c.toNat - 87

def natOfHex (ds : List Char) : Nat := ds.foldl (fun n c => 16 * n + hexValue c) 0

theorem hexValue_digitChar : ∀ n < 16, hexValue (Nat.digitChar n) = n := by decide

theorem digitChar_ne_brace : ∀ n < 16, Nat.digitChar n ≠ '\x7d' := by decide

theorem natOfHex_toDigits (n : Nat) : natOfHex (Nat.toDigits 16 n) = n := by
  induction n using Nat.strongRecOn with
  | _ n ih =>
    rw [Nat.toDigits_eq_if (by decide)]
    split
    case isTrue h => simp [natOfHex, hexValue_digitChar n h]
    case isFalse h =>
      have hq := ih (n / 16) (by omega)
      rw [natOfHex] at hq ⊢
      rw [List.foldl_append, hq, List.foldl_cons, List.foldl_nil,
        hexValue_digitChar _ (Nat.mod_lt _ (by decide))]
      omega

theorem ne_brace_of_mem_toDigits (n : Nat) : ∀ c ∈ Nat.toDigits 16 n, c ≠ '\x7d' := by
  induction n using Nat.strongRecOn with
  | _ n ih =>
    rw [Nat.toDigits_eq_if (by decide)]
    split
    case isTrue h => exact List.forall_mem_singleton.mpr (digitChar_ne_brace n h)
    case isFalse h =>
      intro c hc
      rcases List.mem_append.mp hc with hc | hc
      · exact ih (n / 16) (by omega) c hc
      · exact List.mem_singleton.mp hc ▸ digitChar_ne_brace _ (Nat.mod_lt _ (by decide))

/-- Reads one character of a quoted text; a quote ends it. -/
def unescape? : List Char → Option (Char × List Char)
  | '\\' :: '0' :: s => some ('\x00', s)
  | '\\' :: 't' :: s => some ('\t', s)
  | '\\' :: 'r' :: s => some ('\r', s)
  | '\\' :: 'n' :: s => some ('\n', s)
  | '\\' :: 'u' :: '\x7b' :: s => some (Char.ofNat (natOfHex (s.takeWhile (· ≠ '\x7d'))),
      (s.dropWhile (· ≠ '\x7d')).tail)
  | '\\' :: c :: s => some (c, s)
  | '"' :: _ => none
  | c :: s => some (c, s)
  | [] => none

theorem unescape?_codePoint (c : Char) (rest : List Char) :
    unescape? (codePoint c ++ rest) = some (c, rest) := by
  have hp : ∀ d ∈ Nat.toDigits 16 c.toNat, decide (d ≠ '\x7d') = true := fun d hd =>
    decide_eq_true (ne_brace_of_mem_toDigits c.toNat d hd)
  have hs : unescape? (codePoint c ++ rest) =
      some (Char.ofNat (natOfHex ((Nat.toDigits 16 c.toNat ++ '\x7d' :: rest).takeWhile
          (· ≠ '\x7d'))),
        ((Nat.toDigits 16 c.toNat ++ '\x7d' :: rest).dropWhile (· ≠ '\x7d')).tail) := by
    simp [codePoint, unescape?]
  rw [hs, List.takeWhile_append_of_pos hp, List.dropWhile_append_of_pos hp,
    List.takeWhile_cons_of_neg (by decide), List.dropWhile_cons_of_neg (by decide),
    List.append_nil, natOfHex_toDigits, Char.ofNat_toNat, List.tail_cons]

theorem unescape?_plain {c : Char} (hq : c ≠ '"') (hb : c ≠ '\\') (rest : List Char) :
    unescape? (c :: rest) = some (c, rest) := by
  unfold unescape?
  split <;> simp_all

/-- Each escape is read as the character that it stands for. -/
theorem unescape?_escape (c : Char) (rest : List Char) :
    unescape? (escape c ++ rest) = some (c, rest) := by
  unfold escape
  split
  case h_7 hq hb =>
    split
    · exact unescape?_plain hq hb rest
    · exact unescape?_codePoint c rest
  all_goals rfl

theorem encode_append_inj {s t r r' : List Char} (h : encode s ++ r = encode t ++ r') :
    s = t ∧ r = r' := by
  simp only [encode, List.cons_append, List.append_assoc, List.nil_append, List.cons.injEq,
    true_and] at h
  induction s generalizing t with
  | nil =>
    cases t with
    | nil => exact ⟨rfl, (List.cons.inj h).2⟩
    | cons d t =>
      have hd := congrArg unescape? h
      rw [List.flatMap_cons, List.append_assoc, unescape?_escape] at hd
      cases hd
  | cons c s ih =>
    have hc := congrArg unescape? h
    rw [List.flatMap_cons, List.append_assoc, unescape?_escape] at hc
    cases t with
    | nil => cases hc
    | cons d t =>
      rw [List.flatMap_cons, List.append_assoc, unescape?_escape] at hc
      obtain ⟨rfl, hrest⟩ := Prod.mk.inj (Option.some.inj hc)
      exact (ih hrest).imp_left (congrArg (c :: ·))

end Text.Quoted

namespace Value

-- ---------------------------------------------------------------------------
-- Literal values
-- ---------------------------------------------------------------------------

mutual
/-- No symbol and no object inside. -/
def Literal : Value → Prop
  | .symbol _ | .object _ => False
  | .array items => LiteralItems items
  | _ => True
def LiteralItems : List Value → Prop
  | [] => True
  | v :: rest => Literal v ∧ LiteralItems rest
end

theorem literalItems_iff {items : List Value} : LiteralItems items ↔ ∀ v ∈ items, v.Literal := by
  induction items with
  | nil => simp [LiteralItems]
  | cons v rest ih => simp [LiteralItems, ih]

/-- Written without quotes and brackets. -/
inductive Scalar : Value → Prop
  | undefined : Scalar .undefined
  | null : Scalar .null
  | bool (b : Bool) : Scalar (.bool b)
  | number (x : Double) : Scalar (.number x)
  | bigint (n : Int) : Scalar (.bigint n)

theorem Literal.cases {v : Value} (h : v.Literal) :
    v.Scalar ∨ (∃ s, v = .string s) ∨ ∃ items, v = .array items := by
  cases v with
  | undefined => exact .inl .undefined
  | null => exact .inl .null
  | bool b => exact .inl (.bool b)
  | number x => exact .inl (.number x)
  | bigint n => exact .inl (.bigint n)
  | string s => exact .inr (.inl ⟨s, rfl⟩)
  | symbol s => exact h.elim
  | array items => exact .inr (.inr ⟨items, rfl⟩)
  | object entries => exact h.elim

-- ---------------------------------------------------------------------------
-- Texts of scalars
-- ---------------------------------------------------------------------------

theorem display_undefined :
    display .undefined = ['u', 'n', 'd', 'e', 'f', 'i', 'n', 'e', 'd'] := rfl

theorem display_null : display .null = ['n', 'u', 'l', 'l'] := rfl

theorem display_bool (b : Bool) :
    display (.bool b) = if b then ['t', 'r', 'u', 'e'] else ['f', 'a', 'l', 's', 'e'] := by
  cases b <;> rfl

/-- May stand in the text of a scalar. -/
def Bare (c : Char) : Prop := c ∉ ['"', '[', ']', ',']

instance (c : Char) : Decidable (Bare c) := inferInstanceAs (Decidable (c ∉ _))

theorem bare_of_isDigit {c : Char} (h : c.isDigit = true) : Bare c := by
  intro hm
  simp only [List.mem_cons, List.not_mem_nil, or_false] at hm
  rcases hm with rfl | rfl | rfl | rfl <;> exact absurd h (by decide)

theorem mem_toString {n : Int} {c : Char} (hc : c ∈ (toString n).toList) :
    c.isDigit = true ∨ c = '-' := by
  have hd (k : Nat) (hc : c ∈ k.repr.toList) : c.isDigit = true := by
    rw [Nat.repr_eq_ofList_toDigits, String.toList_ofList] at hc
    exact digits_toDigits k c hc
  rw [Int.toString_eq_repr, Int.repr_eq_if] at hc
  split at hc
  · exact .inl (hd _ hc)
  · rw [String.toList_append] at hc
    rcases List.mem_append.mp hc with hc | hc
    · exact .inr (by simpa using hc)
    · exact .inl (hd _ hc)

theorem Scalar.bare {v : Value} (hv : v.Scalar) : ∀ c ∈ v.display, Bare c := by
  cases hv with
  | undefined => simp [display_undefined, Bare]
  | null => simp [display_null, Bare]
  | bool b => cases b <;> simp [display_bool, Bare]
  | number x =>
    intro c hc
    rcases Double.mem_text hc with hd | hm
    · exact bare_of_isDigit hd
    · have hb : ∀ c ∈ ['-', '.', 'i', 'n', 'f', 'N', 'a'], Bare c := by simp [Bare]
      exact hb c hm
  | bigint n =>
    intro c hc
    rcases List.mem_append.mp hc with hc | hc
    · rcases mem_toString hc with hd | rfl
      · exact bare_of_isDigit hd
      · decide
    · exact List.mem_singleton.mp hc ▸ by decide

/-- The kind of a scalar by the end of its text. -/
def kindOfEnding (c : Char) : Kind :=
  if c = 'd' then .undefined
  else if c = 'l' then .null
  else if c = 'e' then .boolean
  else if c = 'n' then .bigint
  else .number

theorem kindOfEnding_of_isDigit {c : Char} (h : c.isDigit = true) : kindOfEnding c = .number := by
  have hne {d : Char} (hd : d.isDigit = false) : c ≠ d := by
    rintro rfl
    rw [hd] at h
    cases h
  rw [kindOfEnding, if_neg (hne (by decide)), if_neg (hne (by decide)), if_neg (hne (by decide)),
    if_neg (hne (by decide))]

theorem Scalar.ending {v : Value} (hv : v.Scalar) :
    ∃ c, v.display.getLast? = some c ∧ kindOfEnding c = v.kind := by
  cases hv with
  | undefined => exact ⟨'d', by rw [display_undefined]; rfl, rfl⟩
  | null => exact ⟨'l', by rw [display_null]; rfl, rfl⟩
  | bool b => exact ⟨'e', by rw [display_bool]; cases b <;> rfl, rfl⟩
  | number x =>
    obtain ⟨c, hc, hm⟩ := x.getLast?_text
    refine ⟨c, hc, ?_⟩
    rcases hm with hd | hm
    · exact kindOfEnding_of_isDigit hd
    · have hk : ∀ c ∈ ['.', 'f', 'N'], kindOfEnding c = .number := by simp [kindOfEnding]
      exact hk c hm
  | bigint n => exact ⟨'n', List.getLast?_concat .., rfl⟩

theorem Scalar.same_of_display_eq {a b : Value} (ha : a.Scalar) (hb : b.Scalar)
    (h : a.display = b.display) : same a b = true := by
  have hk : a.kind = b.kind := by
    obtain ⟨c, hc, hac⟩ := ha.ending
    obtain ⟨d, hd, hbd⟩ := hb.ending
    rw [h, hd, Option.some_inj] at hc
    rw [← hac, ← hbd, hc]
  cases ha <;> cases hb <;> cases hk
  case undefined => exact same_refl trivial
  case null => exact same_refl trivial
  case bool b c =>
    rw [display_bool, display_bool] at h
    obtain rfl : b = c := by cases b <;> cases c <;> first | rfl | cases h
    exact same_refl trivial
  case number x y =>
    exact same_number_iff.mpr (Double.value?_eq_of_text_eq (String.toList_inj.mp h))
  case bigint m n =>
    have hd := String.toList_inj.mp (List.append_cancel_right h)
    rw [Int.toString_eq_repr, Int.toString_eq_repr, Int.repr_inj] at hd
    exact hd ▸ same_refl trivial

-- ---------------------------------------------------------------------------
-- Texts read from the front
-- ---------------------------------------------------------------------------

/-- What follows does not go on with the text of a scalar. -/
def Ended (rest : List Char) : Prop := ∀ c, rest.head? = some c → ¬ Bare c

theorem ended_nil : Ended [] := fun _ hc => by cases hc

variable {a b : Value} {r r' : List Char}

theorem takeWhile_bare {w : List Char} (hw : ∀ c ∈ w, Bare c) (hr : Ended r) :
    (w ++ r).takeWhile (Bare ·) = w := by
  have hw' : ∀ c ∈ w, decide (Bare c) = true := fun c hc => decide_eq_true (hw c hc)
  rw [List.takeWhile_append_of_pos hw']
  cases r with
  | nil => rw [List.takeWhile_nil, List.append_nil]
  | cons c r => rw [List.takeWhile_cons_of_neg (by simpa using hr c rfl), List.append_nil]

theorem Scalar.append_inj (ha : a.Scalar) (hb : b.Scalar) (hr : Ended r) (hr' : Ended r')
    (h : a.display ++ r = b.display ++ r') : same a b = true ∧ r = r' := by
  have hd : a.display = b.display := by
    rw [← takeWhile_bare ha.bare hr, h, takeWhile_bare hb.bare hr']
  exact ⟨ha.same_of_display_eq hb hd, List.append_cancel_left (hd ▸ h)⟩

theorem Scalar.exists_cons (ha : a.Scalar) : ∃ c rest, a.display = c :: rest ∧ Bare c := by
  obtain ⟨d, hd, -⟩ := ha.ending
  obtain ⟨c, rest, he⟩ := List.exists_cons_of_ne_nil (List.ne_nil_of_mem (List.mem_of_getLast? hd))
  exact ⟨c, rest, he, ha.bare c (he ▸ List.mem_cons_self ..)⟩

/-- The first character tells strings, arrays and scalars apart. -/
theorem Literal.head_cases (hb : b.Literal) {c : Char} {rest : List Char}
    (h : c :: rest = b.display ++ r) :
    (Bare c ∧ b.Scalar) ∨ (c = '"' ∧ ∃ s, b = .string s) ∨
      (c = '[' ∧ ∃ items, b = .array items) := by
  rcases hb.cases with hs | ⟨s, rfl⟩ | ⟨items, rfl⟩
  · obtain ⟨d, rest', hd, hbare⟩ := hs.exists_cons
    rw [hd] at h
    exact .inl ⟨(List.cons.inj h).1 ▸ hbare, hs⟩
  · exact .inr (.inl ⟨(List.cons.inj h).1, s, rfl⟩)
  · exact .inr (.inr ⟨(List.cons.inj h).1, items, rfl⟩)

/-- A literal value with a text that begins as this one does, up to an end, is the same. -/
def Readable (a : Value) : Prop := ∀ {b : Value} {r r' : List Char}, b.Literal → Ended r →
  Ended r' → a.display ++ r = b.display ++ r' → same a b = true ∧ r = r'

theorem Scalar.readable (ha : a.Scalar) : a.Readable := by
  intro b r r' hb hr hr' h
  obtain ⟨c, rest, hc, hbare⟩ := ha.exists_cons
  rw [hc] at h
  rcases hb.head_cases h with ⟨-, hs⟩ | ⟨rfl, -⟩ | ⟨rfl, -⟩
  · exact ha.append_inj hs hr hr' (hc ▸ h)
  · exact absurd hbare (by decide)
  · exact absurd hbare (by decide)

theorem readable_string (s : String) : (Value.string s).Readable := by
  intro b r r' hb _ _ h
  rcases hb.head_cases h with ⟨hbare, -⟩ | ⟨-, t, rfl⟩ | ⟨hc, -⟩
  · exact absurd hbare (by decide)
  · obtain ⟨hs, hr⟩ := Text.Quoted.encode_append_inj h
    obtain rfl := String.toList_inj.mp hs
    exact ⟨same_refl trivial, hr⟩
  · exact absurd hc (by decide)

/-- The items of an array after the first, each behind a comma. -/
def displayRest (items : List Value) : List Char := items.flatMap fun v => [',', ' '] ++ v.display

theorem displayRest_cons (v : Value) (rest : List Value) :
    displayRest (v :: rest) = [',', ' '] ++ (v.display ++ displayRest rest) := by
  rw [displayRest, List.flatMap_cons, ← displayRest, List.append_assoc]

theorem displayItems_cons (v : Value) (rest : List Value) :
    displayItems (v :: rest) = v.display ++ displayRest rest := by
  induction rest generalizing v with
  | nil => exact (List.append_nil _).symm
  | cons w rest ih =>
    have hv : displayItems (v :: w :: rest) = v.display ++ [',', ' '] ++ displayItems (w :: rest) :=
      rfl
    rw [hv, ih, displayRest_cons, List.append_assoc]

theorem ended_displayRest (items : List Value) (r : List Char) :
    Ended (displayRest items ++ ']' :: r) := by
  intro c hc
  cases items with
  | nil =>
    obtain rfl : ']' = c := Option.some.inj hc
    decide
  | cons v rest =>
    obtain rfl : ',' = c := Option.some.inj hc
    decide

theorem displayRest_readable {xs ys : List Value} (hx : ∀ v ∈ xs, v.Readable)
    (hy : ∀ v ∈ ys, v.Literal) (h : displayRest xs ++ ']' :: r = displayRest ys ++ ']' :: r') :
    List.Forall₂ (fun x y => same x y = true) xs ys ∧ r = r' := by
  induction xs generalizing ys with
  | nil =>
    cases ys with
    | nil => exact ⟨.nil, (List.cons.inj h).2⟩
    | cons y ys => exact absurd (List.cons.inj h).1 (by decide)
  | cons x xs ih =>
    cases ys with
    | nil => exact absurd (List.cons.inj h).1 (by decide)
    | cons y ys =>
      obtain ⟨hx, hxs⟩ := List.forall_mem_cons.mp hx
      obtain ⟨hy, hys⟩ := List.forall_mem_cons.mp hy
      rw [displayRest_cons, displayRest_cons, List.append_assoc, List.append_assoc,
        List.append_assoc, List.append_assoc] at h
      obtain ⟨hsame, hrest⟩ := hx hy (ended_displayRest xs r) (ended_displayRest ys r')
        (List.append_cancel_left h)
      exact (ih hxs hys hrest).imp_left (.cons hsame)

theorem displayItems_readable {xs ys : List Value} (hx : ∀ v ∈ xs, v.Literal ∧ v.Readable)
    (hy : ∀ v ∈ ys, v.Literal) (h : displayItems xs ++ ']' :: r = displayItems ys ++ ']' :: r') :
    List.Forall₂ (fun x y => same x y = true) xs ys ∧ r = r' := by
  -- no value begins with the bracket that closes
  have hclosed {v : Value} (hv : v.Literal) {rest s : List Char} :
      ']' :: s ≠ v.display ++ rest := by
    intro h
    rcases hv.head_cases h with ⟨hbare, -⟩ | ⟨hc, -⟩ | ⟨hc, -⟩
    · exact absurd hbare (by decide)
    · exact absurd hc (by decide)
    · exact absurd hc (by decide)
  cases xs with
  | nil =>
    cases ys with
    | nil => exact ⟨.nil, (List.cons.inj h).2⟩
    | cons y ys =>
      rw [displayItems_cons, List.append_assoc] at h
      exact absurd h (hclosed (hy y (List.mem_cons_self ..)))
  | cons x xs =>
    obtain ⟨⟨hxl, hx⟩, hxs⟩ := List.forall_mem_cons.mp hx
    rw [displayItems_cons, List.append_assoc] at h
    cases ys with
    | nil => exact absurd h.symm (hclosed hxl)
    | cons y ys =>
      obtain ⟨hy, hys⟩ := List.forall_mem_cons.mp hy
      rw [displayItems_cons, List.append_assoc] at h
      obtain ⟨hsame, hrest⟩ := hx hy (ended_displayRest xs r) (ended_displayRest ys r') h
      exact (displayRest_readable (fun v hv => (hxs v hv).2) hys hrest).imp_left (.cons hsame)

theorem display_array (items : List Value) :
    (Value.array items).display = '[' :: (displayItems items ++ [']']) := rfl

theorem display_array_append (items : List Value) (r : List Char) :
    (Value.array items).display ++ r = '[' :: (displayItems items ++ ']' :: r) := by
  rw [display_array, List.cons_append, List.append_assoc, List.singleton_append]

theorem Literal.readable (ha : a.Literal) : a.Readable := by
  induction a using Value.induction with
  | undefined => exact Scalar.undefined.readable
  | null => exact Scalar.null.readable
  | bool b => exact (Scalar.bool b).readable
  | number x => exact (Scalar.number x).readable
  | bigint n => exact (Scalar.bigint n).readable
  | string s => exact readable_string s
  | symbol s => exact ha.elim
  | object entries _ => exact ha.elim
  | array items ih =>
    intro b r r' hb _ _ h
    have hitems := literalItems_iff.mp ha
    rcases hb.head_cases h with ⟨hbare, -⟩ | ⟨hc, -⟩ | ⟨-, others, rfl⟩
    · exact absurd hbare (by decide)
    · exact absurd hc (by decide)
    · have hothers := literalItems_iff.mp hb
      have hx : ∀ v ∈ items, v.Literal ∧ v.Readable := fun v hv =>
        ⟨hitems v hv, ih v hv (hitems v hv)⟩
      have hl : displayItems items ++ ']' :: r = displayItems others ++ ']' :: r' := by
        rw [display_array_append, display_array_append] at h
        exact (List.cons.inj h).2
      exact (displayItems_readable hx hothers hl).imp_left same_array_iff.mpr

/-- Literal values with one text are the same. -/
theorem same_of_text_eq (ha : a.Literal) (hb : b.Literal) (h : a.text = b.text) :
    same a b = true := by
  have hd : a.display ++ [] = b.display ++ [] := by
    rw [List.append_nil, List.append_nil, String.ofList_injective h]
  exact (ha.readable hb ended_nil ended_nil hd).1

end Value

-- ---------------------------------------------------------------------------
-- The message about an inclusion
-- ---------------------------------------------------------------------------

theorem Check.needle_of_defaultText {a b : Value} (ha : a.Literal) (hb : b.Literal)
    (h : (includes a).defaultText = (includes b).defaultText) : a.same b = true :=
  Value.same_of_text_eq ha hb ((String.append_right_inj _).mp h)

/-- What the rule that the chain makes of a check says of a value, in the scope as it is. -/
def Chain.report {ρ : Type} [Rule ρ] (chain : Chain ρ) (c : Check) (notice : Notice)
    (v : Value) : Verdict :=
  (chain.made? (.check c notice)).bind fun r => (Rule.run r chain.scope v).result

theorem Chain.message_of_report {ρ : Type} [Rule ρ] {chain : Chain ρ}
    (hg : chain.generator.Keeps) {c : Check} {params : Option String} {v : Value}
    {failure : Failure} (h : chain.report c ⟨none, params⟩ v = some failure) :
    failure.message = c.defaultText := by
  simp only [report, made?, Step.rule?, Option.map_some, Option.bind_some] at h
  rw [Rule.run, hg, Validator.result_run] at h
  exact (congrArg Failure.message (Test.failure_of_checked h)).symm

variable {ρ σ : Type} [Rule ρ] [Rule σ]

/-- Nothing but the same value has the text of a value without symbols and objects. So if two rules
without messages of their own, in any chains, find what they look for missing and say so alike, they
look for the same. -/
theorem Value.text_unambiguous {a b : Value} (ha : a.Literal) (hb : b.Literal) :
    (a.text = b.text → same a b = true) ∧
    ((Check.includes a).defaultText = (Check.includes b).defaultText → same a b = true) ∧
    ∀ (chain : Chain ρ) (other : Chain σ), chain.generator.Keeps → other.generator.Keeps →
      ∀ params params' v w failure failure',
        chain.report (.includes a) ⟨none, params⟩ v = some failure →
        other.report (.includes b) ⟨none, params'⟩ w = some failure' →
        failure.message = failure'.message → same a b = true := by
  refine ⟨same_of_text_eq ha hb, Check.needle_of_defaultText ha hb, ?_⟩
  intro chain other hg hg' params params' v w failure failure' h h' he
  refine Check.needle_of_defaultText ha hb ?_
  rw [← Chain.message_of_report hg h, ← Chain.message_of_report hg' h', he]

/-- Two kinds of NaN beside a string that looks like the end of the array. -/
theorem Value.text_unambiguous_nested :
    let a := Value.array [.number Double.nan, .string "], [\"", .array [.bigint (-1)]]
    let b := Value.array [.number ⟨true, Double.nan.code, Double.nan.code_lt⟩,
      .string "], [\"", .array [.bigint (-1)]]
    a.text = b.text ∧ same a b = true := by
  intro a b
  have ha : a.Literal := by simp [a, Literal, LiteralItems]
  have hb : b.Literal := by simp [b, Literal, LiteralItems]
  have hn {x : Double} (h : x.isNaN = true) : (number x).display = ['N', 'a', 'N'] :=
    Double.toList_text_of_isNaN h
  have ht : a.text = b.text := by
    rw [text, text, display_array, display_array, displayItems_cons, displayItems_cons,
      hn (by decide), hn (by decide)]
  exact ⟨ht, (text_unambiguous (ρ := Validator) (σ := Descriptor) ha hb).1 ht⟩

end Assay
