import Assay.Proofs.ScopeLaw
import Assay.Proofs.SizeChecks
import Assay.Proofs.Wording

/-!
# Measures of length in order

Each measure is the length of the text in one encoding. There are no more characters than units of
UTF-16, and no more of these than bytes of UTF-8. Counts are rounded to doubles before they meet a
bound, and rounding keeps their order. So of two chains that differ in the measure alone, the one
that counts less fails `min` wherever the other one does, and fails `max` only there.
-/

namespace Assay

namespace LengthMode

variable {m n : LengthMode}

/-- The units that the mode counts: bytes of UTF-8, code points, or units of UTF-16 with a pair of
surrogates for each code point that does not fit into one. -/
def encode : LengthMode → Char → List Nat
  | .bytes, c => (String.utf8EncodeChar c).map UInt8.toNat
  | .chars, c => [c.toNat]
  | .utf16, c =>
    if c.toNat < 0x10000 then [c.toNat]
    else [0xD800 + (c.toNat - 0x10000) / 0x400, 0xDC00 + (c.toNat - 0x10000) % 0x400]

theorem length_encode (m : LengthMode) (c : Char) : (m.encode c).length = m.weight c := by
  cases m with
  | bytes => simp [encode, weight]
  | chars => rfl
  | utf16 =>
    simp only [encode, weight]
    split <;> rfl

theorem measure_eq_sum (m : LengthMode) (s : String) :
    m.measure s = (s.toList.map m.weight).sum := by
  rw [measure]
  induction s.toList with
  | nil => rfl
  | cons c cs ih => rw [List.foldr_cons, ih, List.map_cons, List.sum_cons]

theorem measure_eq_length (m : LengthMode) (s : String) :
    m.measure s = (s.toList.flatMap m.encode).length := by
  simp only [List.length_flatMap, length_encode, measure_eq_sum]

/-- Counts no more of any character. -/
instance : LE LengthMode := ⟨fun m n => ∀ c, m.weight c ≤ n.weight c⟩

/-- The bytes of a character by the size of its code point. -/
theorem weight_bytes (c : Char) : bytes.weight c =
    if c.toNat < 0x80 then 1 else if c.toNat < 0x800 then 2 else if c.toNat < 0x10000 then 3
    else 4 := by
  have hc : c.val.toNat = c.toNat := rfl
  simp only [weight, Char.utf8Size, UInt32.le_iff_toNat_le, UInt32.toNat_ofNatLT, hc,
    ← Nat.lt_succ_iff]

theorem chars_le_utf16 : chars ≤ utf16 := fun c => weight_pos utf16 c

theorem utf16_le_bytes : utf16 ≤ bytes := by
  intro c
  rw [weight_bytes, weight]
  repeat' split
  all_goals omega

theorem measure_le_mul {k : Nat} (h : ∀ c, m.weight c ≤ k * n.weight c) (s : String) :
    m.measure s ≤ k * n.measure s := by
  rw [measure_eq_sum, measure_eq_sum, ← List.sum_map_mul_left]
  exact List.sum_le_sum fun c _ => h c

theorem measure_le (h : m ≤ n) (s : String) : m.measure s ≤ n.measure s := by
  have hone : ∀ c, m.weight c ≤ 1 * n.weight c := fun c => by
    rw [Nat.one_mul]
    exact h c
  simpa using measure_le_mul hone s

theorem measure_eq_iff (h : m ≤ n) {s : String} :
    n.measure s = m.measure s ↔ ∀ c ∈ s.toList, n.weight c = m.weight c := by
  rw [measure_eq_sum, measure_eq_sum]
  induction s.toList with
  | nil => simp
  | cons c cs ih =>
    have hrest : (cs.map m.weight).sum ≤ (cs.map n.weight).sum := List.sum_le_sum fun d _ => h d
    have hc := h c
    rw [List.forall_mem_cons, ← ih, List.map_cons, List.map_cons, List.sum_cons, List.sum_cons]
    omega

/-- How the measures of a text compare. -/
structure Compared (s : String) : Prop where
  encoded : ∀ m : LengthMode, m.measure s = (s.toList.flatMap m.encode).length
  chars_utf16 : chars.measure s ≤ utf16.measure s
  utf16_bytes : utf16.measure s ≤ bytes.measure s
  utf16_chars : utf16.measure s ≤ 2 * chars.measure s
  bytes_utf16 : bytes.measure s ≤ 3 * utf16.measure s
  ascii : bytes.measure s = chars.measure s ↔ ∀ c ∈ s.toList, c.toNat < 0x80
  append : ∀ (m : LengthMode) (t : String), m.measure (s ++ t) = m.measure s + m.measure t

theorem compared (s : String) : Compared s where
  encoded m := measure_eq_length m s
  chars_utf16 := measure_le chars_le_utf16 s
  utf16_bytes := measure_le utf16_le_bytes s
  utf16_chars := by
    refine measure_le_mul (fun c => ?_) s
    simp only [weight]
    split <;> decide
  bytes_utf16 := by
    refine measure_le_mul (fun c => ?_) s
    rw [weight_bytes, weight]
    repeat' split
    all_goals omega
  ascii := by
    have hle : chars ≤ bytes := fun c => weight_pos bytes c
    rw [measure_eq_iff hle]
    refine forall₂_congr fun c _ => ?_
    rw [weight_bytes, weight]
    repeat' split
    all_goals omega
  append m t := measure_append m s t

end LengthMode

-- ---------------------------------------------------------------------------
-- Checks under two measures
-- ---------------------------------------------------------------------------

/-- The scope with another measure of length. -/
def Scope.withLengths (scope : Scope) (m : LengthMode) : Scope := { scope with lengths := m }

section

variable {scope : Scope} {m n : LengthMode}

/-- Either the measure plays no part, or one count is compared in place of another. -/
theorem Scope.magnitude?_withLengths (h : m ≤ n) (scope : Scope) (v : Value) :
    (scope.withLengths m).magnitude? v = (scope.withLengths n).magnitude? v ∨
    ∃ j k, j ≤ k ∧ (scope.withLengths m).magnitude? v = some (.ofNat j) ∧
      (scope.withLengths n).magnitude? v = some (.ofNat k) := by
  by_cases hk : scope.kind = .string
  · cases v with
    | string s =>
      refine .inr ⟨m.measure s, n.measure s, LengthMode.measure_le h s, ?_, ?_⟩ <;>
        simp [magnitude?, count?, withLengths, hk, Kind.isNumeric, Value.asString?]
    | _ => exact .inl (by simp [magnitude?, count?, withLengths, hk, Value.asString?])
  · refine .inl ?_
    cases hs : scope.kind with
    | string => exact absurd hs hk
    | _ => simp [magnitude?, count?, withLengths, hs]

theorem Check.fails_min_of_le (h : m ≤ n) {bound : Numeric} {v : Value}
    (hf : (Check.min bound).fails (scope.withLengths n) v = true) :
    (Check.min bound).fails (scope.withLengths m) v = true := by
  simp only [fails, Bool.and_eq_true] at hf ⊢
  refine ⟨hf.1, ?_⟩
  rcases Scope.magnitude?_withLengths h scope v with he | ⟨j, k, hjk, hm, hn⟩
  · rw [he]
    exact hf.2
  · rw [hn] at hf
    rw [hm]
    exact Numeric.lt_of_le_of_lt (Numeric.ofNat_le_ofNat hjk) hf.2

theorem Check.fails_max_of_le (h : m ≤ n) {bound : Numeric} {v : Value}
    (hf : (Check.max bound).fails (scope.withLengths m) v = true) :
    (Check.max bound).fails (scope.withLengths n) v = true := by
  simp only [fails, Bool.and_eq_true] at hf ⊢
  refine ⟨hf.1, ?_⟩
  rcases Scope.magnitude?_withLengths h scope v with he | ⟨j, k, hjk, hm, hn⟩
  · rw [← he]
    exact hf.2
  · rw [hm] at hf
    rw [hn]
    exact Numeric.gt_of_le_of_gt (Numeric.ofNat_le_ofNat hjk) hf.2

end

theorem Step.withLengths_foldl_rescope (program : List Step) (scope : Scope) (m : LengthMode) :
    (program.foldl rescope scope).withLengths m = program.foldl rescope (scope.withLengths m) := by
  induction program generalizing scope with
  | nil => rfl
  | cons s rest ih =>
    rw [List.foldl_cons, List.foldl_cons, ih]
    congr 1
    cases s <;> rfl

variable {ρ : Type} [Rule ρ]

namespace Chain

def withLengths (chain : Chain ρ) (m : LengthMode) : Chain ρ :=
  { chain with scope := chain.scope.withLengths m }

/-- Values are transformed without regard to length. -/
theorem rejects_withLengths {chain : Chain ρ} (hg : chain.generator.Keeps) (m : LengthMode)
    (c : Check) (notice : Notice) (v : Value) : (chain.withLengths m).rejects c notice v =
      c.fails (chain.scope.withLengths m) (chain.scope.transform v) := by
  have hkeeps : (chain.withLengths m).generator.Keeps := hg
  rw [rejects_eq hkeeps]
  rfl

end Chain

namespace Session

/-- A chain with the same steps and the same first tag, after whatever else has happened in its
session. Only its measure of length may be another one. -/
structure Remeasured (f : Factory ρ) (before : Trace) (history : List Command) (n : Nat)
    (cell : Cell ρ) (other : Factory ρ) (past : Trace) (commands : List Command) (m : Nat)
    (twin : Cell ρ) : Prop where
  keeps : other.generator.Keeps
  found : (after other past commands).cells[m]? = some twin
  kind : twin.chain.settings.kind = cell.chain.settings.kind
  steps : program other past commands m = program f before history n

section

variable {f : Factory ρ} {before : Trace} {history : List Command} {n : Nat} {cell : Cell ρ}
  {other : Factory ρ} {past : Trace} {commands : List Command} {m : Nat} {twin : Cell ρ}

theorem withLengths_after (hc : (after f before history).cells[n]? = some cell) :
    cell.chain.scope.withLengths cell.chain.settings.lengths = cell.chain.scope := by
  rw [Scope.withLengths, ← (inForce_after hc).lengths]

theorem Remeasured.scope_eq (hc : (after f before history).cells[n]? = some cell)
    (h : Remeasured f before history n cell other past commands m twin) :
    twin.chain.scope = cell.chain.scope.withLengths twin.chain.settings.lengths := by
  rw [scope_foldl_after hc, scope_foldl_after h.found, Step.withLengths_foldl_rescope, h.steps]
  congr 1
  simp [Scope.initial, Scope.withLengths, h.kind]

/-- Along the steps that append rules, a check fails as it does in the scope at the end. -/
theorem run_sizes_after (hg : f.generator.Keeps)
    (hc : (after f before history).cells[n]? = some cell) (v : Value) :
    List.Forall₂ (fun s verdict => ∀ c notice, s = .check c notice →
        verdict.isSome = c.fails cell.chain.scope (cell.chain.scope.transform v))
      ((program f before history n).filter (·.rule?.isSome)) (cell.chain.run v).result := by
  rw [result_run_after hc hg]
  refine Step.forall₂_reference _ fun s test ht c notice he => ?_
  subst he
  cases ht
  exact Test.isSome_verdict_checked ..

end

/-- What the bounds on size say of one value under two measures. The first counts no less. -/
structure OrderedBySize (s : Step) (more fewer : Verdict) : Prop where
  min : ∀ bound notice, s = .check (.min bound) notice → more.isSome = true → fewer.isSome = true
  max : ∀ bound notice, s = .check (.max bound) notice → fewer.isSome = true → more.isSome = true

/-- Of the measures of a text, characters are the fewest and bytes the most. What fails `min` under
one measure fails it under each that counts less, and for `max` it is the other way round: in any
state of a chain, and for chains with the same steps whatever their histories. -/
theorem length_modes_ordered :
    (∀ s, LengthMode.Compared s) ∧
    (LengthMode.chars ≤ LengthMode.utf16 ∧ LengthMode.utf16 ≤ LengthMode.bytes) ∧
    (∀ chain : Chain ρ, chain.generator.Keeps → ∀ fewer more : LengthMode, fewer ≤ more →
      ∀ notice bound v,
      ((chain.withLengths more).rejects (.min bound) notice v = true →
        (chain.withLengths fewer).rejects (.min bound) notice v = true) ∧
      ((chain.withLengths fewer).rejects (.max bound) notice v = true →
        (chain.withLengths more).rejects (.max bound) notice v = true)) ∧
    ∀ (f : Factory ρ) before history n cell, f.generator.Keeps →
      (after f before history).cells[n]? = some cell →
      ∀ other past commands m twin, Remeasured f before history n cell other past commands m twin →
      twin.chain.settings.lengths ≤ cell.chain.settings.lengths →
      ∀ v, List.Forall₂ (fun s verdicts => OrderedBySize s verdicts.1 verdicts.2)
        ((program f before history n).filter (·.rule?.isSome))
        ((cell.chain.run v).result.zip (twin.chain.run v).result) := by
  refine ⟨LengthMode.compared, ⟨LengthMode.chars_le_utf16, LengthMode.utf16_le_bytes⟩, ?state,
    ?history⟩
  case state =>
    intro chain hg fewer more h notice bound v
    rw [Chain.rejects_withLengths hg, Chain.rejects_withLengths hg, Chain.rejects_withLengths hg,
      Chain.rejects_withLengths hg]
    exact ⟨Check.fails_min_of_le h, Check.fails_max_of_le h⟩
  case history =>
    intro f before history n cell hg hc other past commands m twin ht hle v
    have hcell := run_sizes_after hg hc v
    have htwin := run_sizes_after ht.keeps ht.found v
    rw [ht.steps, ht.scope_eq hc] at htwin
    rw [← withLengths_after hc] at hcell
    refine (forall₂_zip hcell htwin).imp ?_
    rintro s verdicts ⟨h, h'⟩
    constructor
    case min =>
      intro bound notice he
      rw [h _ _ he, h' _ _ he]
      exact Check.fails_min_of_le hle
    case max =>
      intro bound notice he
      rw [h _ _ he, h' _ _ he]
      exact Check.fails_max_of_le hle

end Session

/-- Six bytes are three units, and both are less than seven once the blanks are gone. -/
theorem length_modes_ordered_units :
    let steps : List Step := [.check (.min (.integer 7)) .none, .trim]
    let chain := ((Chain.fresh Generator.describe .default).steps steps).result
    let v := Value.string " é😀 "
    let f (m : LengthMode) := Factory.mk Generator.describe (some fun _ => steps) ⟨.string, m⟩
    (chain.withLengths .bytes).rejects (.min (.integer 7)) .none v = true ∧
    (chain.withLengths .utf16).rejects (.min (.integer 7)) .none v = true ∧
    ∃ cell twin, (Session.after (f .bytes) .empty []).cells[0]? = some cell ∧
      (Session.after (f .utf16) .empty []).cells[0]? = some twin ∧
      ∀ w, ∃ more fewer, (cell.chain.run w).result = [more] ∧ (twin.chain.run w).result = [fewer] ∧
        (more.isSome = true → fewer.isSome = true) := by
  intro steps chain v f
  have hg : chain.generator.Keeps := Generator.describe_keeps
  have hbytes : (chain.withLengths .bytes).rejects (.min (.integer 7)) .none v = true := by
    rw [Chain.rejects_withLengths hg]
    decide +kernel
  obtain ⟨-, ⟨-, hle⟩, hstate, hhistory⟩ := Session.length_modes_ordered (ρ := Descriptor)
  have hset (m : LengthMode) : (f m).cell.chain.settings = ⟨.string, m⟩ := (f m).settings_cell
  have htwin : Session.Remeasured (f .bytes) .empty [] 0 (f .bytes).cell (f .utf16) .empty [] 0
      (f .utf16).cell :=
    ⟨Generator.describe_keeps, rfl, by rw [hset, hset], rfl⟩
  have hmore : (f .utf16).cell.chain.settings.lengths ≤ (f .bytes).cell.chain.settings.lengths := by
    rw [hset, hset]
    exact hle
  refine ⟨hbytes, (hstate chain hg _ _ hle .none _ v).1 hbytes, (f .bytes).cell, (f .utf16).cell,
    rfl, rfl, fun w => ?_⟩
  have h := hhistory (f .bytes) .empty [] 0 (f .bytes).cell Generator.describe_keeps rfl _ _ _ _ _
    htwin hmore w
  have hp : (Session.program (f .bytes) .empty [] 0).filter (·.rule?.isSome) =
    [.check (.min (.integer 7)) .none] := rfl
  have hlength (m : LengthMode) : ((f m).cell.chain.run w).result.length = 1 := by
    rw [Chain.run, Rule.result_runAll, List.length_map]
    rfl
  obtain ⟨more, hm⟩ := List.length_eq_one_iff.mp (hlength .bytes)
  obtain ⟨fewer, hf⟩ := List.length_eq_one_iff.mp (hlength .utf16)
  rw [hp, hm, hf] at h
  exact ⟨more, fewer, hm, hf, (List.forall₂_cons.mp h).1.min _ .none rfl⟩

end Assay
