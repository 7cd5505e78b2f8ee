import Assay.Proofs.Building

/-!
# Rules read the chain when they run

A chain answers as a reference that knows only its whole program: which tests the program has, in
their order, and the scope that all of it leaves in force. When a rule was appended plays no part.
-/

namespace Assay

-- ---------------------------------------------------------------------------
-- What single steps have to do with the scope and the rules
-- ---------------------------------------------------------------------------

namespace Step

/-- The tag that the step gives its chain. -/
def tag? : Step → Option Kind
  | .declare d _ => some d.tag
  | .retag k => some k
  | _ => none

def transformer? : Step → Option (Value → Value)
  | .transform f => some f
  | _ => none

/-- The test of the rule that the step appends. -/
def test? (s : Step) : Option Test := s.rule?.map fun (_, test, _) => test

def lastTag? (program : List Step) : Option Kind := (program.filterMap tag?).getLast?

def lastTransformer? (program : List Step) : Option (Value → Value) :=
  (program.filterMap transformer?).getLast?

theorem lastTag?_snoc (program : List Step) (s : Step) :
    lastTag? (program ++ [s]) = s.tag?.or (lastTag? program) := by
  cases h : s.tag? <;> simp [lastTag?, h]

theorem lastTransformer?_snoc (program : List Step) (s : Step) :
    lastTransformer? (program ++ [s]) = s.transformer?.or (lastTransformer? program) := by
  cases h : s.transformer? <;> simp [lastTransformer?, h]

variable (s : Step) (scope : Scope)

theorem kind_rescope : (s.rescope scope).kind = s.tag?.getD scope.kind := by
  cases s <;> rfl

theorem custom_rescope : (s.rescope scope).custom = s.transformer?.or scope.custom := by
  cases s <;> rfl

theorem trim_rescope :
    (s.rescope scope).flags.trim = true ↔ scope.flags.trim = true ∨ .trim = s := by
  cases s <;> simp [rescope]

theorem lower_rescope :
    (s.rescope scope).flags.lower = true ↔ scope.flags.lower = true ∨ .lower = s := by
  cases s <;> simp [rescope]

theorem upper_rescope :
    (s.rescope scope).flags.upper = true ↔ scope.flags.upper = true ∨ .upper = s := by
  cases s <;> simp [rescope]

theorem lengths_rescope : (s.rescope scope).lengths = scope.lengths := by
  cases s <;> rfl

end Step

/-- What flags do to a value under a tag, without a custom transformer. -/
def TextFlags.transform (flags : TextFlags) (kind : Kind) : Value → Value
  | .string s => if kind = .string then .string (flags.apply s) else .string s
  | v => v

theorem TextFlags.apply_of_not_any {flags : TextFlags} (h : flags.any = false) (s : String) :
    flags.apply s = s := by
  simp only [any, Bool.or_eq_false_iff] at h
  simp [apply, h]

-- ---------------------------------------------------------------------------
-- The scope in force after a program
-- ---------------------------------------------------------------------------

/-- Of tags and transformers the last one is in force, of flags every one that occurs. -/
structure InForce (settings : Settings) (program : List Step) (scope : Scope) : Prop where
  kind : scope.kind = (Step.lastTag? program).getD settings.kind
  trim : scope.flags.trim = true ↔ .trim ∈ program
  lower : scope.flags.lower = true ↔ .lower ∈ program
  upper : scope.flags.upper = true ↔ .upper ∈ program
  custom : scope.custom = Step.lastTransformer? program
  lengths : scope.lengths = settings.lengths

namespace InForce

variable {settings : Settings} {program : List Step} {scope : Scope}

theorem initial (settings : Settings) : InForce settings [] (Scope.initial settings) where
  kind := rfl
  trim := by simp [Scope.initial, TextFlags.none]
  lower := by simp [Scope.initial, TextFlags.none]
  upper := by simp [Scope.initial, TextFlags.none]
  custom := rfl
  lengths := rfl

theorem rescope (h : InForce settings program scope) (s : Step) :
    InForce settings (program ++ [s]) (s.rescope scope) where
  kind := by
    rw [Step.kind_rescope, Step.lastTag?_snoc, h.kind]
    cases s.tag? <;> rfl
  trim := by rw [Step.trim_rescope, h.trim, List.mem_append, List.mem_singleton]
  lower := by rw [Step.lower_rescope, h.lower, List.mem_append, List.mem_singleton]
  upper := by rw [Step.upper_rescope, h.upper, List.mem_append, List.mem_singleton]
  custom := by rw [Step.custom_rescope, Step.lastTransformer?_snoc, h.custom]
  lengths := by rw [Step.lengths_rescope, h.lengths]

theorem foldl (h : InForce settings program scope) (rest : List Step) :
    InForce settings (program ++ rest) (rest.foldl Step.rescope scope) := by
  induction rest generalizing program scope with
  | nil =>
    rw [List.append_nil]
    exact h
  | cons s rest ih =>
    rw [List.append_cons program s rest]
    exact ih (h.rescope s)

theorem steps {ρ : Type} (generator : Generator ρ) (settings : Settings) (program : List Step) :
    InForce settings program ((Chain.fresh generator settings).steps program).result.scope := by
  rw [Chain.scope_steps]
  exact (initial settings).foldl program

/-- The last custom transformer, or else what the flags do. -/
theorem transform (h : InForce settings program scope) (v : Value) :
    scope.transform v = match Step.lastTransformer? program with
      | some f => f v
      | none => scope.flags.transform scope.kind v := by
  unfold Scope.transform
  rw [h.custom]
  cases Step.lastTransformer? program with
  | some f => rfl
  | none =>
    cases v with
    | string s =>
      cases hf : scope.flags.any with
      | true => simp [TextFlags.transform]
      | false => simp [TextFlags.transform, TextFlags.apply_of_not_any hf]
    | _ => rfl

end InForce

/-- Two programs with the same tests in the same order that end with the same tag, flags and custom
transformer. -/
structure Agree (settings : Settings) (p q : List Step) : Prop where
  tests : p.filterMap Step.test? = q.filterMap Step.test?
  kind : (Step.lastTag? p).getD settings.kind = (Step.lastTag? q).getD settings.kind
  trim : .trim ∈ p ↔ .trim ∈ q
  lower : .lower ∈ p ↔ .lower ∈ q
  upper : .upper ∈ p ↔ .upper ∈ q
  custom : Step.lastTransformer? p = Step.lastTransformer? q

theorem Agree.scope_eq {settings : Settings} {p q : List Step} {a b : Scope}
    (h : Agree settings p q) (ha : InForce settings p a) (hb : InForce settings q b) : a = b := by
  have hk : a.kind = b.kind := by rw [ha.kind, hb.kind, h.kind]
  have ht : a.flags.trim = b.flags.trim := by
    rw [Bool.eq_iff_iff, ha.trim, hb.trim, h.trim]
  have hl : a.flags.lower = b.flags.lower := by
    rw [Bool.eq_iff_iff, ha.lower, hb.lower, h.lower]
  have hu : a.flags.upper = b.flags.upper := by
    rw [Bool.eq_iff_iff, ha.upper, hb.upper, h.upper]
  have hc : a.custom = b.custom := by rw [ha.custom, hb.custom, h.custom]
  have hm : a.lengths = b.lengths := by rw [ha.lengths, hb.lengths]
  obtain ⟨_, ⟨_, _, _⟩, _, _⟩ := a
  obtain ⟨_, ⟨_, _, _⟩, _, _⟩ := b
  simp_all

-- ---------------------------------------------------------------------------
-- The results in force
-- ---------------------------------------------------------------------------

/-- What a program says of a value: its tests in their order, all in the same scope and each on the
value transformed once. -/
def reference (scope : Scope) (program : List Step) (v : Value) : List Verdict :=
  (program.filterMap Step.test?).map fun t => (t.verdict scope (scope.transform v)).result

section
variable {ρ : Type}

theorem rules_fresh (generator : Generator ρ) (settings : Settings) (program : List Step) :
    ((Chain.fresh generator settings).steps program).result.rules =
      (program.filterMap Step.rule?).map fun (code, test, params) =>
        generator ⟨code, test⟩ params := by
  rw [Chain.rules_steps, List.map_filterMap]
  rfl

variable [Rule ρ]

theorem result_run_kept {generator : Generator ρ} (hg : generator.Keeps) (x : Validator)
    (params : Option String) (scope : Scope) (v : Value) :
    (Rule.run (generator x params) scope v).result =
      (x.test.verdict scope (scope.transform v)).result := by
  rw [Rule.run, hg, Validator.result_run]

theorem map_run_fresh {generator : Generator ρ} (hg : generator.Keeps) (settings : Settings)
    (program : List Step) (scope : Scope) (v : Value) :
    (((Chain.fresh generator settings).steps program).result.rules.map fun r =>
      (Rule.run r scope v).result) = reference scope program v := by
  have ht : program.filterMap Step.test? = (program.filterMap Step.rule?).map (·.2.1) :=
    List.map_filterMap.symm
  rw [rules_fresh, reference, ht, List.map_map, List.map_map]
  refine List.map_congr_left fun made _ => ?_
  exact result_run_kept hg _ _ scope v

/-- A chain through any of its handles: the scope is that of the whole program of the extension and
the steps taken, and running the rules gives the reference in that scope. So programs that agree in
their tests and in what they leave in force give the same results. -/
theorem results_at_evaluation_time (f : Factory ρ) (before : Trace)
    {builds : List (Handle × Step)} (ho : ∀ b ∈ builds, f.Offers b.1) :
    ∃ c : Chain ρ,
      (∀ h, f.Offers h → ((Session.built f before builds).cell? 0 h).map Cell.chain = some c) ∧
      InForce f.settings (f.program builds) c.scope ∧
      (∀ v, c.scope.transform v = match Step.lastTransformer? (f.program builds) with
        | some g => g v
        | none => c.scope.flags.transform c.scope.kind v) ∧
      (c.rules = ((f.program builds).filterMap Step.rule?).map fun (code, test, params) =>
        f.generator ⟨code, test⟩ params) ∧
      (f.generator.Keeps → ∀ h v, f.Offers h →
        ((Session.built f before builds).exec (.run 0 h .verdicts v)).2.verdicts? =
          some (reference c.scope (f.program builds) v)) ∧
      (f.generator.Keeps → ∀ (other : List (Handle × Step)) (past : Trace),
        (∀ b ∈ other, f.Offers b.1) →
        Agree f.settings (f.program builds) (f.program other) →
        ∀ h h' v, f.Offers h → f.Offers h' →
          ((Session.built f past other).exec (.run 0 h' .verdicts v)).2.verdicts? =
            ((Session.built f before builds).exec (.run 0 h .verdicts v)).2.verdicts?) := by
  have hs := InForce.steps f.generator f.settings (f.program builds)
  have hc : ∀ h, f.Offers h → _ := fun h hh => Session.cell?_built f before ho hh
  refine ⟨_, hc, hs, hs.transform, rules_fresh _ _ _, ?_, ?_⟩
  · intro hg h v hh
    rw [Session.verdicts?_run (hc h hh), map_run_fresh hg]
  · intro hg other past ho' ha h h' v hh hh'
    rw [Session.verdicts?_run (hc h hh), map_run_fresh hg,
      Session.verdicts?_run (Session.cell?_built f past ho' hh'), map_run_fresh hg,
      ← ha.scope_eq hs (InForce.steps f.generator f.settings (f.program other)), reference,
      reference, ha.tests]

end

/-- Two checks of length, appended under the tag for text, on what a later transformer gives under a
later tag. -/
theorem results_at_evaluation_time_retagged :
    ((Session.built ⟨Generator.describe, some fun _ => [.check (.length 2) .none], .default⟩ .empty
      [(.whole, .check (.length 1) .none), (.extension, .retag .array),
        (.context, .transform fun _ => .array [.null])]).exec
      (.run 0 .context .verdicts (.string "abc"))).2.verdicts? =
        some [some ⟨"length", "Must have length 2"⟩, none] := by
  have ho : ∀ b ∈ [(Handle.whole, Step.check (.length 1) .none), (.extension, .retag .array),
      (.context, .transform fun _ => .array [.null])],
      (Factory.mk Generator.describe (some fun _ => [.check (.length 2) .none])
        .default).Offers b.1 := by
    simp [Factory.Offers]
  obtain ⟨c, _, hf, ht, _, hr, _⟩ := results_at_evaluation_time _ .empty ho
  have hk : c.scope.kind = .array := hf.kind
  have hv : ∀ v, c.scope.transform v = .array [.null] := ht
  have hl : (Check.length 2).fails c.scope (.array [.null]) = true := by
    simp [Check.fails, Scope.counts, Scope.count?, hk, Value.asArray?]
  have hs : (Check.length 1).fails c.scope (.array [.null]) = false := by
    simp [Check.fails, Scope.counts, Scope.count?, hk, Value.asArray?]
  rw [hr Generator.describe_keeps .context _ nofun, reference, hv]
  simp [Factory.program, Factory.opening, Step.test?, Step.rule?, Test.verdict, hl, hs]
  exact ⟨rfl, by decide +kernel⟩

end Assay
