import Assay.Proofs.EvaluationTime
import Mathlib.Data.List.Forall2

/-!
# Histories of a session

A history is a sequence of commands on a session, on any of its chains and through any handles. What
it makes of a chain is a matter of the steps that reach the chain: those of the extension when it is
started, then those of the building commands whose handle leads to it. All that commands do to a
session is said once, in `Effect`.
-/

namespace Assay

theorem forall₂_zip {α β γ : Type} {R : α → β → Prop} {S : α → γ → Prop} {l : List α}
    {xs : List β} {ys : List γ} (h : List.Forall₂ R l xs) (h' : List.Forall₂ S l ys) :
    List.Forall₂ (fun a p => R a p.1 ∧ S a p.2) l (xs.zip ys) := by
  induction h generalizing ys with
  | nil =>
    cases h'
    exact .nil
  | cons hr _ ih =>
    cases h' with
    | cons hs hrest => exact .cons ⟨hr, hs⟩ (ih hrest)

variable {ρ : Type}

/-- The chain that a command names. Kept rules are named by themselves. -/
def Command.chain? : Command → Option Nat
  | .build n _ _ | .run n _ _ _ | .transform n _ _ | .rules n _ | .resolve n _ _ | .inspect n
  | .keep n _ _ | .drop n | .note n _ | .split n => some n
  | .inspectFactory | .runKept _ _ | .start _ => none

/-- The step that a command takes on a chain if its handle leads there. -/
def Command.stepOn? (n : Nat) : Command → Option Step
  | .build m _ s => if m = n then some s else none
  | _ => none

/-- Takes handles away from a chain. -/
def Command.closes : Command → Bool
  | .drop _ | .split _ => true
  | _ => false

/-- What a chain is when the factory has just started it. -/
def Factory.cell (f : Factory ρ) : Cell ρ :=
  ⟨f.start.result, if f.extension.isSome then some [] else none, false, false⟩

namespace Chain

theorem settings_step (c : Chain ρ) (s : Step) : (c.step s).result.settings = c.settings := by
  unfold step
  cases s.rule? with
  | none => cases s <;> rfl
  | some rule => rfl

theorem settings_steps (c : Chain ρ) (ss : List Step) :
    (c.steps ss).result.settings = c.settings := by
  induction ss generalizing c with
  | nil => rfl
  | cons s rest ih => exact (ih _).trans (c.settings_step s)

theorem generator_steps (c : Chain ρ) (ss : List Step) :
    (c.steps ss).result.generator = c.generator := by
  induction ss generalizing c with
  | nil => rfl
  | cons s rest ih => exact (ih _).trans (c.generator_step s)

theorem rules_prefix_steps (c : Chain ρ) (ss : List Step) :
    c.rules <+: (c.steps ss).result.rules := by
  rw [rules_steps]
  exact List.prefix_append _ _

end Chain

theorem Factory.settings_cell (f : Factory ρ) : f.cell.chain.settings = f.settings :=
  Chain.settings_steps _ _

theorem Factory.cell_chain (f : Factory ρ) :
    f.cell.chain = ((Chain.fresh f.generator f.cell.chain.settings).steps
      (f.opening f.cell.chain.settings)).result := by
  rw [f.settings_cell]
  rfl

theorem Factory.opening_congr {f g : Factory ρ} (h : f.extension = g.extension) :
    f.opening = g.opening := by
  funext settings
  simp only [Factory.opening, h]

theorem Factory.generator_cell (f : Factory ρ) : f.cell.chain.generator = f.generator :=
  Chain.generator_steps _ _

namespace Session

theorem cells_ofFactory {f : Factory ρ} {before : Trace} {n : Nat} {c : Cell ρ}
    (hc : (ofFactory f before).cells[n]? = some c) : n = 0 ∧ c = f.cell := by
  cases n with
  | zero => exact ⟨rfl, (Option.some.inj hc).symm⟩
  | succ n => cases hc

/-- The steps that a command takes on a chain: one if it builds there through a handle that leads
there. -/
def stepsOf (s : Session ρ) (n : Nat) : Command → List Step
  | .build m h step => if m = n ∧ (s.cell? n h).isSome then [step] else []
  | _ => []

theorem stepsOf_of_ne {s : Session ρ} {m n : Nat} {c : Command} (hc : c.chain? = some m)
    (hn : n ≠ m) : s.stepsOf n c = [] := by
  cases c with
  | build k h step =>
    cases hc
    exact if_neg fun h => hn h.1.symm
  | _ => rfl

theorem stepsOf_build {s : Session ρ} {n : Nat} {h : Handle} {c : Cell ρ}
    (hc : s.cell? n h = some c) (step : Step) : s.stepsOf n (.build n h step) = [step] := by
  simp [stepsOf, hc]

-- ---------------------------------------------------------------------------
-- What one command does
-- ---------------------------------------------------------------------------

/-- What a command can do to a session, the trace and the counters aside. -/
inductive Effect (s : Session ρ) (c : Command) (t : Session ρ) : Prop
  | quiet (factory : t.factory = s.factory) (cells : t.cells = s.cells) (kept : t.kept = s.kept)
      (steps : ∀ n, s.stepsOf n c = [])
  | change (n : Nat) (old new : Cell ρ) (named : c.chain? = some n) (found : s.cells[n]? = some old)
      (factory : t.factory = s.factory) (cells : t.cells = s.cells.set n new)
      (kept : t.kept = s.kept) (steps : new.chain = (old.chain.steps (s.stepsOf n c)).result)
      (handles : c.closes = false → ∀ h, old.reachable h = true → new.reachable h = true)
  | keep (n : Nat) (old : Cell ρ) (name : String) (named : c.chain? = some n)
      (found : s.cells[n]? = some old) (factory : t.factory = s.factory) (cells : t.cells = s.cells)
      (kept : t.kept = s.kept.put name ⟨n, old.chain.rules⟩) (steps : ∀ n, s.stepsOf n c = [])
  | start (settings : Settings) (factory : t.factory = { s.factory with settings })
      (cells : t.cells = s.cells ++ [t.factory.cell]) (kept : t.kept = s.kept)
      (steps : ∀ n, s.stepsOf n c = [])
      (given : (∀ as, c ≠ .start (some as)) → settings = s.factory.settings)

namespace Effect

variable {s : Session ρ} {c : Command}

theorem startWith (settings : Traced Settings) (steps : ∀ n, s.stepsOf n c = [])
    (given : (∀ as, c ≠ .start (some as)) → settings.result = s.factory.settings) :
    Effect s c (s.startWith settings).1 :=
  .start settings.result rfl rfl rfl steps given

/-- A handle that leads nowhere changes nothing. -/
theorem withCell {n : Nat} {h : Handle} {f : Cell ρ → Session ρ × Reply ρ}
    (steps : s.cell? n h = none → ∀ m, s.stepsOf m c = [])
    (hf : ∀ cell, s.cell? n h = some cell → Effect s c (f cell).1) :
    Effect s c (s.withCell n h f).1 := by
  unfold Session.withCell
  cases hc : s.cell? n h with
  | none => exact .quiet rfl rfl rfl (steps hc)
  | some cell => exact hf cell hc

theorem buildStep {n : Nat} {h : Handle} {cell : Cell ρ} (hc : s.cell? n h = some cell)
    (step : Step) : Effect s (.build n h step) (s.buildStep n cell step).1 := by
  have hs : (cell.chain.steps (s.stepsOf n (.build n h step))).result =
      (cell.chain.step step).result := by
    rw [stepsOf_build hc]
    rfl
  have hf := (cell?_eq_some_iff.mp hc).1
  unfold Session.buildStep
  cases step.refusal? with
  | none => exact .change n cell _ rfl hf rfl rfl rfl hs.symm fun _ _ hr => hr
  | some why => exact .change n cell _ rfl hf rfl rfl rfl hs.symm fun _ _ hr => hr

variable [Rule ρ]

theorem runRules (rules : List ρ) (scope : Scope) (mode : RunMode) (v : Value)
    (steps : ∀ n, s.stepsOf n c = []) : Effect s c (s.runRules rules scope mode v).1 := by
  cases mode <;> exact .quiet rfl rfl rfl steps

end Effect

variable [Rule ρ]

theorem effect_exec (s : Session ρ) (c : Command) : Effect s c (s.exec c).1 := by
  cases c with
  | build n h step =>
    refine .withCell (fun hn m => if_neg ?_) fun cell hc => .buildStep hc step
    rintro ⟨rfl, hs⟩
    simp [hn] at hs
  | run n h mode v => exact .withCell (fun _ _ => rfl) fun _ _ => .runRules _ _ mode v fun _ => rfl
  | transform n h v => exact .withCell (fun _ _ => rfl) fun _ _ => .quiet rfl rfl rfl fun _ => rfl
  | rules n h => exact .withCell (fun _ _ => rfl) fun _ _ => .quiet rfl rfl rfl fun _ => rfl
  | resolve n h message =>
    exact .withCell (fun _ _ => rfl) fun _ _ => .quiet rfl rfl rfl fun _ => rfl
  | inspect n => exact .withCell (fun _ _ => rfl) fun _ _ => .quiet rfl rfl rfl fun _ => rfl
  | inspectFactory => exact .quiet rfl rfl rfl fun _ => rfl
  | keep n h name =>
    refine .withCell (fun _ _ => rfl) fun cell hc => ?_
    exact .keep n cell name rfl (cell?_eq_some_iff.mp hc).1 rfl rfl rfl fun _ => rfl
  | runKept name v =>
    simp only [exec]
    split
    · split
      · exact .runRules _ _ .verdicts v fun _ => rfl
      · exact .quiet rfl rfl rfl fun _ => rfl
    · exact .quiet rfl rfl rfl fun _ => rfl
  | start adjustments =>
    cases adjustments with
    | none => exact .startWith _ (fun _ => rfl) fun _ => rfl
    | some as =>
      simp only [exec]
      split
      · exact .startWith _ (fun _ => rfl) fun hne => absurd rfl (hne as)
      · exact .quiet rfl rfl rfl fun _ => rfl
  | drop n =>
    refine .withCell (fun _ _ => rfl) fun cell hc => ?_
    have hf := (cell?_eq_some_iff.mp hc).1
    exact .change n cell _ rfl hf rfl rfl rfl rfl fun hclosed => by cases hclosed
  | note n text =>
    refine .withCell (fun _ _ => rfl) fun cell hc => ?_
    refine .change n cell _ rfl (cell?_eq_some_iff.mp hc).1 rfl rfl rfl rfl fun _ h hr => ?_
    cases h <;> simp_all [Cell.reachable]
  | split n =>
    refine .withCell (fun _ _ => rfl) fun cell hc => ?_
    have hf := (cell?_eq_some_iff.mp hc).1
    exact .change n cell _ rfl hf rfl rfl rfl rfl fun hclosed => by cases hclosed

/-- A chain that is there takes the steps that a command takes on it, and keeps its handles unless
the command takes them away. -/
theorem cells_exec_of_some {s : Session ρ} {n : Nat} {cell : Cell ρ} (hc : s.cells[n]? = some cell)
    (c : Command) : ∃ new, (s.exec c).1.cells[n]? = some new ∧
      new.chain = (cell.chain.steps (s.stepsOf n c)).result ∧
      ((c.closes = true → c.chain? ≠ some n) →
        ∀ h, cell.reachable h = true → new.reachable h = true) := by
  cases s.effect_exec c with
  | quiet _ cells _ steps => exact ⟨cell, by rw [cells, hc], by rw [steps]; rfl, fun _ _ hr => hr⟩
  | change m old new named found _ cells _ steps handles =>
    by_cases hm : n = m
    · subst hm
      cases hc.symm.trans found
      have hn : n < s.cells.length := (List.getElem?_eq_some_iff.mp hc).1
      refine ⟨new, by rw [cells, List.getElem?_set_self hn], steps, fun hopen => handles ?_⟩
      exact Bool.eq_false_iff.mpr fun hcl => hopen hcl named
    · rw [cells, List.getElem?_set_ne (Ne.symm hm), stepsOf_of_ne named hm]
      exact ⟨cell, hc, rfl, fun _ _ hr => hr⟩
  | keep _ _ _ _ _ _ cells _ steps =>
    exact ⟨cell, by rw [cells, hc], by rw [steps]; rfl, fun _ _ hr => hr⟩
  | start _ _ cells _ steps =>
    have hn : n < s.cells.length := (List.getElem?_eq_some_iff.mp hc).1
    exact ⟨cell, by rw [cells, List.getElem?_append_left hn, hc], by rw [steps]; rfl,
      fun _ _ hr => hr⟩

/-- A chain that is not there takes no step; a command may start it. -/
theorem cells_exec_of_none {s : Session ρ} {n : Nat} (hc : s.cells[n]? = none) (c : Command) :
    s.stepsOf n c = [] ∧ ∀ new, (s.exec c).1.cells[n]? = some new →
      n = s.cells.length ∧ new = (s.exec c).1.factory.cell := by
  have hn : s.cells.length ≤ n := List.getElem?_eq_none_iff.mp hc
  cases s.effect_exec c with
  | quiet _ cells _ steps => exact ⟨steps n, fun new h => by simp [cells, hc] at h⟩
  | change m old new named found _ cells _ steps =>
    have hm : m < s.cells.length := (List.getElem?_eq_some_iff.mp found).1
    refine ⟨stepsOf_of_ne named (by omega), fun new h => ?_⟩
    rw [cells, List.getElem?_set_ne (by omega), hc] at h
    cases h
  | keep _ _ _ _ _ _ cells _ steps => exact ⟨steps n, fun new h => by simp [cells, hc] at h⟩
  | start _ _ cells _ steps =>
    refine ⟨steps n, fun new h => ?_⟩
    rw [cells, List.getElem?_append_right hn, List.getElem?_singleton] at h
    split at h
    · exact ⟨by omega, (Option.some.inj h).symm⟩
    · cases h

/-- What holds of the chains that there are, and that steps preserve, holds of all chains after a
command if it holds of one that the factory starts then. -/
theorem forall_cells_exec {P : Chain ρ → Prop} {s : Session ρ} {c : Command}
    (hs : ∀ (n : Nat) (cell : Cell ρ), s.cells[n]? = some cell → P cell.chain)
    (hsteps : ∀ chain ss, P chain → P (chain.steps ss).result)
    (hnew : P (s.exec c).1.factory.cell.chain) :
    ∀ (n : Nat) (cell : Cell ρ), (s.exec c).1.cells[n]? = some cell → P cell.chain := by
  intro n new hn
  cases hc : s.cells[n]? with
  | none =>
    rw [((cells_exec_of_none hc c).2 new hn).2]
    exact hnew
  | some old =>
    obtain ⟨new', hn', ht, _⟩ := cells_exec_of_some hc c
    cases hn.symm.trans hn'
    rw [ht]
    exact hsteps _ _ (hs n old hc)

theorem factory_exec (s : Session ρ) (c : Command) :
    (s.exec c).1.factory.generator = s.factory.generator ∧
    (s.exec c).1.factory.extension = s.factory.extension := by
  cases s.effect_exec c with
  | quiet factory => simp [factory]
  | change _ _ _ _ _ factory => simp [factory]
  | keep _ _ _ _ _ factory => simp [factory]
  | start settings factory => simp [factory]

/-- Settings are read at a start only. -/
theorem settings_exec {c : Command} (hc : ∀ as, c ≠ .start (some as)) (s : Session ρ) :
    (s.exec c).1.factory.settings = s.factory.settings := by
  cases s.effect_exec c with
  | quiet factory => rw [factory]
  | change _ _ _ _ _ factory => rw [factory]
  | keep _ _ _ _ _ factory => rw [factory]
  | start settings factory _ _ _ given => rw [factory, given hc]

/-- Every kept list of rules begins the list of its chain. -/
def KeepsFirst (s : Session ρ) : Prop :=
  ∀ name k, s.kept.get? name = some k →
    ∃ cell, s.cells[k.chain]? = some cell ∧ k.rules <+: cell.chain.rules

/-- A list is kept by a command only as it is on its chain. -/
theorem kept_exec {s : Session ρ} {c : Command} {name : String} {k : Kept ρ}
    (hk : (s.exec c).1.kept.get? name = some k) :
    s.kept.get? name = some k ∨
      ∃ cell, s.cells[k.chain]? = some cell ∧ k.rules = cell.chain.rules := by
  cases s.effect_exec c with
  | quiet _ _ kept _ => exact .inl (kept ▸ hk)
  | change _ _ _ _ _ _ _ kept _ _ => exact .inl (kept ▸ hk)
  | keep n cell name' _ found _ _ kept _ =>
    rw [kept, Entries.get?_put] at hk
    split at hk
    · cases hk
      exact .inr ⟨cell, found, rfl⟩
    · exact .inl hk
  | start _ _ _ kept _ => exact .inl (kept ▸ hk)

theorem KeepsFirst.exec {s : Session ρ} (h : s.KeepsFirst) (c : Command) :
    (s.exec c).1.KeepsFirst := by
  intro name k hk
  have hold : ∃ cell, s.cells[k.chain]? = some cell ∧ k.rules <+: cell.chain.rules := by
    rcases kept_exec hk with hk | ⟨cell, hc, hr⟩
    · exact h name k hk
    · exact ⟨cell, hc, hr ▸ List.prefix_refl _⟩
  obtain ⟨cell, hc, hr⟩ := hold
  obtain ⟨new, hn, ht, _⟩ := cells_exec_of_some hc c
  exact ⟨new, hn, ht ▸ hr.trans (cell.chain.rules_prefix_steps _)⟩

-- ---------------------------------------------------------------------------
-- What a history does
-- ---------------------------------------------------------------------------

/-- The steps that a history takes on a chain, in turn. -/
def stepsOn (s : Session ρ) (n : Nat) : List Command → List Step
  | [] => []
  | c :: rest => s.stepsOf n c ++ (s.exec c).1.stepsOn n rest

theorem cells_execAll_of_some {s : Session ρ} {n : Nat} {cell : Cell ρ}
    (hc : s.cells[n]? = some cell) (history : List Command) :
    ∃ new, (s.execAll history).1.cells[n]? = some new ∧
      new.chain = (cell.chain.steps (s.stepsOn n history)).result := by
  induction history generalizing s cell with
  | nil => exact ⟨cell, hc, rfl⟩
  | cons c rest ih =>
    obtain ⟨mid, hm, hs, _⟩ := cells_exec_of_some hc c
    obtain ⟨new, hn, ht⟩ := ih hm
    refine ⟨new, hn, ?_⟩
    rw [ht, hs, stepsOn, Chain.result_steps_append]

theorem chain_execAll_of_some {s : Session ρ} {n : Nat} {old new : Cell ρ} {history : List Command}
    (ho : s.cells[n]? = some old) (hn : (s.execAll history).1.cells[n]? = some new) :
    new.chain = (old.chain.steps (s.stepsOn n history)).result := by
  obtain ⟨_, hn', ht⟩ := cells_execAll_of_some ho history
  cases hn.symm.trans hn'
  exact ht

theorem execAll_append (s : Session ρ) (earlier later : List Command) :
    (s.execAll (earlier ++ later)).1 = ((s.execAll earlier).1.execAll later).1 := by
  induction earlier generalizing s with
  | nil => rfl
  | cons c rest ih => exact ih (s.exec c).1

theorem stepsOn_append (s : Session ρ) (n : Nat) (earlier later : List Command) :
    s.stepsOn n (earlier ++ later) =
      s.stepsOn n earlier ++ (s.execAll earlier).1.stepsOn n later := by
  induction earlier generalizing s with
  | nil => rfl
  | cons c rest ih =>
    rw [List.cons_append, stepsOn, stepsOn, ih, List.append_assoc]
    rfl

theorem KeepsFirst.execAll {s : Session ρ} (h : s.KeepsFirst) (history : List Command) :
    (s.execAll history).1.KeepsFirst := by
  induction history generalizing s with
  | nil => exact h
  | cons c rest ih => exact ih (h.exec c)

/-- A chain that a history starts goes through the steps of the extension first. -/
theorem chain_execAll_of_none {s : Session ρ} {n : Nat} {cell : Cell ρ} {history : List Command}
    (hn : s.cells[n]? = none) (hc : (s.execAll history).1.cells[n]? = some cell) :
    cell.chain = ((Chain.fresh s.factory.generator cell.chain.settings).steps
      (s.factory.opening cell.chain.settings ++ s.stepsOn n history)).result := by
  induction history generalizing s with
  | nil => cases hn.symm.trans hc
  | cons c rest ih =>
    obtain ⟨hg, he⟩ := s.factory_exec c
    obtain ⟨hs, hstart⟩ := cells_exec_of_none hn c
    rw [stepsOn, hs, List.nil_append, ← hg, ← Factory.opening_congr he]
    cases hm : (s.exec c).1.cells[n]? with
    | none => exact ih hm hc
    | some mid =>
      rw [chain_execAll_of_some hm hc, Chain.settings_steps, (hstart mid hm).2,
        Chain.result_steps_append, ← Factory.cell_chain]

/-- A session of the factory after a history. -/
def after (f : Factory ρ) (before : Trace) (history : List Command) : Session ρ :=
  ((ofFactory f before).execAll history).1

theorem after_append (f : Factory ρ) (before : Trace) (earlier later : List Command) :
    after f before (earlier ++ later) = ((after f before earlier).execAll later).1 :=
  execAll_append _ _ _

theorem keepsFirst_after (f : Factory ρ) (before : Trace) (history : List Command) :
    (after f before history).KeepsFirst :=
  KeepsFirst.execAll (fun _ _ hk => by cases hk) history

/-- The settings that a chain has started with; without such a chain those of the factory. -/
def settingsOn (s : Session ρ) (n : Nat) : Settings :=
  match s.cells[n]? with
  | some cell => cell.chain.settings
  | none => s.factory.settings

/-- All the steps that a chain has gone through after a history: those that the extension has chosen
by its settings, then those taken since. -/
def program (f : Factory ρ) (before : Trace) (history : List Command) (n : Nat) : List Step :=
  f.opening ((after f before history).settingsOn n) ++ (ofFactory f before).stepsOn n history

section after

variable {f : Factory ρ} {before : Trace} {history : List Command} {n : Nat} {cell : Cell ρ}

theorem program_of_cell (hc : (after f before history).cells[n]? = some cell) :
    program f before history n =
      f.opening cell.chain.settings ++ (ofFactory f before).stepsOn n history := by
  simp only [program, settingsOn, hc]

/-- A chain is what its program makes of a fresh one. -/
theorem chain_after (hc : (after f before history).cells[n]? = some cell) :
    cell.chain = ((Chain.fresh f.generator cell.chain.settings).steps
      (program f before history n)).result := by
  rw [program_of_cell hc]
  cases hn : (ofFactory f before).cells[n]? with
  | none => exact chain_execAll_of_none hn hc
  | some first =>
    obtain ⟨_, rfl⟩ := cells_ofFactory hn
    have ht : cell.chain = (f.cell.chain.steps ((ofFactory f before).stepsOn n history)).result :=
      chain_execAll_of_some hn hc
    rw [ht, Chain.settings_steps, Chain.result_steps_append, ← Factory.cell_chain]

theorem inForce_after (hc : (after f before history).cells[n]? = some cell) :
    InForce cell.chain.settings (program f before history n) cell.chain.scope := by
  have h := InForce.steps f.generator cell.chain.settings (program f before history n)
  rwa [← chain_after hc] at h

/-- One rule for each step that makes one. -/
theorem rules_after (hc : (after f before history).cells[n]? = some cell) :
    cell.chain.rules = ((program f before history n).filterMap Step.rule?).map
      fun (code, test, params) => f.generator ⟨code, test⟩ params := by
  have h := rules_fresh f.generator cell.chain.settings (program f before history n)
  rwa [← chain_after hc] at h

theorem result_run_after (hc : (after f before history).cells[n]? = some cell)
    (hg : f.generator.Keeps) (v : Value) :
    (cell.chain.run v).result = reference cell.chain.scope (program f before history n) v := by
  have h := map_run_fresh hg cell.chain.settings (program f before history n) cell.chain.scope v
  rw [← chain_after hc] at h
  rw [Chain.run, Rule.result_runAll, h]

end after

end Session

end Assay
