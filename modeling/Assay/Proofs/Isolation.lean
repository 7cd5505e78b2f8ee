import Assay.Proofs.Histories

/-!
# Chains on their own

The chains of a session have the factory in common, and nothing else that can be told from their
answers. What a chain is told and answers among others is what it would answer as the only chain of
a factory with the settings that it was started with. Runs of deferred messages are counted for all
chains together, so their number is left out.
-/

namespace Assay

variable {ρ : Type}

/-- The factory with other settings. -/
def Factory.withSettings (f : Factory ρ) (settings : Settings) : Factory ρ :=
  ⟨f.generator, f.extension, settings⟩

/-- The command to the only chain of a session. -/
def Command.alone : Command → Command
  | .build _ h s => .build 0 h s
  | .run _ h mode v => .run 0 h mode v
  | .transform _ h v => .transform 0 h v
  | .rules _ h => .rules 0 h
  | .resolve _ h message => .resolve 0 h message
  | .inspect _ => .inspect 0
  | .keep _ h name => .keep 0 h name
  | .drop _ => .drop 0
  | .note _ text => .note 0 text
  | .split _ => .split 0
  | .inspectFactory => .inspectFactory
  | .runKept name v => .runKept name v
  | .start settings => .start settings

/-- An answer without the number of its chain and without what is counted for all chains. -/
def Reply.alone : Reply ρ → Reply ρ
  | .progress p => .progress { p with deferredRuns := 0 }
  | .refused why p => .refused why { p with deferredRuns := 0 }
  | .verdicts vs _ => .verdicts vs 0
  | .validity bs _ => .validity bs 0
  | .message text _ => .message text 0
  | .started _ own shared _ => .started 0 own shared 0
  | .dropped _ => .dropped 0
  | .parts ns p => .parts ns { p with deferredRuns := 0 }
  | r => r

namespace Session

/-- The command goes to the chain, or runs rules that were kept aside from it. -/
def concerns (s : Session ρ) (n : Nat) : Command → Bool
  | .runKept name _ => (s.kept.get? name).any (·.chain == n)
  | c => decide (n < s.cells.length) && c.chain? == some n

/-- The commands of a history that concern a chain, each with the answer to it. -/
def exchanges [Rule ρ] (s : Session ρ) (n : Nat) : List Command → List (Command × Reply ρ)
  | [] => []
  | c :: rest =>
    let (t, reply) := s.exec c
    if s.concerns n c then (c, reply) :: t.exchanges n rest else t.exchanges n rest

theorem concerns_cases {s : Session ρ} {n : Nat} {c : Command} (hc : s.concerns n c = true) :
    c.chain? = some n ∨
      ∃ name v k, c = .runKept name v ∧ s.kept.get? name = some k ∧ k.chain = n := by
  cases c with
  | runKept name v =>
    obtain ⟨k, hk, hn⟩ := (Option.any_eq_true _ _).mp hc
    exact .inr ⟨name, v, k, rfl, hk, eq_of_beq hn⟩
  | _ => exact .inl (eq_of_beq (Bool.and_eq_true_iff.mp hc).2)

/-- Rules are kept aside only from chains that there are, so no command concerns another. -/
theorem concerns_of_none {s : Session ρ} (hk : s.KeepsFirst) {n : Nat} (hn : s.cells[n]? = none)
    (c : Command) : s.concerns n c = false := by
  have hlen : s.cells.length ≤ n := List.getElem?_eq_none_iff.mp hn
  cases c with
  | runKept name v =>
    rw [concerns, Option.any_eq_false]
    intro k hname
    obtain ⟨cell, hc, _⟩ := hk name k hname
    have hne : k.chain ≠ n := by
      rintro rfl
      cases hn.symm.trans hc
    simpa using hne
  | _ => simp [concerns, Nat.not_lt.mpr hlen]

-- ---------------------------------------------------------------------------
-- One command
-- ---------------------------------------------------------------------------

/-- Chain `n` of the one session is the first of the other, and all rules kept aside from it are
kept there as well. -/
structure Isolated (n : Nat) (s t : Session ρ) : Prop where
  cells : ∃ cell, s.cells[n]? = some cell ∧ t.cells[0]? = some cell
  kept : ∀ name k, s.kept.get? name = some k → k.chain = n → t.kept.get? name = some ⟨0, k.rules⟩

/-- Two sessions after a command, with their answers. -/
structure Mirrored (n : Nat) (a b : Session ρ × Reply ρ) : Prop where
  isolated : Isolated n a.1 b.1
  replies : a.2.alone = b.2.alone

namespace Isolated

variable {n : Nat} {s t : Session ρ}

theorem record (h : Isolated n s t) (here there : Trace) :
    Isolated n (s.record here) (t.record there) := ⟨h.cells, h.kept⟩

theorem setCell (h : Isolated n s t) (cell : Cell ρ) :
    Isolated n (s.setCell n cell) (t.setCell 0 cell) where
  cells := by
    obtain ⟨old, hs, ht⟩ := h.cells
    have hn : n < s.cells.length := (List.getElem?_eq_some_iff.mp hs).1
    have h0 : 0 < t.cells.length := (List.getElem?_eq_some_iff.mp ht).1
    exact ⟨cell, List.getElem?_set_self hn, List.getElem?_set_self h0⟩
  kept := h.kept

theorem put (h : Isolated n s t) (name : String) (rules : List ρ) :
    Isolated n { s with kept := s.kept.put name ⟨n, rules⟩ }
      { t with kept := t.kept.put name ⟨0, rules⟩ } where
  cells := h.cells
  kept := by
    intro other k hk hn
    simp only [Entries.get?_put] at hk ⊢
    by_cases ho : other = name
    · rw [if_pos ho] at hk ⊢
      cases hk
      rfl
    · rw [if_neg ho] at hk ⊢
      exact h.kept other k hk hn

theorem withCell (h : Isolated n s t) {handle : Handle} {f g : Cell ρ → Session ρ × Reply ρ}
    (hfg : ∀ cell, Mirrored n (f cell) (g cell)) :
    Mirrored n (s.withCell n handle f) (t.withCell 0 handle g) := by
  obtain ⟨cell, hs, ht⟩ := h.cells
  simp only [Session.withCell, cell?, hs, ht]
  cases (some cell).filter (·.reachable handle) with
  | none => exact ⟨h, rfl⟩
  | some cell => exact hfg cell

theorem buildStep (h : Isolated n s t) (cell : Cell ρ) (step : Step) :
    Mirrored n (s.buildStep n cell step) (t.buildStep 0 cell step) := by
  have hb := (h.setCell { cell with chain := (cell.chain.step step).result }).record
    (cell.chain.step step).trace (cell.chain.step step).trace
  unfold Session.buildStep
  cases step.refusal? with
  | none => exact ⟨hb, rfl⟩
  | some why => exact ⟨hb, rfl⟩

/-- The first chains of two sessions of one factory. -/
theorem ofFactory (f : Factory ρ) (before past : Trace) :
    Isolated 0 (Session.ofFactory f before) (Session.ofFactory f past) where
  cells := ⟨f.cell, rfl, rfl⟩
  kept := fun _ _ hk => by cases hk

variable [Rule ρ]

theorem runRules (h : Isolated n s t) (rules : List ρ) (scope : Scope) (mode : RunMode)
    (v : Value) : Mirrored n (s.runRules rules scope mode v) (t.runRules rules scope mode v) := by
  cases mode <;> exact ⟨h.record _ _, rfl⟩

theorem exec_named (h : Isolated n s t) {c : Command} (hc : c.chain? = some n) :
    Mirrored n (s.exec c) (t.exec c.alone) := by
  cases c with
  | build m handle step =>
    cases hc
    exact h.withCell fun cell => h.buildStep cell step
  | run m handle mode v =>
    cases hc
    exact h.withCell fun cell => h.runRules _ _ mode v
  | resolve m handle message =>
    cases hc
    exact h.withCell fun _ => ⟨h.record _ _, rfl⟩
  | keep m handle name =>
    cases hc
    exact h.withCell fun cell => ⟨h.put name cell.chain.rules, rfl⟩
  | drop m | note m text | split m =>
    cases hc
    exact h.withCell fun _ => ⟨h.setCell _, rfl⟩
  | transform m handle v | rules m handle | inspect m =>
    cases hc
    exact h.withCell fun _ => ⟨h, rfl⟩
  | inspectFactory | runKept name v | start settings => cases hc

theorem exec_runKept (h : Isolated n s t) {name : String} {k : Kept ρ}
    (hk : s.kept.get? name = some k) (hn : k.chain = n) (v : Value) :
    Mirrored n (s.exec (.runKept name v)) (t.exec (.runKept name v)) := by
  subst hn
  obtain ⟨cell, hs, ht⟩ := h.cells
  simp only [exec, hk, hs, h.kept name k hk rfl, ht]
  exact h.runRules ..

/-- A command that concerns the chain does the same to it where it is alone. -/
theorem exec_own (h : Isolated n s t) {c : Command} (hc : s.concerns n c = true) :
    Mirrored n (s.exec c) (t.exec c.alone) := by
  rcases concerns_cases hc with hn | ⟨name, v, k, rfl, hk, hn⟩
  · exact h.exec_named hn
  · exact h.exec_runKept hk hn v

/-- A command that does not concern the chain leaves it alone. -/
theorem exec_other (h : Isolated n s t) {c : Command} (hc : s.concerns n c = false) :
    Isolated n (s.exec c).1 t := by
  obtain ⟨cell, hs, ht⟩ := h.cells
  have hn : n < s.cells.length := (List.getElem?_eq_some_iff.mp hs).1
  have hne (m : Nat) (hm : c.chain? = some m) : m ≠ n := by
    rintro rfl
    cases c <;> simp_all [concerns, Command.chain?]
  cases s.effect_exec c with
  | quiet _ cells kept _ => exact ⟨⟨cell, by rw [cells, hs], ht⟩, kept ▸ h.kept⟩
  | change m _ new named _ _ cells kept _ _ =>
    have hs' : (s.exec c).1.cells[n]? = some cell := by
      rw [cells, List.getElem?_set_ne (hne m named), hs]
    exact ⟨⟨cell, hs', ht⟩, kept ▸ h.kept⟩
  | keep m old name named _ _ cells kept _ =>
    refine ⟨⟨cell, by rw [cells, hs], ht⟩, fun other k hk hkn => ?_⟩
    rw [kept, Entries.get?_put] at hk
    split at hk
    · cases hk
      exact absurd hkn (hne m named)
    · exact h.kept other k hk hkn
  | start _ _ cells kept _ _ =>
    have hs' : (s.exec c).1.cells[n]? = some cell := by
      rw [cells, List.getElem?_append_left hn, hs]
    exact ⟨⟨cell, hs', ht⟩, kept ▸ h.kept⟩

end Isolated

-- ---------------------------------------------------------------------------
-- Settings
-- ---------------------------------------------------------------------------

/-- The factory and all its chains have the same settings. -/
structure Uniform (s : Session ρ) (settings : Settings) : Prop where
  factory : s.factory.settings = settings
  cells : ∀ (n : Nat) (c : Cell ρ), s.cells[n]? = some c → c.chain.settings = settings

theorem uniform_ofFactory (f : Factory ρ) (before : Trace) :
    (ofFactory f before).Uniform f.settings where
  factory := rfl
  cells := by
    intro n c hc
    obtain ⟨_, rfl⟩ := cells_ofFactory hc
    exact f.settings_cell

variable [Rule ρ]

theorem Uniform.exec {s : Session ρ} {settings : Settings} (h : s.Uniform settings) {c : Command}
    (hc : ∀ as, c ≠ .start (some as)) : (s.exec c).1.Uniform settings where
  factory := (settings_exec hc s).trans h.factory
  cells := by
    refine forall_cells_exec (P := fun chain => chain.settings = settings) h.cells
      (fun chain ss hs => (chain.settings_steps ss).trans hs) ?_
    rw [Factory.settings_cell, settings_exec hc, h.factory]

theorem Uniform.execAll {s : Session ρ} {settings : Settings} (h : s.Uniform settings)
    {history : List Command} (hh : ∀ as, .start (some as) ∉ history) :
    (s.execAll history).1.Uniform settings := by
  induction history generalizing s with
  | nil => exact h
  | cons c rest ih =>
    refine ih (h.exec fun as hc => ?_) fun as hm => hh as (List.mem_cons_of_mem _ hm)
    exact hh as (hc ▸ List.mem_cons_self)

-- ---------------------------------------------------------------------------
-- Histories
-- ---------------------------------------------------------------------------

section
variable {s : Session ρ} {n : Nat} {c : Command}

theorem exchanges_cons_own (hc : s.concerns n c = true) (rest : List Command) :
    s.exchanges n (c :: rest) = (c, (s.exec c).2) :: (s.exec c).1.exchanges n rest := by
  simp [exchanges, hc]

theorem exchanges_cons_other (hc : s.concerns n c = false) (rest : List Command) :
    s.exchanges n (c :: rest) = (s.exec c).1.exchanges n rest := by
  simp [exchanges, hc]

end

/-- A history does to chain `n`, and is answered by it, what its own part does to the first chain of
the other session and is answered there. -/
structure Replayed (n : Nat) (s t : Session ρ) (history : List Command) : Prop where
  isolated : Isolated n (s.execAll history).1
    (t.execAll ((s.exchanges n history).map (·.1.alone))).1
  replies : (t.execAll ((s.exchanges n history).map (·.1.alone))).2.map Reply.alone =
    (s.exchanges n history).map (·.2.alone)

theorem Isolated.replayed {n : Nat} {s t : Session ρ} (h : Isolated n s t)
    (history : List Command) : Replayed n s t history := by
  induction history generalizing s t with
  | nil => exact ⟨h, rfl⟩
  | cons c rest ih =>
    cases hc : s.concerns n c with
    | true =>
      obtain ⟨hm, hreply⟩ := h.exec_own hc
      obtain ⟨hi, hr⟩ := ih hm
      refine ⟨?_, ?_⟩ <;> rw [exchanges_cons_own hc]
      · exact hi
      · rw [List.map_cons, List.map_cons, ← hr, hreply]
        rfl
    | false =>
      obtain ⟨hi, hr⟩ := ih (h.exec_other hc)
      refine ⟨?_, ?_⟩ <;> rw [exchanges_cons_other hc]
      · exact hi
      · exact hr

theorem withSettings_exec (s : Session ρ) (c : Command) (settings : Settings) :
    (s.exec c).1.factory.withSettings settings = s.factory.withSettings settings := by
  obtain ⟨hg, he⟩ := s.factory_exec c
  rw [Factory.withSettings, hg, he, Factory.withSettings]

/-- A chain that a command starts is the chain of a session of its own. -/
theorem isolated_start {s : Session ρ} (hk : s.KeepsFirst) {n : Nat} (hn : s.cells[n]? = none)
    {c : Command} {new : Cell ρ} (hnew : (s.exec c).1.cells[n]? = some new) (past : Trace) :
    Isolated n (s.exec c).1 (ofFactory (s.factory.withSettings new.chain.settings) past) where
  cells := by
    have hcell := ((cells_exec_of_none hn c).2 new hnew).2
    have hs : new.chain.settings = (s.exec c).1.factory.settings := by
      rw [hcell, Factory.settings_cell]
    refine ⟨new, hnew, ?_⟩
    rw [← withSettings_exec s c, hs, hcell]
    rfl
  kept := by
    intro name k hname hkn
    have hc : ∃ cell, s.cells[k.chain]? = some cell := by
      rcases kept_exec hname with hold | ⟨cell, hc, _⟩
      · obtain ⟨cell, hc, _⟩ := hk name k hold
        exact ⟨cell, hc⟩
      · exact ⟨cell, hc⟩
    obtain ⟨cell, hc⟩ := hc
    rw [hkn, hn] at hc
    cases hc

theorem replayed_of_none {s : Session ρ} (hk : s.KeepsFirst) {n : Nat} (hn : s.cells[n]? = none)
    {history : List Command} {last : Cell ρ} (hlast : (s.execAll history).1.cells[n]? = some last)
    (past : Trace) :
    Replayed n s (ofFactory (s.factory.withSettings last.chain.settings) past) history := by
  induction history generalizing s with
  | nil => cases hn.symm.trans hlast
  | cons c rest ih =>
    have hother := concerns_of_none hk hn c
    have hr : Replayed n (s.exec c).1
        (ofFactory (s.factory.withSettings last.chain.settings) past) rest := by
      cases hm : (s.exec c).1.cells[n]? with
      | none =>
        rw [← withSettings_exec s c]
        exact ih (hk.exec c) hm hlast
      | some mid =>
        rw [chain_execAll_of_some hm hlast, Chain.settings_steps]
        exact (isolated_start hk hn hm past).replayed rest
    refine ⟨?_, ?_⟩ <;> rw [exchanges_cons_other hother]
    · exact hr.isolated
    · exact hr.replies

end Session

variable [Rule ρ]

/-- A chain among any others is, and answers, what it is and answers as the only chain of a factory
that has the settings it was started with. These are the settings of the first factory unless a
start gives others. -/
theorem chain_isolation (f : Factory ρ) (before past : Trace) {history : List Command} {n : Nat}
    {c : Cell ρ} (hc : (Session.after f before history).cells[n]? = some c) :
    let own := (Session.ofFactory f before).exchanges n history
    let alone := (Session.ofFactory (f.withSettings c.chain.settings) past).execAll
      (own.map (·.1.alone))
    alone.1.cells[0]? = some c ∧ alone.2.map Reply.alone = own.map (·.2.alone) ∧
      ((∀ as, .start (some as) ∉ history) → c.chain.settings = f.settings) := by
  intro own alone
  have hr : Session.Replayed n (Session.ofFactory f before)
      (Session.ofFactory (f.withSettings c.chain.settings) past) history := by
    cases hn : (Session.ofFactory f before).cells[n]? with
    | none => exact Session.replayed_of_none (fun _ _ hk => by cases hk) hn hc past
    | some first =>
      have ht := Session.chain_execAll_of_some hn hc
      obtain ⟨rfl, rfl⟩ := Session.cells_ofFactory hn
      rw [ht, Chain.settings_steps, f.settings_cell]
      exact (Session.Isolated.ofFactory f before past).replayed history
  obtain ⟨cell, hs, ht⟩ := hr.isolated.cells
  cases hc.symm.trans hs
  exact ⟨ht, hr.replies, fun hh =>
    (Session.Uniform.execAll (Session.uniform_ofFactory f before) hh).cells n c hc⟩

/-- A second chain, through all that is done to a first one around it. -/
theorem chain_isolation_interleaved :
    let f := Factory.mk Generator.describe (some fun _ => [.check .required .none]) .default
    let history : List Command := [.build 0 .whole .trim, .start none,
      .build 1 .extension (.retag .string), .build 0 .context (.check .uniq .none),
      .keep 1 .context "rules", .transform 1 .whole (.string " a "), .drop 0,
      .runKept "rules" .null]
    ∃ c, (Session.after f .empty history).cells[1]? = some c ∧
      let alone := (Session.ofFactory f .empty).execAll [.build 0 .extension (.retag .string),
        .keep 0 .context "rules", .transform 0 .whole (.string " a "), .runKept "rules" .null]
      alone.1.cells[0]? = some c ∧
      alone.2.map Reply.alone = [.progress ⟨.string, 1, .none, 0⟩, .kept 1, .value (.string " a "),
        .verdicts [some ⟨"required", "Value is required"⟩] 0] := by
  intro f history
  obtain ⟨c, hc⟩ : ∃ c, (Session.after f .empty history).cells[1]? = some c := ⟨_, rfl⟩
  obtain ⟨hcell, hreplies, hsettings⟩ := chain_isolation f .empty .empty hc
  have hs : c.chain.settings = f.settings := hsettings (by simp [history])
  rw [hs] at hcell hreplies
  exact ⟨c, hc, hcell, hreplies⟩

end Assay
