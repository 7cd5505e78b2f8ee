import Assay.Proofs.Histories

/-!
# Sessions of plain rules

A generator may keep more than the validator in a rule. What it keeps beside plays no part in a
session: with validators alone in place of the rules, every command does the same and is answered
the same.
-/

namespace Assay

variable {ρ : Type} [Rule ρ]

-- ---------------------------------------------------------------------------
-- Validators in place of rules
-- ---------------------------------------------------------------------------

/-- The factory with the generator that gives the validator itself. -/
def Factory.plain (f : Factory ρ) : Factory Validator := ⟨.identity, f.extension, f.settings⟩

def Chain.plain (c : Chain ρ) : Chain Validator :=
  ⟨.identity, c.settings, c.scope, c.rules.map Rule.validator⟩

def Cell.plain (c : Cell ρ) : Cell Validator := ⟨c.chain.plain, c.notes, c.isSplit, c.isDropped⟩

def Kept.plain (k : Kept ρ) : Kept Validator := ⟨k.chain, k.rules.map Rule.validator⟩

def Session.plain (s : Session ρ) : Session Validator :=
  ⟨s.factory.plain, s.cells.map Cell.plain, s.kept.map fun (name, k) => (name, k.plain),
    s.extensionRuns, s.trace⟩

def Reply.plain : Reply ρ → Reply Validator
  | .progress p => .progress p
  | .refused why p => .refused why p
  | .verdicts vs count => .verdicts vs count
  | .validity bs count => .validity bs count
  | .value v => .value v
  | .rules rs => .rules (rs.map Rule.validator)
  | .message text count => .message text count
  | .inspected text => .inspected text
  | .kept count => .kept count
  | .started chain own shared count => .started chain own shared count
  | .dropped chain => .dropped chain
  | .notes ns => .notes ns
  | .parts ns p => .parts ns p
  | .unreadable f => .unreadable f
  | .missing => .missing

namespace Entries

variable {α β : Type} (f : α → β)

theorem get?_map (key : String) (es : Entries α) :
    get? key (es.map fun (k, a) => (k, f a)) = (es.get? key).map f := by
  induction es with
  | nil => rfl
  | cons e rest ih =>
    obtain ⟨k, a⟩ := e
    by_cases h : k = key <;> simp [get?, h, ih]

theorem map_put (key : String) (a : α) (es : Entries α) :
    (es.put key a).map (fun (k, a) => (k, f a)) =
      put key (f a) (es.map fun (k, a) => (k, f a)) := by
  induction es with
  | nil => rfl
  | cons e rest ih =>
    obtain ⟨k, a'⟩ := e
    by_cases h : k = key <;> simp [put, h, ih]

end Entries

-- ---------------------------------------------------------------------------
-- Steps and runs
-- ---------------------------------------------------------------------------

namespace Chain

theorem plain_step {c : Chain ρ} (hg : c.generator.Keeps) (s : Step) :
    c.plain.step s = ⟨(c.step s).result.plain, (c.step s).trace⟩ := by
  unfold step
  cases h : s.rule? with
  | none => cases s <;> rfl
  | some made =>
    obtain ⟨code, test, params⟩ := made
    have hr : (c.rules ++ [c.generator ⟨code, test⟩ params]).map Rule.validator =
        c.rules.map Rule.validator ++ [⟨code, test⟩] := by
      rw [List.map_append, List.map_singleton, hg]
    have hl : (c.rules.map Rule.validator).length = c.rules.length := List.length_map _
    simp only [append, plain, Traced.result_bind, Traced.trace_bind, Traced.result_pure, hr, hl]
    rfl

theorem plain_steps {c : Chain ρ} (hg : c.generator.Keeps) (ss : List Step) :
    c.plain.steps ss = ⟨(c.steps ss).result.plain, (c.steps ss).trace⟩ := by
  induction ss generalizing c with
  | nil => rfl
  | cons s rest ih =>
    have hn : (c.step s).result.generator.Keeps := by rwa [c.generator_step s]
    rw [steps, plain_step hg]
    show Traced.mk ((c.step s).result.plain.steps rest).result
      ((c.step s).trace ++ ((c.step s).result.plain.steps rest).trace) = _
    rw [ih hn]
    rfl

theorem inspect_plain (c : Chain ρ) : c.plain.inspect = c.inspect := by
  have hs : c.plain.scope = c.scope := rfl
  have hr : c.plain.rules.length = c.rules.length := List.length_map _
  unfold inspect
  rw [hs, hr]

end Chain

namespace Rule

theorem runAll_plain (rules : List ρ) (scope : Scope) (v : Value) :
    runAll (rules.map validator) scope v = runAll rules scope v := by
  induction rules with
  | nil => rfl
  | cons r rest ih =>
    rw [List.map_cons, runAll, runAll, ih]
    rfl

theorem firstFailure_plain (rules : List ρ) (scope : Scope) (v : Value) :
    firstFailure (rules.map validator) scope v = firstFailure rules scope v := by
  induction rules with
  | nil => rfl
  | cons r rest ih =>
    rw [List.map_cons, firstFailure, firstFailure, ih]
    rfl

end Rule

theorem Cell.inspect_plain (c : Cell ρ) : c.plain.inspect = c.inspect := by
  have hc : c.plain.chain.inspect = c.chain.inspect := c.chain.inspect_plain
  unfold inspect
  rw [hc]
  rfl

-- ---------------------------------------------------------------------------
-- Commands and histories
-- ---------------------------------------------------------------------------

namespace Session

/-- Every generator in it keeps the validator. -/
structure Keeps (s : Session ρ) : Prop where
  factory : s.factory.generator.Keeps
  cells : ∀ (n : Nat) (c : Cell ρ), s.cells[n]? = some c → c.chain.generator.Keeps

/-- A session with the answer to a command. -/
def plainAnswer (a : Session ρ × Reply ρ) : Session Validator × Reply Validator :=
  (a.1.plain, a.2.plain)

variable {s : Session ρ}

theorem cells_plain (s : Session ρ) (n : Nat) : s.plain.cells[n]? = s.cells[n]?.map Cell.plain :=
  List.getElem?_map

theorem cell?_plain (s : Session ρ) (n : Nat) (h : Handle) :
    s.plain.cell? n h = (s.cell? n h).map Cell.plain := by
  simp only [cell?, cells_plain]
  cases s.cells[n]? with
  | none => rfl
  | some c =>
    have hp : c.plain.reachable h = c.reachable h := rfl
    cases hr : c.reachable h <;> simp [Option.filter, hp, hr]

theorem withCell_plain {n : Nat} {h : Handle} {f : Cell ρ → Session ρ × Reply ρ}
    {g : Cell Validator → Session Validator × Reply Validator}
    (hf : ∀ c, s.cells[n]? = some c → g c.plain = plainAnswer (f c)) :
    s.plain.withCell n h g = plainAnswer (s.withCell n h f) := by
  simp only [withCell, cell?_plain]
  cases hc : s.cell? n h with
  | none => rfl
  | some c => exact hf c (cell?_eq_some_iff.mp hc).1

theorem plain_setCell (s : Session ρ) (n : Nat) (c : Cell ρ) :
    (s.setCell n c).plain = s.plain.setCell n c.plain := by
  simp only [setCell, plain, List.map_set]

theorem runRules_plain (s : Session ρ) (rules : List ρ) (scope : Scope) (mode : RunMode)
    (v : Value) : s.plain.runRules (rules.map Rule.validator) scope mode v =
      plainAnswer (s.runRules rules scope mode v) := by
  cases mode <;> simp only [runRules, Rule.runAll_plain, Rule.firstFailure_plain] <;> rfl

theorem plain_record (s : Session ρ) (t : Trace) : (s.record t).plain = s.plain.record t := rfl

theorem progress_plain (s : Session ρ) (c : Chain ρ) : s.plain.progress c.plain = s.progress c := by
  simp only [progress, Chain.plain, List.length_map]
  rfl

theorem buildStep_plain {n : Nat} {c : Cell ρ} (hg : c.chain.generator.Keeps) (step : Step) :
    s.plain.buildStep n c.plain step = plainAnswer (s.buildStep n c step) := by
  have hstep : c.plain.chain.step step =
      ⟨(c.chain.step step).result.plain, (c.chain.step step).trace⟩ := Chain.plain_step hg step
  have hset : s.plain.setCell n { c.plain with chain := (c.chain.step step).result.plain } =
      (s.setCell n { c with chain := (c.chain.step step).result }).plain :=
    (s.plain_setCell n { c with chain := (c.chain.step step).result }).symm
  simp only [buildStep, hstep, hset, ← plain_record, progress_plain]
  cases step.refusal? with
  | none => rfl
  | some why => rfl

theorem start_plain {f : Factory ρ} (hg : f.generator.Keeps) :
    f.plain.start = ⟨f.start.result.plain, f.start.trace⟩ := by
  have hs : (Chain.fresh .identity f.settings).steps (f.opening f.settings) = _ :=
    Chain.plain_steps (c := Chain.fresh f.generator f.settings) hg (f.opening f.settings)
  have ho : f.plain.opening = f.opening := rfl
  rw [Factory.start, ho]
  simp only [Factory.plain, Factory.start, hs]
  rfl

theorem startChain_plain (hg : s.factory.generator.Keeps) :
    s.plain.startChain = s.startChain.plain := by
  simp only [startChain, plain, start_plain hg, List.map_append]
  rfl

theorem startWith_plain (hg : s.factory.generator.Keeps) (settings : Traced Settings) :
    s.plain.startWith settings = plainAnswer (s.startWith settings) := by
  let t : Session ρ :=
    { s.record settings.trace with factory := { s.factory with settings := settings.result } }
  have ht : t.plain.startChain = t.startChain.plain := startChain_plain hg
  have hl : t.startChain.plain.cells.length = t.startChain.cells.length := List.length_map _
  show (t.plain.startChain, Reply.started (t.plain.startChain.cells.length - 1) settings.result
    settings.result t.plain.startChain.extensionRuns) = _
  rw [ht, hl]
  rfl

theorem exec_plain (hs : s.Keeps) (c : Command) : s.plain.exec c = plainAnswer (s.exec c) := by
  cases c with
  | build n h step => exact withCell_plain fun c hc => buildStep_plain (hs.cells n c hc) step
  | run n h mode v => exact withCell_plain fun c _ => s.runRules_plain ..
  | transform n h v => exact withCell_plain fun _ _ => rfl
  | rules n h => exact withCell_plain fun _ _ => rfl
  | resolve n h message => exact withCell_plain fun _ _ => rfl
  | inspect n => exact withCell_plain fun c _ => by rw [c.inspect_plain]; rfl
  | inspectFactory => rfl
  | keep n h name =>
    refine withCell_plain fun c _ => ?_
    have hl : c.plain.chain.rules.length = c.chain.rules.length := List.length_map _
    simp only [plainAnswer, plain, Entries.map_put, hl]
    rfl
  | runKept name v =>
    have hk : s.plain.kept.get? name = (s.kept.get? name).map Kept.plain :=
      Entries.get?_map Kept.plain name s.kept
    simp only [exec, hk]
    cases s.kept.get? name with
    | none => rfl
    | some k =>
      have hc : s.plain.cells[k.plain.chain]? = s.cells[k.chain]?.map Cell.plain :=
        s.cells_plain k.chain
      simp only [Option.map_some, hc]
      cases s.cells[k.chain]? with
      | none => rfl
      | some c => exact s.runRules_plain ..
  | start adjustments =>
    cases adjustments with
    | none => exact startWith_plain hs.factory _
    | some as =>
      simp only [exec]
      cases Settings.default.adjustAll as with
      | ok settings => exact startWith_plain hs.factory settings
      | error f => rfl
  | drop n =>
    refine withCell_plain fun c _ => ?_
    simp only [plainAnswer, plain_setCell]
    rfl
  | note n text =>
    refine withCell_plain fun c _ => ?_
    simp only [plainAnswer, plain_setCell]
    rfl
  | split n =>
    refine withCell_plain fun c _ => ?_
    have hp : s.plain.progress c.plain.chain = s.progress c.chain := s.progress_plain c.chain
    simp only [plainAnswer, plain_setCell, hp]
    rfl

theorem keeps_exec (hs : s.Keeps) (c : Command) : (s.exec c).1.Keeps where
  factory := by
    rw [(s.factory_exec c).1]
    exact hs.factory
  cells := by
    refine forall_cells_exec (P := fun chain => chain.generator.Keeps) hs.cells
      (fun chain ss hg => ?_) ?_
    · rwa [Chain.generator_steps]
    · rw [Factory.generator_cell, (s.factory_exec c).1]
      exact hs.factory

/-- The same session and, up to what rules are, the same answers. -/
theorem execAll_plain (hs : s.Keeps) (history : List Command) :
    s.plain.execAll history =
      ((s.execAll history).1.plain, (s.execAll history).2.map Reply.plain) := by
  induction history generalizing s with
  | nil => rfl
  | cons c rest ih =>
    have hc : s.plain.exec c = plainAnswer (s.exec c) := exec_plain hs c
    simp only [execAll, hc, plainAnswer, ih (keeps_exec hs c)]
    rfl

theorem ofFactory_plain {f : Factory ρ} (hg : f.generator.Keeps) (before : Trace) :
    ofFactory f.plain before = (ofFactory f before).plain :=
  startChain_plain (s := ⟨f, [], [], 0, before⟩) hg

theorem stepsOf_plain (s : Session ρ) (n : Nat) (c : Command) :
    s.plain.stepsOf n c = s.stepsOf n c := by
  cases c with
  | build m h step => simp only [stepsOf, cell?_plain, Option.isSome_map]
  | _ => rfl

theorem settingsOn_plain (s : Session ρ) (n : Nat) : s.plain.settingsOn n = s.settingsOn n := by
  simp only [settingsOn, cells_plain]
  cases s.cells[n]? with
  | none => rfl
  | some c => rfl

theorem stepsOn_plain (hs : s.Keeps) (n : Nat) (history : List Command) :
    s.plain.stepsOn n history = s.stepsOn n history := by
  induction history generalizing s with
  | nil => rfl
  | cons c rest ih =>
    have hc : s.plain.exec c = plainAnswer (s.exec c) := exec_plain hs c
    rw [stepsOn, stepsOn, stepsOf_plain, hc, plainAnswer, ih (keeps_exec hs c)]

theorem keeps_ofFactory {f : Factory ρ} (hg : f.generator.Keeps) (before : Trace) :
    (ofFactory f before).Keeps where
  factory := hg
  cells := by
    intro n c hc
    obtain ⟨_, rfl⟩ := cells_ofFactory hc
    rwa [f.generator_cell]

section after

variable {f : Factory ρ} (hg : f.generator.Keeps) (before : Trace) (history : List Command)
include hg

theorem after_plain : after f.plain before history = (after f before history).plain := by
  rw [after, ofFactory_plain hg, execAll_plain (keeps_ofFactory hg before), after]

theorem replies_plain : ((ofFactory f.plain before).execAll history).2 =
    ((ofFactory f before).execAll history).2.map Reply.plain := by
  rw [ofFactory_plain hg, execAll_plain (keeps_ofFactory hg before)]

theorem program_plain (n : Nat) :
    program f.plain before history n = program f before history n := by
  rw [program, after_plain hg, settingsOn_plain, ofFactory_plain hg,
    stepsOn_plain (keeps_ofFactory hg before), program]
  rfl

end after

end Session

end Assay
