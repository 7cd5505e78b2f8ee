import Assay.Proofs.Executions

/-!
# The log of a chain

The events of a session in the order in which they were told, taken apart by the chains that they
are about. What is left for one chain is a faithful account of it: first the rules of the extension,
then its start, then one event for each rule appended, with its place and code, one for each
execution that failed, with the failure it returned, and one for each custom transformer.
-/

namespace Assay

variable {ρ : Type}

namespace Event

/-- Code and place of a rule. -/
def appended? : Event → Option (String × Nat)
  | .ruleAppended code index => some (code, index)
  | _ => none

def failure? : Event → Option Failure
  | .ruleFailed failure => some failure
  | _ => none

end Event

def Step.installs : Step → Bool
  | .transform _ => true
  | _ => false

/-- Can tell anything. -/
def Command.isLoud : Command → Bool
  | .build _ _ _ | .start _ => true
  | c => c.runs

-- ---------------------------------------------------------------------------
-- What is written about steps and executions
-- ---------------------------------------------------------------------------

/-- The events are those of steps, on a chain that had so many rules before, and of executions, in
the order of each. -/
structure Written (steps : List Step) (count : Nat) (es : List Execution) (log : List Event) :
    Prop where
  appended : log.filterMap Event.appended? =
    ((steps.filterMap Step.listing?).map Prod.fst).zipIdx count
  failed : log.filterMap Event.failure? = es.filterMap Execution.verdict
  installed : log.count .transformerInstalled = steps.countP Step.installs
  started : ∀ kind, .chainStarted kind ∉ log
  warned : ∀ e ∈ log, e.isWarning = false

namespace Written

theorem nil (count : Nat) : Written [] count [] [] where
  appended := rfl
  failed := rfl
  installed := rfl
  started := fun _ h => nomatch h
  warned := fun _ h => nomatch h

theorem append {ss ts : List Step} {count : Nat} {ds es : List Execution} {l m : List Event}
    (hl : Written ss count ds l)
    (hm : Written ts (count + (ss.filterMap Step.listing?).length) es m) :
    Written (ss ++ ts) count (ds ++ es) (l ++ m) where
  appended := by
    rw [List.filterMap_append, hl.appended, hm.appended, List.filterMap_append, List.map_append,
      List.zipIdx_append, List.length_map]
  failed := by rw [List.filterMap_append, hl.failed, hm.failed, List.filterMap_append]
  installed := by rw [List.count_append, hl.installed, hm.installed, List.countP_append]
  started kind h := (List.mem_append.mp h).elim (hl.started kind) (hm.started kind)
  warned e h := (List.mem_append.mp h).elim (hl.warned e) (hm.warned e)

theorem rule (s : Step) {code : String} {params : Option String}
    (hs : s.listing? = some (code, params)) (hi : s.installs = false) (count : Nat) :
    Written [s] count [] [.ruleAppended code count] where
  appended := by simp [hs, Event.appended?]
  failed := rfl
  installed := by simp [hi]
  started := by simp
  warned := by simp [Event.isWarning]

theorem silent (s : Step) (hs : s.listing? = none) (hi : s.installs = false) (count : Nat) :
    Written [s] count [] [] where
  appended := by simp [hs]
  failed := rfl
  installed := by simp [hi]
  started := by simp
  warned := by simp

theorem step (s : Step) (count : Nat) : Written [s] count [] (s.events count) := by
  cases s with
  | declare d notice => exact rule _ rfl rfl count
  | check c notice => exact rule _ rfl rfl count
  | rule code judge params => exact rule _ rfl rfl count
  | patternText engine source notice =>
    cases h : engine.compile source with
    | ok p =>
      simp only [Step.events, h]
      have hs : Step.listing? (.patternText engine source notice) =
          some ("regex", notice.params) := by simp only [Step.listing?, h]
      exact rule _ hs rfl count
    | error fault =>
      simp only [Step.events, h]
      exact silent _ (by simp only [Step.listing?, h]) rfl count
  | transform f =>
    constructor
    · rfl
    · rfl
    · rfl
    · simp [Step.events]
    · simp [Step.events, Event.isWarning]
  | retag k => exact silent _ rfl rfl count
  | trim | lower | upper => exact silent _ rfl rfl count

theorem steps (ss : List Step) (count : Nat) : Written ss count [] (Step.eventsFrom count ss) := by
  induction ss generalizing count with
  | nil => exact nil count
  | cons s rest ih =>
    have hs : (([s].filterMap Step.listing?).length) = s.listing?.toList.length := by
      cases h : s.listing? <;> simp [h]
    exact (step s count).append (hs ▸ ih _)

theorem executions (es : List Execution) (count : Nat) :
    Written [] count es ((es.filterMap Execution.verdict).map .ruleFailed) where
  appended := by simp [List.filterMap_eq_nil_iff, Event.appended?]
  failed := by
    have hf : Event.failure? ∘ Event.ruleFailed = some := rfl
    rw [List.filterMap_map, hf, List.filterMap_some]
  installed := by simp [List.count_eq_zero]
  started := by simp
  warned := by
    intro e he
    obtain ⟨failure, _, rfl⟩ := List.mem_map.mp he
    rfl

theorem filter_eq_self {steps : List Step} {count : Nat} {es : List Execution} {log : List Event}
    (h : Written steps count es log) : log.filter (!·.isWarning) = log :=
  List.filter_eq_self.mpr fun e he => by rw [h.warned e he]; rfl

end Written

-- ---------------------------------------------------------------------------
-- The log taken apart
-- ---------------------------------------------------------------------------

namespace Session

/-- The chain that a command is about: the one that it names, that its rules were kept from, or that
it starts. -/
def owner? (s : Session ρ) : Command → Option Nat
  | .start _ => some s.cells.length
  | .runKept name _ => (s.kept.get? name).map Kept.chain
  | c => c.chain?

/-- The session before its first chain. -/
def unstarted (f : Factory ρ) (before : Trace) : Session ρ := ⟨f, [], [], 0, before⟩

theorem stepsOf_other {s : Session ρ} {n : Nat} {c : Command} (ho : s.owner? c ≠ some n) :
    s.stepsOf n c = [] := by
  cases c with
  | build m h step => exact stepsOf_of_ne rfl fun hn => ho (congrArg some hn.symm)
  | _ => rfl

variable [Rule ρ]

/-- The events that a command adds to those told before. -/
def adds (s : Session ρ) (c : Command) : List Event :=
  (s.exec c).1.trace.events.drop s.trace.events.length

/-- Those about a chain. Warnings are about none. -/
def addsOn (s : Session ρ) (n : Nat) (c : Command) : List Event :=
  if s.owner? c = some n then (s.adds c).filter (!·.isWarning) else []

/-- The events of a history that are about a chain. -/
def logOn (s : Session ρ) (n : Nat) : List Command → List Event
  | [] => []
  | c :: rest => s.addsOn n c ++ (s.exec c).1.logOn n rest

/-- The events about a chain from the first start on. -/
def log (f : Factory ρ) (before : Trace) (history : List Command) (n : Nat) : List Event :=
  (unstarted f before).logOn n (.start none :: history)

theorem adds_eq (s : Session ρ) (c : Command) : s.adds c = s.events c := by
  rw [adds, trace_exec, Trace.events_append, List.drop_left]
  rfl

/-- Rules are executed only of a chain that there is. -/
theorem chain_of_mem_executions {s : Session ρ} {c : Command} {e : Execution}
    (he : e ∈ s.executions c) :
    s.owner? c = some e.chain ∧ ∃ cell, s.cells[e.chain]? = some cell := by
  cases c with
  | run n h mode v =>
    simp only [executions] at he
    split at he
    · rename_i cell hc
      have hm : e ∈ Rule.executions n cell.chain.rules cell.chain.scope v := by
        cases mode with
        | first => exact Execution.mem_of_mem_upToFailure he
        | _ => exact he
      obtain ⟨r, _, rfl⟩ := List.mem_map.mp hm
      exact ⟨rfl, cell, (cell?_eq_some_iff.mp hc).1⟩
    · cases he
  | runKept name v =>
    simp only [executions] at he
    split at he
    · rename_i k hk
      split at he
      · rename_i cell hc
        obtain ⟨r, _, rfl⟩ := List.mem_map.mp he
        exact ⟨by simp [owner?, hk], cell, hc⟩
      · cases he
    · cases he
  | _ => cases he

theorem executions_own {s : Session ρ} {n : Nat} {c : Command} (ho : s.owner? c = some n) :
    (s.executions c).filter (·.chain == n) = s.executions c := by
  refine List.filter_eq_self.mpr fun e he => ?_
  have hn := ho.symm.trans (chain_of_mem_executions he).1
  exact beq_iff_eq.mpr (Option.some.inj hn).symm

theorem executions_other {s : Session ρ} {n : Nat} {c : Command} (ho : s.owner? c ≠ some n) :
    (s.executions c).filter (·.chain == n) = [] := by
  refine List.filter_eq_nil_iff.mpr fun e he hn => ho ?_
  rw [(chain_of_mem_executions he).1, eq_of_beq hn]

/-- What a command adds about a chain that is there. -/
theorem written_exec {s : Session ρ} {n : Nat} {cell : Cell ρ} (hc : s.cells[n]? = some cell)
    (c : Command) : Written (s.stepsOf n c) cell.chain.rules.length
      ((s.executions c).filter (·.chain == n)) (s.addsOn n c) := by
  have hfails (es : List Execution) : Written [] cell.chain.rules.length es
      (((es.filterMap Execution.verdict).map Event.ruleFailed).filter (!·.isWarning)) := by
    have hw := Written.executions es cell.chain.rules.length
    rwa [hw.filter_eq_self]
  by_cases ho : s.owner? c = some n
  · rw [addsOn, if_pos ho, adds_eq, executions_own ho]
    cases c with
    | build m h step =>
      obtain rfl : m = n := Option.some.inj ho
      cases hf : s.cell? m h with
      | none =>
        have hs : s.stepsOf m (.build m h step) = [] := by simp [stepsOf, hf]
        simp only [hs, events, hf]
        exact .nil _
      | some found =>
        cases hc.symm.trans (cell?_eq_some_iff.mp hf).1
        have hw := Written.step step cell.chain.rules.length
        simp only [stepsOf_build hf, events, hf, hw.filter_eq_self]
        exact hw
    | start settings =>
      have hn : n < s.cells.length := (List.getElem?_eq_some_iff.mp hc).1
      have hl : s.cells.length = n := Option.some.inj ho
      omega
    | _ => exact hfails _
  · rw [addsOn, if_neg ho, executions_other ho, stepsOf_other ho]
    exact .nil _

theorem written_execAll {s : Session ρ} {n : Nat} {cell : Cell ρ} (hc : s.cells[n]? = some cell)
    (history : List Command) : Written (s.stepsOn n history) cell.chain.rules.length
      ((s.executionsOn history).filter (·.chain == n)) (s.logOn n history) := by
  induction history generalizing s cell with
  | nil => exact .nil _
  | cons c rest ih =>
    obtain ⟨mid, hm, hs, _⟩ := cells_exec_of_some hc c
    have hl : mid.chain.rules.length =
        cell.chain.rules.length + ((s.stepsOf n c).filterMap Step.listing?).length := by
      rw [hs, Chain.length_rules_steps]
    rw [stepsOn, executionsOn, logOn, List.filter_append]
    exact (written_exec hc c).append (hl ▸ ih hm)

-- ---------------------------------------------------------------------------
-- The start of a chain
-- ---------------------------------------------------------------------------

theorem executions_of_none {s : Session ρ} {n : Nat} (hn : s.cells[n]? = none) (c : Command) :
    (s.executions c).filter (·.chain == n) = [] := by
  refine List.filter_eq_nil_iff.mpr fun e he hchain => ?_
  obtain ⟨_, cell, hc⟩ := chain_of_mem_executions he
  rw [eq_of_beq hchain, hn] at hc
  cases hc

omit [Rule ρ] in
theorem filter_startEvents (f : Factory ρ) :
    f.startEvents.filter (!·.isWarning) = f.startEvents := by
  rw [Factory.startEvents, List.filter_append, (Written.steps _ 0).filter_eq_self]
  rfl

theorem length_cells_exec (s : Session ρ) {c : Command} (h : ∀ as, c ≠ .start as) :
    (s.exec c).1.cells.length = s.cells.length := by
  have hcell {n : Nat} {h : Handle} {f : Cell ρ → Session ρ × Reply ρ}
      (hf : ∀ cell, (f cell).1.cells.length = s.cells.length) :
      (s.withCell n h f).1.cells.length = s.cells.length := by
    unfold withCell
    cases s.cell? n h with
    | none => rfl
    | some cell => exact hf cell
  cases c with
  | build n handle step =>
    refine hcell fun cell => ?_
    simp only [buildStep]
    cases step.refusal? <;> exact List.length_set
  | run n handle mode v =>
    refine hcell fun cell => ?_
    rw [s.runRules_eq n]
    rfl
  | runKept name v =>
    simp only [exec]
    split
    · split
      · rw [s.runRules_eq 0]
        rfl
      · rfl
    · rfl
  | start as => exact absurd rfl (h as)
  | inspectFactory => rfl
  | drop | note | split => exact hcell fun _ => List.length_set
  | transform | rules | resolve | inspect | keep => exact hcell fun _ => rfl

theorem idle_of_none {s : Session ρ} {n : Nat} (hn : s.cells[n]? = none) {c : Command}
    (hc : ∀ as, c ≠ .start as) : (s.exec c).1.cells[n]? = none ∧ s.addsOn n c = [] := by
  have hlen : s.cells.length ≤ n := List.getElem?_eq_none_iff.mp hn
  refine ⟨List.getElem?_eq_none_iff.mpr (by rwa [length_cells_exec s hc]), ?_⟩
  by_cases ho : s.owner? c = some n
  · have hx := (executions_own ho).symm.trans (executions_of_none hn c)
    have he : s.events c = [] := by
      cases c with
      | build m h step =>
        obtain rfl : m = n := Option.some.inj ho
        simp [events, cell?, hn]
      | start as => exact absurd rfl (hc as)
      | _ => exact congrArg (fun es => (es.filterMap Execution.verdict).map Event.ruleFailed) hx
    rw [addsOn, if_pos ho, adds_eq, he]
    rfl
  · exact if_neg ho

/-- Either the chain is started by the command, or the command is about another or none. -/
def StartsOrIdle (s : Session ρ) (n : Nat) (c : Command) : Prop :=
  (s.exec c).1.cells[n]? = none ∧ s.addsOn n c = [] ∨
  ∃ new, (s.exec c).1.cells[n]? = some new ∧ s.addsOn n c =
    Step.eventsFrom 0 (s.factory.opening new.chain.settings) ++
      [.chainStarted new.chain.settings.kind]

/-- Warnings come before what the start itself tells, and are about no chain. -/
theorem startsOrIdle_start {s : Session ρ} {n : Nat} (hn : s.cells[n]? = none)
    {as : Option (List Settings.Adjustment)} {settings : Traced Settings}
    (hw : settings.trace.Warns) (hx : s.exec (.start as) = s.startWith settings)
    (he : s.events (.start as) = settings.trace.events ++
      Factory.startEvents { s.factory with settings := settings.result }) :
    s.StartsOrIdle n (.start as) := by
  have hlen : s.cells.length ≤ n := List.getElem?_eq_none_iff.mp hn
  let g : Factory ρ := { s.factory with settings := settings.result }
  have hcells : (s.exec (.start as)).1.cells = s.cells ++ [g.cell] := by
    rw [hx]
    rfl
  by_cases hl : s.cells.length = n
  · have ho : s.owner? (.start as) = some n := congrArg some hl
    have hwarn : settings.trace.events.filter (!·.isWarning) = [] :=
      List.filter_eq_nil_iff.mpr fun e he => by simp [hw.events e he]
    refine .inr ⟨g.cell, by rw [hcells, ← hl, List.getElem?_concat_length], ?_⟩
    rw [addsOn, if_pos ho, adds_eq, he, List.filter_append, hwarn, List.nil_append,
      filter_startEvents, g.settings_cell]
    rfl
  · refine .inl ⟨?_, if_neg fun ho => hl (Option.some.inj ho)⟩
    rw [hcells, List.getElem?_eq_none_iff, List.length_append, List.length_singleton]
    omega

theorem startsOrIdle_of_none {s : Session ρ} {n : Nat} (hn : s.cells[n]? = none) (c : Command) :
    s.StartsOrIdle n c := by
  cases c with
  | start as =>
    cases as with
    | none => exact startsOrIdle_start hn .empty rfl rfl
    | some as =>
      cases ha : Settings.default.adjustAll as with
      | ok settings =>
        have hx : s.exec (.start (some as)) = s.startWith settings := by simp only [exec, ha]
        have he : s.events (.start (some as)) = settings.trace.events ++
            Factory.startEvents { s.factory with settings := settings.result } := by
          simp only [events, ha]
        exact startsOrIdle_start hn (Settings.warns_adjustAll ha) hx he
      | error f =>
        have hx : (s.exec (.start (some as))).1 = s := by simp only [exec, ha]
        exact .inl ⟨by rw [hx, hn], by simp [addsOn, adds_eq, events, ha]⟩
  | _ => exact .inl (idle_of_none hn fun _ h => by cases h)

/-- The log of a chain that a history starts: first the rules of the extension, then the start. -/
theorem logOn_of_none {s : Session ρ} {n : Nat} {cell : Cell ρ} {history : List Command}
    (hn : s.cells[n]? = none) (hc : (s.execAll history).1.cells[n]? = some cell) :
    ∃ later, s.logOn n history = Step.eventsFrom 0 (s.factory.opening cell.chain.settings) ++
        .chainStarted cell.chain.settings.kind :: later ∧
      Written (s.stepsOn n history)
        ((s.factory.opening cell.chain.settings).filterMap Step.listing?).length
        ((s.executionsOn history).filter (·.chain == n)) later := by
  induction history generalizing s with
  | nil => cases hn.symm.trans hc
  | cons c rest ih =>
    obtain ⟨hs, hstart⟩ := cells_exec_of_none hn c
    rw [logOn, stepsOn, executionsOn, hs, List.nil_append, List.filter_append,
      executions_of_none hn, List.nil_append, ← Factory.opening_congr (s.factory_exec c).2]
    rcases startsOrIdle_of_none hn c with ⟨hm, ha⟩ | ⟨mid, hm, ha⟩
    · rw [ha, List.nil_append]
      exact ih hm hc
    · have hw := written_execAll hm rest
      have hset : cell.chain.settings = mid.chain.settings := by
        rw [chain_execAll_of_some hm hc, Chain.settings_steps]
      refine ⟨(s.exec c).1.logOn n rest, ?_, ?_⟩
      · rw [ha, hset, Factory.opening_congr (s.factory_exec c).2, List.append_assoc]
        rfl
      · have hl : mid.chain.rules.length =
            (((s.exec c).1.factory.opening mid.chain.settings).filterMap
              Step.listing?).length := by
          rw [(hstart mid hm).2, Factory.cell_chain, Chain.length_rules_steps, Factory.settings_cell,
            Chain.settings_steps]
          exact Nat.zero_add _
        rw [hset, ← hl]
        exact hw

-- ---------------------------------------------------------------------------
-- The account of a chain
-- ---------------------------------------------------------------------------

/-- What a command adds to the log of a session. -/
structure Logged (s : Session ρ) (c : Command) : Prop where
  grows : (s.exec c).1.trace.events = s.trace.events ++ s.adds c
  step : ∀ n h step cell, c = .build n h step → s.cell? n h = some cell →
    s.adds c = step.events cell.chain.rules.length
  silent : c.isLoud = false → s.adds c = []
  /-- Exactly the failures of the answer, in its order. -/
  verdicts : ∀ vs, c.runs = true → (s.exec c).2.verdicts? = some vs →
    s.adds c = (vs.filterMap id).map .ruleFailed
  validity : ∀ bs count, c.runs = true → (s.exec c).2 = .validity bs count →
    (s.adds c).length = bs.count false

theorem adds_of_runs (s : Session ρ) {c : Command} (h : c.runs = true) :
    s.adds c = ((s.executions c).filterMap Execution.verdict).map .ruleFailed := by
  rw [adds_eq]
  cases c <;> first | rfl | cases h

theorem verdicts_logged (s : Session ρ) {c : Command} (h : c.runs = true) {vs : List Verdict}
    (hv : (s.exec c).2.verdicts? = some vs) : s.adds c = (vs.filterMap id).map .ruleFailed := by
  rw [adds_of_runs s h]
  rcases s.reply_of_runs h with hm | ⟨mode, es, he, hr⟩
  · rw [hm] at hv
    cases hv
  · rw [hr] at hv
    rw [he, RunMode.filterMap_verdicts?_tell hv]

theorem validity_logged (s : Session ρ) {c : Command} (h : c.runs = true) {bs : List Bool}
    {count : Nat} (hv : (s.exec c).2 = .validity bs count) :
    (s.adds c).length = bs.count false := by
  rw [adds_of_runs s h, List.length_map]
  rcases s.reply_of_runs h with hm | ⟨mode, es, he, hr⟩
  · rw [hm] at hv
    cases hv
  · rw [hr] at hv
    rw [he, RunMode.count_validity_tell hv]

theorem logged (s : Session ρ) (c : Command) : s.Logged c where
  grows := by
    rw [adds_eq, trace_exec]
    rfl
  step := by
    rintro n h step cell rfl hc
    simp only [adds_eq, events, hc]
  silent hc := by
    rw [adds_eq]
    cases c <;> first | rfl | cases hc
  verdicts _ h := s.verdicts_logged h
  validity _ _ h := s.validity_logged h

/-- What the log of a chain says after a history. -/
structure Faithful (f : Factory ρ) (before : Trace) (history : List Command) (n : Nat)
    (cell : Cell ρ) : Prop where
  /-- The steps of the extension come before the start, and there is one start. -/
  start : ∃ later, log f before history n =
      Step.eventsFrom 0 (f.opening cell.chain.settings) ++
        .chainStarted cell.chain.settings.kind :: later ∧
    ∀ kind, .chainStarted kind ∉ Step.eventsFrom 0 (f.opening cell.chain.settings) ∧
      .chainStarted kind ∉ later
  /-- Every rule of the list, with its place. -/
  appended : (log f before history n).filterMap Event.appended? =
    (cell.chain.rules.map Rule.code).zipIdx
  codes : cell.chain.rules.map Rule.code =
    ((program f before history n).filterMap Step.listing?).map Prod.fst
  listed : ∀ h, cell.reachable h = true →
    ((after f before history).exec (.rules n h)).2 = .rules cell.chain.rules
  failed : (log f before history n).filterMap Event.failure? =
    (((ofFactory f before).executionsOn history).filter (·.chain == n)).filterMap Execution.verdict
  installed : (log f before history n).count .transformerInstalled =
    (program f before history n).countP Step.installs

omit [Rule ρ] in
theorem startChain_unstarted (f : Factory ρ) (before : Trace) :
    ((unstarted f before).startWith (pure f.settings)).1 = ofFactory f before := by
  have hr : (unstarted f before).record .empty = unstarted f before :=
    congrArg (Session.mk f [] [] 0) (Trace.append_empty before)
  show ((unstarted f before).record .empty).startChain = _
  rw [hr]
  rfl

theorem exec_start_unstarted (f : Factory ρ) (before : Trace) :
    ((unstarted f before).exec (.start none)).1 = ofFactory f before :=
  startChain_unstarted f before

/-- The log of a chain is the account of its extension, its start, and the account of all that a
history does to it. -/
theorem log_after {f : Factory ρ} {before : Trace} {history : List Command} {n : Nat}
    {cell : Cell ρ} (hc : (after f before history).cells[n]? = some cell) :
    ∃ later, log f before history n =
        Step.eventsFrom 0 (f.opening cell.chain.settings) ++
          .chainStarted cell.chain.settings.kind :: later ∧
      Written ((ofFactory f before).stepsOn n history)
        ((f.opening cell.chain.settings).filterMap Step.listing?).length
        (((ofFactory f before).executionsOn history).filter (·.chain == n)) later := by
  have hx := exec_start_unstarted f before
  have hafter : ((unstarted f before).execAll (.start none :: history)).1.cells[n]? =
      some cell := by
    rw [← hc, after, ← hx]
    rfl
  obtain ⟨later, hlog, hw⟩ := logOn_of_none (s := unstarted f before) (n := n) rfl hafter
  refine ⟨later, hlog, ?_⟩
  rw [← hx]
  exact hw

theorem faithful {f : Factory ρ} (hg : f.generator.Keeps) {before : Trace}
    {history : List Command} {n : Nat} {cell : Cell ρ}
    (hc : (after f before history).cells[n]? = some cell) : Faithful f before history n cell := by
  obtain ⟨later, hlog, hw⟩ := log_after hc
  have hext := Written.steps (f.opening cell.chain.settings) 0
  have hall : Written (program f before history n) 0
      (((ofFactory f before).executionsOn history).filter (·.chain == n))
      (Step.eventsFrom 0 (f.opening cell.chain.settings) ++ later) := by
    rw [← Nat.zero_add ((f.opening cell.chain.settings).filterMap Step.listing?).length] at hw
    rw [program_of_cell hc]
    exact hext.append hw
  -- the start is neither a rule, nor a failure, nor a transformer
  constructor
  · exact ⟨later, hlog, fun kind => ⟨hext.started kind, hw.started kind⟩⟩
  · rw [codes_after hg hc, ← hall.appended, hlog, List.filterMap_append, List.filterMap_append]
    rfl
  · exact codes_after hg hc
  · intro h hr
    rw [read_after hc hr]
  · rw [← hall.failed, hlog, List.filterMap_append, List.filterMap_append]
    rfl
  · rw [← hall.installed, hlog]
    simp

/-- The log of every chain of a session is faithful after every history, and every command adds to
the log of the session what it does, and nothing else. -/
theorem event_log_faithful {f : Factory ρ} (hg : f.generator.Keeps) {before : Trace}
    {history : List Command} {n : Nat} {cell : Cell ρ}
    (hc : (after f before history).cells[n]? = some cell) :
    Faithful f before history n cell ∧ ∀ c, (after f before history).Logged c :=
  ⟨faithful hg hc, logged _⟩

end Session

/-- A second chain, whose rule of its own fails with another code than it is listed under. -/
theorem event_log_faithful_interleaved :
    let f := Factory.mk Generator.describe (some fun _ => [.check .required .none]) .default
    let history : List Command := [.build 0 .whole (.check .uniq .none), .start none,
      .build 1 .extension (.rule "own" (fun _ => some ⟨"other", "text"⟩) none),
      .build 1 .whole (.patternText Pattern.engine "(" .none), .run 0 .whole .verdicts .null,
      .build 1 .context (.transform id), .run 1 .whole .verdicts (.string "a")]
    (Session.log f .empty history 1).filterMap Event.appended? = [("required", 0), ("own", 1)] ∧
      (Session.log f .empty history 1).filterMap Event.failure? = [⟨"other", "text"⟩] := by
  intro f history
  obtain ⟨cell, hc⟩ : ∃ c, (Session.after f .empty history).cells[1]? = some c := ⟨_, rfl⟩
  obtain ⟨h, -⟩ := Session.event_log_faithful Generator.describe_keeps hc
  have hp : (Session.program f .empty history 1).filterMap Step.listing? =
    [("required", none), ("own", none)] := by decide +kernel
  have he : ((((Session.ofFactory f .empty).executionsOn history).filter
      (·.chain == 1)).filterMap Execution.verdict) = [⟨"other", "text"⟩] := by decide +kernel
  exact ⟨by rw [h.appended, h.codes, hp]; rfl, h.failed.trans he⟩

end Assay
