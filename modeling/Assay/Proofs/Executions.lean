import Assay.Proofs.RuleList

/-!
# Executions of rules

What commands leave behind beside their answers. A command executes rules of one chain in their
order, all of them or those up to the first that fails. Only the executions that fail leave
something: an event each, and a run of the message if it is deferred. Building steps leave the
events of the steps.
-/

namespace Assay

variable {ρ : Type}

/-- The message that a rule was given. -/
def Test.message? : Test → Option Message
  | .declared _ message | .checked _ message => message
  | .custom _ => none

/-- One run of a rule of a chain, with the verdict that it came to. -/
structure Execution where
  chain : Nat
  rule : Validator
  verdict : Verdict

namespace Execution

/-- Failed, and has a deferred message to tell. -/
def tellsDeferred (e : Execution) : Bool :=
  e.verdict.isSome && e.rule.test.message?.any Message.isDeferred

/-- What executions leave behind. -/
def trace (es : List Execution) : Trace :=
  ⟨(es.filterMap verdict).map .ruleFailed, es.countP tellsDeferred⟩

/-- The executions up to the first that fails. -/
def upToFailure : List Execution → List Execution
  | [] => []
  | e :: rest => if e.verdict.isSome then [e] else e :: upToFailure rest

theorem trace_cons (e : Execution) (es : List Execution) :
    trace (e :: es) = trace [e] ++ trace es := by
  cases h : e.verdict with
  | none => ext1 <;> simp [trace, h, List.countP_cons, Nat.add_comm]
  | some failure => ext1 <;> simp [trace, h, List.countP_cons, Nat.add_comm]

theorem findSome?_upToFailure (es : List Execution) :
    (upToFailure es).findSome? verdict = es.findSome? verdict := by
  induction es with
  | nil => rfl
  | cons e rest ih => cases h : e.verdict <;> simp [upToFailure, h, ih]

/-- At most the last one failed. -/
theorem filterMap_upToFailure (es : List Execution) :
    (upToFailure es).filterMap verdict = (es.findSome? verdict).toList := by
  induction es with
  | nil => rfl
  | cons e rest ih => cases h : e.verdict <;> simp [upToFailure, h, ih]

theorem mem_of_mem_upToFailure {e : Execution} {es : List Execution} (h : e ∈ upToFailure es) :
    e ∈ es := by
  induction es with
  | nil => exact h
  | cons d rest ih =>
    rw [upToFailure] at h
    split at h
    · exact List.mem_singleton.mp h ▸ List.mem_cons_self
    · rcases List.mem_cons.mp h with rfl | h
      · exact List.mem_cons_self
      · exact List.mem_cons_of_mem _ (ih h)

end Execution

-- ---------------------------------------------------------------------------
-- Rules
-- ---------------------------------------------------------------------------

theorem Message.trace_resolve (m : Message) :
    m.resolve.trace = ⟨[], if m.isDeferred then 1 else 0⟩ := by
  cases m <;> rfl

/-- Only a failure has its message resolved, and only once. -/
theorem Test.trace_verdict (t : Test) (scope : Scope) (v : Value) :
    (t.verdict scope v).trace = ⟨[], if (t.verdict scope v).result.isSome &&
      t.message?.any Message.isDeferred then 1 else 0⟩ := by
  cases t with
  | declared d message =>
    cases message with
    | none => rfl
    | some m =>
      cases h : d.accepts v with
      | true => simp [verdict, h, Trace.empty]
      | false => simp [verdict, h, message?, Message.trace_resolve]
  | checked c message =>
    cases h : c.fails scope v with
    | false => simp [verdict, h, Trace.empty]
    | true =>
      cases message with
      | none =>
        simp [verdict, h, failureText, message?]
        rfl
      | some m => simp [verdict, h, failureText, message?, Message.trace_resolve]
  | custom judge => simp [verdict, message?, Trace.empty]

/-- A run leaves behind what its verdict asks for, and nothing else. -/
theorem Validator.trace_run (x : Validator) (n : Nat) (scope : Scope) (v : Value) :
    (x.run scope v).trace = Execution.trace [⟨n, x, (x.run scope v).result⟩] := by
  rw [result_run]
  simp only [run, Traced.trace_bind, Test.trace_verdict]
  cases (x.test.verdict scope (scope.transform v)).result with
  | none => rfl
  | some failure => ext1 <;> simp [Execution.trace, Execution.tellsDeferred, Traced.emit]

namespace Rule

variable [Rule ρ]

/-- Every rule of the list executed. -/
def executions (n : Nat) (rules : List ρ) (scope : Scope) (v : Value) : List Execution :=
  rules.map fun r => ⟨n, validator r, (run r scope v).result⟩

theorem trace_run (r : ρ) (n : Nat) (scope : Scope) (v : Value) :
    (run r scope v).trace = Execution.trace [⟨n, validator r, (run r scope v).result⟩] :=
  (validator r).trace_run n scope v

theorem trace_runAll (n : Nat) (rules : List ρ) (scope : Scope) (v : Value) :
    (runAll rules scope v).trace = Execution.trace (executions n rules scope v) := by
  induction rules with
  | nil => rfl
  | cons r rest ih =>
    rw [executions, List.map_cons, Execution.trace_cons, ← executions, ← ih, ← trace_run]
    simp only [runAll, Traced.trace_bind, Traced.trace_pure, Trace.append_empty]

theorem result_firstFailure (n : Nat) (rules : List ρ) (scope : Scope) (v : Value) :
    (firstFailure rules scope v).result =
      (executions n rules scope v).findSome? Execution.verdict := by
  induction rules with
  | nil => rfl
  | cons r rest ih =>
    cases h : (run r scope v).result <;> simp_all [firstFailure, executions]

theorem trace_firstFailure (n : Nat) (rules : List ρ) (scope : Scope) (v : Value) :
    (firstFailure rules scope v).trace =
      Execution.trace (Execution.upToFailure (executions n rules scope v)) := by
  induction rules with
  | nil => rfl
  | cons r rest ih =>
    have hr := trace_run r n scope v
    simp only [firstFailure, Traced.trace_bind, executions, List.map_cons, Execution.upToFailure]
    cases h : (run r scope v).result with
    | none =>
      rw [h] at hr
      rw [hr, ih]
      exact (Execution.trace_cons _ _).symm
    | some failure =>
      rw [h] at hr
      rw [hr]
      exact Trace.append_empty _

end Rule

-- ---------------------------------------------------------------------------
-- Steps
-- ---------------------------------------------------------------------------

namespace Step

/-- The events of a step on a chain that has so many rules. -/
def events (count : Nat) : Step → List Event
  | .declare d _ => [.ruleAppended d.code count]
  | .check c _ => [.ruleAppended c.code count]
  | .patternText engine source _ =>
    match engine.compile source with
    | .ok _ => [.ruleAppended "regex" count]
    | .error _ => []
  | .rule code _ _ => [.ruleAppended code count]
  | .transform _ => [.transformerInstalled]
  | .retag _ | .trim | .lower | .upper => []

/-- The events of steps in turn. -/
def eventsFrom (count : Nat) : List Step → List Event
  | [] => []
  | s :: rest => s.events count ++ eventsFrom (count + s.listing?.toList.length) rest

end Step

namespace Chain

theorem trace_step (c : Chain ρ) (s : Step) : (c.step s).trace = ⟨s.events c.rules.length, 0⟩ := by
  cases s with
  | patternText engine source notice =>
    simp only [step, Step.rule?, Step.events]
    cases engine.compile source with
    | ok p => rfl
    | error fault => rfl
  | _ => rfl

theorem length_rules_step (c : Chain ρ) (s : Step) :
    (c.step s).result.rules.length = c.rules.length + s.listing?.toList.length := by
  rw [rules_step, List.length_append, made?, Step.listing?_eq]
  cases s.rule? <;> rfl

theorem length_rules_steps (c : Chain ρ) (ss : List Step) :
    (c.steps ss).result.rules.length = c.rules.length + (ss.filterMap Step.listing?).length := by
  have hm : (fun s => (c.made? s).isSome) = fun s => s.listing?.isSome := by
    funext s
    rw [made?, Step.listing?_eq, Option.isSome_map, Option.isSome_map]
  rw [rules_steps, List.length_append, List.length_filterMap_eq_countP,
    List.length_filterMap_eq_countP, hm]

theorem trace_steps (c : Chain ρ) (ss : List Step) :
    (c.steps ss).trace = ⟨Step.eventsFrom c.rules.length ss, 0⟩ := by
  induction ss generalizing c with
  | nil => rfl
  | cons s rest ih =>
    rw [steps, Traced.trace_bind, ih, trace_step, length_rules_step]
    rfl

end Chain

/-- The events of a start: first those of the extension. -/
def Factory.startEvents (f : Factory ρ) : List Event :=
  Step.eventsFrom 0 (f.opening f.settings) ++ [.chainStarted f.settings.kind]

theorem Factory.trace_start (f : Factory ρ) : f.start.trace = ⟨f.startEvents, 0⟩ := by
  rw [start, Traced.trace_bind, Chain.trace_steps]
  rfl

-- ---------------------------------------------------------------------------
-- Settings
-- ---------------------------------------------------------------------------

/-- Told when settings are read, and not by a chain. -/
def Event.isWarning : Event → Bool
  | .kindIgnored _ | .lengthModeIgnored _ => true
  | _ => false

/-- Warnings, and nothing else. -/
structure Trace.Warns (t : Trace) : Prop where
  events : ∀ e ∈ t.events, e.isWarning = true
  deferredRuns : t.deferredRuns = 0

theorem Trace.Warns.empty : Trace.empty.Warns where
  events := fun _ he => nomatch he
  deferredRuns := rfl

theorem Trace.Warns.append {t u : Trace} (ht : t.Warns) (hu : u.Warns) : (t ++ u).Warns where
  events e he := (List.mem_append.mp he).elim (ht.events e) (hu.events e)
  deferredRuns := by rw [deferredRuns_append, ht.deferredRuns, hu.deferredRuns]

namespace Settings

theorem warns_readVariable {α : Type} (read? : String → Option α) {ignored : String → Event}
    (hi : ∀ raw, (ignored raw).isWarning = true) (fallback : α) (raw : Option String) :
    (readVariable read? ignored fallback raw).trace.Warns := by
  cases raw with
  | none => exact .empty
  | some raw =>
    simp only [readVariable]
    cases read? raw with
    | some a => exact .empty
    | none => exact ⟨fun e he => List.mem_singleton.mp he ▸ hi raw, rfl⟩

theorem warns_adjust {s : Settings} {a : Adjustment} {t : Traced Settings}
    (h : s.adjust a = .ok t) : t.trace.Warns := by
  cases a with
  | json text =>
    simp only [adjust] at h
    cases hr : ofJsonText text with
    | error f => simp [hr, bind, Except.bind] at h
    | ok settings =>
      rw [hr] at h
      cases h
      exact .empty
  | utf16 | kind k | lengths m =>
    cases h
    exact .empty
  | _ =>
    -- left are the variables, read in turn
    cases h
    refine .append (warns_readVariable _ (fun _ => rfl) _ _) (.append ?_ .empty)
    exact warns_readVariable _ (fun _ => rfl) _ _

theorem warns_adjustAll {s : Settings} {as : List Adjustment} {t : Traced Settings}
    (h : s.adjustAll as = .ok t) : t.trace.Warns := by
  induction as generalizing s t with
  | nil =>
    cases h
    exact .empty
  | cons a rest ih =>
    simp only [adjustAll] at h
    cases hf : s.adjust a with
    | error f => simp [hf, bind, Except.bind] at h
    | ok first =>
      rw [hf] at h
      cases hl : first.result.adjustAll rest with
      | error f => simp [hl, bind, Except.bind] at h
      | ok last =>
        simp only [hl, bind, Except.bind, pure, Except.pure, Except.ok.injEq] at h
        exact h ▸ (warns_adjust hf).append (ih hl)

end Settings

-- ---------------------------------------------------------------------------
-- Commands
-- ---------------------------------------------------------------------------

/-- Runs rules. -/
def Command.runs : Command → Bool
  | .run _ _ _ _ | .runKept _ _ => true
  | _ => false

/-- Which of the rules are executed. -/
def RunMode.reach : RunMode → List Execution → List Execution
  | .first, es => Execution.upToFailure es
  | .verdicts, es | .validity, es => es

/-- What is told of the executions. -/
def RunMode.tell (deferredRuns : Nat) (es : List Execution) : RunMode → Reply ρ
  | .verdicts => .verdicts (es.map Execution.verdict) deferredRuns
  | .validity => .validity (es.map (·.verdict.isNone)) deferredRuns
  | .first => .verdicts [es.findSome? Execution.verdict] deferredRuns

namespace RunMode

variable {mode : RunMode} {es : List Execution} {deferredRuns : Nat}

/-- The failures told are those of the executions. -/
theorem filterMap_verdicts?_tell {vs : List Verdict}
    (h : (tell deferredRuns (mode.reach es) mode : Reply ρ).verdicts? = some vs) :
    vs.filterMap id = (mode.reach es).filterMap Execution.verdict := by
  cases mode with
  | verdicts =>
    cases h
    rw [List.filterMap_map]
    rfl
  | validity => cases h
  | first =>
    cases h
    rw [reach, Execution.filterMap_upToFailure, Execution.findSome?_upToFailure]
    cases es.findSome? Execution.verdict <;> rfl

theorem count_validity_tell {bs : List Bool} {count : Nat}
    (h : (tell deferredRuns es mode : Reply ρ) = .validity bs count) :
    bs.count false = (es.filterMap Execution.verdict).length := by
  cases mode with
  | validity =>
    cases h
    rw [List.count_eq_countP, List.countP_map, List.length_filterMap_eq_countP]
    refine List.countP_congr fun e _ => ?_
    cases hv : e.verdict <;> simp [hv]
  | _ => cases h

end RunMode

namespace Session

theorem trace_startWith (s : Session ρ) (settings : Traced Settings) (hw : settings.trace.Warns) :
    (s.startWith settings).1.trace = s.trace ++ ⟨settings.trace.events ++
      Factory.startEvents { s.factory with settings := settings.result }, 0⟩ := by
  have ht : (s.startWith settings).1.trace = s.trace ++ settings.trace ++
      (Factory.start { s.factory with settings := settings.result }).trace := rfl
  rw [ht, Factory.trace_start, Trace.append_assoc]
  congr 1
  ext1
  · rfl
  · exact hw.deferredRuns

theorem trace_withCell {s : Session ρ} {n : Nat} {h : Handle} {f : Cell ρ → Session ρ × Reply ρ}
    {t : Trace} (hn : s.cell? n h = none → t = .empty)
    (hf : ∀ c, s.cell? n h = some c → (f c).1.trace = s.trace ++ t) :
    (s.withCell n h f).1.trace = s.trace ++ t := by
  unfold withCell
  cases hc : s.cell? n h with
  | none => rw [hn hc, Trace.append_empty]
  | some c => exact hf c hc

/-- How many deferred messages a command resolves by itself. -/
def resolutions (s : Session ρ) : Command → Nat
  | .resolve n h (some message) => if (s.cell? n h).isSome && message.isDeferred then 1 else 0
  | _ => 0

theorem resolutions_eq_zero (s : Session ρ) {c : Command}
    (h : ∀ n handle message, c ≠ .resolve n handle message) : s.resolutions c = 0 := by
  cases c with
  | resolve n handle message => exact absurd rfl (h n handle message)
  | _ => rfl

variable [Rule ρ]

/-- The executions of rules in a command. -/
def executions (s : Session ρ) : Command → List Execution
  | .run n h mode v =>
    match s.cell? n h with
    | some c => mode.reach (Rule.executions n c.chain.rules c.chain.scope v)
    | none => []
  | .runKept name v =>
    match s.kept.get? name with
    | some k =>
      match s.cells[k.chain]? with
      | some c => Rule.executions k.chain k.rules c.chain.scope v
      | none => []
    | none => []
  | _ => []

/-- The events of a command. -/
def events (s : Session ρ) : Command → List Event
  | .build n h step =>
    match s.cell? n h with
    | some c => step.events c.chain.rules.length
    | none => []
  | .start none => s.factory.startEvents
  | .start (some adjustments) =>
    match Settings.default.adjustAll adjustments with
    | .ok settings =>
      settings.trace.events ++ Factory.startEvents { s.factory with settings := settings.result }
    | .error _ => []
  | c => ((s.executions c).filterMap Execution.verdict).map .ruleFailed

/-- What a command leaves behind. -/
def leaves (s : Session ρ) (c : Command) : Trace :=
  ⟨s.events c, (s.executions c).countP Execution.tellsDeferred + s.resolutions c⟩

theorem executions_of_not_runs (s : Session ρ) {c : Command} (h : c.runs = false) :
    s.executions c = [] := by
  cases c <;> first | rfl | cases h

theorem runRules_eq (s : Session ρ) (n : Nat) (rules : List ρ) (scope : Scope) (mode : RunMode)
    (v : Value) :
    let es := mode.reach (Rule.executions n rules scope v)
    s.runRules rules scope mode v =
      (s.record (Execution.trace es),
        mode.tell (s.record (Execution.trace es)).deferredRuns es) := by
  cases mode with
  | verdicts =>
    have hr := Rule.result_runAll rules scope v
    simp only [runRules, RunMode.reach, RunMode.tell, Rule.trace_runAll n, hr, Rule.executions,
      List.map_map]
    rfl
  | validity =>
    have hr := Rule.result_runAll rules scope v
    simp only [runRules, RunMode.reach, RunMode.tell, Rule.trace_runAll n, hr, Rule.executions,
      List.map_map]
    rfl
  | first =>
    simp only [runRules, RunMode.reach, RunMode.tell, Rule.trace_firstFailure n,
      Rule.result_firstFailure n, Execution.findSome?_upToFailure]

theorem trace_exec (s : Session ρ) (c : Command) : (s.exec c).1.trace = s.trace ++ s.leaves c := by
  cases c with
  | build n h step =>
    refine trace_withCell (fun hn => ?_) fun cell hc => ?_
    · simp only [leaves, events, hn]
      rfl
    · have hl : s.leaves (.build n h step) = (cell.chain.step step).trace := by
        rw [Chain.trace_step]
        simp only [leaves, events, hc]
        rfl
      rw [hl]
      simp only [buildStep]
      cases step.refusal? <;> rfl
  | run n h mode v =>
    refine trace_withCell (fun hn => ?_) fun cell hc => ?_
    · simp only [leaves, events, executions, hn]
      rfl
    · simp only [leaves, events, executions, hc, s.runRules_eq n]
      rfl
  | resolve n h message =>
    refine trace_withCell (fun hn => ?_) fun cell hc => ?_
    · cases message <;> simp only [leaves, resolutions, hn] <;> rfl
    · cases message with
      | none => rfl
      | some m => cases m <;> simp only [leaves, resolutions, hc] <;> rfl
  | runKept name v =>
    simp only [exec, leaves, events, executions]
    cases s.kept.get? name with
    | none => exact (Trace.append_empty _).symm
    | some k =>
      cases hc : s.cells[k.chain]? with
      | none =>
        simp only [hc]
        exact (Trace.append_empty _).symm
      | some c =>
        simp only [hc, s.runRules_eq k.chain]
        rfl
  | start adjustments =>
    cases adjustments with
    | none => exact trace_startWith s (pure s.factory.settings) .empty
    | some as =>
      simp only [exec, leaves, events]
      cases ha : Settings.default.adjustAll as with
      | ok settings => exact trace_startWith s settings (Settings.warns_adjustAll ha)
      | error f => exact (Trace.append_empty _).symm
  | inspectFactory => exact (Trace.append_empty _).symm
  | transform | rules | inspect | keep | drop | note | split =>
    exact trace_withCell (fun _ => rfl) fun _ _ => (Trace.append_empty _).symm

theorem reply_run {s : Session ρ} {n : Nat} {h : Handle} {cell : Cell ρ}
    (hc : s.cell? n h = some cell) (mode : RunMode) (v : Value) :
    (s.exec (.run n h mode v)).2 = mode.tell (s.exec (.run n h mode v)).1.deferredRuns
      (mode.reach (Rule.executions n cell.chain.rules cell.chain.scope v)) := by
  simp only [exec, withCell, hc, s.runRules_eq n]

theorem reply_runKept {s : Session ρ} {name : String} {k : Kept ρ} {cell : Cell ρ}
    (hk : s.kept.get? name = some k) (hc : s.cells[k.chain]? = some cell) (v : Value) :
    (s.exec (.runKept name v)).2 =
      RunMode.verdicts.tell (s.exec (.runKept name v)).1.deferredRuns
        (Rule.executions k.chain k.rules cell.chain.scope v) := by
  simp only [exec, hk, hc, s.runRules_eq k.chain]
  rfl

/-- Rules that are run are told of, unless there is no such chain, handle or name. -/
theorem reply_of_runs (s : Session ρ) {c : Command} (h : c.runs = true) :
    (s.exec c).2 = .missing ∨ ∃ mode es, s.executions c = RunMode.reach mode es ∧
      (s.exec c).2 = mode.tell (s.exec c).1.deferredRuns (mode.reach es) := by
  cases c with
  | run n handle mode v =>
    cases hc : s.cell? n handle with
    | none => exact .inl (by simp only [exec, withCell, hc])
    | some cell => exact .inr ⟨mode, _, by simp only [executions, hc], reply_run hc mode v⟩
  | runKept name v =>
    cases hk : s.kept.get? name with
    | none => exact .inl (by simp only [exec, hk])
    | some k =>
      cases hc : s.cells[k.chain]? with
      | none => exact .inl (by simp only [exec, hk, hc])
      | some cell =>
        refine .inr ⟨.verdicts, _, ?_, reply_runKept hk hc v⟩
        simp only [executions, hk, hc]
        rfl
  | _ => cases h

/-- The executions of a history in turn. -/
def executionsOn (s : Session ρ) : List Command → List Execution
  | [] => []
  | c :: rest => s.executions c ++ (s.exec c).1.executionsOn rest

def resolutionsOn (s : Session ρ) : List Command → Nat
  | [] => 0
  | c :: rest => s.resolutions c + (s.exec c).1.resolutionsOn rest

end Session

end Assay
