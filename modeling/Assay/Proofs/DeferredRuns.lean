import Assay.Proofs.Executions

/-!
# Runs of deferred messages

A deferred message runs once for each execution that fails of the rule it was given to, and once
for each time that it is resolved by itself. Nothing else that is done in a session runs one.
-/

namespace Assay

variable {ρ : Type}

/-- The message, if any, that a step gives to the rule that it makes, if it makes one. -/
def Step.message? : Step → Option (Option Message)
  | .declare _ notice | .check _ notice => some notice.message
  | .patternText engine source notice =>
    match engine.compile source with
    | .ok _ => some notice.message
    | .error _ => none
  | .rule _ _ _ => some none
  | .retag _ | .trim | .lower | .upper | .transform _ => none

theorem Step.message?_eq (s : Step) :
    s.message? = s.rule?.map fun (_, test, _) => test.message? := by
  cases s with
  | patternText engine source notice =>
    simp only [message?, rule?]
    cases engine.compile source with
    | ok p => rfl
    | error fault => rfl
  | _ => rfl

namespace Session

variable [Rule ρ]

/-- The rules of a chain have the messages that its steps gave them. -/
theorem messages_after {f : Factory ρ} (hg : f.generator.Keeps) {before : Trace}
    {history : List Command} {n : Nat} {cell : Cell ρ}
    (hc : (after f before history).cells[n]? = some cell) :
    cell.chain.rules.map (fun r => (Rule.validator r).test.message?) =
      (program f before history n).filterMap Step.message? := by
  have hm : (program f before history n).filterMap Step.message? =
      ((program f before history n).filterMap Step.rule?).map
        fun (_, test, _) => test.message? := by
    rw [List.map_filterMap]
    exact congrArg (List.filterMap · _) (funext Step.message?_eq)
  rw [rules_after hc, hm, List.map_map]
  refine List.map_congr_left fun made _ => ?_
  simp only [Function.comp_apply, hg _ _]

/-- What a command has to do with deferred messages. -/
structure Counted (s : Session ρ) (c : Command) : Prop where
  runs : (s.exec c).1.deferredRuns =
    s.deferredRuns + (s.executions c).countP Execution.tellsDeferred + s.resolutions c
  /-- Building, keeping, inspecting and all else that runs no rule runs no message. -/
  idle : c.runs = false → (∀ n h message, c ≠ .resolve n h message) →
    (s.exec c).1.deferredRuns = s.deferredRuns
  passed : c.runs = true → (∀ e ∈ s.executions c, e.verdict = none) →
    (s.exec c).1.deferredRuns = s.deferredRuns
  /-- The answer tells what the executions came to. -/
  told : ∀ n h mode v, c = .run n h mode v → (s.cell? n h).isSome = true →
    (s.exec c).2 = mode.tell (s.exec c).1.deferredRuns (s.executions c)
  toldKept : ∀ name v k, c = .runKept name v → s.kept.get? name = some k →
    (s.cells[k.chain]?).isSome = true →
    (s.exec c).2 = RunMode.verdicts.tell (s.exec c).1.deferredRuns (s.executions c)

theorem deferredRuns_exec (s : Session ρ) (c : Command) :
    (s.exec c).1.deferredRuns =
      s.deferredRuns + (s.executions c).countP Execution.tellsDeferred + s.resolutions c := by
  rw [deferredRuns, trace_exec, Trace.deferredRuns_append, Nat.add_assoc]
  rfl

theorem deferredRuns_execAll (s : Session ρ) (history : List Command) :
    (s.execAll history).1.deferredRuns = s.deferredRuns +
      (s.executionsOn history).countP Execution.tellsDeferred + s.resolutionsOn history := by
  induction history generalizing s with
  | nil => rfl
  | cons c rest ih =>
    have hr : (s.execAll (c :: rest)).1.deferredRuns = _ := ih (s.exec c).1
    rw [hr, deferredRuns_exec, executionsOn, resolutionsOn, List.countP_append]
    omega

theorem counted (s : Session ρ) (c : Command) : s.Counted c where
  runs := s.deferredRuns_exec c
  idle hc hr := by
    rw [deferredRuns_exec, executions_of_not_runs s hc, resolutions_eq_zero s hr]
    rfl
  passed hc hp := by
    have hr : s.resolutions c = 0 :=
      s.resolutions_eq_zero fun _ _ _ he => by simp [he, Command.runs] at hc
    have hz : (s.executions c).countP Execution.tellsDeferred = 0 := by
      rw [List.countP_eq_zero]
      intro e he
      simp [Execution.tellsDeferred, hp e he]
    rw [deferredRuns_exec, hr, hz]
    rfl
  told := by
    rintro n h mode v rfl hs
    obtain ⟨cell, hc⟩ := Option.isSome_iff_exists.mp hs
    rw [reply_run hc]
    simp only [executions, hc]
  toldKept := by
    rintro name v k rfl hk hs
    obtain ⟨cell, hc⟩ := Option.isSome_iff_exists.mp hs
    rw [reply_runKept hk hc]
    simp only [executions, hk, hc]

/-- Over a whole history the messages that ran are those of the failing executions whose rules were
given a deferred one, with those that were resolved by themselves. -/
theorem deferred_runs_of_history {f : Factory ρ} (hg : f.generator.Keeps) (before : Trace)
    (history : List Command) :
    (after f before history).deferredRuns = before.deferredRuns +
      ((ofFactory f before).executionsOn history).countP Execution.tellsDeferred +
      (ofFactory f before).resolutionsOn history ∧
    (∀ c, (after f before history).Counted c) ∧
    ∀ n cell, (after f before history).cells[n]? = some cell →
      cell.chain.rules.map (fun r => (Rule.validator r).test.message?) =
        (program f before history n).filterMap Step.message? := by
  refine ⟨?_, counted _, fun n cell hc => messages_after hg hc⟩
  have hs : (ofFactory f before).deferredRuns = before.deferredRuns := by
    show (before ++ f.start.trace).deferredRuns = _
    rw [Factory.trace_start]
    rfl
  rw [after, deferredRuns_execAll, hs]

end Session

/-- Two rules with deferred messages and one without, run in each way, on values that fail and on
one that passes. -/
theorem deferred_runs_of_history_mixed :
    let late : Notice := ⟨some (.deferred fun _ => "late"), none⟩
    let f := Factory.mk Generator.describe (some fun _ => [.check .required late]) .default
    let history : List Command := [.build 0 .whole (.declare (.kind .number) late),
      .keep 0 .context "two", .build 0 .context (.check (.length 2) ⟨some (.literal "two"), none⟩),
      .run 0 .whole .verdicts .null, .run 0 .extension .first .null, .runKept "two" .null,
      .resolve 0 .whole late.message, .run 0 .whole .validity (.number Double.zero)]
    (Session.after f .empty history).deferredRuns = 6 := by
  intro late f history
  rw [(Session.deferred_runs_of_history Generator.describe_keeps .empty history).1]
  decide +kernel

end Assay
