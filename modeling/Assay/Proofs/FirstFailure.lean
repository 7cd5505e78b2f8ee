import Assay.Proofs.Executions

/-!
# Stopping at the first failure

A run that stops at the first failure tells the first of the failures that a run of all rules tells.
It leaves behind what a run of the rules up to that one leaves, so at most one event and at most one
run of a deferred message. The rules after it are not executed at all.
-/

namespace Assay

variable {ρ : Type} [Rule ρ]

namespace Rule

/-- The rules up to the first that fails, or all of them. -/
def upToFailure (rules : List ρ) (scope : Scope) (v : Value) : List ρ :=
  match rules with
  | [] => []
  | r :: rest => if (run r scope v).result.isSome then [r] else r :: upToFailure rest scope v

section
variable (rules : List ρ) (scope : Scope) (v : Value)

theorem upToFailure_prefix : upToFailure rules scope v <+: rules := by
  induction rules with
  | nil => exact List.prefix_refl []
  | cons r rest ih =>
    simp only [upToFailure]
    split
    · exact ⟨rest, rfl⟩
    · exact List.cons_prefix_cons.mpr ⟨rfl, ih⟩

theorem executions_upToFailure (n : Nat) : executions n (upToFailure rules scope v) scope v =
    Execution.upToFailure (executions n rules scope v) := by
  induction rules with
  | nil => rfl
  | cons r rest ih =>
    cases h : (run r scope v).result with
    | none => simpa [upToFailure, executions, Execution.upToFailure, h] using ih
    | some failure => simp [upToFailure, executions, Execution.upToFailure, h]

/-- Either no rule fails, or the last of these does and no rule before it. -/
theorem upToFailure_cases :
    (upToFailure rules scope v = rules ∧ ∀ r ∈ rules, (run r scope v).result = none) ∨
    ∃ passed r failure, upToFailure rules scope v = passed ++ [r] ∧
      (∀ p ∈ passed, (run p scope v).result = none) ∧ (run r scope v).result = some failure := by
  induction rules with
  | nil => exact .inl ⟨rfl, by simp⟩
  | cons r rest ih =>
    cases h : (run r scope v).result with
    | some failure => exact .inr ⟨[], r, failure, by simp [upToFailure, h], by simp, h⟩
    | none =>
      have hr : upToFailure (r :: rest) scope v = r :: upToFailure rest scope v := by
        simp [upToFailure, h]
      rcases ih with ⟨he, hn⟩ | ⟨passed, q, failure, he, hp, hq⟩
      · exact .inl ⟨by rw [hr, he], List.forall_mem_cons.mpr ⟨h, hn⟩⟩
      · refine .inr ⟨r :: passed, q, failure, ?_, List.forall_mem_cons.mpr ⟨h, hp⟩, hq⟩
        rw [hr, he, List.cons_append]

theorem result_firstFailure_eq_findSome? :
    (firstFailure rules scope v).result = (runAll rules scope v).result.findSome? id := by
  rw [result_firstFailure 0, result_runAll, executions, List.findSome?_map, List.findSome?_map]
  rfl

theorem trace_firstFailure_eq_runAll :
    (firstFailure rules scope v).trace = (runAll (upToFailure rules scope v) scope v).trace := by
  rw [trace_firstFailure 0, trace_runAll 0, executions_upToFailure]

/-- At most one execution fails, and its failure is what is told. -/
theorem events_firstFailure : (firstFailure rules scope v).trace.events =
    (firstFailure rules scope v).result.toList.map .ruleFailed := by
  rw [trace_firstFailure 0, result_firstFailure 0]
  exact congrArg _ (Execution.filterMap_upToFailure _)

theorem deferredRuns_firstFailure_le : (firstFailure rules scope v).trace.deferredRuns ≤ 1 := by
  have htells : ∀ es : List Execution,
      es.countP Execution.tellsDeferred ≤ (es.filterMap Execution.verdict).length := fun es => by
    rw [List.length_filterMap_eq_countP]
    exact List.countP_mono_left fun e _ h => (Bool.and_eq_true_iff.mp h).1
  rw [trace_firstFailure 0]
  refine Nat.le_trans (htells _) ?_
  rw [Execution.filterMap_upToFailure]
  cases (executions 0 rules scope v).findSome? Execution.verdict <;> simp

end

/-- A run up to the first failure beside the run of all the rules. -/
structure Stops (rules : List ρ) (scope : Scope) (v : Value) : Prop where
  result : (firstFailure rules scope v).result = (runAll rules scope v).result.findSome? id
  none_iff : (firstFailure rules scope v).result = none ↔
    ∀ verdict ∈ (runAll rules scope v).result, verdict = none
  executed : upToFailure rules scope v <+: rules
  /-- Up to and including the first that fails. -/
  last : (upToFailure rules scope v = rules ∧ ∀ r ∈ rules, (run r scope v).result = none) ∨
    ∃ passed r failure, upToFailure rules scope v = passed ++ [r] ∧
      (∀ p ∈ passed, (run p scope v).result = none) ∧ (run r scope v).result = some failure ∧
      (firstFailure rules scope v).result = some failure
  effects : (firstFailure rules scope v).trace =
    (runAll (upToFailure rules scope v) scope v).trace
  events : (firstFailure rules scope v).trace.events =
    (firstFailure rules scope v).result.toList.map .ruleFailed
  few : (firstFailure rules scope v).trace.events.length ≤ 1 ∧
    (firstFailure rules scope v).trace.deferredRuns ≤ 1

theorem stops (rules : List ρ) (scope : Scope) (v : Value) : Stops rules scope v where
  result := result_firstFailure_eq_findSome? ..
  none_iff := by simp [result_firstFailure_eq_findSome?, List.findSome?_eq_none_iff]
  executed := upToFailure_prefix ..
  last := by
    refine (upToFailure_cases rules scope v).imp_right ?_
    rintro ⟨passed, r, failure, he, hp, hr⟩
    refine ⟨passed, r, failure, he, hp, hr, ?_⟩
    obtain ⟨rest, hrules⟩ := upToFailure_prefix rules scope v
    have hnone : passed.findSome? (fun p => (run p scope v).result) = none :=
      List.findSome?_eq_none_iff.mpr hp
    rw [result_firstFailure_eq_findSome?, result_runAll, List.findSome?_map, ← hrules, he]
    simp [List.findSome?_append, hnone, hr]
  effects := trace_firstFailure_eq_runAll ..
  events := events_firstFailure ..
  few := by
    refine ⟨?_, deferredRuns_firstFailure_le ..⟩
    rw [events_firstFailure]
    cases (firstFailure rules scope v).result <;> simp

end Rule

namespace Session

/-- The answers of a chain to both ways to run its rules, and what the shorter one does to the
session. -/
structure StopsOn (s : Session ρ) (n : Nat) (h : Handle) (cell : Cell ρ) (v : Value) : Prop where
  all : (s.exec (.run n h .verdicts v)).2.verdicts? = some (cell.chain.run v).result
  first : (s.exec (.run n h .first v)).2.verdicts? = some [(cell.chain.run v).result.findSome? id]
  /-- Nothing changes but the record of what the executed rules leave behind. -/
  after : (s.exec (.run n h .first v)).1 = s.record
    (Rule.runAll (Rule.upToFailure cell.chain.rules cell.chain.scope v) cell.chain.scope v).trace
  events : (s.exec (.run n h .first v)).1.trace.events = s.trace.events ++
    ((cell.chain.run v).result.findSome? id).toList.map .ruleFailed
  deferredRuns : (s.exec (.run n h .first v)).1.deferredRuns ≤ s.deferredRuns + 1

theorem stopsOn {s : Session ρ} {n : Nat} {h : Handle} {cell : Cell ρ}
    (hc : s.cell? n h = some cell) (v : Value) : s.StopsOn n h cell v := by
  have hrules := Rule.stops cell.chain.rules cell.chain.scope v
  have hafter : (s.exec (.run n h .first v)).1 =
      s.record (Rule.firstFailure cell.chain.rules cell.chain.scope v).trace := by
    simp [exec, withCell, hc, runRules]
  have htrace : (s.exec (.run n h .first v)).1.trace =
      s.trace ++ (Rule.firstFailure cell.chain.rules cell.chain.scope v).trace := by
    rw [hafter]
    rfl
  constructor
  case all => simp [exec, withCell, hc, runRules, Reply.verdicts?, Chain.run]
  case first =>
    simp only [exec, withCell, hc, runRules, Reply.verdicts?, hrules.result]
    rfl
  case after => rw [hafter, hrules.effects]
  case events =>
    rw [htrace, Trace.events_append, hrules.events, hrules.result]
    rfl
  case deferredRuns =>
    rw [deferredRuns, htrace, Trace.deferredRuns_append]
    exact Nat.add_le_add_left hrules.few.2 _

/-- On every list of rules in every scope, and so on every chain through each of its handles, the
run up to the first failure agrees with the run of all rules. -/
theorem first_failure_agrees :
    (∀ (rules : List ρ) (scope : Scope) (v : Value), Rule.Stops rules scope v) ∧
    ∀ (s : Session ρ) (n : Nat) (h : Handle) (cell : Cell ρ), s.cell? n h = some cell →
      ∀ v, s.StopsOn n h cell v :=
  ⟨Rule.stops, fun _ _ _ _ hc v => stopsOn hc v⟩

end Session

/-- The first rule passes, the second fails with a deferred message, and the third would too. -/
theorem first_failure_agrees_second :
    let late : Notice := ⟨some (.deferred fun _ => "late"), none⟩
    let f := Factory.mk Generator.identity (some fun _ => [.check .uniq late]) .default
    let s := Session.after f .empty [.build 0 .whole (.declare (.kind .string) late),
      .build 0 .context (.check .required late)]
    let t := (s.exec (.run 0 .whole .first .null)).1
    s.deferredRuns = 0 ∧ t.deferredRuns = 1 ∧
      t.trace.events = s.trace.events ++ [.ruleFailed ⟨"string", "late"⟩] := by
  intro late f s t
  obtain ⟨cell, hc, hv⟩ : ∃ cell, s.cell? 0 .whole = some cell ∧
      (cell.chain.run .null).result.findSome? id = some ⟨"string", "late"⟩ := ⟨_, rfl, by decide⟩
  have h := Session.first_failure_agrees.2 s 0 .whole cell hc .null
  have h0 : s.deferredRuns = 0 := by decide
  have h1 : 0 < t.deferredRuns := by decide
  have hle : t.deferredRuns ≤ s.deferredRuns + 1 := h.deferredRuns
  refine ⟨h0, by omega, ?_⟩
  rw [h.events, hv]
  rfl

end Assay
