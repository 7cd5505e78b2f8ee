import Assay.Session

/-!
# Building through handles

What building steps do to a chain does not depend on the handles that they come through. A chain
that its factory has just started has taken the steps of the extension.
-/

namespace Assay

variable {ρ : Type}

/-- The handles on a chain that the factory starts: there is one for the extension if it has one. -/
def Factory.Offers (f : Factory ρ) (h : Handle) : Prop :=
  h = .extension → f.extension.isSome = true

/-- What a fresh chain goes through: first the extension, then the steps taken on it. -/
def Factory.program (f : Factory ρ) (builds : List (Handle × Step)) : List Step :=
  f.opening f.settings ++ builds.map Prod.snd

def Reply.verdicts? : Reply ρ → Option (List Verdict)
  | .verdicts vs _ => some vs
  | _ => none

namespace Session

theorem reachable_of_offers {f : Factory ρ} {h : Handle} (ho : f.Offers h) (c : Chain ρ) :
    Cell.reachable ⟨c, if f.extension.isSome then some [] else none, false, false⟩ h = true := by
  cases h with
  | whole => rfl
  | context => rfl
  | extension => simp [Cell.reachable, ho rfl]
  | clone => rfl

theorem cell?_eq_some_iff {s : Session ρ} {n : Nat} {h : Handle} {c : Cell ρ} :
    s.cell? n h = some c ↔ s.cells[n]? = some c ∧ c.reachable h = true := by
  simp [cell?, Option.filter_eq_some_iff]

variable [Rule ρ]

theorem cells_build {s : Session ρ} {n : Nat} {h : Handle} {c : Cell ρ}
    (hc : s.cell? n h = some c) (step : Step) :
    (s.exec (.build n h step)).1.cells =
      s.cells.set n { c with chain := (c.chain.step step).result } := by
  simp only [exec, withCell, hc, buildStep]
  cases step.refusal? with
  | none => rfl
  | some why => rfl

/-- Taking steps on a cell leaves its handles as they are, so each later step finds it again. -/
theorem cells_builds {s : Session ρ} {n : Nat} {c : Cell ρ} {builds : List (Handle × Step)}
    (hc : s.cells[n]? = some c) (hr : ∀ b ∈ builds, c.reachable b.1 = true) :
    (s.execAll (builds.map fun b => .build n b.1 b.2)).1.cells[n]? =
      some { c with chain := (c.chain.steps (builds.map Prod.snd)).result } := by
  induction builds generalizing s c with
  | nil => exact hc
  | cons b rest ih =>
    obtain ⟨h, step⟩ := b
    have hb : s.cell? n h = some c := cell?_eq_some_iff.mpr ⟨hc, hr _ List.mem_cons_self⟩
    have hn : n < s.cells.length := (List.getElem?_eq_some_iff.mp hc).1
    have hs : (s.exec (.build n h step)).1.cells[n]? =
        some { c with chain := (c.chain.step step).result } := by
      rw [cells_build hb, List.getElem?_set_self hn]
    exact ih hs fun b hm => hr b (List.mem_cons_of_mem _ hm)

/-- A session with steps taken on its first chain. -/
def built (f : Factory ρ) (before : Trace) (builds : List (Handle × Step)) : Session ρ :=
  ((ofFactory f before).execAll (builds.map fun b => .build 0 b.1 b.2)).1

/-- The chain has gone through the whole program, and every handle that the factory offers leads to
it. -/
theorem cell?_built (f : Factory ρ) (before : Trace) {builds : List (Handle × Step)}
    (ho : ∀ b ∈ builds, f.Offers b.1) {h : Handle} (hh : f.Offers h) :
    ((built f before builds).cell? 0 h).map Cell.chain =
      some ((Chain.fresh f.generator f.settings).steps (f.program builds)).result := by
  have hc : (ofFactory f before).cells[0]? =
      some ⟨f.start.result, if f.extension.isSome then some [] else none, false, false⟩ := rfl
  have hb := cells_builds hc fun b hm => reachable_of_offers (ho b hm) _
  rw [built, cell?_eq_some_iff.mpr ⟨hb, reachable_of_offers hh _⟩, Factory.program,
    Chain.result_steps_append]
  rfl

theorem verdicts?_run {s : Session ρ} {n : Nat} {h : Handle} {c : Chain ρ}
    (hc : (s.cell? n h).map Cell.chain = some c) (v : Value) :
    (s.exec (.run n h .verdicts v)).2.verdicts? =
      some (c.rules.map fun r => (Rule.run r c.scope v).result) := by
  obtain ⟨cell, hs, rfl⟩ := Option.map_eq_some_iff.mp hc
  simp only [exec, withCell, hs, runRules, Reply.verdicts?, Rule.result_runAll]

end Session

end Assay
