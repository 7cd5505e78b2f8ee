import Assay.Pattern.Basic
import Assay.Proofs.PlainRules

/-!
# The list of rules

Only steps that make rules write to the list of a chain, and each of them adds one entry at its end.
So a list that has been read off a chain begins every list that is read off it later, and running it
gives the first of the results that the chain then gives.
-/

namespace Assay

/-- Code and parameters of the rule that a step makes, if it makes one. A check for a pattern makes
none if the pattern cannot be compiled. -/
def Step.listing? : Step → Option (String × Option String)
  | .declare d notice => some (d.code, notice.params)
  | .check c notice => some (c.code, notice.params)
  | .patternText engine source notice =>
    match engine.compile source with
    | .ok _ => some ("regex", notice.params)
    | .error _ => none
  | .rule code _ params => some (code, params)
  | .retag _ | .trim | .lower | .upper | .transform _ => none

theorem Step.listing?_eq (s : Step) :
    s.listing? = s.rule?.map fun (code, _, params) => (code, params) := by
  cases s with
  | patternText engine source notice =>
    simp only [listing?, rule?]
    cases engine.compile source with
    | ok p => rfl
    | error fault => rfl
  | _ => rfl

theorem Step.map_rule? (program : List Step) :
    (program.filterMap rule?).map (fun (code, _, params) => (code, params)) =
      program.filterMap listing? := by
  rw [List.map_filterMap]
  exact congrArg (program.filterMap ·) (funext fun s => s.listing?_eq.symm)

variable {ρ : Type}

/-- The chain `n` has the handle that a command names, and keeps it after the command. -/
def Cell.Serves (cell : Cell ρ) (n : Nat) : Command → Prop
  | .build m h _ => m = n → cell.reachable h = true
  | c => c.closes = true → c.chain? ≠ some n

theorem Cell.Serves.stays_open {cell : Cell ρ} {n : Nat} {c : Command} (h : cell.Serves n c) :
    c.closes = true → c.chain? ≠ some n := by
  cases c with
  | build => exact fun hclosed => by cases hclosed
  | _ => exact h

theorem Cell.Serves.mono {old new : Cell ρ} {n : Nat} {c : Command}
    (hr : ∀ h, old.reachable h = true → new.reachable h = true) (h : old.Serves n c) :
    new.Serves n c := by
  cases c with
  | build m handle step => exact fun hm => hr handle (h hm)
  | _ => exact h

section
variable [Rule ρ]

/-- A list that begins another gives the first results of the other. -/
theorem Rule.result_runAll_of_prefix {first all : List ρ} (h : first <+: all) (scope : Scope)
    (v : Value) :
    (runAll first scope v).result = (runAll all scope v).result.take first.length := by
  obtain ⟨rest, rfl⟩ := h
  rw [result_runAll, result_runAll, List.map_append, List.take_left' (List.length_map _)]

end

namespace Session

theorem stepsOf_of_serves {s : Session ρ} {n : Nat} {cell : Cell ρ} {c : Command}
    (hc : s.cells[n]? = some cell) (hs : cell.Serves n c) :
    s.stepsOf n c = (c.stepOn? n).toList := by
  cases c with
  | build m h step =>
    by_cases hm : m = n
    · subst hm
      have hf : s.cell? m h = some cell := cell?_eq_some_iff.mpr ⟨hc, hs rfl⟩
      simp [stepsOf_build hf, Command.stepOn?]
    · simp [stepsOf, Command.stepOn?, hm]
  | _ => rfl

theorem stepOn?_of_mem_stepsOf {s : Session ρ} {n : Nat} {c : Command} {step : Step}
    (h : step ∈ s.stepsOf n c) : c.stepOn? n = some step := by
  cases c with
  | build m handle made =>
    simp only [stepsOf] at h
    split at h
    · rename_i hm
      rw [List.mem_singleton.mp h, Command.stepOn?, if_pos hm.1]
    · cases h
  | _ => cases h

variable [Rule ρ]

/-- While the handles are there, every step that a history has for a chain is taken. -/
theorem stepsOn_of_serves {s : Session ρ} {n : Nat} {cell : Cell ρ} {history : List Command}
    (hc : s.cells[n]? = some cell) (hs : ∀ c ∈ history, cell.Serves n c) :
    s.stepsOn n history = history.filterMap (Command.stepOn? n) := by
  induction history generalizing s cell with
  | nil => rfl
  | cons c rest ih =>
    have hfirst : cell.Serves n c := hs c List.mem_cons_self
    obtain ⟨new, hn, _, hopen⟩ := cells_exec_of_some hc c
    have hrest : ∀ d ∈ rest, new.Serves n d := fun d hd =>
      (hs d (List.mem_cons_of_mem _ hd)).mono (hopen hfirst.stays_open)
    rw [stepsOn, stepsOf_of_serves hc hfirst, ih hn hrest]
    cases h : c.stepOn? n <;> simp [h]

-- ---------------------------------------------------------------------------
-- Lists at two moments
-- ---------------------------------------------------------------------------

/-- The list of a chain at two moments: `old` after the commands `earlier`, and `new` after the
commands `later` as well. -/
structure RulesFollow (f : Factory ρ) (before : Trace) (earlier later : List Command) (n : Nat)
    (old new : Cell ρ) : Prop where
  was : (after f before earlier).cells[n]? = some old
  found : (after f before (earlier ++ later)).cells[n]? = some new
  /-- One rule for each step that makes one, in the order of the steps and with their codes. -/
  codes : new.chain.rules.map Rule.code =
    ((program f before (earlier ++ later) n).filterMap Step.listing?).map Prod.fst
  /-- The first chain starts with the steps of the extension and with every handle on offer. -/
  fresh : earlier = [] → program f before earlier n = f.opening f.settings ∧
    ∀ h, f.Offers h → old.reachable h = true
  /-- No step is lost that comes through a handle that is there. -/
  served : (∀ c ∈ later, old.Serves n c) → program f before (earlier ++ later) n =
    program f before earlier n ++ later.filterMap (Command.stepOn? n)
  /-- Every handle that is there gives the same list to a reader, and reading changes nothing. -/
  read : ∀ h, new.reachable h = true → (after f before (earlier ++ later)).exec (.rules n h) =
    (after f before (earlier ++ later), .rules new.chain.rules)
  /-- The list stays as it is unless a command has a step for the chain that makes a rule. -/
  idle : ∀ c : Command, (c.stepOn? n).bind Step.listing? = none →
    ∃ next, ((after f before (earlier ++ later)).exec c).1.cells[n]? = some next ∧
      next.chain.rules = new.chain.rules
  grows : old.chain.rules <+: new.chain.rules
  snapshot : ∀ v, (Rule.runAll old.chain.rules new.chain.scope v).result =
    (new.chain.run v).result.take old.chain.rules.length
  /-- The same of rules kept aside, whenever that was. -/
  kept : ∀ name k, (after f before (earlier ++ later)).kept.get? name = some k → k.chain = n →
    k.rules <+: new.chain.rules ∧
    ∀ v, ((after f before (earlier ++ later)).exec (.runKept name v)).2.verdicts? =
      some ((new.chain.run v).result.take k.rules.length)

section
variable {f : Factory ρ} {before : Trace} {history : List Command} {n : Nat} {cell : Cell ρ}

theorem codes_after (hg : f.generator.Keeps) (hc : (after f before history).cells[n]? = some cell) :
    cell.chain.rules.map Rule.code =
      ((program f before history n).filterMap Step.listing?).map Prod.fst := by
  rw [rules_after hc, ← Step.map_rule?, List.map_map, List.map_map]
  refine List.map_congr_left fun made _ => ?_
  simp only [Function.comp_apply, Rule.code, hg _ _]

theorem rules_exec_of_idle (hc : (after f before history).cells[n]? = some cell) {c : Command}
    (hi : (c.stepOn? n).bind Step.listing? = none) :
    ∃ next, ((after f before history).exec c).1.cells[n]? = some next ∧
      next.chain.rules = cell.chain.rules := by
  obtain ⟨next, hn, ht, _⟩ := cells_exec_of_some hc c
  refine ⟨next, hn, ?_⟩
  have hnone : ((after f before history).stepsOf n c).filterMap cell.chain.made? = [] := by
    rw [List.filterMap_eq_nil_iff]
    intro s hs
    rw [stepOn?_of_mem_stepsOf hs, Option.bind_some, Step.listing?_eq, Option.map_eq_none_iff] at hi
    rw [Chain.made?, hi, Option.map_none]
  rw [ht, Chain.rules_steps, hnone, List.append_nil]

theorem fresh_after (hc : (after f before []).cells[n]? = some cell) :
    program f before [] n = f.opening f.settings ∧ ∀ h, f.Offers h → cell.reachable h = true := by
  rw [program_of_cell hc]
  obtain ⟨rfl, rfl⟩ := cells_ofFactory hc
  rw [f.settings_cell]
  exact ⟨List.append_nil _, fun h ho => reachable_of_offers ho _⟩

theorem read_after (hc : (after f before history).cells[n]? = some cell) {h : Handle}
    (hr : cell.reachable h = true) :
    (after f before history).exec (.rules n h) =
      (after f before history, .rules cell.chain.rules) := by
  simp only [exec, withCell, cell?_eq_some_iff.mpr ⟨hc, hr⟩]

/-- Rules kept aside run in the scope that their chain has by then. -/
theorem runKept_after (hc : (after f before history).cells[n]? = some cell) {name : String}
    {k : Kept ρ} (hk : (after f before history).kept.get? name = some k) (hn : k.chain = n) :
    k.rules <+: cell.chain.rules ∧
    ∀ v, ((after f before history).exec (.runKept name v)).2.verdicts? =
      some ((cell.chain.run v).result.take k.rules.length) := by
  subst hn
  obtain ⟨_, hc', hp⟩ := keepsFirst_after f before history name k hk
  cases hc.symm.trans hc'
  refine ⟨hp, fun v => ?_⟩
  rw [Chain.run, ← Rule.result_runAll_of_prefix hp]
  simp only [exec, hk, hc]
  rfl

theorem rulesFollow {earlier : List Command} {old : Cell ρ} (hg : f.generator.Keeps)
    (ho : (after f before earlier).cells[n]? = some old) (later : List Command) :
    ∃ new, RulesFollow f before earlier later n old new := by
  obtain ⟨new, hn, -⟩ := cells_execAll_of_some ho later
  have hp : old.chain.rules <+: new.chain.rules :=
    chain_execAll_of_some ho hn ▸ old.chain.rules_prefix_steps _
  have hset : new.chain.settings = old.chain.settings :=
    chain_execAll_of_some ho hn ▸ old.chain.settings_steps _
  rw [← after_append] at hn
  exact ⟨new, {
    was := ho
    found := hn
    codes := codes_after hg hn
    fresh := fun he => by
      subst he
      exact fresh_after ho
    served := fun hs => by
      have hnew : ((ofFactory f before).execAll earlier).1.stepsOn n later = _ :=
        stepsOn_of_serves ho hs
      rw [program_of_cell hn, program_of_cell ho, hset, stepsOn_append, hnew, List.append_assoc]
    read := fun _ => read_after hn
    idle := fun _ => rules_exec_of_idle hn
    grows := hp
    snapshot := fun v => Rule.result_runAll_of_prefix hp new.chain.scope v
    kept := fun _ _ => runKept_after hn }⟩

end

-- ---------------------------------------------------------------------------
-- The stock generators
-- ---------------------------------------------------------------------------

/-- Described rules stand with the codes and parameters of their steps. -/
theorem listing_after {f : Factory Descriptor} (hd : f.generator = .describe) {before : Trace}
    {history : List Command} {n : Nat} {cell : Cell Descriptor}
    (hc : (after f before history).cells[n]? = some cell) :
    cell.chain.rules.map (fun r => (r.code, r.params)) =
      (program f before history n).filterMap Step.listing? := by
  rw [rules_after hc, ← Step.map_rule?, List.map_map, hd]
  rfl

/-- The list of a chain at any two moments of a session, with either stock generator. The generator
makes no difference to what commands are answered, up to what rules are. -/
theorem rule_list_of_history {f : Factory Descriptor} (hd : f.generator = .describe)
    {before : Trace} {earlier : List Command} {n : Nat} {old : Cell Descriptor}
    (ho : (after f before earlier).cells[n]? = some old) (later : List Command) :
    ∃ new : Cell Descriptor,
      RulesFollow f before earlier later n old new ∧
      new.chain.rules.map (fun r => (r.code, r.params)) =
        (program f before (earlier ++ later) n).filterMap Step.listing? ∧
      RulesFollow f.plain before earlier later n old.plain new.plain ∧
      program f.plain before (earlier ++ later) n = program f before (earlier ++ later) n ∧
      ((ofFactory f.plain before).execAll (earlier ++ later)).2 =
        ((ofFactory f before).execAll (earlier ++ later)).2.map Reply.plain := by
  have hg : f.generator.Keeps := hd ▸ Generator.describe_keeps
  have ho' : (after f.plain before earlier).cells[n]? = some old.plain := by
    rw [after_plain hg, cells_plain, ho, Option.map_some]
  obtain ⟨new, hnew⟩ := rulesFollow hg ho later
  obtain ⟨new', hnew'⟩ := rulesFollow Generator.identity_keeps ho' later
  obtain rfl : new.plain = new' := by
    have hf := hnew'.found
    rw [after_plain hg, cells_plain, hnew.found, Option.map_some] at hf
    exact Option.some.inj hf
  exact ⟨new, hnew, listing_after hd hnew.found, hnew', program_plain hg before _ n,
    replies_plain hg before _⟩

end Session

/-- A list kept after two rules, on a chain that then gets a third. -/
theorem rule_list_of_history_kept :
    let f := Factory.mk Generator.describe (some fun _ => [.check .required .none]) .default
    let earlier : List Command :=
      [.build 0 .whole (.declare (.kind .string) ⟨none, some "text"⟩), .keep 0 .context "two"]
    let later : List Command := [.build 0 .extension .trim,
      .build 0 .context (.patternText Pattern.engine "(" .none),
      .build 0 .whole (.rule "own" (fun _ => none) (some "x")), .run 0 .context .verdicts .null]
    ∃ new, (Session.after f .empty (earlier ++ later)).cells[0]? = some new ∧
      new.chain.rules.map (fun r => (r.code, r.params)) =
        [("required", none), ("string", some "text"), ("own", some "x")] ∧
      ((Session.after f .empty (earlier ++ later)).exec (.runKept "two" .null)).2.verdicts? =
        some ((new.chain.run .null).result.take 2) := by
  intro f earlier later
  obtain ⟨old, ho⟩ : ∃ c, (Session.after f .empty earlier).cells[0]? = some c := ⟨_, rfl⟩
  obtain ⟨new, h, hl, -⟩ := Session.rule_list_of_history rfl ho later
  have hp : (Session.program f .empty (earlier ++ later) 0).filterMap Step.listing? =
    [("required", none), ("string", some "text"), ("own", some "x")] := by decide +kernel
  obtain ⟨k, hk, hchain, hlen⟩ : ∃ k, (Session.after f .empty (earlier ++ later)).kept.get? "two" =
      some k ∧ k.chain = 0 ∧ k.rules.length = 2 := ⟨_, rfl, rfl, rfl⟩
  refine ⟨new, h.found, hl.trans hp, ?_⟩
  rw [(h.kept "two" k hk hchain).2, hlen]

end Assay
