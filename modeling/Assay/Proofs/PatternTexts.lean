import Assay.Pattern.Basic
import Assay.Proofs.Declarations
import Assay.Proofs.Isolation
import Assay.Proofs.Wording

/-!
# Patterns that are still text

Only a step with a pattern text can be refused, and its engine decides whether it is. One that is
refused leaves the session as it is, and so does everything that follows; also an extension can do
without it. One that is not refused is the check for what the engine makes of the text, and both
quote the text.
-/

namespace Assay

variable {ρ : Type}

-- ---------------------------------------------------------------------------
-- Steps
-- ---------------------------------------------------------------------------

/-- The second steps are the first, or have `new` at one place where those have `old`. -/
def Step.Swapped (old new ss ts : List Step) : Prop :=
  ss = ts ∨ ∃ first rest, ss = first ++ old ++ rest ∧ ts = first ++ new ++ rest

namespace Chain

variable {engine : Regex.Engine} {source fault : String} {r : Regex}

theorem step_unread (h : engine.compile source = .error fault) (notice : Notice) (c : Chain ρ) :
    c.step (.patternText engine source notice) = pure c := by
  simp only [step, Step.rule?, h]
  rfl

theorem step_read (h : engine.compile source = .ok r) (notice : Notice) (c : Chain ρ) :
    c.step (.patternText engine source notice) = c.step (.check (.pattern r) notice) := by
  simp only [step, Step.rule?, Step.rescope, h]

theorem steps_unread (h : engine.compile source = .error fault) (notice : Notice) (c : Chain ρ) :
    c.steps [.patternText engine source notice] = c.steps [] := by
  simp only [steps, c.step_unread h, pure_bind]

theorem steps_read (h : engine.compile source = .ok r) (notice : Notice) (c : Chain ρ) :
    c.steps [.patternText engine source notice] = c.steps [.check (.pattern r) notice] := by
  simp only [steps, c.step_read h]

/-- Steps that do the same to every chain can be swapped within longer ones. -/
theorem steps_swapped {old new ss ts : List Step} (h : ∀ c : Chain ρ, c.steps new = c.steps old)
    (hs : Step.Swapped old new ss ts) (c : Chain ρ) : c.steps ts = c.steps ss := by
  rcases hs with rfl | ⟨first, rest, rfl, rfl⟩
  · rfl
  · simp only [steps_append, h]

end Chain

theorem Test.result_checked (c : Check) (message : Option Message) (scope : Scope) (v : Value) :
    ((Test.checked c message).verdict scope v).result =
      if c.fails scope v then
        some ⟨c.code, (message.map fun m => m.resolve.result).getD c.defaultText⟩
      else none := by
  cases h : c.fails scope v with
  | false => simp [verdict, h]
  | true => cases message <;> simp [verdict, failureText, h]

-- ---------------------------------------------------------------------------
-- Extensions
-- ---------------------------------------------------------------------------

/-- The factory with another extension. -/
def Factory.withExtension (f : Factory ρ) (extension : Settings → List Step) : Factory ρ :=
  ⟨f.generator, some extension, f.settings⟩

/-- Both extensions do the same to every chain. -/
structure Factory.Admits (f : Factory ρ) (extension : Settings → List Step) : Prop where
  isSome : f.extension.isSome = true
  steps : ∀ settings (c : Chain ρ), c.steps (extension settings) = c.steps (f.opening settings)

theorem Factory.Admits.start {f : Factory ρ} {extension : Settings → List Step}
    (h : f.Admits extension) (settings : Settings) :
    ((f.withExtension extension).withSettings settings).start =
      (f.withSettings settings).start := by
  have hold : (f.withSettings settings).opening = f.opening := rfl
  have hnew : ((f.withExtension extension).withSettings settings).opening = extension := rfl
  rw [Factory.start, Factory.start, hold, hnew]
  simp only [withSettings, withExtension, h.steps]

namespace Session

def withExtension (s : Session ρ) (extension : Settings → List Step) : Session ρ :=
  { s with factory := s.factory.withExtension extension }

theorem startWith_withExtension {s : Session ρ} {extension : Settings → List Step}
    (h : s.factory.Admits extension) (settings : Traced Settings) :
    (s.withExtension extension).startWith settings =
      ((s.startWith settings).1.withExtension extension, (s.startWith settings).2) := by
  have hs := h.start settings.result
  have hi := h.isSome
  simp only [Factory.withSettings, Factory.withExtension] at hs
  simp only [startWith, startChain, record, withExtension, Factory.withExtension, hs, hi,
    Option.isSome_some]

theorem ofFactory_withExtension {f : Factory ρ} {extension : Settings → List Step}
    (h : f.Admits extension) (before : Trace) : ofFactory (f.withExtension extension) before =
      (ofFactory f before).withExtension extension := by
  have hs := h.start f.settings
  have hi := h.isSome
  simp only [Factory.withSettings, Factory.withExtension] at hs
  simp only [ofFactory, startChain, record, withExtension, Factory.withExtension, hs, hi,
    Option.isSome_some]

theorem withCell_withExtension {s : Session ρ} {extension : Settings → List Step} {n : Nat}
    {h : Handle} {f g : Cell ρ → Session ρ × Reply ρ}
    (hfg : ∀ cell, g cell = ((f cell).1.withExtension extension, (f cell).2)) :
    (s.withExtension extension).withCell n h g =
      ((s.withCell n h f).1.withExtension extension, (s.withCell n h f).2) := by
  have hc : (s.withExtension extension).cell? n h = s.cell? n h := rfl
  simp only [withCell, hc]
  cases s.cell? n h with
  | none => rfl
  | some cell => exact hfg cell

variable [Rule ρ]

theorem runRules_withExtension (s : Session ρ) (extension : Settings → List Step)
    (rules : List ρ) (scope : Scope) (mode : RunMode) (v : Value) :
    (s.withExtension extension).runRules rules scope mode v =
      ((s.runRules rules scope mode v).1.withExtension extension,
        (s.runRules rules scope mode v).2) := by
  cases mode <;> rfl

theorem exec_withExtension {s : Session ρ} {extension : Settings → List Step}
    (h : s.factory.Admits extension) (c : Command) :
    (s.withExtension extension).exec c =
      ((s.exec c).1.withExtension extension, (s.exec c).2) := by
  cases c with
  | build n handle step =>
    refine withCell_withExtension fun cell => ?_
    simp only [buildStep]
    cases step.refusal? <;> rfl
  | run n handle mode v => exact withCell_withExtension fun _ => runRules_withExtension ..
  | runKept name v =>
    have hk : (s.withExtension extension).kept = s.kept := rfl
    have hn : (s.withExtension extension).cells = s.cells := rfl
    simp only [exec, hk, hn]
    cases s.kept.get? name with
    | none => rfl
    | some k =>
      cases hc : s.cells[k.chain]? with
      | none => simp only [hc]
      | some cell =>
        simp only [hc]
        exact runRules_withExtension ..
  | start adjustments =>
    cases adjustments with
    | none => exact startWith_withExtension h _
    | some as =>
      simp only [exec]
      cases Settings.default.adjustAll as with
      | ok settings => exact startWith_withExtension h settings
      | error fault => rfl
  | inspectFactory => rfl
  | transform | rules | resolve | inspect | keep | drop | note | split =>
    exact withCell_withExtension fun _ => rfl

/-- A session with the other extension answers the same, and differs in nothing else. -/
theorem execAll_withExtension {s : Session ρ} {extension : Settings → List Step}
    (h : s.factory.Admits extension) (history : List Command) :
    (s.withExtension extension).execAll history =
      ((s.execAll history).1.withExtension extension, (s.execAll history).2) := by
  induction history generalizing s with
  | nil => rfl
  | cons c rest ih =>
    have hnext : (s.exec c).1.factory.Admits extension := by
      have he := (s.factory_exec c).2
      exact ⟨by rw [he, h.isSome], fun settings c => by rw [Factory.opening_congr he, h.steps]⟩
    simp only [execAll, exec_withExtension h, ih hnext]

-- ---------------------------------------------------------------------------
-- Histories
-- ---------------------------------------------------------------------------

theorem replies_append (s : Session ρ) (earlier later : List Command) :
    (s.execAll (earlier ++ later)).2 =
      (s.execAll earlier).2 ++ ((s.execAll earlier).1.execAll later).2 := by
  induction earlier generalizing s with
  | nil => rfl
  | cons c rest ih => exact congrArg (_ :: ·) (ih _)

theorem length_replies (s : Session ρ) (history : List Command) :
    (s.execAll history).2.length = history.length := by
  induction history generalizing s with
  | nil => rfl
  | cons c rest ih => exact congrArg (· + 1) (ih _)

/-- A command that leaves the session as it is can be left out, and so can its answer. -/
theorem execAll_skip {s : Session ρ} {earlier : List Command} {c : Command} {reply : Reply ρ}
    (h : (s.execAll earlier).1.exec c = ((s.execAll earlier).1, reply)) (later : List Command) :
    (s.execAll (earlier ++ c :: later)).1 = (s.execAll (earlier ++ later)).1 ∧
    (s.execAll (earlier ++ c :: later)).2.eraseIdx earlier.length =
      (s.execAll (earlier ++ later)).2 := by
  have hlen := s.length_replies earlier
  refine ⟨?_, ?_⟩
  · simp only [execAll_append, execAll, h]
  · simp [replies_append, execAll, h, ← hlen, List.eraseIdx_append_of_length_le]

/-- A command can be replaced by one that does and answers the same. -/
theorem execAll_replace {s : Session ρ} {earlier : List Command} {c d : Command}
    (h : (s.execAll earlier).1.exec c = (s.execAll earlier).1.exec d) (later : List Command) :
    s.execAll (earlier ++ c :: later) = s.execAll (earlier ++ d :: later) := by
  ext1
  · simp only [execAll_append, execAll, h]
  · simp only [replies_append, execAll, h]

-- ---------------------------------------------------------------------------
-- Pattern texts
-- ---------------------------------------------------------------------------

theorem exec_of_missing {s : Session ρ} {n : Nat} {h : Handle} (hn : s.cell? n h = none)
    (step : Step) : s.exec (.build n h step) = (s, .missing) := by
  simp only [exec, withCell, hn]

theorem exec_unread {engine : Regex.Engine} {source fault : String}
    (hp : engine.compile source = .error fault) (notice : Notice) {s : Session ρ} {n : Nat}
    {h : Handle} {cell : Cell ρ} (hc : s.cell? n h = some cell) :
    s.exec (.build n h (.patternText engine source notice)) =
      (s, .refused ⟨source, fault⟩ (s.progress cell.chain)) := by
  have hwhy : (Step.patternText engine source notice).refusal? = some ⟨source, fault⟩ := by
    simp only [Step.refusal?, hp]
  have hset : s.cells.set n cell = s.cells := by
    obtain ⟨hn, hcell⟩ := List.getElem?_eq_some_iff.mp (cell?_eq_some_iff.mp hc).1
    rw [← hcell, List.set_getElem_self]
  have hsame : (s.setCell n cell).record .empty = s := by
    simp only [setCell, record, hset, Trace.append_empty]
  simp only [exec, withCell, hc, buildStep, hwhy, Chain.step_unread hp, Traced.result_pure,
    Traced.trace_pure, hsame]

theorem exec_read {engine : Regex.Engine} {source : String} {r : Regex}
    (hp : engine.compile source = .ok r) (notice : Notice) (n : Nat) (h : Handle)
    (s : Session ρ) : s.exec (.build n h (.patternText engine source notice)) =
      s.exec (.build n h (.check (.pattern r) notice)) := by
  simp only [exec, buildStep, Step.refusal?, hp, Chain.step_read hp]

/-- After no history can the factory be told from the one with the other extension. -/
def Alike (f : Factory ρ) (before : Trace) (extension : Settings → List Step) : Prop :=
  ∀ history, (ofFactory (f.withExtension extension) before).execAll history =
    ((after f before history).withExtension extension, ((ofFactory f before).execAll history).2)

theorem alike_of_swapped {f : Factory ρ} {extension : Settings → List Step} {old new : List Step}
    (hf : f.extension.isSome = true) (h : ∀ c : Chain ρ, c.steps new = c.steps old)
    (hs : ∀ settings, Step.Swapped old new (f.opening settings) (extension settings))
    (before : Trace) : Alike f before extension := by
  have ha : f.Admits extension := ⟨hf, fun settings => Chain.steps_swapped h (hs settings)⟩
  intro history
  rw [ofFactory_withExtension ha]
  exact execAll_withExtension ha history

/-- A refused step after a history: the answer names the text, and the session is as it was. -/
structure LeftOut (f : Factory ρ) (before : Trace) (earlier : List Command) (n : Nat) (h : Handle)
    (engine : Regex.Engine) (source : String) (notice : Notice) (fault : String) : Prop where
  refused : ∀ cell, (after f before earlier).cell? n h = some cell →
    (after f before earlier).exec (.build n h (.patternText engine source notice)) =
      (after f before earlier,
        .refused ⟨source, fault⟩ ((after f before earlier).progress cell.chain))
  missing : (after f before earlier).cell? n h = none →
    (after f before earlier).exec (.build n h (.patternText engine source notice)) =
      (after f before earlier, .missing)
  /-- Without the step the session goes on in the same way, and gives the same other answers. -/
  later : ∀ later,
    after f before (earlier ++ .build n h (.patternText engine source notice) :: later) =
      after f before (earlier ++ later) ∧
    ((ofFactory f before).execAll (earlier ++
        .build n h (.patternText engine source notice) :: later)).2.eraseIdx earlier.length =
      ((ofFactory f before).execAll (earlier ++ later)).2
  /-- The same within what an extension chooses, under whatever settings. -/
  extension : f.extension.isSome = true → ∀ extension : Settings → List Step,
    (∀ settings, Step.Swapped [] [.patternText engine source notice] (f.opening settings)
      (extension settings)) → Alike f before extension

/-- A step with a text that is compiled, after a history, is the check for the pattern. -/
structure ReadAs (f : Factory ρ) (before : Trace) (earlier : List Command) (n : Nat) (h : Handle)
    (engine : Regex.Engine) (source : String) (notice : Notice) (r : Regex) : Prop where
  answer : (after f before earlier).exec (.build n h (.patternText engine source notice)) =
    (after f before earlier).exec (.build n h (.check (.pattern r) notice))
  later : ∀ later, (ofFactory f before).execAll
      (earlier ++ .build n h (.patternText engine source notice) :: later) =
    (ofFactory f before).execAll (earlier ++ .build n h (.check (.pattern r) notice) :: later)
  extension : f.extension.isSome = true → ∀ extension : Settings → List Step,
    (∀ settings, Step.Swapped [.check (.pattern r) notice]
      [.patternText engine source notice] (f.opening settings) (extension settings)) →
    Alike f before extension
  /-- The text is quoted as it was given. -/
  rule : f.generator.Keeps → ∀ cell, (after f before earlier).cell? n h = some cell → ∃ made,
    (after f before (earlier ++ [.build n h (.patternText engine source notice)])).cells[n]? =
        some { cell with chain := { cell.chain with rules := cell.chain.rules ++ [made] } } ∧
      ∀ scope v, (Rule.run made scope v).result =
        if (Check.pattern r).fails scope (scope.transform v) then
          some ⟨"regex", (notice.message.map fun m => m.resolve.result).getD
            ("Must match /" ++ source ++ "/")⟩
        else none

section
variable (f : Factory ρ) (before : Trace) (earlier : List Command) (n : Nat) (h : Handle)
  {engine : Regex.Engine} {source : String} (notice : Notice)

theorem leftOut {fault : String} (hp : engine.compile source = .error fault) :
    LeftOut f before earlier n h engine source notice fault where
  refused _ hc := exec_unread hp notice hc
  missing hn := exec_of_missing hn _
  later later := by
    obtain ⟨reply, hx⟩ : ∃ reply, (after f before earlier).exec
        (.build n h (.patternText engine source notice)) = (after f before earlier, reply) := by
      cases hc : (after f before earlier).cell? n h with
      | none => exact ⟨_, exec_of_missing hc _⟩
      | some cell => exact ⟨_, exec_unread hp notice hc⟩
    exact execAll_skip hx later
  extension hf _ hs := alike_of_swapped hf (Chain.steps_unread hp notice) hs before

theorem readAs {r : Regex} (hp : engine.compile source = .ok r) :
    ReadAs f before earlier n h engine source notice r where
  answer := exec_read hp notice n h _
  later := execAll_replace (exec_read hp notice n h _)
  extension hf _ hs := alike_of_swapped hf (Chain.steps_read hp notice) hs before
  rule hg cell hc := by
    have hcells := (cell?_eq_some_iff.mp hc).1
    have hn := (List.getElem?_eq_some_iff.mp hcells).1
    let made := cell.chain.generator ⟨"regex", .checked (.pattern r) notice.message⟩ notice.params
    have hmade : (cell.chain.step (.patternText engine source notice)).result =
        { cell.chain with rules := cell.chain.rules ++ [made] } := by
      rw [Chain.step_read hp]
      rfl
    refine ⟨made, ?_, fun scope v => ?_⟩
    · rw [← hmade, after_append]
      exact (congrArg (·[n]?) (cells_build hc _)).trans (List.getElem?_set_self hn)
    · have hkeeps : cell.chain.generator.Keeps := generator_after hcells ▸ hg
      rw [result_run_kept hkeeps, Test.result_checked, ← engine.source_compile hp]
      rfl

/-- Whatever the engine, a step with a pattern text is left out or is the check for its pattern, at
every place in every history and in every extension. -/
theorem pattern_text_left_out_or_read (engine : Regex.Engine) (source : String) :
    (∀ fault, engine.compile source = .error fault →
      LeftOut f before earlier n h engine source notice fault) ∧
    ∀ r, engine.compile source = .ok r → ReadAs f before earlier n h engine source notice r :=
  ⟨fun _ => leftOut f before earlier n h notice, fun _ => readAs f before earlier n h notice⟩

end

end Session

/-- An open group is left out, also where an extension has it under one kind of settings; a text
that is compiled is quoted by the failure. -/
theorem pattern_text_left_out_or_read_group :
    let f := Factory.mk Generator.describe (some fun _ => [.trim]) .default
    let earlier : List Command := [.build 0 .whole (.declare (.kind .string) .none)]
    let step (source : String) : Step := .patternText Pattern.engine source .none
    let text (source : String) : Command := .build 0 .extension (step source)
    (∀ later, Session.after f .empty (earlier ++ text "(b" :: later) =
      Session.after f .empty (earlier ++ later)) ∧
    Session.Alike f .empty (fun settings =>
      if settings.kind = .string then [step "(b", .trim] else [.trim]) ∧
    ∃ new r, (Session.after f .empty (earlier ++ [text "^b"])).cells[0]? = some new ∧
      r ∈ new.chain.rules ∧ (Rule.run r new.chain.scope (.string " ab")).result =
        some ⟨"regex", "Must match /^b/"⟩ := by
  intro f earlier step text
  have h (source : String) := Session.pattern_text_left_out_or_read f .empty earlier 0 .extension
    .none Pattern.engine source
  obtain ⟨r, hp, hf⟩ : ∃ r, Pattern.engine.compile "^b" = .ok r ∧ r.found "ab" = false :=
    ⟨_, rfl, rfl⟩
  obtain ⟨cell, hc, hk, ht⟩ : ∃ cell,
      (Session.after f .empty earlier).cell? 0 .extension = some cell ∧
      cell.chain.scope.kind = .string ∧ cell.chain.scope.transform (.string " ab") = .string "ab" :=
    ⟨_, rfl, rfl, rfl⟩
  obtain ⟨made, hnew, hr⟩ := ((h "^b").2 r hp).rule Generator.describe_keeps cell hc
  have hfails : (Check.pattern r).fails cell.chain.scope (.string "ab") = true := by
    simp [Check.fails, Check.failsText, Value.asString?, hk, hf]
  obtain ⟨fault, hopen⟩ : ∃ fault, Pattern.engine.compile "(b" = .error fault := ⟨_, rfl⟩
  have hout := (h "(b").1 fault hopen
  refine ⟨fun later => (hout.later later).1, hout.extension rfl _ fun settings => ?_, _, made, hnew,
    by simp, ?_⟩
  · split
    · exact .inr ⟨[], [.trim], rfl, rfl⟩
    · exact .inl rfl
  · rw [hr, ht, hfails]
    rfl

end Assay
