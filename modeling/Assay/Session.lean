import Assay.Factory
import Assay.Settings.Adjustment

/-!
# Sessions

A session is a factory with the chains that it has started, and rules kept aside from them. Chains
are numbered from zero in the order of their start. Commands name a chain and the handle on it; the
handles on one chain are all the same chain. Clones of a context that are kept elsewhere stay
handles, and kept rules go on reading the scope of their chain, also after it has been taken apart
or dropped.
-/

namespace Assay

/-- A way to a chain: as a whole, by its context, by the context that its extension holds, or by a
clone of the context that outlives them. -/
inductive Handle where
  | whole
  | context
  | extension
  | clone
  deriving DecidableEq, Repr

/-- A started chain. There are notes if it has an extension. -/
structure Cell (ρ : Type) where
  chain : Chain ρ
  notes : Option (List String)
  /-- Taken apart: only the context is left. -/
  isSplit : Bool
  isDropped : Bool

namespace Cell

variable {ρ : Type}

def reachable (c : Cell ρ) : Handle → Bool
  | .whole => !c.isDropped && !c.isSplit
  | .context => !c.isDropped
  | .extension => !c.isDropped && !c.isSplit && c.notes.isSome
  | .clone => true

def inspectNotes : Option (List String) → String
  | some notes => "Peer[" ++ String.intercalate ", " (notes.map Text.quote) ++ "]"
  | none => "()"

def inspect (c : Cell ρ) : String :=
  if c.isSplit then c.chain.inspect
  else "Ruler \x7b context: " ++ c.chain.inspect ++ ", ext: " ++ inspectNotes c.notes ++ " \x7d"

end Cell

/-- Rules kept aside, and the chain that they came from. -/
structure Kept (ρ : Type) where
  chain : Nat
  rules : List ρ

structure Session (ρ : Type) where
  factory : Factory ρ
  cells : List (Cell ρ)
  kept : Entries (Kept ρ)
  extensionRuns : Nat
  trace : Trace

/-- What a step answers about its chain. -/
structure Progress where
  kind : Kind
  rules : Nat
  flags : TextFlags
  deferredRuns : Nat
  deriving DecidableEq, Repr

/-- How far rules are run, and what is told of the verdicts. -/
inductive RunMode where
  | verdicts
  | validity
  | first
  deriving DecidableEq, Repr

inductive Command where
  | build (chain : Nat) (handle : Handle) (s : Step)
  | run (chain : Nat) (handle : Handle) (mode : RunMode) (v : Value)
  | transform (chain : Nat) (handle : Handle) (v : Value)
  | rules (chain : Nat) (handle : Handle)
  | resolve (chain : Nat) (handle : Handle) (message : Option Message)
  | inspect (chain : Nat)
  | inspectFactory
  | keep (chain : Nat) (handle : Handle) (name : String)
  | runKept (name : String) (v : Value)
  | start (settings : Option (List Settings.Adjustment))
  | drop (chain : Nat)
  | note (chain : Nat) (text : String)
  | split (chain : Nat)

inductive Reply (ρ : Type) where
  | progress (p : Progress)
  | refused (why : InvalidPattern) (p : Progress)
  | verdicts (vs : List Verdict) (deferredRuns : Nat)
  | validity (bs : List Bool) (deferredRuns : Nat)
  | value (v : Value)
  | rules (rs : List ρ)
  | message (text : Option String) (deferredRuns : Nat)
  | inspected (text : String)
  | kept (count : Nat)
  | started (chain : Nat) (own shared : Settings) (extensionRuns : Nat)
  | dropped (chain : Nat)
  | notes (ns : List String)
  | parts (ns : Option (List String)) (p : Progress)
  /-- The text of settings cannot be read. -/
  | unreadable (f : Json.Fault)
  /-- There is no such chain, handle or name. -/
  | missing

namespace Session

variable {ρ : Type}

def deferredRuns (s : Session ρ) : Nat := s.trace.deferredRuns

def record (s : Session ρ) (t : Trace) : Session ρ := { s with trace := s.trace ++ t }

/-- Starts one more chain. -/
def startChain (s : Session ρ) : Session ρ :=
  let started := s.factory.start
  let hasExtension := s.factory.extension.isSome
  let cell := ⟨started.result, if hasExtension then some [] else none, false, false⟩
  { s.record started.trace with
    cells := s.cells ++ [cell]
    extensionRuns := s.extensionRuns + if hasExtension then 1 else 0 }

/-- A session with its first chain. `before` has already happened. -/
def ofFactory (f : Factory ρ) (before : Trace) : Session ρ :=
  startChain ⟨f, [], [], 0, before⟩

/-- The chain of a number if the handle still leads to it. -/
def cell? (s : Session ρ) (chain : Nat) (handle : Handle) : Option (Cell ρ) :=
  s.cells[chain]?.filter (·.reachable handle)

def setCell (s : Session ρ) (chain : Nat) (c : Cell ρ) : Session ρ :=
  { s with cells := s.cells.set chain c }

def progress (s : Session ρ) (c : Chain ρ) : Progress :=
  ⟨c.scope.kind, c.rules.length, c.scope.flags, s.deferredRuns⟩

/-- Runs rules in a scope. The effects are recorded before the answer counts them. -/
def runRules [Rule ρ] (s : Session ρ) (rules : List ρ) (scope : Scope) (mode : RunMode)
    (v : Value) : Session ρ × Reply ρ :=
  match mode with
  | .verdicts =>
    let ran := Rule.runAll rules scope v
    let s := s.record ran.trace
    (s, .verdicts ran.result s.deferredRuns)
  | .validity =>
    let ran := Rule.runAll rules scope v
    let s := s.record ran.trace
    (s, .validity (ran.result.map Option.isNone) s.deferredRuns)
  | .first =>
    let ran := Rule.firstFailure rules scope v
    let s := s.record ran.trace
    (s, .verdicts [ran.result] s.deferredRuns)

def buildStep (s : Session ρ) (chain : Nat) (cell : Cell ρ) (step : Step) : Session ρ × Reply ρ :=
  let built := cell.chain.step step
  let s := (s.setCell chain { cell with chain := built.result }).record built.trace
  let progress := s.progress built.result
  match step.refusal? with
  | some why => (s, .refused why progress)
  | none => (s, .progress progress)

def startWith (s : Session ρ) (settings : Traced Settings) : Session ρ × Reply ρ :=
  let s := s.record settings.trace
  let s := { s with factory := { s.factory with settings := settings.result } }
  let s := s.startChain
  (s, .started (s.cells.length - 1) settings.result settings.result s.extensionRuns)

/-- Does something with a chain that is there. -/
def withCell (s : Session ρ) (chain : Nat) (handle : Handle)
    (f : Cell ρ → Session ρ × Reply ρ) : Session ρ × Reply ρ :=
  match s.cell? chain handle with
  | some c => f c
  | none => (s, .missing)

def exec [Rule ρ] (s : Session ρ) : Command → Session ρ × Reply ρ
  | .build chain handle step => s.withCell chain handle fun c => s.buildStep chain c step
  | .run chain handle mode v =>
    s.withCell chain handle fun c => s.runRules c.chain.rules c.chain.scope mode v
  | .transform chain handle v =>
    s.withCell chain handle fun c => (s, .value (c.chain.scope.transform v))
  | .rules chain handle => s.withCell chain handle fun c => (s, .rules c.chain.rules)
  | .resolve chain handle message =>
    s.withCell chain handle fun _ =>
      let resolved := message.mapM Message.resolve
      let s := s.record resolved.trace
      (s, .message resolved.result s.deferredRuns)
  | .inspect chain => s.withCell chain .context fun c => (s, .inspected c.inspect)
  | .inspectFactory => (s, .inspected s.factory.inspect)
  | .keep chain handle name =>
    s.withCell chain handle fun c =>
      ({ s with kept := s.kept.put name ⟨chain, c.chain.rules⟩ }, .kept c.chain.rules.length)
  | .runKept name v =>
    match s.kept.get? name with
    | some k =>
      match s.cells[k.chain]? with
      | some c => s.runRules k.rules c.chain.scope .verdicts v
      | none => (s, .missing)
    | none => (s, .missing)
  | .start none => s.startWith (pure s.factory.settings)
  | .start (some adjustments) =>
    match Settings.default.adjustAll adjustments with
    | .ok settings => s.startWith settings
    | .error f => (s, .unreadable f)
  | .drop chain =>
    s.withCell chain .context fun c =>
      (s.setCell chain { c with isDropped := true }, .dropped chain)
  | .note chain text =>
    s.withCell chain .extension fun c =>
      let notes := c.notes.getD [] ++ [text]
      (s.setCell chain { c with notes := some notes }, .notes notes)
  | .split chain =>
    s.withCell chain .whole fun c =>
      (s.setCell chain { c with isSplit := true }, .parts c.notes (s.progress c.chain))

/-- The replies to commands in turn, with the session after them. -/
def execAll [Rule ρ] (s : Session ρ) : List Command → Session ρ × List (Reply ρ)
  | [] => (s, [])
  | command :: rest =>
    let (s, reply) := s.exec command
    let (s, replies) := s.execAll rest
    (s, reply :: replies)

end Session

end Assay
