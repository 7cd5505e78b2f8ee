import Assay.Kind

/-!
# Events and traces

What happens beside a result: events, in order, and runs of deferred messages, counted. `Traced`
carries both along; a sequence of steps has the traces of its steps, one after the other.
-/

namespace Assay

/-- What a failing rule reports. -/
structure Failure where
  code : String
  message : String
  deriving DecidableEq, Repr

inductive Event where
  | chainStarted (kind : Kind)
  | ruleAppended (code : String) (index : Nat)
  | ruleFailed (failure : Failure)
  | transformerInstalled
  | kindIgnored (raw : String)
  | lengthModeIgnored (raw : String)
  deriving DecidableEq, Repr

@[ext] structure Trace where
  events : List Event
  deferredRuns : Nat
  deriving DecidableEq, Repr

namespace Trace

def empty : Trace := ⟨[], 0⟩

instance : Append Trace := ⟨fun s t => ⟨s.events ++ t.events, s.deferredRuns + t.deferredRuns⟩⟩

@[simp] theorem events_append (s t : Trace) : (s ++ t).events = s.events ++ t.events := rfl

@[simp] theorem deferredRuns_append (s t : Trace) :
    (s ++ t).deferredRuns = s.deferredRuns + t.deferredRuns := rfl

@[simp] theorem empty_append (t : Trace) : empty ++ t = t := by
  ext1
  · exact List.nil_append _
  · exact Nat.zero_add _

@[simp] theorem append_empty (t : Trace) : t ++ empty = t := by
  ext1
  · exact List.append_nil _
  · exact Nat.add_zero _

theorem append_assoc (s t u : Trace) : s ++ t ++ u = s ++ (t ++ u) := by
  ext1
  · exact List.append_assoc ..
  · exact Nat.add_assoc ..

end Trace

structure Traced (α : Type) where
  result : α
  trace : Trace

namespace Traced

variable {α β : Type}

instance : Monad Traced where
  pure a := ⟨a, .empty⟩
  bind x f := ⟨(f x.result).result, x.trace ++ (f x.result).trace⟩

instance : LawfulMonad Traced :=
  .mk' Traced (fun x => congrArg (mk x.result) (Trace.append_empty x.trace))
    (fun a f => congrArg (mk (f a).result) (Trace.empty_append (f a).trace))
    (fun _ _ _ => congrArg (mk _) (Trace.append_assoc ..))

def emit (e : Event) : Traced Unit := ⟨(), ⟨[e], 0⟩⟩

/-- One run of a deferred message. -/
def countRun : Traced Unit := ⟨(), ⟨[], 1⟩⟩

@[simp] theorem result_pure (a : α) : (pure a : Traced α).result = a := rfl

@[simp] theorem trace_pure (a : α) : (pure a : Traced α).trace = .empty := rfl

@[simp] theorem result_bind (x : Traced α) (f : α → Traced β) :
    (x >>= f).result = (f x.result).result := rfl

@[simp] theorem trace_bind (x : Traced α) (f : α → Traced β) :
    (x >>= f).trace = x.trace ++ (f x.result).trace := rfl

@[simp] theorem result_map (f : α → β) (x : Traced α) : (f <$> x).result = f x.result := rfl

@[simp] theorem trace_map (f : α → β) (x : Traced α) : (f <$> x).trace = x.trace :=
  Trace.append_empty x.trace

end Traced

end Assay
