import Assay.Json.Reader
import Assay.Settings.Basic

/-!
# Settings as JSON

Settings are read from an object with both members optional and others passed over, or from an array
with a missing tail. A name is a string, or an object whose only key is the name, with null under
it. The first fault in reading order is the answer.
-/

namespace Assay.Settings

open Json (Fault)
open Json.Reader

/-- The fault of text that starts some other value than the one asked for. A value without parts is
read to its end first. -/
def otherShape (s : List Char) : Fault :=
  match s with
  | [] => .truncated
  | '[' :: _ | '\x7b' :: _ => .mismatch
  | s =>
    match scalar? .kept s with
    | some (.ok _) => .mismatch
    | some (.error f) => f
    | none => .malformed

/-- A string that `ofName?` knows. -/
def nameString {α : Type} (ofName? : String → Option α) (s : List Char) :
    Except Fault (α × List Char) :=
  match s with
  | '"' :: s => do
    let (name, s) ← stringContent .kept [] .plain s
    match ofName? name with
    | some a => return (a, s)
    | none => throw .mismatch
  | s => .error (otherShape s)

/-- The null under the key of a name object, and the end of the object. -/
def endOfNameObject (s : List Char) : Except Fault (List Char) :=
  match skipSpace s with
  | 'n' :: s => do
    let s ← literal ['u', 'l', 'l'] s
    match skipSpace s with
    | '\x7d' :: s => return s
    | [] => throw .truncated
    | _ => throw .malformed
  | s => .error (otherShape s)

def colon (s : List Char) : Except Fault (List Char) :=
  match skipSpace s with
  | ':' :: s => .ok s
  | [] => .error .truncated
  | _ => .error .malformed

/-- A name in either form. -/
def name {α : Type} (ofName? : String → Option α) (s : List Char) :
    Except Fault (α × List Char) :=
  match skipSpace s with
  | '"' :: s => nameString ofName? ('"' :: s)
  | '\x7b' :: s => do
    let (a, s) ← nameString ofName? (skipSpace s)
    let s ← colon s
    return (a, ← endOfNameObject s)
  | [] => .error .truncated
  | _ => .error .malformed

/-- What the members read so far say. -/
structure Draft where
  kind : Option Kind
  lengths : Option LengthMode

def Draft.complete (p : Draft) : Settings :=
  ⟨p.kind.getD default.kind, p.lengths.getD default.lengths⟩

/-- The value under a key that has just been read. A key of settings may not come twice. -/
def memberValue (p : Draft) (key : String) (s : List Char) :
    Except Fault (Draft × List Char) :=
  if key = "default_type" then
    if p.kind.isSome then .error .mismatch
    else do
      let (k, s) ← name Kind.ofName? (← colon s)
      return ({ p with kind := some k }, s)
  else if key = "length_mode" then
    if p.lengths.isSome then .error .mismatch
    else do
      let (m, s) ← name LengthMode.ofName? (← colon s)
      return ({ p with lengths := some m }, s)
  else do
    let s ← skipValue (← colon s)
    return (p, s)

/-- The members of an object from a key on. Each one takes some of the fuel. -/
def members : Nat → Draft → List Char → Except Fault (Draft × List Char)
  | 0, _, _ => .error .truncated
  | fuel + 1, p, s =>
    match skipSpace s with
    | '"' :: s => do
      let (key, s) ← stringContent .kept [] .plain s
      let (p, s) ← memberValue p key s
      match skipSpace s with
      | ',' :: s => members fuel p s
      | '\x7d' :: s => return (p, s)
      | [] => throw .truncated
      | _ => throw .malformed
    | [] => .error .truncated
    | _ => .error .malformed

/-- An item of an array if there is one more, after a comma unless it is the first. -/
def item? {α : Type} (ofName? : String → Option α) (first : Bool) (s : List Char) :
    Except Fault (Option α × List Char) :=
  match skipSpace s with
  | [] => .error .truncated
  | ']' :: s => .ok (none, ']' :: s)
  | c :: s =>
    if first then do
      let (a, s) ← name ofName? (c :: s)
      return (some a, s)
    else if c = ',' then
      match skipSpace s with
      | ']' :: _ => .error .malformed
      | [] => .error .truncated
      | s => do
        let (a, s) ← name ofName? s
        return (some a, s)
    else .error .malformed

def items (s : List Char) : Except Fault (Settings × List Char) := do
  let (kind, s) ← item? Kind.ofName? true s
  let (lengths, s) ← item? LengthMode.ofName? false s
  match skipSpace s with
  | ']' :: s => return (Draft.complete ⟨kind, lengths⟩, s)
  | [] => throw .truncated
  | _ => throw .malformed

def settings (s : List Char) : Except Fault (Settings × List Char) :=
  match skipSpace s with
  | '[' :: s => items s
  | '\x7b' :: s =>
    match skipSpace s with
    | '\x7d' :: s => .ok (default, s)
    | s => do
      let (p, s) ← members (s.length + 1) ⟨none, none⟩ s
      return (p.complete, s)
  | s => .error (otherShape s)

def ofJsonText (text : String) : Except Fault Settings := whole (settings text.toList)

end Assay.Settings

namespace Assay.Kind

/-- Reads the name of a kind as JSON. -/
def ofJsonText (text : String) : Except Json.Fault Kind :=
  Json.Reader.whole (Settings.name ofName? text.toList)

end Assay.Kind
