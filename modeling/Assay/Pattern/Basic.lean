import Assay.Pattern.Cursor
import Assay.Regex

/-!
# Patterns

A pattern is a text together with the expression that it denotes. It matches a text if it matches
some part of it. What is read is a part of the usual language of patterns: properties without a
table here are refused, and the size of the machine that a pattern would need is estimated.
`Pattern.engine` is the engine that runs with this reader.
-/

namespace Assay

namespace Pattern

/-- A piece of a pattern: its expression, about how many bytes a machine for it would take, and how
deep it is nested. -/
structure Part where
  expression : Expression
  cost : Nat
  depth : Nat
  /-- It only sets flags, so there is nothing in it to repeat. -/
  isFlags : Bool

namespace Part

/-- The largest machine. -/
def costLimit : Nat := 10 * 0x100000

def depthLimit : Nat := 250

def empty : Part := ⟨.empty, 0, 0, false⟩

def flags : Part := ⟨.empty, 0, 0, true⟩

def set (s : Charset) (depth : Nat) : Part := ⟨.one s false, 32 + 60 * (s.ranges - 1), depth, false⟩

def anchor (a : Anchor) : Part := ⟨.anchor a, 32, 0, false⟩

def join (op : Expression → Expression → Expression) (a b : Part) : Part :=
  ⟨op a.expression b.expression, a.cost + b.cost, max a.depth b.depth, false⟩

/-- Pieces in a row; a single one is not nested deeper. -/
def sequence : List Part → Part
  | [] => empty
  | [p] => p
  | p :: rest =>
    let joined := rest.foldr (fun a b => join .seq a b) empty
    { join .seq p joined with depth := (join .seq p joined).depth + 1 }

def choice : List Part → Part
  | [] => empty
  | [p] => p
  | p :: rest =>
    let joined := rest.foldl (fun a b => join .alt a b) p
    { joined with cost := joined.cost + 32, depth := joined.depth + 1 }

def group (p : Part) : Part := ⟨p.expression, p.cost + 64, p.depth + 1, false⟩

end Part

namespace Reader

def anchorOf (f : Flags) (c : Char) : Anchor :=
  if !f.multiLine then (if c = '^' then .textStart else .textEnd)
  else if f.crlf then (if c = '^' then .crlfLineStart else .crlfLineEnd)
  else if c = '^' then .lineStart else .lineEnd

def dot : Reader Part := do
  let f ← flags
  unless f.unicode do throw .partialCharacter
  let lineEnds : Charset :=
    if f.dotAll then .nothing
    else if f.crlf then .union (.one '\n') (.one '\r')
    else .one '\n'
  return .set (.diff .any lineEnds) 0

def tokenPart : Token → Reader Part
  | .character c asByte => do
    let f ← flags
    if asByte && !f.unicode && 0x80 ≤ c.toNat then throw .partialCharacter
    return .set (widen f (.one c)) 0
  | .set s => return .set s 0
  | .anchor a => return .anchor a

/-- The last piece, which an operator repeats. -/
def repeatable : List Part → Reader (Part × List Part)
  | [] => throw .nothingToRepeat
  | p :: rest => if p.isFlags then throw .nothingToRepeat else return (p, rest)

/-- A piece repeated, if the outcome is not too large. -/
def repeated (p : Part) (least : Nat) (most : Option Nat) : Reader Part := do
  -- without an upper bound one more copy stands for the loop
  let times := if p.expression.reads then max 1 (most.getD (least + 1)) else 1
  let cost := (p.cost + 32) * times
  if cost > Part.costLimit then throw .tooLarge
  return ⟨p.expression.repeated least most, cost, p.depth + 1, false⟩

/-- A mark after an operator that makes it lazy. It does not change what matches. -/
def lazyMark : Reader Unit := do
  if (← peek?) = some '?' then bump

/-- A count; blanks may stand around it. -/
def count? : Reader (Option Nat) := do
  modify fun s => { s with rest := s.rest.dropWhile Text.isBlank }
  let digits ← collect Char.isDigit
  let _ ← collect Text.isBlank
  if digits.isEmpty then return none
  let n := digits.foldl (fun n d => 10 * n + (d.toNat - 48)) 0
  if n < 0x100000000 then return some n else throw .repetitionCount

/-- The bounds of a repetition in braces, from the opening brace on. -/
def bounds : Reader (Nat × Option Nat) := do
  advance
  let _ ← current .repetitionCount
  let some least ← count? | do
    throw .repetitionCount
  let most ← if (← current .repetitionCount) = ',' then do
      advance
      if (← current .repetitionCount) = '\x7d' then pure none
      else match ← count? with
        | some most => pure (some most)
        | none => throw .repetitionCount
    else pure (some least)
  if (← current .repetitionCount) ≠ '\x7d' then throw .repetitionCount
  if most.any (· < least) then throw .repetitionCount
  advance
  return (least, most)

/-- Flags up to a colon or a closing parenthesis, and whether there are any. -/
def flagItems (seen : List Char) (negated dangling : Bool) (f : Flags) :
    List Char → Except Fault (Flags × Bool × List Char)
  | [] => .error .flag
  | c :: s =>
    if c = ':' || c = ')' then
      if dangling then .error .flag else .ok (f, !seen.isEmpty, c :: s)
    else if c = '-' then
      if negated then .error .flag else flagItems seen true true f s
    else if seen.contains c then .error .flag
    else match f.set? c (!negated) with
      | some f => flagItems (c :: seen) negated false f s
      | none => .error .flag

def isNameChar (first : Bool) (c : Char) : Bool :=
  c = '_' || Text.Property.alphabetic.contains c
    || (!first && (c = '.' || c = '[' || c = ']'
      || (Charset.categories [.decimalNumber, .letterNumber, .otherNumber]).contains c))

/-- The name of a group up to its bracket. No two groups have one name. -/
def groupName : Reader Unit := do
  match (← get).rest.span (· ≠ '>') with
  | (c :: name, _ :: rest) =>
    unless isNameChar true c && name.all (isNameChar false) do throw .groupName
    let full := String.ofList (c :: name)
    if (← get).names.contains full then throw .groupName
    modify fun s => { s with rest, names := full :: s.names }
  | _ => throw .groupName

mutual
/-- What stands up to the end of the group or of the text: the branches so far and the pieces of the
last one, both backwards. The fuel bounds the calls. -/
def pieces : Nat → List Part → List Part → Reader Part
  | 0, _, _ => throw .tooDeep
  | fuel + 1, branches, row => do
    skip
    match ← peek? with
    | none | some ')' => return .choice (.sequence row.reverse :: branches).reverse
    | some '|' =>
      bump
      pieces fuel (.sequence row.reverse :: branches) []
    | some '(' =>
      let p ← group fuel
      pieces fuel branches (p :: row)
    | some '[' =>
      let n ← bracket (2 * (← get).rest.length + 2)
      pieces fuel branches (.set n.set n.depth :: row)
    | some '\x7b' =>
      let (p, rest) ← repeatable row
      let (least, most) ← bounds
      lazyMark
      pieces fuel branches ((← repeated p least most) :: rest)
    | some '\\' =>
      let p ← tokenPart (← escape)
      pieces fuel branches (p :: row)
    | some c =>
      bump
      if c = '*' || c = '+' || c = '?' then
        let (p, rest) ← repeatable row
        lazyMark
        let p ← repeated p (if c = '+' then 1 else 0) (if c = '?' then some 1 else none)
        pieces fuel branches (p :: rest)
      else if c = '^' || c = '$' then
        pieces fuel branches (.anchor (anchorOf (← flags) c) :: row)
      else
        let p ← if c = '.' then dot else tokenPart (.character c false)
        pieces fuel branches (p :: row)
/-- A group, or flags for what follows in the group around them, from the parenthesis on. -/
def group : Nat → Reader Part
  | 0 => throw .tooDeep
  | fuel + 1 => do
    bump
    skip
    match (← get).rest with
    | '?' :: '=' :: _ | '?' :: '!' :: _ | '?' :: '<' :: '=' :: _ | '?' :: '<' :: '!' :: _ =>
      throw .lookAround
    | '?' :: 'P' :: '<' :: s | '?' :: '<' :: s =>
      jump s
      groupName
      groupBody fuel (← flags)
    | '?' :: s =>
      let (f, any, s) ← flagItems [] false false (← flags) s
      jump s.tail
      -- flags before a colon are those of the group, else of all that follows
      if s.head? = some ':' then groupBody fuel f
      else if any then
        modify fun s => { s with flags := f }
        return .flags
      else throw .nothingToRepeat
    | _ => groupBody fuel (← flags)
/-- The content of a group under its flags, and the end of the group. -/
def groupBody : Nat → Flags → Reader Part
  | 0, _ => throw .tooDeep
  | fuel + 1, f => do
    let outer ← flags
    modify fun s => { s with flags := f }
    let p ← pieces fuel [] []
    let _ ← current .groupUnclosed
    bump
    modify fun s => { s with flags := outer }
    return .group p
end

/-- A whole pattern. -/
def pattern : Reader Part := do
  let p ← pieces (3 * (← get).rest.length + 3) [] []
  if (← peek?).isSome then throw .groupUnopened
  if p.depth > Part.depthLimit then throw .tooDeep
  if p.cost > Part.costLimit then throw .tooLarge
  return p

end Reader

end Pattern

/-- A pattern keeps its text, which messages show. -/
structure Pattern where
  source : String
  expression : Pattern.Expression
  deriving DecidableEq

namespace Pattern

def ofText (source : String) : Except Fault Pattern := do
  let (p, _) ← Reader.pattern ⟨source.toList, .initial, []⟩
  return ⟨source, p.expression⟩

/-- Does the pattern match some part of the text? -/
def found (p : Pattern) (s : String) : Bool := p.expression.search none s.toList

theorem source_ofText {source : String} {p : Pattern} (h : ofText source = .ok p) :
    p.source = source := by
  simp only [ofText, bind, Except.bind] at h
  split at h
  · simp at h
  · simp only [pure, Except.pure, Except.ok.injEq] at h
    rw [← h]

def compile (source : String) : Except String Regex :=
  match ofText source with
  | .ok p => .ok ⟨p.source, p.found⟩
  | .error fault => .error fault.text

theorem source_compile {source : String} {r : Regex} (h : compile source = .ok r) :
    r.source = source := by
  unfold compile at h
  split at h
  · rename_i p hp
    cases h
    exact source_ofText hp
  · cases h

def engine : Regex.Engine := ⟨compile, source_compile⟩

end Pattern

end Assay
