import Assay.Pattern.Expression
import Assay.Pattern.PropertyName

/-!
# Reading patterns: cursor, escapes and brackets

The reader goes over the text of a pattern once. The cursor holds the text that is left and the
flags in force; in extended mode blanks and comments between tokens are passed over.
-/

namespace Assay.Pattern

open Text

/-- Why a text is no pattern. -/
inductive Fault where
  | groupUnclosed
  | groupUnopened
  | groupName
  | lookAround
  | backReference
  | flag
  | bracketUnclosed
  | bracketRange
  | bracketItem
  | escape
  | codePoint
  | property
  | nothingToRepeat
  | repetitionCount
  /-- A set of bytes that would match within a character. -/
  | partialCharacter
  | tooDeep
  | tooLarge
  deriving DecidableEq, Repr

def Fault.text : Fault → String
  | .groupUnclosed => "unclosed group"
  | .groupUnopened => "unopened group"
  | .groupName => "invalid or repeated group name"
  | .lookAround => "look-around is not supported"
  | .backReference => "backreferences are not supported"
  | .flag => "invalid flags"
  | .bracketUnclosed => "unclosed character class"
  | .bracketRange => "invalid character class range"
  | .bracketItem => "invalid item in a character class"
  | .escape => "unrecognized escape sequence"
  | .codePoint => "invalid code point"
  | .property => "Unicode property not found"
  | .nothingToRepeat => "repetition operator missing expression"
  | .repetitionCount => "invalid repetition count"
  | .partialCharacter => "pattern can match invalid UTF-8"
  | .tooDeep => "nested too deeply"
  | .tooLarge => "compiled pattern exceeds size limit"

structure Flags where
  caseless : Bool
  multiLine : Bool
  dotAll : Bool
  lazy : Bool
  unicode : Bool
  crlf : Bool
  extended : Bool
  deriving DecidableEq

namespace Flags

def initial : Flags := ⟨false, false, false, false, true, false, false⟩

def set? (f : Flags) (name : Char) (on : Bool) : Option Flags :=
  match name with
  | 'i' => some { f with caseless := on }
  | 'm' => some { f with multiLine := on }
  | 's' => some { f with dotAll := on }
  | 'U' => some { f with lazy := on }
  | 'u' => some { f with unicode := on }
  | 'R' => some { f with crlf := on }
  | 'x' => some { f with extended := on }
  | _ => none

end Flags

structure Cursor where
  rest : List Char
  flags : Flags
  /-- The names of groups so far. -/
  names : List String

abbrev Reader := StateT Cursor (Except Fault)

namespace Reader

/-- Without the blanks and the comments at the front. -/
def skipIgnored (inComment : Bool) : List Char → List Char
  | [] => []
  | c :: s =>
    if inComment then skipIgnored (c ≠ '\n') s
    else if isBlank c then skipIgnored false s
    else if c = '#' then skipIgnored true s
    else c :: s

def peek? : Reader (Option Char) := return (← get).rest.head?

/-- The character at the cursor, which has to be there. -/
def current (missing : Fault) : Reader Char := do
  match ← peek? with
  | some c => return c
  | none => throw missing

def bump : Reader Unit := modify fun s => { s with rest := s.rest.tail }

def skip : Reader Unit :=
  modify fun s => if s.flags.extended then { s with rest := skipIgnored false s.rest } else s

/-- On to the next character that is not ignored. -/
def advance : Reader Unit := do
  bump
  skip

def jump (rest : List Char) : Reader Unit := modify fun s => { s with rest }

def flags : Reader Flags := return (← get).flags

/-- The character after the one at the cursor that is not ignored. -/
def peekNext? : Reader (Option Char) := do
  let s ← get
  let rest := s.rest.tail
  return (if s.flags.extended then skipIgnored false rest else rest).head?

def collectWithin (p : Char → Bool) : Nat → Reader (List Char)
  | 0 => return []
  | fuel + 1 => do
    match ← peek? with
    | some c =>
      if p c then
        advance
        return c :: (← collectWithin p fuel)
      else return []
    | none => return []

/-- The characters in the class from the cursor on. -/
def collect (p : Char → Bool) : Reader (List Char) := do
  collectWithin p (← get).rest.length

/-- What one token stands for. -/
inductive Token where
  /-- A character; `asByte` if it is written as a byte. -/
  | character (c : Char) (asByte : Bool)
  | set (s : Charset)
  | anchor (a : Anchor)

def isMeta (c : Char) : Bool := "\\.+*?()|[]\x7b\x7d^$#&-~".toList.contains c

/-- Stands for itself after a backslash. -/
def isEscapable (c : Char) : Bool :=
  isMeta c || (c.toNat < 0x80 && !c.isAlphanum && c ≠ '<' && c ≠ '>')

def hexValue? (c : Char) : Option Nat :=
  if c.isDigit then some (c.toNat - 48)
  else if 'a' ≤ c ∧ c ≤ 'f' then some (c.toNat - 87)
  else if 'A' ≤ c ∧ c ≤ 'F' then some (c.toNat - 55)
  else none

def isHex (c : Char) : Bool := (hexValue? c).isSome

/-- The character of a code point in hexadecimal. -/
def codePoint (digits : List Char) : Reader Char := do
  let n := digits.foldl (fun n d => 16 * n + (hexValue? d).getD 0) 0
  if h : n.isValidChar then return Char.ofNatAux n h else throw .codePoint

/-- A fixed number of hexadecimal digits. -/
def fixedHex : Nat → Reader (List Char)
  | 0 => return []
  | n + 1 => do
    let c ← current .escape
    unless isHex c do throw .codePoint
    advance
    return c :: (← fixedHex n)

/-- A code point after `x`, `u` or `U`, in braces or with 2, 4 or 8 digits. -/
def hexEscape (kind : Char) : Reader Token := do
  advance
  if (← current .escape) = '\x7b' then
    advance
    let digits ← collect isHex
    if (← current .escape) ≠ '\x7d' || digits.isEmpty then throw .codePoint
    advance
    return .character (← codePoint digits) false
  else
    let digits ← fixedHex (if kind = 'x' then 2 else if kind = 'u' then 4 else 8)
    return .character (← codePoint digits) (kind = 'x')

/-- Splits at the first place where the separator stands. -/
def splitAt? (separator : List Char) : List Char → Option (List Char × List Char)
  | [] => none
  | c :: s =>
    if separator.isPrefixOf (c :: s) then some ([], (c :: s).drop separator.length)
    else (splitAt? separator s).map fun (a, b) => (c :: a, b)

/-- The set that the text in the braces of `\p` names, and whether it is to be negated. -/
def propertySet? (name : List Char) : Option (Charset × Bool) :=
  match splitAt? ['!', '='] name with
  | some (property, value) => (Charset.ofValue? property value).map (·, true)
  | none =>
    match (splitAt? [':'] name).or (splitAt? ['='] name) with
    | some (property, value) => (Charset.ofValue? property value).map (·, false)
    | none => (Charset.ofName? name).map (·, false)

/-- Widens a set to all cases if the flags say so. -/
def widen (f : Flags) (s : Charset) : Charset :=
  if f.caseless then (if f.unicode then .anyCase s else .anyAsciiCase s) else s

def negate (f : Flags) (negated : Bool) (s : Charset) : Reader Charset :=
  if !negated then return s
  else if f.unicode then return .complement s
  else throw .partialCharacter

/-- A property after `p` or `P`. -/
def propertyEscape (negated : Bool) : Reader Token := do
  advance
  let name ← if (← current .escape) = '\x7b' then do
      advance
      let name ← collect (· ≠ '\x7d')
      let _ ← current .escape
      bump
      pure name
    else do
      let c ← current .escape
      if c = '\\' then throw .property
      advance
      pure [c]
  let f ← flags
  unless f.unicode do throw .partialCharacter
  match propertySet? name with
  | some (s, inverse) => return .set (← negate f (negated != inverse) (widen f s))
  | none => throw .property

/-- A class that one letter names, in upper case for its complement. -/
def letterClass (c : Char) : Reader Token := do
  let f ← flags
  let s := match c.toLower with
    | 'd' => if f.unicode then Charset.digit else Charset.asciiDigit
    | 's' => if f.unicode then Charset.space else Charset.asciiSpace
    | _ => if f.unicode then Charset.word else Charset.asciiWord
  return .set (← negate f c.isUpper s)

/-- What follows `\b`: the name of a special boundary in braces, or nothing of it. -/
def boundaryName? : Reader (Option String) := do
  let before ← get
  if before.rest.head? ≠ some '\x7b' then return none
  advance
  let isNameChar := fun (c : Char) => c.isAlpha || c = '-'
  if !isNameChar (← current .escape) then
    -- the brace then belongs to a repetition
    set before
    return none
  let name ← collect isNameChar
  if (← peek?) ≠ some '\x7d' then throw .escape
  bump
  return some (String.ofList name)

def boundary : Reader Token := do
  let f ← flags
  let word := if f.unicode then Charset.word else Charset.asciiWord
  match ← boundaryName? with
  | none => return .anchor (.boundary word)
  | some "start" => return .anchor (.wordStart word)
  | some "end" => return .anchor (.wordEnd word)
  | some "start-half" => return .anchor (.halfStart word)
  | some "end-half" => return .anchor (.halfEnd word)
  | some _ => throw .escape

/-- An escape, from its backslash on. -/
def escape : Reader Token := do
  bump
  let c ← current .escape
  if c.isDigit then throw .backReference
  if c = 'x' || c = 'u' || c = 'U' then hexEscape c
  else if c = 'p' || c = 'P' then propertyEscape (c = 'P')
  else
    bump
    if isEscapable c then return .character c false
    let f ← flags
    let word := if f.unicode then Charset.word else Charset.asciiWord
    match c with
    | 'd' | 'D' | 's' | 'S' | 'w' | 'W' => letterClass c
    | 'a' => return .character '\x07' false
    | 'f' => return .character '\x0c' false
    | 't' => return .character '\t' false
    | 'n' => return .character '\n' false
    | 'r' => return .character '\r' false
    | 'v' => return .character '\x0b' false
    | 'A' => return .anchor .textStart
    | 'z' => return .anchor .textEnd
    | 'b' => boundary
    | 'B' => return .anchor (.notBoundary word)
    | '<' => return .anchor (.wordStart word)
    | '>' => return .anchor (.wordEnd word)
    | _ => throw .escape

/-- What a token may add to a set of the flags' alphabet. -/
def bracketSet : Token → Reader Charset
  | .character c _ => do
    if (← flags).unicode || c.toNat < 0x80 then return .one c else throw .partialCharacter
  | .set s => return s
  | .anchor _ => throw .bracketItem

def bracketToken : Reader Token := do
  let c ← current .bracketUnclosed
  if c = '\\' then escape
  else
    bump
    return .character c false

/-- One token, or two as the ends of a range. -/
def bracketItem : Reader Charset := do
  let first ← bracketToken
  skip
  let c ← current .bracketUnclosed
  let next ← peekNext?
  if c ≠ '-' || next = some ']' || next = some '-' then bracketSet first
  else
    advance
    let last ← bracketToken
    match first, last with
    | .character a _, .character b _ =>
      let _ ← bracketSet first
      let _ ← bracketSet last
      if a ≤ b then return .range a.toNat b.toNat else throw .bracketRange
    | _, _ => throw .bracketRange

/-- A class of ASCII such as `[:alpha:]`, if there is one at the front. -/
def asciiClass? : List Char → Option (Charset × List Char)
  | '[' :: ':' :: s =>
    let negated := s.head? = some '^'
    match (if negated then s.tail else s).span (· ≠ ':') with
    | (name, ':' :: ']' :: rest) =>
      (Charset.ofAsciiName? (String.ofList name)).map fun c =>
        (if negated then .complement c else c, rest)
    | _ => none
  | _ => none

inductive SetOperation where
  | inter
  | diff
  | symDiff

def SetOperation.apply : SetOperation → Charset → Charset → Charset
  | .inter => .inter
  | .diff => .diff
  | .symDiff => .symDiff

def SetOperation.ofChar? : Char → Option SetOperation
  | '&' => some .inter
  | '-' => some .diff
  | '~' => some .symDiff
  | _ => none

/-- A set with the depth of its brackets, unions and operations. -/
structure Nested where
  set : Charset
  depth : Nat

def Nested.union : List Nested → Nested
  | [n] => n
  | ns => ⟨.unionAll (ns.map (·.set)), (ns.map (·.depth)).foldl max 0 + 1⟩

/-- The operation that waits for its right side, applied. -/
def Nested.combine (f : Flags) (pending : Option (SetOperation × Nested)) (right : Nested) :
    Nested :=
  match pending with
  | some (op, left) =>
    ⟨op.apply (widen f left.set) (widen f right.set), max left.depth right.depth + 1⟩
  | none => right

mutual
/-- A bracket from its opening on. The fuel bounds the calls. -/
def bracket : Nat → Reader Nested
  | 0 => throw .bracketUnclosed
  | fuel + 1 => do
    advance
    let negated := (← current .bracketUnclosed) = '^'
    if negated then advance
    -- dashes and a closing bracket right after the opening stand for themselves
    let dashes ← collect (· = '-')
    let c ← current .bracketUnclosed
    let mut items : List Nested := dashes.map fun d => ⟨.one d, 0⟩
    if items.isEmpty && c = ']' then
      advance
      items := [⟨.one c, 0⟩]
    bracketRest fuel negated none items
/-- The rest of a bracket after some items and the operation that waits for them. -/
def bracketRest : Nat → Bool → Option (SetOperation × Nested) → List Nested → Reader Nested
  | 0, _, _, _ => throw .bracketUnclosed
  | fuel + 1, negated, pending, items => do
    skip
    let c ← current .bracketUnclosed
    let rest := (← get).rest
    if c = '[' then
      match asciiClass? rest with
      | some (s, rest) =>
        jump rest
        if !(← flags).unicode && s matches .complement _ then throw .partialCharacter
        bracketRest fuel negated pending (⟨s, 0⟩ :: items)
      | none =>
        let inner ← bracket fuel
        bracketRest fuel negated pending (inner :: items)
    else if c = ']' then
      bump
      let f ← flags
      let n := Nested.combine f pending (.union items)
      return ⟨← negate f negated (widen f n.set), n.depth + 1⟩
    else
      -- an operation is written as one character twice
      match SetOperation.ofChar? c, decide (rest.tail.head? = some c) with
      | some op, true =>
        jump (rest.drop 2)
        let n := Nested.combine (← flags) pending (.union items)
        bracketRest fuel negated (some (op, n)) []
      | _, _ =>
        let s ← bracketItem
        bracketRest fuel negated pending (⟨s, 0⟩ :: items)
end

end Reader

end Assay.Pattern
