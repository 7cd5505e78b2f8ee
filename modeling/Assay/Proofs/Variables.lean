import Assay.Log
import Assay.Proofs.AsciiFolding
import Assay.Proofs.CaseMapping
import Mathlib.Data.List.Forall2
import Mathlib.Logic.Function.Basic

/-!
# Variables of the environment

A name in a variable can stand between blanks and in either case of ASCII; no other character is
taken for one of its letters. Each of the two variables settles a field of its own, and a warning
about one that is set to no name holds the text as it was set.
-/

namespace Assay

-- ---------------------------------------------------------------------------
-- Names up to blanks and ASCII case
-- ---------------------------------------------------------------------------

namespace Text

/-- The same character, or the two cases of a letter of ASCII. -/
def SameLetter (c d : Char) : Prop :=
  c = d ∨ (c.isUpper = true ∧ d.toNat = c.toNat + 32) ∨
    (d.isUpper = true ∧ c.toNat = d.toNat + 32)

theorem toNat_toLower_eq_ite (c : Char) :
    c.toLower.toNat = if 0x41 ≤ c.toNat ∧ c.toNat ≤ 0x5A then c.toNat + 32 else c.toNat := by
  by_cases hc : c.toNat < 128
  · exact toNat_toLower hc
  · have hu : ¬ (0x41 ≤ c.toNat ∧ c.toNat ≤ 0x5A) := by omega
    have hl : c.toLower = c := dif_neg hu
    rw [if_neg hu, hl]

theorem toLower_eq_toLower_iff {c d : Char} : c.toLower = d.toLower ↔ SameLetter c d := by
  unfold SameLetter
  rw [isUpper_iff, isUpper_iff, ← Char.toNat_inj, ← Char.toNat_inj, toNat_toLower_eq_ite,
    toNat_toLower_eq_ite]
  split <;> split <;> omega

theorem map_toLower_eq_iff {s t : List Char} :
    s.map Char.toLower = t.map Char.toLower ↔ List.Forall₂ SameLetter s t := by
  rw [← List.forall₂_eq_eq_eq, List.forall₂_map_left_iff, List.forall₂_map_right_iff]
  simp only [toLower_eq_toLower_iff]

/-- What is left between the blanks at the ends of a text is a name in some ASCII case. -/
def Spells (text name : String) : Prop :=
  ∃ before core after, text.toList = before ++ core ++ after ∧
    (∀ c ∈ before, isBlank c = true) ∧ (∀ c ∈ after, isBlank c = true) ∧ Unpadded core ∧
    List.Forall₂ SameLetter core name.toList

theorem spells_iff_trim {text name : String} :
    Spells text name ↔ List.Forall₂ SameLetter (trim text.toList) name.toList := by
  constructor
  · rintro ⟨before, core, after, ht, hb, ha, hc, hn⟩
    rwa [trim_eq_iff.mpr ⟨hc, before, after, ht, hb, ha⟩]
  · intro hn
    obtain ⟨hc, before, after, ht, hb, ha⟩ := trim_eq_iff.mp (Eq.refl (trim text.toList))
    exact ⟨before, _, after, ht, hb, ha, hc, hn⟩

/-- A name in lower case is looked for in the text that lowering leaves. -/
theorem ofList_lowered_eq_iff {text name : String}
    (hn : name.toList.map Char.toLower = name.toList) :
    String.ofList ((trim text.toList).map Char.toLower) = name ↔ Spells text name := by
  rw [spells_iff_trim, ← map_toLower_eq_iff, hn, ← String.toList_inj, String.toList_ofList]

end Text

/-- How a variable names a kind. -/
def Kind.Spelled (text : String) (k : Kind) : Prop := Text.Spells text k.name

theorem Kind.ofName?_eq_some_iff {s : String} {k : Kind} : ofName? s = some k ↔ s = k.name := by
  constructor
  · intro h
    exact (by simpa using List.find?_some h : k.name = s).symm
  · rintro rfl
    exact ofName?_name k

theorem Kind.ofText?_eq_some_iff (text : String) (k : Kind) :
    ofText? text = some k ↔ Spelled text k := by
  have hk : k.name.toList.map Char.toLower = k.name.toList := by cases k <;> rfl
  rw [ofText?, ofName?_eq_some_iff, Text.ofList_lowered_eq_iff hk, Spelled]

/-- The names of a measure. -/
def LengthMode.spellings : LengthMode → List String
  | .bytes => ["bytes"]
  | .chars => ["chars"]
  | .utf16 => ["utf16", "utf-16"]

/-- How a variable names a measure. -/
def LengthMode.Spelled (text : String) (m : LengthMode) : Prop :=
  ∃ name ∈ m.spellings, Text.Spells text name

theorem LengthMode.ofText?_eq_some_iff_mem {text : String} {m : LengthMode} :
    ofText? text = some m ↔
      String.ofList ((Text.trim text.toList).map Char.toLower) ∈ m.spellings := by
  unfold ofText?
  split <;> cases m <;> simp_all [spellings]

theorem LengthMode.ofText?_eq_some_iff (text : String) (m : LengthMode) :
    ofText? text = some m ↔ Spelled text m := by
  have hm : ∀ name ∈ m.spellings, name.toList.map Char.toLower = name.toList := by
    cases m <;> decide
  rw [ofText?_eq_some_iff_mem]
  constructor
  · intro h
    exact ⟨_, h, (Text.ofList_lowered_eq_iff (hm _ h)).mp rfl⟩
  · rintro ⟨name, hn, ht⟩
    rwa [(Text.ofList_lowered_eq_iff (hm name hn)).mpr ht]

-- ---------------------------------------------------------------------------
-- One variable and the other
-- ---------------------------------------------------------------------------

/-- A warning with a text in one of its fields, as it is. -/
def Event.Warns (e : Event) (text : String) : Prop :=
  e.level = .warn ∧ ∃ field before after, (field, before ++ text ++ after) ∈ e.fields

theorem Event.warns_kindIgnored (raw : String) : (kindIgnored raw).Warns raw :=
  ⟨rfl, "error", "unknown type tag '", "'", .tail _ (.tail _ (.head _))⟩

theorem Event.warns_lengthModeIgnored (raw : String) : (lengthModeIgnored raw).Warns raw :=
  ⟨rfl, "value", "", "", by
    rw [String.empty_append, String.append_empty]
    exact .tail _ (.tail _ (.head _))⟩

namespace Settings

/-- A variable gives what it names and else the fallback, with a warning only if it is set. -/
structure ReadAlone {α : Type} (names : String → α → Prop) (fallback : α)
    (warning : String → Event) (value : Option String) (outcome : α) (events : List Event) :
    Prop where
  result : ∀ a, outcome = a ↔ (∃ raw, value = some raw ∧ names raw a) ∨
    (a = fallback ∧ ∀ raw, value = some raw → ∀ b, ¬ names raw b)
  warned : ∀ raw, value = some raw → (∀ b, ¬ names raw b) →
    events = [warning raw] ∧ (warning raw).Warns raw
  silent : (∀ raw, value = some raw → ∃ b, names raw b) → events = []

theorem readVariable_readAlone {α : Type} {read? : String → Option α}
    {names : String → α → Prop} (hr : ∀ raw a, read? raw = some a ↔ names raw a)
    {warning : String → Event} (hw : ∀ raw, (warning raw).Warns raw) (fallback : α)
    (value : Option String) :
    ReadAlone names fallback warning value
      (readVariable read? warning fallback value).result
      (readVariable read? warning fallback value).trace.events := by
  cases value with
  | none => exact ⟨fun a => by simp [readVariable, eq_comm], nofun, fun _ => rfl⟩
  | some raw =>
    cases hread : read? raw with
    | some a =>
      have ha := (hr raw a).mp hread
      have hu : ∀ b, names raw b ↔ a = b := fun b => by rw [← hr, hread, Option.some_inj]
      constructor
      case result => intro b; simp [readVariable, hread, hu]
      case warned => rintro _ ⟨⟩ hn; exact absurd ha (hn a)
      case silent => intro _; simp [readVariable, hread, Trace.empty]
    | none =>
      have hn : ∀ b, ¬ names raw b := fun b hb => by simp [(hr raw b).mpr hb] at hread
      constructor
      case result => intro b; simp [readVariable, hread, hn, eq_comm]
      case warned =>
        rintro _ ⟨⟩ _
        exact ⟨by simp [readVariable, hread, Traced.emit, Trace.empty], hw raw⟩
      case silent =>
        intro h
        obtain ⟨b, hb⟩ := h raw rfl
        exact absurd hb (hn b)

theorem deferredRuns_readVariable {α : Type} (read? : String → Option α)
    (warning : String → Event) (fallback : α) (value : Option String) :
    (readVariable read? warning fallback value).trace.deferredRuns = 0 := by
  cases value with
  | none => rfl
  | some raw =>
    rw [readVariable]
    split <;> rfl

/-- Whatever the variables are set to, each settles its own field, and what is said of the first
comes before what is said of the second. -/
theorem variables_read_alone (lookup : String → Option String) :
    (∃ kinds measures, (ofVariables lookup).trace = ⟨kinds ++ measures, 0⟩ ∧
      ReadAlone Kind.Spelled .string .kindIgnored (lookup kindVariable)
        (ofVariables lookup).result.kind kinds ∧
      ReadAlone LengthMode.Spelled .chars .lengthModeIgnored (lookup lengthsVariable)
        (ofVariables lookup).result.lengths measures) ∧
    (∀ value, (ofVariables (Function.update lookup kindVariable value)).result.lengths =
      (ofVariables lookup).result.lengths) ∧
    ∀ value, (ofVariables (Function.update lookup lengthsVariable value)).result.kind =
      (ofVariables lookup).result.kind := by
  have hne : lengthsVariable ≠ kindVariable := by decide
  have hk := readVariable_readAlone Kind.ofText?_eq_some_iff Event.warns_kindIgnored
    default.kind (lookup kindVariable)
  have hm := readVariable_readAlone LengthMode.ofText?_eq_some_iff Event.warns_lengthModeIgnored
    default.lengths (lookup lengthsVariable)
  refine ⟨⟨_, _, ?_, hk, hm⟩, fun value => ?_, fun value => ?_⟩
  · ext1
    · simp [ofVariables]
    · simp [ofVariables, deferredRuns_readVariable]
  · simp [ofVariables, hne]
  · simp [ofVariables, hne.symm]

/-- A capital among blanks is read; the long s, which lowers to no letter of ASCII, is not. -/
example :
    let read := ofVariables fun name =>
      if name = kindVariable then some "\u3000BigInt\n" else some "char\u017F"
    read.result = ⟨.bigint, .chars⟩ ∧
      read.trace.events = [.lengthModeIgnored "char\u017F"] := by decide

end Settings

end Assay
