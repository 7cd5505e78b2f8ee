import Assay.Pattern.Charset

/-!
# Sets named by a property

The names that stand in `\p`: general categories, scripts and those binary properties that have a
table, in their long and short forms. Case, blanks, hyphens, underscores and a leading `is` do not
matter.
-/

namespace Assay.Pattern

open Text

namespace Charset

/-- The form under which names are compared. -/
def plainName (name : List Char) : String :=
  let kept := fun (s : List Char) =>
    (s.filter fun c => c ≠ ' ' && c ≠ '_' && c ≠ '-' && c.toNat < 0x80).map Char.toLower
  match name with
  | a :: b :: rest =>
    if a.toLower = 'i' && b.toLower = 's' then
      match kept rest with
      | ['c'] => "isc"
      | s => String.ofList s
    else String.ofList (kept name)
  | s => String.ofList (kept s)

/-- The groups of categories and the sets beside them. -/
def categoryGroups : List (List String × Charset) :=
  [(["any"], any),
   (["ascii"], .range 0 0x7F),
   (["assigned"], categories Category.assigned),
   (["cn", "unassigned"], .complement (categories Category.assigned)),
   (["cs", "surrogate"], .nothing),
   (["c", "other"],
     .union (categories [.control, .format, .privateUse])
       (.complement (categories Category.assigned))),
   (["l", "letter"],
     categories [.uppercaseLetter, .lowercaseLetter, .titlecaseLetter, .modifierLetter,
       .otherLetter]),
   (["lc", "casedletter"], categories [.uppercaseLetter, .lowercaseLetter, .titlecaseLetter]),
   (["m", "mark", "combiningmark"], categories [.nonspacingMark, .spacingMark, .enclosingMark]),
   (["n", "number"], categories [.decimalNumber, .letterNumber, .otherNumber]),
   (["p", "punctuation", "punct"],
     categories [.connectorPunctuation, .dashPunctuation, .openPunctuation, .closePunctuation,
       .initialPunctuation, .finalPunctuation, .otherPunctuation]),
   (["s", "symbol"], categories [.mathSymbol, .currencySymbol, .modifierSymbol, .otherSymbol]),
   (["z", "separator"], categories [.spaceSeparator, .lineSeparator, .paragraphSeparator])]

/-- The plain long name of a category. -/
def categoryName : Category → String
  | .uppercaseLetter => "uppercaseletter"
  | .lowercaseLetter => "lowercaseletter"
  | .titlecaseLetter => "titlecaseletter"
  | .modifierLetter => "modifierletter"
  | .otherLetter => "otherletter"
  | .nonspacingMark => "nonspacingmark"
  | .spacingMark => "spacingmark"
  | .enclosingMark => "enclosingmark"
  | .decimalNumber => "decimalnumber"
  | .letterNumber => "letternumber"
  | .otherNumber => "othernumber"
  | .connectorPunctuation => "connectorpunctuation"
  | .dashPunctuation => "dashpunctuation"
  | .openPunctuation => "openpunctuation"
  | .closePunctuation => "closepunctuation"
  | .initialPunctuation => "initialpunctuation"
  | .finalPunctuation => "finalpunctuation"
  | .otherPunctuation => "otherpunctuation"
  | .mathSymbol => "mathsymbol"
  | .currencySymbol => "currencysymbol"
  | .modifierSymbol => "modifiersymbol"
  | .otherSymbol => "othersymbol"
  | .spaceSeparator => "spaceseparator"
  | .lineSeparator => "lineseparator"
  | .paragraphSeparator => "paragraphseparator"
  | .control => "control"
  | .format => "format"
  | .privateUse => "privateuse"
  | .unassigned => "unassigned"

def ofCategoryName? (name : String) : Option Charset :=
  match categoryGroups.find? (·.1.contains name) with
  | some (_, s) => some s
  | none =>
    let name := match name with
      | "cntrl" => "control"
      | "digit" => "decimalnumber"
      | s => s
    (Category.assigned.find? fun c => plainName c.short.toList = name || categoryName c = name).map
      (.table ·.table)

def ofScriptName? (name : String) : Option Charset :=
  (Script.all.find? fun s => plainName s.name.toList = name || plainName s.code.toList = name).map
    (.table ·.table)

/-- The characters that start identifiers until they are normalised. -/
def unstableStarts : Charset :=
  unionAll [.range 0x37A 0x37A, .range 0x309B 0x309C, .range 0xFC5E 0xFC63, .range 0xFDFA 0xFDFB,
    .table [⟨0xFE70, 0xFE7E, 2⟩]]

/-- Those of them that continue identifiers all the same. -/
def unstableContinues : Charset :=
  unionAll [.range 0xE33 0xE33, .range 0xEB3 0xEB3, .range 0xFF9E 0xFF9F]

/-- The binary properties that have a table. -/
def binaryProperties : List (List String × Charset) :=
  [(["alphabetic", "alpha"], .table Property.alphabetic),
   (["uppercase", "upper"], .table Property.uppercase),
   (["lowercase", "lower"], .table Property.lowercase),
   (["whitespace", "wspace", "space"], .table blanks),
   (["cased"], .table Property.cased),
   (["caseignorable", "ci"], .table Property.caseIgnorable),
   (["graphemeextend", "grext"], .table Property.graphemeExtend),
   (["joincontrol", "joinc"], .table Property.joinControl),
   (["dash"], .table Property.dash),
   (["hexdigit", "hex"], .table Property.hexDigit),
   (["asciihexdigit", "ahex"], .table Property.asciiHexDigit),
   (["ideographic", "ideo"], .table Property.ideographic),
   (["math"], .table Property.math),
   (["emoji"], .table Property.emoji),
   (["xidstart", "xids"], .table Property.xidStart),
   (["xidcontinue", "xidc"], .table Property.xidContinue),
   (["idstart", "ids"],
     .union (.table Property.xidStart) (.union unstableStarts unstableContinues)),
   (["idcontinue", "idc"], .union (.table Property.xidContinue) unstableStarts)]

/-- A name alone: a binary property before a category before a script. -/
def ofName? (name : List Char) : Option Charset :=
  let plain := plainName name
  match binaryProperties.find? (·.1.contains plain) with
  | some (_, s) => some s
  | none => (ofCategoryName? plain).or (ofScriptName? plain)

/-- The value of a property: of the general category or the script. -/
def ofValue? (property value : List Char) : Option Charset :=
  match plainName property with
  | "gc" | "generalcategory" => ofCategoryName? (plainName value)
  | "sc" | "script" => ofScriptName? (plainName value)
  | _ => none

end Charset

end Assay.Pattern
