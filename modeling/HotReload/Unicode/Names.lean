import HotReload.Unicode.Age
import HotReload.Unicode.Category
import HotReload.Unicode.Property
import HotReload.Unicode.Script

/-! # Sets of code points by name

Properties, general categories and scripts go by short and long names, which are compared without
regard to case, blanks, hyphens, underscores and an initial `is`.
-/

namespace HotReload.Unicode

/-- Names of the general categories with the two-letter codes that they cover. Surrogates are no
characters and have no name. -/
def categoryNames : List (List String × List String) := [
  (["L", "Letter"], ["Lu", "Ll", "Lt", "Lm", "Lo"]),
  (["LC", "Cased_Letter"], ["Lu", "Ll", "Lt"]),
  (["Lu", "Uppercase_Letter"], ["Lu"]),
  (["Ll", "Lowercase_Letter"], ["Ll"]),
  (["Lt", "Titlecase_Letter"], ["Lt"]),
  (["Lm", "Modifier_Letter"], ["Lm"]),
  (["Lo", "Other_Letter"], ["Lo"]),
  (["M", "Mark", "Combining_Mark"], ["Mn", "Mc", "Me"]),
  (["Mn", "Nonspacing_Mark"], ["Mn"]),
  (["Mc", "Spacing_Mark"], ["Mc"]),
  (["Me", "Enclosing_Mark"], ["Me"]),
  (["N", "Number"], ["Nd", "Nl", "No"]),
  (["Nd", "Decimal_Number", "digit"], ["Nd"]),
  (["Nl", "Letter_Number"], ["Nl"]),
  (["No", "Other_Number"], ["No"]),
  (["P", "Punctuation", "punct"], ["Pc", "Pd", "Ps", "Pe", "Pi", "Pf", "Po"]),
  (["Pc", "Connector_Punctuation"], ["Pc"]),
  (["Pd", "Dash_Punctuation"], ["Pd"]),
  (["Ps", "Open_Punctuation"], ["Ps"]),
  (["Pe", "Close_Punctuation"], ["Pe"]),
  (["Pi", "Initial_Punctuation"], ["Pi"]),
  (["Pf", "Final_Punctuation"], ["Pf"]),
  (["Po", "Other_Punctuation"], ["Po"]),
  (["S", "Symbol"], ["Sm", "Sc", "Sk", "So"]),
  (["Sm", "Math_Symbol"], ["Sm"]),
  (["Sc", "Currency_Symbol"], ["Sc"]),
  (["Sk", "Modifier_Symbol"], ["Sk"]),
  (["So", "Other_Symbol"], ["So"]),
  (["Z", "Separator"], ["Zs", "Zl", "Zp"]),
  (["Zs", "Space_Separator"], ["Zs"]),
  (["Zl", "Line_Separator"], ["Zl"]),
  (["Zp", "Paragraph_Separator"], ["Zp"]),
  (["C", "Other"], ["Cc", "Cf", "Co", "Cn"]),
  (["Cc", "Control", "cntrl"], ["Cc"]),
  (["Cf", "Format"], ["Cf"]),
  (["Co", "Private_Use"], ["Co"]),
  (["Cn", "Unassigned"], ["Cn"])]

def significant (cs : List Char) : List Char :=
  (cs.filter fun c => c.toNat ≤ 0x7F && c != ' ' && c != '_' && c != '-').map Char.toLower

/-- What a name is compared by. The name of comments, `isc`, does not lose its start. -/
def looseName (cs : List Char) : List Char :=
  match cs with
  | i :: s :: rest =>
    if i.toLower = 'i' ∧ s.toLower = 's' then
      let kept := significant rest
      if kept = ['c'] then ['i', 's', 'c'] else kept
    else significant cs
  | cs => significant cs

def sameName (name : String) (loose : List Char) : Bool := looseName name.toList == loose

def categories (codes : List String) : Ranges :=
  Ranges.normalize (codes.flatMap fun code => (category? code).getD [])

def categoryNamed? (loose : List Char) : Option Ranges :=
  if loose = "any".toList then some [(0, lastCodePoint)]
  else if loose = "ascii".toList then some [(0, 0x7F)]
  else if loose = "assigned".toList then (category? "Cn").map Ranges.complement
  else (categoryNames.find? fun row => row.1.any (sameName · loose)).map fun row =>
    categories row.2

def shortName? (rows : List (String × List String)) (loose : List Char) : Option String :=
  (rows.find? fun row => (row.1 :: row.2).any (sameName · loose)).map (·.1)

/-- The set of a script, by any of its names. Unknown code points are of no script. -/
def scriptNamed? (loose : List Char) : Option Ranges :=
  ((shortName? scriptNames loose).filter (· != "Zzzz")).bind script?

def extendedScriptNamed? (loose : List Char) : Option Ranges :=
  ((shortName? scriptNames loose).filter (· != "Zzzz")).bind extendedScript?

/-- Names that mean a general category although a property has them too. -/
def categoryFirst : List (List Char) := [['c', 'f'], ['s', 'c'], ['l', 'c']]

def named? (name : List Char) : Option Ranges :=
  let loose := looseName name
  let property := if loose ∈ categoryFirst then none else shortName? propertyNames loose
  match property with
  | some short => property? short
  | none => (categoryNamed? loose).or (scriptNamed? loose)

/-- The versions, written `6.0`, `V6_0` or `V60`. -/
def ageNamed? (loose : List Char) : Option Ranges :=
  let dotted := (ageTable.map (·.1)).find? fun v =>
    v.toList = loose || 'v' :: v.toList.filter (· != '.') = loose
  dotted.bind age?

def valued? (property value : List Char) : Option Ranges :=
  let loose := looseName value
  let name := String.ofList (looseName property)
  if name ∈ ["gc", "generalcategory"] then categoryNamed? loose
  else if name ∈ ["sc", "script"] then scriptNamed? loose
  else if name ∈ ["scx", "scriptextensions"] then extendedScriptNamed? loose
  else if name = "age" then ageNamed? loose
  else none

end HotReload.Unicode
