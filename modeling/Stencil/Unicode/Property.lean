import Stencil.Unicode.Property.Age
import Stencil.Unicode.Property.Binary
import Stencil.Unicode.Property.Category
import Stencil.Unicode.Property.Script
import Stencil.Unicode.Property.Segment

/-!
# Properties of characters

The properties by which patterns name sets of characters, as of version 16.0 of the standard. A set
has either one name, that of a property, a general category or a script (`property?`), or the name
of a property and the name of a value of it (`propertyValue?`). Some properties follow from others;
they are put together here by the rules of the standard.

The digits, blanks and characters of words of every script (`digits`, `blanks`,
`wordCharacters`) are such sets too.
-/

namespace Stencil.Unicode

/-! ## Categories and scripts -/

/-- The characters of some general categories. -/
def inCategories (names : List String) : Ranges := .unions (names.map (find categories))

/-- The characters of no other category: controls, formats, those for private use, and unassigned
ones. The gap of the surrogates lies between two of them. -/
def otherCharacters : Ranges := (inCategories ["cc", "cf", "cn", "co"]).union [(0xD800, 0xDFFF)]

/-- The groups of general categories that have names of their own. -/
def categoryGroup? : String → Option Ranges
  | "lc" | "casedletter" => some (inCategories ["lu", "ll", "lt"])
  | "l" | "letter" => some (inCategories ["lu", "ll", "lt", "lm", "lo"])
  | "m" | "mark" | "combiningmark" => some (inCategories ["mn", "mc", "me"])
  | "n" | "number" => some (inCategories ["nd", "nl", "no"])
  | "p" | "punctuation" | "punct" =>
    some (inCategories ["pc", "pd", "ps", "pe", "pi", "pf", "po"])
  | "s" | "symbol" => some (inCategories ["sm", "sc", "sk", "so"])
  | "z" | "separator" => some (inCategories ["zs", "zl", "zp"])
  | "c" | "other" => some otherCharacters
  | "any" => some [(0, lastCodePoint)]
  | "assigned" => some (find categories "cn").compl
  | "ascii" => some [(0, 0x7F)]
  | _ => none

/-- A general category, or a group of them. -/
def category? (name : String) : Option Ranges := categoryGroup? name <|> find? categories name

/-- The characters that belong to a script. -/
def script? (name : String) : Option Ranges := find? scripts name

/-- The characters that are used in a script: those that belong to it, unless they are known to be
used in other scripts only, and those that are known to be used in it. -/
def scriptUse? (name : String) : Option Ranges := do
  let script ← scripts.find? (·.names.contains name)
  let code := script.names.headD ""
  let shared := Ranges.unions (sharedAmongScripts.map Named.ranges)
  let used := sharedAmongScripts.filter (·.names.contains code)
  return (script.ranges.diff shared).union (.unions (used.map Named.ranges))

/-! ## Properties that follow from others -/

/-- Letters in lower case, and what counts as such. -/
def lowercaseRanges : Ranges := (find categories "ll").union (find binaryProperties "olower")

/-- Letters in upper case, and what counts as such. -/
def uppercaseRanges : Ranges := (find categories "lu").union (find binaryProperties "oupper")

/-- Letters, numerals written as letters, and what counts as a letter. -/
def alphabeticProperty : Ranges :=
  .unions [lowercaseRanges, uppercaseRanges, inCategories ["lt", "lm", "lo", "nl"],
    find binaryProperties "oalpha"]

/-- Marks that extend the character they follow. -/
def graphemeExtend : Ranges := (inCategories ["me", "mn"]).union (find binaryProperties "ogrext")

/-- What may not be part of a name in any case. -/
def patternCharacters : Ranges :=
  (find binaryProperties "patsyn").union (find binaryProperties "patws")

/-- What a name may start with. -/
def idStart : Ranges :=
  (Ranges.unions [inCategories ["lu", "ll", "lt", "lm", "lo", "nl"], find binaryProperties "oids"]).diff
    patternCharacters

/-- What a name may go on with. -/
def idContinue : Ranges :=
  (Ranges.unions [idStart, inCategories ["mn", "mc", "nd", "pc"], find binaryProperties "oidc"]).diff
    patternCharacters

/-- What may be part of a name, but not where names are compared in a normal form. -/
def notInNormalNames : Ranges :=
  .ofRows ["37A 309B-309C FC5E-FC63 FDFA-FDFB FE70-FE7E/2"]

/-- What names compared in a normal form may go on with, but not start with. -/
def notFirstInNormalNames : Ranges := .ofRows ["E33 EB3 FF9E-FF9F"]

/-- A property that follows from others. -/
def derivedProperty? : String → Option Ranges
  | "alpha" | "alphabetic" => some alphabeticProperty
  | "lower" | "lowercase" => some lowercaseRanges
  | "upper" | "uppercase" => some uppercaseRanges
  | "cased" => some (.unions [lowercaseRanges, uppercaseRanges, find categories "lt"])
  | "ci" | "caseignorable" =>
    some (.unions [inCategories ["mn", "me", "cf", "lm", "sk"], find wordBreaks "midletter",
      find wordBreaks "midnumlet", find wordBreaks "singlequote"])
  | "cwcm" | "changeswhencasemapped" =>
    some (.unions (["cwl", "cwt", "cwu"].map (find binaryProperties)))
  | "math" => some ((find categories "sm").union (find binaryProperties "omath"))
  | "di" | "defaultignorablecodepoint" =>
    some ((Ranges.unions [find binaryProperties "odi", find categories "cf",
      find binaryProperties "vs"]).diff (.unions [find binaryProperties "wspace",
      find binaryProperties "pcm", [(0xFFF9, 0xFFFB), (0x13430, 0x13440)]]))
  | "grext" | "graphemeextend" => some graphemeExtend
  | "grbase" | "graphemebase" =>
    some (Ranges.compl (.unions [otherCharacters, inCategories ["zl", "zp"], graphemeExtend]))
  | "ids" | "idstart" => some idStart
  | "idc" | "idcontinue" => some idContinue
  | "xids" | "xidstart" => some (idStart.diff (notInNormalNames.union notFirstInNormalNames))
  | "xidc" | "xidcontinue" => some (idContinue.diff notInNormalNames)
  | _ => none

/-! ## Names -/

/-- The set that a single name stands for: a property, a general category or a script. -/
def property? (name : List Char) : Option Ranges :=
  let name := looseName name
  derivedProperty? name <|> find? binaryProperties name <|> category? name <|> script? name

/-- The characters that came with a version of the standard or with one before it. -/
def age? (version : String) : Option Ranges :=
  match ages.dropWhile (fun age => !age.names.contains version) with
  | [] => none
  | age :: _ =>
    let before := ages.takeWhile fun age => !age.names.contains version
    some (.unions ((before ++ [age]).map Named.ranges))

/-- The set of the characters for which a property has a value. -/
def propertyValue? (property value : List Char) : Option Ranges :=
  let value := looseName value
  match looseName property with
  | "gc" | "generalcategory" => category? value
  | "sc" | "script" => script? value
  | "scx" | "scriptextensions" => scriptUse? value
  | "age" => age? value
  | "gcb" | "graphemeclusterbreak" => find? clusterBreaks value
  | "wb" | "wordbreak" => find? wordBreaks value
  | "sb" | "sentencebreak" => find? sentenceBreaks value
  | _ => none

/-! ## Words -/

/-- The decimal digits of every script. -/
def digits : Ranges := find categories "nd"

/-- White space. -/
def blanks : Ranges := find binaryProperties "wspace"

/-- What words are made of: letters and marks, decimal digits, and what joins. -/
def wordCharacters : Ranges :=
  .unions [alphabeticProperty, inCategories ["mn", "mc", "me", "nd", "pc"],
    find binaryProperties "joinc"]

/-- A character that words are made of. -/
def isWord (c : Char) : Bool :=
  if c.toNat < 0x80 then c.isAlphanum || c == '_' else wordCharacters.covers c

end Stencil.Unicode
