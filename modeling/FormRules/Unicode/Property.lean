/-
This file finds the characters of a property by its name. Names are compared loosely: without case,
spaces, underscores, hyphens and a leading "is". Properties that the standard derives from others are
derived here in the same way.
-/

import FormRules.Unicode.Age
import FormRules.Unicode.Binary
import FormRules.Unicode.Category
import FormRules.Unicode.Compact
import FormRules.Unicode.Script
import FormRules.Unicode.ScriptExtension
import FormRules.Unicode.Segmentation

namespace FormRules.Unicode

/-- The characters of the basic general categories with these names. -/
def ofCategories (names : List String) : CharSet :=
  CharSet.unionAll (names.filterMap (listed? categories))

/-- The characters of a listed property. -/
def ofListed (name : String) : CharSet :=
  (listed? listedProperties name).getD CharSet.empty

def letters : CharSet := ofCategories ["lu", "ll", "lt", "lm", "lo"]

def marks : CharSet := ofCategories ["mn", "mc", "me"]

def numbers : CharSet := ofCategories ["nd", "nl", "no"]

def decimalDigits : CharSet := ofCategories ["nd"]

def assigned : CharSet := ofCategories (categories.flatMap fun entry => entry.1.take 1)

def unassigned : CharSet := assigned.complement

def whiteSpace : CharSet := ofListed "whitespace"

def lowercase : CharSet := (ofCategories ["ll"]).union (ofListed "otherlowercase")

def uppercase : CharSet := (ofCategories ["lu"]).union (ofListed "otheruppercase")

def alphabetic : CharSet :=
  (letters.union (ofCategories ["nl"])).union (ofListed "otheralphabetic")

/-- Letters, marks, decimal digits, connecting punctuation and join controls: what words are made of. -/
def wordCharacters : CharSet :=
  CharSet.unionAll [alphabetic, marks, ofCategories ["nd", "pc"], ofListed "joincontrol"]

/-- Characters with a pattern meaning cannot start or continue an identifier. -/
def patternCharacters : CharSet :=
  (ofListed "patternsyntax").union (ofListed "patternwhitespace")

def identifierStart : CharSet :=
  (CharSet.unionAll [letters, ofCategories ["nl"], ofListed "otheridstart"]).difference
    patternCharacters

def identifierContinue : CharSet :=
  (CharSet.unionAll
    [identifierStart, ofCategories ["mn", "mc", "nd", "pc"], ofListed "otheridcontinue"]).difference
      patternCharacters

/-- Characters that stop being identifiers under compatibility normalization. -/
def normalizationExceptions : CharSet :=
  ofCompact ["37a 309b-309c fc5e-fc63 fdfa-fdfb fe70 fe72 fe74 fe76 fe78 fe7a fe7c fe7e"]

def graphemeExtend : CharSet :=
  (ofCategories ["mn", "me"]).union (ofListed "othergraphemeextend")

/-- The names and the characters of the properties that are derived from others. -/
def derivedProperties : List (List String × CharSet) := [
  (["alpha", "alphabetic"], alphabetic),
  (["lower", "lowercase"], lowercase),
  (["upper", "uppercase"], uppercase),
  (["math"], (ofCategories ["sm"]).union (ofListed "othermath")),
  (["cased"], CharSet.unionAll [lowercase, uppercase, ofCategories ["lt"]]),
  (["cwcm", "changeswhencasemapped"],
    CharSet.unionAll (["cwl", "cwu", "cwt"].map ofListed)),
  (["di", "defaultignorablecodepoint"],
    (CharSet.unionAll
      [ofCategories ["cf"], ofListed "vs", ofListed "otherdefaultignorablecodepoint"]).difference
        (CharSet.unionAll [whiteSpace, ofListed "prependedconcatenationmark",
          ofCompact ["fff9-fffb 13430-13440"]])),
  (["ids", "idstart"], identifierStart),
  (["idc", "idcontinue"], identifierContinue),
  (["xids", "xidstart"],
    identifierStart.difference (normalizationExceptions.union (ofCompact ["e33 eb3 ff9e-ff9f"]))),
  (["xidc", "xidcontinue"], identifierContinue.difference normalizationExceptions),
  (["grext", "graphemeextend"], graphemeExtend),
  (["grbase", "graphemebase"],
    (assigned.difference (ofCategories ["cc", "cf", "co", "zl", "zp"])).difference graphemeExtend)]

/-- The characters of a yes-or-no property. -/
def binaryProperty? (name : String) : Option CharSet :=
  match derivedProperties.find? fun entry => entry.1.contains name with
  | some entry => some entry.2
  | none => listed? listedProperties name

/-- The names and the parts of the general categories that group others. -/
def categoryGroups : List (List String × CharSet) := [
  (["any"], CharSet.all),
  (["ascii"], CharSet.range 0 0x7f),
  (["assigned"], assigned),
  (["cn", "unassigned"], unassigned),
  (["c", "other"], (ofCategories ["cc", "cf", "co"]).union unassigned),
  (["l", "letter"], letters),
  (["lc", "casedletter"], ofCategories ["lu", "ll", "lt"]),
  (["m", "mark", "combiningmark"], marks),
  (["n", "number"], numbers),
  (["p", "punctuation", "punct"], ofCategories ["pc", "pd", "ps", "pe", "pi", "pf", "po"]),
  (["s", "symbol"], ofCategories ["sm", "sc", "sk", "so"]),
  (["z", "separator"], ofCategories ["zs", "zl", "zp"])]

/-- The characters of a general category or of a group of them. -/
def generalCategory? (name : String) : Option CharSet :=
  match categoryGroups.find? fun entry => entry.1.contains name with
  | some entry => some entry.2
  | none => listed? categories name

/-- The characters used with a script. -/
def scriptExtension? (name : String) : Option CharSet :=
  (listed? scriptExtensions name).or (listed? scripts name)

/-- Whether a version of the standard is meant by the name: `10.0` and `v100` name the same one. -/
def namesVersion (version name : String) : Bool :=
  name == version || name.toList == 'v' :: version.toList.filter (· != '.')

/-- The characters assigned up to a version of the standard. -/
def age? (name : String) : Option CharSet :=
  let later := ages.dropWhile fun entry => !namesVersion entry.1 name
  if later.isEmpty then none
  else
    let earlier := ages.takeWhile fun entry => !namesVersion entry.1 name
    some (CharSet.unionAll ((earlier ++ later.take 1).map fun entry => ofCompact entry.2))

/-- The composed syllables that end in a vowel: every twenty-eighth one. -/
def openSyllables : CharSet :=
  CharSet.unionAll ((List.range 399).map fun index =>
    CharSet.range (0xac00 + 28 * index) (0xac00 + 28 * index))

/-- The characters of a grapheme cluster break. -/
def graphemeBreak? (name : String) : Option CharSet :=
  if name = "lv" then some openSyllables
  else if name = "lvt" then some ((CharSet.range 0xac00 0xd7a3).difference openSyllables)
  else listed? graphemeBreaks name

/-- The form in which names are compared. -/
def looseName (name : List Char) : String :=
  let loose (text : List Char) :=
    (text.filter fun c => c.toNat < 0x80 && c != ' ' && c != '_' && c != '-').map Char.toLower
  match name with
  | i :: s :: rest =>
      if i.toLower = 'i' ∧ s.toLower = 's' then
        if loose rest = ['c'] then "isc" else String.ofList (loose rest)
      else String.ofList (loose name)
  | _ => String.ofList (loose name)

/-- The characters of the yes-or-no property, general category or script of this name. -/
def property? (name : List Char) : Option CharSet :=
  let name := looseName name
  ((binaryProperty? name).or (generalCategory? name)).or (listed? scripts name)

/-- The characters for which a property has the given value. -/
def propertyValue? (property value : List Char) : Option CharSet :=
  let property := looseName property
  let value := looseName value
  if property ∈ ["gc", "generalcategory"] then generalCategory? value
  else if property ∈ ["sc", "script"] then listed? scripts value
  else if property ∈ ["scx", "scriptextensions"] then scriptExtension? value
  else if property = "age" then age? value
  else if property ∈ ["gcb", "graphemeclusterbreak"] then graphemeBreak? value
  else if property ∈ ["wb", "wordbreak"] then listed? wordBreaks value
  else if property ∈ ["sb", "sentencebreak"] then listed? sentenceBreaks value
  else none

end FormRules.Unicode
