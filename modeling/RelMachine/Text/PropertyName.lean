import RelMachine.Text.Age
import RelMachine.Text.GraphemeBreak
import RelMachine.Text.ScriptExtension
import RelMachine.Text.SentenceBreak
import RelMachine.Text.WordBreak

/-!
# Names of properties

A class of characters has a name if it is a property, a general category or a
script, and is the value of a property otherwise.  Names are compared in a plain
form, in which case, blanks and dashes make no difference.
-/

namespace RelMachine.Text

/-- The plain form of a name: its ASCII characters in small letters without blanks,
dashes and low lines.  A leading "is" does not count, unless only the letter c is
left. -/
def plainName (name : List Char) : String :=
  let plain (text : List Char) : List Char :=
    (text.filter fun c => c.toNat < 128 && !([' ', '-', '_'].contains c)).map Char.toLower
  match name with
  | first :: second :: rest =>
    if first.toLower == 'i' && second.toLower == 's' then
      if plain rest = ['c'] then "isc" else String.ofList (plain rest)
    else String.ofList (plain name)
  | name => String.ofList (plain name)

namespace CharClass

/-- The characters with a property, by a plain name of the property. -/
def property? : String → Option CharClass
  | "alphabetic" | "alpha" => some alphabetic
  | "asciihexdigit" | "ahex" => some (runs asciiHexDigitRuns)
  | "bidicontrol" | "bidic" => some (runs bidiControlRuns)
  | "bidimirrored" | "bidim" => some (runs bidiMirroredRuns)
  | "caseignorable" | "ci" => some caseIgnorable
  | "cased" => some cased
  | "changeswhencasefolded" | "cwcf" => some (runs changedByFolding)
  | "changeswhencasemapped" | "cwcm" => some changedByCase
  | "changeswhenlowercased" | "cwl" => some (runs changedByLowercase)
  | "changeswhentitlecased" | "cwt" => some (runs changedByTitlecase)
  | "changeswhenuppercased" | "cwu" => some (runs changedByUppercase)
  | "dash" => some (runs dashRuns)
  | "defaultignorablecodepoint" | "di" => some ignorable
  | "deprecated" | "dep" => some (runs deprecatedRuns)
  | "diacritic" | "dia" => some (runs diacriticRuns)
  | "emoji" => some (runs emojiRuns)
  | "emojicomponent" | "ecomp" => some (runs emojiComponentRuns)
  | "emojimodifier" | "emod" => some (runs emojiModifierRuns)
  | "emojimodifierbase" | "ebase" => some (runs emojiBaseRuns)
  | "emojipresentation" | "epres" => some (runs emojiPresentationRuns)
  | "extendedpictographic" | "extpict" => some (runs pictographicRuns)
  | "extender" | "ext" => some (runs extenderRuns)
  | "graphemebase" | "grbase" => some graphemeBase
  | "graphemeextend" | "grext" => some extending
  | "graphemelink" | "grlink" => some (runs graphemeLinkRuns)
  | "hexdigit" | "hex" => some (runs hexDigitRuns)
  | "hyphen" => some (runs hyphenRuns)
  | "idsunaryoperator" | "idsu" => some (runs unaryDescriptionRuns)
  | "idsbinaryoperator" | "idsb" => some (runs binaryDescriptionRuns)
  | "idstrinaryoperator" | "idst" => some (runs ternaryDescriptionRuns)
  | "idcompatmathstart" => some (runs mathNameStartRuns)
  | "idcompatmathcontinue" => some (runs (mathNameStartRuns ++ mathNamePartRuns))
  | "idcontinue" | "idc" => some namePart
  | "idstart" | "ids" => some nameStart
  | "ideographic" | "ideo" => some (runs ideographicRuns)
  | "joincontrol" | "joinc" => some (runs joinControlRuns)
  | "logicalorderexception" | "loe" => some (runs logicalOrderExceptionRuns)
  | "lowercase" | "lower" => some lowercase
  | "math" => some math
  | "modifiercombiningmark" | "mcm" => some (runs modifierCombiningMarkRuns)
  | "noncharactercodepoint" | "nchar" => some noncharacter
  | "otheralphabetic" | "oalpha" => some (runs otherAlphabetic)
  | "otherdefaultignorablecodepoint" | "odi" => some (runs otherIgnorable)
  | "othergraphemeextend" | "ogrext" => some (runs otherExtending)
  | "otheridcontinue" | "oidc" => some (runs otherNamePart)
  | "otheridstart" | "oids" => some (runs otherNameStart)
  | "otherlowercase" | "olower" => some (runs otherLowercase)
  | "othermath" | "omath" => some (runs otherMath)
  | "otheruppercase" | "oupper" => some (runs otherUppercase)
  | "patternsyntax" | "patsyn" => some (runs patternSyntaxRuns)
  | "patternwhitespace" | "patws" => some (runs patternSpaceRuns)
  | "prependedconcatenationmark" | "pcm" => some (runs prependedMarkRuns)
  | "quotationmark" | "qmark" => some (runs quotationRuns)
  | "radical" => some (runs radicalRuns)
  | "regionalindicator" | "ri" => some (runs regionalIndicatorRuns)
  | "sentenceterminal" | "sterm" => some (runs sentenceEndRuns)
  | "softdotted" | "sd" => some (runs softDottedRuns)
  | "terminalpunctuation" | "term" => some (runs terminalRuns)
  | "unifiedideograph" | "uideo" => some (runs unifiedIdeographRuns)
  | "uppercase" | "upper" => some uppercase
  | "variationselector" | "vs" => some (runs variationSelectorRuns)
  | "whitespace" | "wspace" | "space" => some blank
  | "xidcontinue" | "xidc" => some stableNamePart
  | "xidstart" | "xids" => some stableNameStart
  | _ => none

/-- The characters of a general category or a group of categories, by a plain name. -/
def categoryNamed? : String → Option CharClass
  | "any" => some everything
  | "assigned" => some (diff everything (category .unassigned))
  | "ascii" => some (runs [⟨0, 0x7f, 1⟩])
  | name => (Category.named? name).map categories

/-- The characters of a script, by a plain name. -/
def scriptNamed? (name : String) : Option CharClass :=
  (scriptRuns? name).map runs

/-- The class of a plain name: a property, a general category, or a script. -/
def named? (name : String) : Option CharClass :=
  ((property? name).orElse fun _ => categoryNamed? name).orElse fun _ => scriptNamed? name

/-- The characters that have a value for a property, both by plain names. -/
def valued? (property value : String) : Option CharClass :=
  match property with
  | "generalcategory" | "gc" => categoryNamed? value
  | "script" | "sc" => scriptNamed? value
  | "scriptextensions" | "scx" => scriptExtension? value
  | "age" => ageClass? value
  | "graphemeclusterbreak" | "gcb" => GraphemeBreak.named? value
  | "wordbreak" | "wb" => WordBreak.named? value
  | "sentencebreak" | "sb" => SentenceBreak.named? value
  | _ => none

/-- Case, blanks and dashes make no difference. -/
example : plainName "Is_White-space".toList = "whitespace" := by decide +kernel

end CharClass

end RelMachine.Text
