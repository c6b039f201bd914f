import Lexigram.CharClass.Break
import Lexigram.Text.Age

/-!
# Named classes

Classes are written by name in three ways: by a letter behind a backslash, between `[:` and `:]`
for classes of ASCII characters, and by the name of a property of characters. The names of
properties are read loosely: case, blanks, hyphens and underscores do not count, nor does `is` in
front.
-/

namespace Lexigram.CharClass

/-- The class that a letter behind a backslash names; its capital names the complement. -/
def ofLetter? : Char → Option CharClass
  | 'd' => some digit
  | 's' => some blank
  | 'w' => some word
  | 'D' => some (complement digit)
  | 'S' => some (complement blank)
  | 'W' => some (complement word)
  | _ => none

/-! ## Classes of ASCII characters -/

def asciiDigits : CharClass := range '0' '9'

def asciiLetters : CharClass := union (range 'A' 'Z') (range 'a' 'z')

/-- The hexadecimal digits of ASCII. -/
def asciiHexDigits : CharClass := union asciiDigits (union (range 'A' 'F') (range 'a' 'f'))

/-- The classes of ASCII characters, by name. -/
def asciiClasses : List (String × CharClass) :=
  [ ("alnum", union asciiDigits asciiLetters),
    ("alpha", asciiLetters),
    ("ascii", range '\x00' '\x7f'),
    ("blank", union (single '\t') (single ' ')),
    ("cntrl", union (range '\x00' '\x1f') (single '\x7f')),
    ("digit", asciiDigits),
    ("graph", range '!' '~'),
    ("lower", range 'a' 'z'),
    ("print", range ' ' '~'),
    ("punct", difference (range '!' '~') (union asciiDigits asciiLetters)),
    ("space", union (range '\t' '\r') (single ' ')),
    ("upper", range 'A' 'Z'),
    ("word", union (union asciiDigits asciiLetters) (single '_')),
    ("xdigit", asciiHexDigits) ]

/-! ## Properties of characters -/

/-- The general categories and their groups, by their short and long names. -/
def categoryNames : List (List String × List Text.Category) :=
  [ (["lu", "uppercaseletter"], [.uppercaseLetter]),
    (["ll", "lowercaseletter"], [.lowercaseLetter]),
    (["lt", "titlecaseletter"], [.titlecaseLetter]),
    (["lc", "casedletter"], [.uppercaseLetter, .lowercaseLetter, .titlecaseLetter]),
    (["lm", "modifierletter"], [.modifierLetter]),
    (["lo", "otherletter"], [.otherLetter]),
    (["l", "letter"], Text.Category.letters),
    (["mn", "nonspacingmark"], [.nonspacingMark]),
    (["mc", "spacingmark"], [.spacingMark]),
    (["me", "enclosingmark"], [.enclosingMark]),
    (["m", "mark", "combiningmark"], Text.Category.marks),
    (["nd", "decimalnumber", "digit"], [.decimalNumber]),
    (["nl", "letternumber"], [.letterNumber]),
    (["no", "othernumber"], [.otherNumber]),
    (["n", "number"], Text.Category.numbers),
    (["pc", "connectorpunctuation"], [.connectorPunctuation]),
    (["pd", "dashpunctuation"], [.dashPunctuation]),
    (["ps", "openpunctuation"], [.openPunctuation]),
    (["pe", "closepunctuation"], [.closePunctuation]),
    (["pi", "initialpunctuation"], [.initialPunctuation]),
    (["pf", "finalpunctuation"], [.finalPunctuation]),
    (["po", "otherpunctuation"], [.otherPunctuation]),
    (["p", "punctuation", "punct"], Text.Category.punctuation),
    (["sm", "mathsymbol"], [.mathSymbol]),
    (["sc", "currencysymbol"], [.currencySymbol]),
    (["sk", "modifiersymbol"], [.modifierSymbol]),
    (["so", "othersymbol"], [.otherSymbol]),
    (["s", "symbol"], Text.Category.symbols),
    (["zs", "spaceseparator"], [.spaceSeparator]),
    (["zl", "lineseparator"], [.lineSeparator]),
    (["zp", "paragraphseparator"], [.paragraphSeparator]),
    (["z", "separator"], Text.Category.separators),
    (["cc", "control", "cntrl"], [.control]),
    (["cf", "format"], [.format]),
    (["co", "privateuse"], [.privateUse]),
    (["assigned"], Text.Category.assigned) ]

/-- The classes that are named like general categories. -/
def ofCategoryName? (name : String) : Option CharClass :=
  if name = "any" then some all
  else if name = "ascii" then some (range '\x00' '\x7f')
  else if name = "cn" || name = "unassigned" then some unassigned
  else if name = "c" || name = "other" then
    some (union unassigned (ofCategories Text.Category.others))
  else
    (categoryNames.find? fun entry => entry.1.contains name).map fun entry => ofCategories entry.2

/-- The class of the characters of the script with a name. -/
def ofScriptName? (name : String) : Option CharClass :=
  (Text.Script.ofName? name).map fun s => among s.stretches

/-- The class of the characters that the script with a name uses, shared ones included. -/
def ofScriptExtensionName? (name : String) : Option CharClass :=
  (Text.Script.ofName? name).map ofScriptExtension

/-- The class of the characters that a version of the database has, by the number of the version or
by its number without the point behind a `v`. -/
def ofAge? (name : String) : Option CharClass :=
  let number :=
    (Text.Version.all.find? fun v =>
      name = v.number || name = "v" ++ String.ofList (v.number.toList.filter (· != '.'))).map
      Text.Version.number
  (number >>= Text.Version.stretchesUpTo?).map ofTables

/-- The hexadecimal digits, wide ones included. -/
def hexDigits : CharClass :=
  union asciiHexDigits
    (union (range '\uff10' '\uff19') (union (range '\uff21' '\uff26') (range '\uff41' '\uff46')))

/-- The first entry of a list of named classes that a name names. -/
def named? (entries : List (List String × CharClass)) (name : String) : Option CharClass :=
  (entries.find? fun entry => entry.1.contains name).map Prod.snd

/-- The properties that have to do with letters and words. -/
def letterProperties : List (List String × CharClass) :=
  [ (["alphabetic", "alpha"], alphabetic),
    (["lowercase", "lower"], lowercase),
    (["uppercase", "upper"], uppercase),
    (["cased"], cased),
    (["caseignorable", "ci"], caseIgnorable),
    (["changeswhenlowercased", "cwl"], among Text.unlikeLowerStretches),
    (["changeswhenuppercased", "cwu"], among Text.unlikeUpperStretches),
    (["changeswhentitlecased", "cwt"], among Text.unlikeTitleStretches),
    (["changeswhencasefolded", "cwcf"], among Text.unlikeFoldedStretches),
    (["changeswhencasemapped", "cwcm"], unlikeCased),
    (["softdotted", "sd"], among Text.softDottedStretches),
    (["otheralphabetic", "oalpha"], among Text.letterlikeStretches),
    (["otherlowercase", "olower"], among Text.smallSymbolStretches),
    (["otheruppercase", "oupper"], among Text.capitalSymbolStretches),
    (["asciihexdigit", "ahex"], asciiHexDigits),
    (["hexdigit", "hex"], hexDigits),
    (["ideographic", "ideo"], among Text.ideographStretches),
    (["unifiedideograph", "uideo"], among Text.unifiedIdeographStretches),
    (["radical"], among Text.radicalStretches),
    (["idsunaryoperator", "idsu"], among Text.unaryCompositionStretches),
    (["idsbinaryoperator", "idsb"], among Text.binaryCompositionStretches),
    (["idstrinaryoperator", "idst"], among Text.ternaryCompositionStretches) ]

/-- The properties that have to do with identifiers and the syntax of patterns. -/
def identifierProperties : List (List String × CharClass) :=
  [ (["idstart", "ids"], idStart),
    (["idcontinue", "idc"], idContinue),
    (["xidstart", "xids"], compatibleStart),
    (["xidcontinue", "xidc"], compatibleContinue),
    (["otheridstart", "oids"], among Text.otherIdStartStretches),
    (["otheridcontinue", "oidc"], among Text.otherIdContinueStretches),
    (["idcompatmathstart"], among Text.mathStartStretches),
    (["idcompatmathcontinue"], ofTables [Text.mathStartStretches, Text.mathContinueStretches]),
    (["patternsyntax", "patsyn"], among Text.patternSyntaxStretches),
    (["patternwhitespace", "patws"], among Text.patternBlankStretches),
    (["whitespace", "wspace", "space"], blank) ]

/-- The properties that have to do with marks and with characters that are not shown. -/
def markProperties : List (List String × CharClass) :=
  [ (["defaultignorablecodepoint", "di"], defaultIgnorable),
    (["otherdefaultignorablecodepoint", "odi"], among Text.ignorableStretches),
    (["deprecated", "dep"], among Text.deprecatedStretches),
    (["diacritic", "dia"], among Text.diacriticStretches),
    (["extender", "ext"], among Text.lengthMarkStretches),
    (["graphemebase", "grbase"], base),
    (["graphemeextend", "grext"], extending),
    (["graphemelink", "grlink"], among Text.conjoinerStretches),
    (["othergraphemeextend", "ogrext"], among Text.extenderStretches),
    (["joincontrol", "joinc"], among Text.joinerStretches),
    (["logicalorderexception", "loe"], among Text.visualOrderStretches),
    (["modifiercombiningmark", "mcm"], among Text.modifierMarkStretches),
    (["noncharactercodepoint", "nchar"], among Text.noncharacterStretches),
    (["prependedconcatenationmark", "pcm"], among Text.leadingMarkStretches),
    (["regionalindicator", "ri"], among Text.regionalIndicatorStretches),
    (["variationselector", "vs"], among Text.variationSelectorStretches) ]

/-- The properties that have to do with punctuation, symbols and pictures. -/
def symbolProperties : List (List String × CharClass) :=
  [ (["bidicontrol", "bidic"], among Text.directionControlStretches),
    (["bidimirrored", "bidim"], among Text.mirroredStretches),
    (["dash"], among Text.dashStretches),
    (["hyphen"], among Text.hyphenStretches),
    (["math"], math),
    (["othermath", "omath"], among Text.otherMathStretches),
    (["quotationmark", "qmark"], among Text.quotationMarkStretches),
    (["sentenceterminal", "sterm"], among Text.sentenceTerminalStretches),
    (["terminalpunctuation", "term"], among Text.terminalStretches),
    (["emoji"], among Text.emojiStretches),
    (["emojicomponent", "ecomp"], among Text.emojiComponentStretches),
    (["emojimodifier", "emod"], among Text.emojiModifierStretches),
    (["emojimodifierbase", "ebase"], among Text.emojiModifierBaseStretches),
    (["emojipresentation", "epres"], among Text.emojiPresentationStretches),
    (["extendedpictographic", "extpict"], among Text.pictographStretches) ]

/-- The properties that hold or do not hold of a character, by name. -/
def binaryProperties : List (List String × CharClass) :=
  letterProperties ++ identifierProperties ++ markProperties ++ symbolProperties

/-- A name without the characters that do not count, in lower case. -/
def strippedName (name : List Char) : String :=
  String.ofList <|
    (name.filter fun c => c != ' ' && c != '_' && c != '-' && c.toNat < 0x80).map Char.toLower

/-- The form of a name in which names are compared. One name is not read loosely: `isc` names a
property of its own. -/
def looseName : List Char → String
  | i :: s :: rest =>
    if (i == 'i' || i == 'I') && (s == 's' || s == 'S') then
      let name := strippedName rest
      if name = "c" then "isc" else name
    else strippedName (i :: s :: rest)
  | name => strippedName name

/-- The class of a property that is named alone. -/
def ofName? (name : List Char) : Option CharClass :=
  let name := looseName name
  ((named? binaryProperties name).or (ofCategoryName? name)).or (ofScriptName? name)

/-- The class of the characters for which a property has a value. -/
def ofValue? (name value : List Char) : Option CharClass :=
  match looseName name with
  | "gc" | "generalcategory" => ofCategoryName? (looseName value)
  | "sc" | "script" => ofScriptName? (looseName value)
  | "scx" | "scriptextensions" => ofScriptExtensionName? (looseName value)
  | "age" => ofAge? (looseName value)
  | "gcb" | "graphemeclusterbreak" => named? unitBreaks (looseName value)
  | "wb" | "wordbreak" => named? wordBreaks (looseName value)
  | "sb" | "sentencebreak" => named? sentenceBreaks (looseName value)
  | _ => none

end Lexigram.CharClass
