import AttributeRelease.Text.Age
import AttributeRelease.Text.Derived

/-!
# Properties in patterns

The sets of characters that a pattern can name by properties of the Unicode standard.  Names are
compared without case, blanks, dashes, underlines and a leading `is`.
-/

namespace AttributeRelease.Pattern.Class

open Text Derived

/-- Blanks. -/
def blank : CharSet := .ofTable ["9-D 20 85 A0 1680 2000-200A 2028-2029 202F 205F 3000"]

/-- The characters of words. -/
def word : CharSet :=
  anyOf [Property.alphabetic, mark, Category.decimalDigit, Category.connector, joinControl]

/-! ## Names -/

/-- The general categories, each with its names. -/
def categories : List (List String × CharSet) :=
  [(["lu", "uppercaseletter"], Category.upperLetter),
    (["ll", "lowercaseletter"], Category.lowerLetter),
    (["lt", "titlecaseletter"], Category.titleLetter),
    (["lc", "casedletter"], casedLetter),
    (["lm", "modifierletter"], Category.modifierLetter),
    (["lo", "otherletter"], Category.otherLetter),
    (["l", "letter"], letter),
    (["mn", "nonspacingmark"], Category.nonspacingMark),
    (["mc", "spacingmark"], Category.spacingMark),
    (["me", "enclosingmark"], Category.enclosingMark),
    (["m", "mark", "combiningmark"], mark),
    (["nd", "decimalnumber", "digit"], Category.decimalDigit),
    (["nl", "letternumber"], Category.letterNumber),
    (["no", "othernumber"], Category.otherNumber),
    (["n", "number"], number),
    (["pc", "connectorpunctuation"], Category.connector),
    (["pd", "dashpunctuation"], Category.dash),
    (["ps", "openpunctuation"], Category.openPunctuation),
    (["pe", "closepunctuation"], Category.closePunctuation),
    (["pi", "initialpunctuation"], Category.initialQuote),
    (["pf", "finalpunctuation"], Category.finalQuote),
    (["po", "otherpunctuation"], Category.otherPunctuation),
    (["p", "punctuation", "punct"], punctuation),
    (["sm", "mathsymbol"], Category.mathSymbol),
    (["sc", "currencysymbol"], Category.currencySymbol),
    (["sk", "modifiersymbol"], Category.modifierSymbol),
    (["so", "othersymbol"], Category.otherSymbol),
    (["s", "symbol"], symbol),
    (["zs", "spaceseparator"], Category.spaceSeparator),
    (["zl", "lineseparator"], Category.lineSeparator),
    (["zp", "paragraphseparator"], Category.paragraphSeparator),
    (["z", "separator"], separator),
    (["cc", "control", "cntrl"], Category.control),
    (["cf", "format"], Category.format),
    (["co", "privateuse"], Category.privateUse),
    (["cn", "unassigned"], Category.unassigned),
    (["c", "other"], other),
    (["any"], .all),
    (["assigned"], assigned),
    (["ascii"], .range 0 0x7F)]

/-- The properties that hold or do not hold of a character, each with its names. -/
def properties : List (List String × CharSet) :=
  [(["alphabetic", "alpha"], Property.alphabetic),
    (["asciihexdigit", "ahex"], .ofTable ["30-39 41-46 61-66"]),
    (["bidicontrol", "bidic"], Property.bidiControl),
    (["bidimirrored", "bidim"], Property.bidiMirrored),
    (["cased"], Property.cased),
    (["caseignorable", "ci"], Property.caseIgnorable),
    (["changeswhencasefolded", "cwcf"], changesWhenCasefolded),
    (["changeswhencasemapped", "cwcm"], changesWhenCasemapped),
    (["changeswhenlowercased", "cwl"], changesWhenLowercased),
    (["changeswhentitlecased", "cwt"], changesWhenTitlecased),
    (["changeswhenuppercased", "cwu"], changesWhenUppercased),
    (["dash"], Property.dash),
    (["defaultignorablecodepoint", "di"], Property.defaultIgnorable),
    (["deprecated", "dep"], Property.deprecated),
    (["diacritic", "dia"], Property.diacritic),
    (["emoji"], Property.emoji),
    (["emojicomponent", "ecomp"], Property.emojiComponent),
    (["emojimodifier", "emod"], Property.emojiModifier),
    (["emojimodifierbase", "ebase"], Property.emojiModifierBase),
    (["emojipresentation", "epres"], Property.emojiPresentation),
    (["extendedpictographic", "extpict"], Property.extendedPictographic),
    (["extender", "ext"], Property.extender),
    (["graphemebase", "grbase"], graphemeBase),
    (["graphemeextend", "grext"], Property.graphemeExtend),
    (["graphemelink", "grlink"], Property.graphemeLink),
    (["hexdigit", "hex"], .ofTable ["30-39 41-46 61-66 FF10-FF19 FF21-FF26 FF41-FF46"]),
    (["hyphen"], Property.hyphen),
    (["idcontinue", "idc"], idContinue),
    (["ideographic", "ideo"], Property.ideographic),
    (["idsbinaryoperator", "idsb"], Property.idsBinaryOperator),
    (["idstart", "ids"], idStart),
    (["idstrinaryoperator", "idst"], Property.idsTrinaryOperator),
    (["joincontrol", "joinc"], joinControl),
    (["logicalorderexception", "loe"], Property.logicalOrderException),
    (["lowercase", "lower"], Property.lowercase),
    (["math"], Property.math),
    (["noncharactercodepoint", "nchar"], Property.noncharacter),
    (["otheralphabetic", "oalpha"], otherAlphabetic),
    (["otherdefaultignorablecodepoint", "odi"], otherDefaultIgnorable),
    (["othergraphemeextend", "ogrext"], otherGraphemeExtend),
    (["otheridcontinue", "oidc"], otherIdContinue),
    (["otheridstart", "oids"], otherIdStart),
    (["otherlowercase", "olower"], otherLowercase),
    (["othermath", "omath"], otherMath),
    (["otheruppercase", "oupper"], otherUppercase),
    (["patternsyntax", "patsyn"], Property.patternSyntax),
    (["patternwhitespace", "patws"], Property.patternBlank),
    (["prependedconcatenationmark", "pcm"], Property.prependedMark),
    (["quotationmark", "qmark"], Property.quotationMark),
    (["radical"], Property.radical),
    (["regionalindicator", "ri"], Property.regionalIndicator),
    (["sentenceterminal", "sterm"], Property.sentenceTerminal),
    (["softdotted", "sd"], Property.softDotted),
    (["terminalpunctuation", "term"], Property.terminalPunctuation),
    (["unifiedideograph", "uideo"], Property.unifiedIdeograph),
    (["uppercase", "upper"], Property.uppercase),
    (["variationselector", "vs"], Property.variationSelector),
    (["whitespace", "wspace", "space"], blank),
    (["xidcontinue", "xidc"], xidContinue),
    (["xidstart", "xids"], xidStart)]

/-- The set with a name. -/
def lookUp? (sets : List (List String × CharSet)) (name : String) : Option CharSet :=
  (sets.find? fun s => s.1.contains name).map (·.2)

/-- A name in its plain form. A leading `is` counts where it stands at the very beginning. -/
def plainName (name : List Char) : String :=
  let plain (cs : List Char) : List Char := cs.filterMap fun c =>
    if c == ' ' || c == '_' || c == '-' || c.toNat ≥ 128 then none else some c.toLower
  match name with
  | i :: s :: rest =>
    if i.toLower == 'i' && s.toLower == 's' then
      if plain rest = ['c'] then "isc" else String.ofList (plain rest)
    else String.ofList (plain name)
  | name => String.ofList (plain name)

/-- The set that a name of a property, a category or a script stands for. The short names of some
properties are those of categories. -/
def named? (name : List Char) : Option CharSet :=
  let plain := plainName name
  if plain == "cf" || plain == "sc" || plain == "lc" then lookUp? categories plain
  else ((lookUp? properties plain).or (lookUp? categories plain)).or (Script.named? plain)

/-- The set of the characters for which a property has a value. -/
def valued? (property value : List Char) : Option CharSet :=
  let value := plainName value
  match plainName property with
  | "gc" | "generalcategory" => lookUp? categories value
  | "sc" | "script" => Script.named? value
  | "scx" | "scriptextensions" => Script.used? value
  | "age" => Age.named? value
  | "gcb" | "graphemeclusterbreak" => lookUp? graphemeBreaks value
  | "wb" | "wordbreak" => lookUp? wordBreaks value
  | "sb" | "sentencebreak" => lookUp? sentenceBreaks value
  | _ => none

/-! ## Queries -/

/-- The characters before a separator, and those after it. -/
def cut (separator : Char) (cs : List Char) : Option (List Char × List Char) :=
  match cs.dropWhile (· ≠ separator) with
  | [] => none
  | _ :: rest => some (cs.takeWhile (· ≠ separator), rest)

/-- The set that the text between the braces of `\p{…}` stands for: a name, or a property and its
value. `!=` between them stands for all other characters. -/
def query? (text : List Char) : Option CharSet :=
  match cut '!' text with
  | some (property, '=' :: value) => (valued? property value).map CharSet.complement
  | _ =>
    match cut ':' text with
    | some (property, value) => valued? property value
    | none =>
      match cut '=' text with
      | some (property, value) => valued? property value
      | none => named? text

end AttributeRelease.Pattern.Class
