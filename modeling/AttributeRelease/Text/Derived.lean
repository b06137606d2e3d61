import AttributeRelease.Text.Case
import AttributeRelease.Text.Category
import AttributeRelease.Text.Script

/-!
# Derived properties

The properties of characters that the standard makes of others: what identifiers are made of, what
changes with case, and how texts are taken apart into characters as users see them, words and
sentences.
-/

namespace AttributeRelease.Text.Derived

open Category Property

/-- The code points that at least one of some sets has. -/
def anyOf (sets : List CharSet) : CharSet := .ofSpans (sets.flatMap (·.spans))

/-! ## Categories together -/

def casedLetter : CharSet := anyOf [upperLetter, lowerLetter, titleLetter]
def letter : CharSet := anyOf [casedLetter, modifierLetter, otherLetter]
def mark : CharSet := anyOf [nonspacingMark, spacingMark, enclosingMark]
def number : CharSet := anyOf [decimalDigit, letterNumber, otherNumber]

def punctuation : CharSet :=
  anyOf [connector, Category.dash, openPunctuation, closePunctuation, initialQuote, finalQuote,
    otherPunctuation]

def symbol : CharSet := anyOf [mathSymbol, currencySymbol, modifierSymbol, otherSymbol]
def separator : CharSet := anyOf [spaceSeparator, lineSeparator, paragraphSeparator]
def other : CharSet := anyOf [control, format, surrogate, privateUse, unassigned]
def assigned : CharSet := unassigned.complement

/-! ## Parts of properties

What the standard adds to categories to get a property. -/

def otherAlphabetic : CharSet := alphabetic.diff (anyOf [letter, letterNumber])
def otherDefaultIgnorable : CharSet := defaultIgnorable.diff (anyOf [format, variationSelector])
def otherGraphemeExtend : CharSet := graphemeExtend.diff (anyOf [nonspacingMark, enclosingMark])
def otherIdStart : CharSet := .ofTable ["1885-1886 2118 212E 309B-309C"]
def otherIdContinue : CharSet := .ofTable ["B7 387 1369-1371 19DA"]
def otherLowercase : CharSet := Property.lowercase.diff lowerLetter
def otherMath : CharSet := math.diff mathSymbol
def otherUppercase : CharSet := Property.uppercase.diff upperLetter

/-! ## Identifiers -/

def idStart : CharSet :=
  (anyOf [letter, letterNumber, otherIdStart]).diff (anyOf [patternSyntax, patternBlank])

def idContinue : CharSet :=
  (anyOf [idStart, nonspacingMark, spacingMark, decimalDigit, connector, otherIdContinue]).diff
    (anyOf [patternSyntax, patternBlank])

/-- Characters whose compatible forms are not all of identifiers. -/
def unstable : CharSet := .ofTable
  ["37A 309B-309C FC5E-FC63 FDFA-FDFB FE70 FE72 FE74 FE76 FE78 FE7A FE7C FE7E"]

def xidStart : CharSet := idStart.diff (unstable.union (.ofTable ["E33 EB3 FF9E-FF9F"]))
def xidContinue : CharSet := idContinue.diff unstable

/-! ## Changes with case

The case tables know some letters that came later; where a letter has a counterpart only there, it
does not change yet. -/

def lowering : CharSet := (CharSet.ofSpans (loweringRows.flatMap CaseRow.sources)).inter assigned
def folding : CharSet := (CharSet.ofSpans (foldingRows.flatMap CaseRow.sources)).inter assigned

/-- Letters that are folded to, and those that are folded. -/
def folded : CharSet :=
  folding.union ((CharSet.ofSpans (foldingRows.flatMap CaseRow.targets)).inter assigned)

def changesWhenLowercased : CharSet := lowering.union (.singleton 'İ'.toNat)

/-- Besides letters with one folded form, those that are folded to several characters. -/
def changesWhenCasefolded : CharSet :=
  (folding.diff (.singleton 0x1FBE)).union (.ofTable
    ["DF 130 149 587 1E9A 1F80-1F87 1F90-1F97 1FA0-1FA7 1FB2-1FB4 1FB7 1FC2-1FC4 1FC7 1FF2-1FF4",
     "1FF7 FB00-FB06 FB13-FB17"])

/-- Besides letters with one upper case form, those that are written as several characters. -/
def changesWhenUppercased : CharSet :=
  ((folded.diff lowering).diff (.ofTable ["19B 264"])).union (.ofTable
    ["131 149 1C5 1C8 1CB 1F0 1F2 390 3B0 587 1E96-1E9A 1F50 1F52 1F54 1F56 1F88-1F8F 1F98-1F9F",
     "1FA8-1FAF 1FB2 1FB4 1FB6-1FB7 1FBC 1FC2 1FC4 1FC6-1FC7 1FCC 1FD2-1FD3 1FD6-1FD7 1FE2-1FE4",
     "1FE6-1FE7 1FF2 1FF4 1FF6-1FF7 1FFC FB00-FB06 FB13-FB17"])

/-- Title case is upper case but for letters that have both, and for Georgian ones. -/
def changesWhenTitlecased : CharSet :=
  (changesWhenUppercased.diff (titleLetter.union (.ofTable ["10D0-10FA 10FD-10FF"]))).union
    (.ofTable ["1C4 1C7 1CA 1F1"])

def changesWhenCasemapped : CharSet :=
  anyOf [changesWhenLowercased, changesWhenUppercased, changesWhenTitlecased]

/-! ## Characters as users see them -/

def graphemeBase : CharSet :=
  (anyOf [other, lineSeparator, paragraphSeparator, graphemeExtend]).complement

/-- Characters that join letters without being shown. -/
def joinControl : CharSet := .range 0x200C 0x200D

/-- Syllables that end with a vowel; every further one of their block ends with a consonant. -/
def openSyllable : CharSet :=
  .ofSpans ((List.range 399).map fun i => ⟨0xAC00 + 28 * i, 0xAC00 + 28 * i⟩)

def graphemeExtending : CharSet := anyOf [graphemeExtend, emojiModifier]

/-- The classes that decide where a character as users see it ends, each with its names. -/
def graphemeBreaks : List (List String × CharSet) :=
  let marks := (spacingMark.diff graphemeExtending).diff (.ofTable
    ["102B-102C 1038 1062-1064 1067-106D 1083 1087-108C 108F 109A-109C 1A61 1A63-1A64 AA7B AA7D",
     "11720-11721"])
  let controls := anyOf [control, format, lineSeparator, paragraphSeparator,
    unassigned.inter defaultIgnorable]
  [(["cr"], .singleton '\r'.toNat), (["lf"], .singleton '\n'.toNat),
    (["control", "cn"], controls.diff (anyOf [.ofChars ['\r', '\n'], joinControl, prependedMark,
      graphemeExtend])),
    (["extend", "ex"], graphemeExtending), (["zwj"], .singleton 0x200D),
    (["regionalindicator", "ri"], regionalIndicator),
    (["prepend", "pp"], prependedMark.union (.ofTable
      ["D4E 111C2-111C3 1193F 11941 11A3A 11A84-11A89 11D46 11F02"])),
    (["spacingmark", "sm"], marks.union (.ofTable ["E33 EB3"])),
    (["l"], .ofTable ["1100-115F A960-A97C"]), (["v"], .ofTable ["1160-11A7 D7B0-D7C6"]),
    (["t"], .ofTable ["11A8-11FF D7CB-D7FB"]), (["lv"], openSyllable),
    (["lvt"], (CharSet.range 0xAC00 0xD7A3).diff openSyllable)]

/-! ## Words -/

def wordExtending : CharSet := (anyOf [graphemeExtending, spacingMark]).diff (.singleton 0x200D)

def katakanaWord : CharSet :=
  ((Script.named? "katakana").getD .empty).union (.ofTable ["3031-3035 309B-309C 30A0 30FC FF70"])

def hebrewLetter : CharSet := ((Script.named? "hebrew").getD .empty).inter otherLetter

/-- Letters of scripts that do not set words apart. -/
def runningLetter : CharSet := .ofTable
  ["E01-E30 E32-E33 E40-E46 E81-E82 E84 E86-E8A E8C-EA3 EA5 EA7-EB0 EB2-EB3 EBD EC0-EC4 EC6",
   "EDC-EDF 1000-102A 103F 1050-1055 105A-105D 1061 1065-1066 106E-1070 1075-1081 108E 1780-17B3",
   "17D7 17DC 1950-196D 1970-1974 1980-19AB 19B0-19C9 1A20-1A54 1AA7 A9E0-A9E4 A9E6-A9EF",
   "A9FA-A9FE AA60-AA76 AA7A AA7E-AAAF AAB1 AAB5-AAB6 AAB9-AABD AAC0 AAC2 AADB-AADD 11700-1171A",
   "11740-11746"]

def wordLetter : CharSet :=
  (alphabetic.diff (anyOf [ideographic, katakanaWord, (Script.named? "hiragana").getD .empty,
    runningLetter, wordExtending, hebrewLetter])).union (.ofTable
    ["2C2-2C5 2D2-2D7 2DE-2DF 2E5-2EB 2ED 2EF-2FF 55A-55C 55E 58A 5F3 A708-A716 A720-A721",
     "A789-A78A AB5B"])

/-- The classes that decide where a word ends, each with its names. -/
def wordBreaks : List (List String × CharSet) :=
  [(["cr"], .singleton '\r'.toNat), (["lf"], .singleton '\n'.toNat),
    (["newline", "nl"], .ofTable ["B-C 85 2028-2029"]), (["extend"], wordExtending),
    (["zwj"], .singleton 0x200D), (["regionalindicator", "ri"], regionalIndicator),
    (["format", "fo"], format.diff (anyOf [.range 0x200B 0x200D, graphemeExtend])),
    (["katakana", "ka"], katakanaWord), (["hebrewletter", "hl"], hebrewLetter),
    (["aletter", "le"], wordLetter), (["singlequote", "sq"], .singleton '\''.toNat),
    (["doublequote", "dq"], .singleton '"'.toNat),
    (["midnumlet", "mb"], .ofTable ["2E 2018-2019 2024 FE52 FF07 FF0E"]),
    (["midletter", "ml"], .ofTable ["3A B7 387 55F 5F4 2027 FE13 FE55 FF1A"]),
    (["midnum", "mn"], .ofTable
      ["2C 3B 37E 589 60C-60D 66C 7F8 2044 FE10 FE14 FE50 FE54 FF0C FF1B"]),
    (["numeric", "nu"], decimalDigit.union (.singleton 0x66B)),
    (["extendnumlet", "ex"], .ofTable ["5F 202F 203F-2040 2054 FE33-FE34 FE4D-FE4F FF3F"]),
    (["wsegspace"], .ofTable ["20 1680 2000-2006 2008-200A 205F 3000"])]

/-! ## Sentences -/

def sentenceExtending : CharSet := anyOf [graphemeExtend, spacingMark, joinControl]

/-- Georgian letters, whose case does not matter to sentences. -/
def georgian : CharSet := .ofTable ["10D0-10FA 10FD-10FF 1C90-1CBA 1CBD-1CBF"]

def sentenceLower : CharSet := (Property.lowercase.diff graphemeExtend).diff georgian
def sentenceUpper : CharSet := (Property.uppercase.union titleLetter).diff georgian
def fullStop : CharSet := .ofTable ["2E 2024 FE52 FF0E"]

/-- The classes that decide where a sentence ends, each with its names. -/
def sentenceBreaks : List (List String × CharSet) :=
  let ends := CharSet.ofTable ["A D 85 2028-2029"]
  [(["cr"], .singleton '\r'.toNat), (["lf"], .singleton '\n'.toNat),
    (["sep", "se"], .ofTable ["85 2028-2029"]), (["extend", "ex"], sentenceExtending),
    (["format", "fo"], format.diff (anyOf [joinControl, graphemeExtend])),
    (["sp"], (CharSet.ofTable ["9-D 20 85 A0 1680 2000-200A 2028-2029 202F 205F 3000"]).diff ends),
    (["lower", "lo"], sentenceLower), (["upper", "up"], sentenceUpper),
    (["oletter", "le"], (alphabetic.union (.singleton 0x5F3)).diff
      (anyOf [sentenceLower, sentenceUpper, sentenceExtending])),
    (["numeric", "nu"], decimalDigit.union (.range 0x66B 0x66C)), (["aterm", "at"], fullStop),
    (["scontinue", "sc"], .ofTable
      ["2C-2D 3A 55D 60C-60D 7F8 1802 1808 2013-2014 3001 FE10-FE11 FE13 FE31-FE32 FE50-FE51 FE55",
       "FE58 FE63 FF0C-FF0D FF1A FF64"]),
    (["sterm", "st"], sentenceTerminal.diff fullStop),
    (["close", "cl"], (anyOf [openPunctuation, closePunctuation, initialQuote, finalQuote]).union
      (.ofTable ["22 27 275B-2760 2E00-2E01 2E06-2E08 2E0B 1F676-1F678"]))]

end AttributeRelease.Text.Derived
