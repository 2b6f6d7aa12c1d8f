/-
**Properties of characters that follow from others.**

Alphabetic, Lowercase, Uppercase, Math, the identifier and grapheme properties and the like are
unions and differences of categories and of lists; those about a change of case are the letters of
one case up to the exceptions listed here.
-/

import WhenClause.Unicode.Category
import WhenClause.Unicode.Listed

namespace WhenClause.Unicode

/-! ### Letters and case -/

/-- The property Lowercase. -/
def lowercase : CharSet := lowercaseLetter.union otherLowercase

/-- The property Uppercase. -/
def uppercase : CharSet := uppercaseLetter.union otherUppercase

/-- The property Alphabetic. -/
def alphabetic : CharSet := .unionAll [letter, letterNumber, lowercase, uppercase, otherAlphabetic]

/-- The property Cased. -/
def cased : CharSet := .unionAll [lowercase, uppercase, titlecaseLetter]

/-- The property Case_Ignorable: marks, formats, modifiers and the punctuation within words. -/
def caseIgnorable : CharSet :=
  .unionAll
    [nonspacingMark, enclosingMark, format, modifierLetter, modifierSymbol,
     .ofHex ["27 2e 3a b7 387 55f 5f4 2018-2019 2024 2027 fe13 fe52 fe55 ff07 ff0e ff1a"]]

/-! ### Changes of case -/

/-- Uppercase characters without a lowercase form. -/
def withoutLowercase : CharSet :=
  .ofHex
    ["3d2-3d4 2102 2107 210b-210d 2110-2112 2115 2119-211d 2124 2128 212c-212d 2130-2131 2133",
     "213e-213f 2145 1d400-1d419 1d434-1d44d 1d468-1d481 1d49c 1d49e-1d49f 1d4a2 1d4a5-1d4a6",
     "1d4a9-1d4ac 1d4ae-1d4b5 1d4d0-1d4e9 1d504-1d505 1d507-1d50a 1d50d-1d514 1d516-1d51c",
     "1d538-1d539 1d53b-1d53e 1d540-1d544 1d546 1d54a-1d550 1d56c-1d585 1d5a0-1d5b9",
     "1d5d4-1d5ed 1d608-1d621 1d63c-1d655 1d670-1d689 1d6a8-1d6c0 1d6e2-1d6fa 1d71c-1d734",
     "1d756-1d76e 1d790-1d7a8 1d7ca 1f130-1f149 1f150-1f169 1f170-1f189"]

/-- Lowercase characters without an uppercase form. -/
def withoutUppercase : CharSet :=
  .ofHex
    ["aa ba 138 18d 1aa-1ab 1ba 1be 221 234-239 255 258 25a 25d-25f 262 267 26d-26e 270",
     "273-274 276-27c 27e-27f 281 284-286 28d-291 293 295-29c 29f-2b8 2c0-2c1 2e0-2e4 37a 3fc",
     "560 588 10fc 1d00-1d78 1d7a-1d7c 1d7e-1d8d 1d8f-1dbf 1e9c-1e9d 1e9f 2071 207f 2090-209c",
     "210a 210e-210f 2113 212f 2134 2139 213c-213d 2146-2149 2c71 2c74 2c77-2c7d 2ce4",
     "a69c-a69d a730-a731 a770-a778 a78e a795 a7af a7d3 a7d5 a7f2-a7f4 a7f8-a7fa ab30-ab52",
     "ab54-ab5a ab5c-ab69 10780 10783-10785 10787-107b0 107b2-107ba 1d41a-1d433 1d44e-1d454",
     "1d456-1d467 1d482-1d49b 1d4b6-1d4b9 1d4bb 1d4bd-1d4c3 1d4c5-1d4cf 1d4ea-1d503",
     "1d51e-1d537 1d552-1d56b 1d586-1d59f 1d5ba-1d5d3 1d5ee-1d607 1d622-1d63b 1d656-1d66f",
     "1d68a-1d6a5 1d6c2-1d6da 1d6dc-1d6e1 1d6fc-1d714 1d716-1d71b 1d736-1d74e 1d750-1d755",
     "1d770-1d788 1d78a-1d78f 1d7aa-1d7c2 1d7c4-1d7c9 1d7cb 1df00-1df09 1df0b-1df1e",
     "1df25-1df2a 1e030-1e06d"]

/-- The property Changes_When_Lowercased. -/
def changesWhenLowercased : CharSet :=
  (uppercase.union titlecaseLetter).difference withoutLowercase

/-- The property Changes_When_Uppercased. -/
def changesWhenUppercased : CharSet :=
  (lowercase.union titlecaseLetter).difference withoutUppercase

/-- The property Changes_When_Titlecased: a titlecase letter and a letter of Georgian stay, and the
letters that stand for two and are uppercase change. -/
def changesWhenTitlecased : CharSet :=
  (changesWhenUppercased.difference (titlecaseLetter.union (.ofHex ["10d0-10fa 10fd-10ff"]))).union
    (.ofHex ["1c4 1c7 1ca 1f1"])

/-- The property Changes_When_Casefolded: folding lowers, save for Cherokee, which it raises, and it
spells some characters out. -/
def changesWhenCasefolded : CharSet :=
  (changesWhenLowercased.difference (.ofHex ["13a0-13f5"])).union <|
    .ofHex
      ["b5 df 149 17f 345 3c2 3d0-3d1 3d5-3d6 3f0-3f1 3f5 587 13f8-13fd 1c80-1c88 1e9a-1e9b",
       "1f80-1f87 1f90-1f97 1fa0-1fa7 1fb2-1fb4 1fb7 1fc2-1fc4 1fc7 1ff2-1ff4 1ff7 ab70-abbf",
       "fb00-fb06 fb13-fb17"]

/-- The property Changes_When_Casemapped. -/
def changesWhenCasemapped : CharSet :=
  .unionAll [changesWhenLowercased, changesWhenUppercased, changesWhenTitlecased]

/-! ### Identifiers -/

/-- The property ID_Start. -/
def idStart : CharSet :=
  (CharSet.unionAll [letter, letterNumber, otherIdStart]).difference
    (patternSyntax.union patternWhiteSpace)

/-- The property ID_Continue. -/
def idContinue : CharSet :=
  (CharSet.unionAll
    [idStart, nonspacingMark, spacingMark, decimalNumber, connectorPunctuation,
     otherIdContinue]).difference
    (patternSyntax.union patternWhiteSpace)

/-- Characters whose normal forms do not stay within identifiers. -/
def unstableIdentifier : CharSet :=
  .ofHex ["37a 309b-309c fc5e-fc63 fdfa-fdfb fe70 fe72 fe74 fe76 fe78 fe7a fe7c fe7e"]

/-- The property XID_Continue. -/
def xidContinue : CharSet := idContinue.difference unstableIdentifier

/-- The property XID_Start. -/
def xidStart : CharSet :=
  idStart.difference (unstableIdentifier.union (.ofHex ["e33 eb3 ff9e-ff9f"]))

/-! ### Graphemes and others -/

/-- The property Grapheme_Extend. -/
def graphemeExtend : CharSet := .unionAll [nonspacingMark, enclosingMark, otherGraphemeExtend]

/-- The property Grapheme_Base. -/
def graphemeBase : CharSet :=
  assigned.difference
    (.unionAll
      [control, format, privateUse, lineSeparator, paragraphSeparator, graphemeExtend])

/-- The property Grapheme_Link: the signs that join consonants. -/
def graphemeLink : CharSet :=
  .ofHex
    ["94d 9cd a4d acd b4d bcd c4d ccd d3b-d3c d4d dca e3a eba f84 1039-103a 1714-1715 1734",
     "17d2 1a60 1b44 1baa-1bab 1bf2-1bf3 2d7f a806 a82c a8c4 a953 a9c0 aaf6 abed 10a3f 11046",
     "11070 1107f 110b9 11133-11134 111c0 11235 112ea 1134d 113ce-113d0 11442 114c2 115bf",
     "1163f 116b6 1172b 11839 1193d-1193e 119e0 11a34 11a47 11a99 11c3f 11d44-11d45 11d97",
     "11f41-11f42 1612f"]

/-- The property Math. -/
def math : CharSet := mathSymbol.union otherMath

/-- The property Default_Ignorable_Code_Point. -/
def defaultIgnorable : CharSet :=
  (CharSet.unionAll [format, variationSelector, otherDefaultIgnorableCodePoint]).difference
    (.unionAll [whiteSpace, prependedConcatenationMark, .ofHex ["fff9-fffb 13430-1343f"]])

end WhenClause.Unicode
