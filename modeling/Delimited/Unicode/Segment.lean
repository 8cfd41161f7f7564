import Delimited.Unicode.Property
import Delimited.Unicode.Script

/-!
# Where texts are divided

Three partitions of the characters say where a text is divided into drawn characters, words and sentences.
`graphemeBreak?`, `wordBreak?` and `sentenceBreak?` find the classes of each by name; characters in no named class are
of the class of all others, which has no name here. Most classes follow from categories and properties.
-/

namespace Delimited.Unicode

open Category Property

/-! ### Classes that partitions share -/

/-- Format characters that join others, and those that make tags. -/
private def joiningFormats : CharSet := prependedConcatenationMark ∪ .ofTable "200C-200D E0020-E007F"

/-- Characters that belong to the one before, in words and sentences. -/
private def continuing : CharSet := .unions [graphemeExtend, spacingMark]

/-- Digits, and the signs that numbers are written with. -/
private def numeric : CharSet := .unions
  [decimalNumber, prependedConcatenationMark \ .singleton 0x70F, .ofTable "66B 19DA"]

/-! ### Drawn characters -/

/-- Characters that are never drawn together with others. -/
private def graphemeControl : CharSet :=
  .unions [lineSeparator, paragraphSeparator, control, format, unassigned ∩ defaultIgnorableCodePoint] \
    (joiningFormats ∪ .ofTable "A D")

/-- Marks with a width that belong to the character before. -/
private def graphemeSpacing : CharSet :=
  (spacingMark \ (graphemeExtend ∪ .ofTable
    "102B-102C 1038 1062-1064 1067-106D 1083 1087-108C 108F 109A-109C 1A61 1A63-1A64 AA7B AA7D 11720-11721")) ∪
    .ofTable "E33 EB3"

/-- Syllables without a final consonant: every 28th one. -/
private def openSyllable : CharSet := .ofList ((List.range 399).map fun k => 0xAC00 + 28 * k)

/-- The classes of drawn characters, each with its names. -/
private def graphemeBreaks : List (List String × CharSet) :=
  [(["cr"], .singleton 0xD), (["lf"], .singleton 0xA), (["cn", "control"], graphemeControl),
   (["ex", "extend"], graphemeExtend ∪ emojiModifier), (["l"], .ofTable "1100-115F A960-A97C"),
   (["v"], .ofTable "1160-11A7 D7B0-D7C6 16D63 16D67-16D6A"), (["t"], .ofTable "11A8-11FF D7CB-D7FB"),
   (["lv"], openSyllable), (["lvt"], .ofTable "AC00-D7A3" \ openSyllable),
   (["pp", "prepend"], prependedConcatenationMark ∪ .ofTable
    "D4E 111C2-111C3 113D1 1193F 11941 11A3A 11A84-11A89 11D46 11F02"),
   (["ri", "regionalindicator"], regionalIndicator), (["sm", "spacingmark"], graphemeSpacing),
   (["zwj"], .singleton 0x200D)]

/-- The set of a class of drawn characters. -/
def graphemeBreak? (name : String) : Option CharSet :=
  (graphemeBreaks.find? fun c => c.1.contains name).map (·.2)

/-! ### Words -/

private def hebrewLetter : CharSet := .ofTable
    "5D0-5EA 5EF-5F2 FB1D FB1F-FB28 FB2A-FB36 FB38-FB3C FB3E FB40-FB41 FB43-FB44 FB46-FB4F"

private def wordKatakana : CharSet := .ofTable
    "3031-3035 309B-309C 30A0-30FA 30FC-30FF 31F0-31FF 32D0-32FE 3300-3357 FF66-FF9D 1AFF0-1AFF3 1AFF5-1AFFB
    1AFFD-1AFFE 1B000 1B120-1B122 1B155 1B164-1B167"

/-- Letters of scripts that are written without blanks between words. -/
private def unspacedLetter : CharSet := .ofTable
    "E01-E30 E32-E33 E40-E46 E81-E82 E84 E86-E8A E8C-EA3 EA5 EA7-EB0 EB2-EB3 EBD EC0-EC4 EC6 EDC-EDF
    1000-102A 103F 1050-1055 105A-105D 1061 1065-1066 106E-1070 1075-1081 108E 1780-17B3 17D7 17DC 1950-196D
    1970-1974 1980-19AB 19B0-19C9 1A20-1A54 1AA7 A9E0-A9E4 A9E6-A9EF A9FA-A9FE AA60-AA76 AA7A AA7E-AAAF AAB1
    AAB5-AAB6 AAB9-AABD AAC0 AAC2 AADB-AADD 11700-1171A 11740-11746"

/-- Signs that count as letters in words. -/
private def letterLike : CharSet := .ofTable
    "2C2-2C5 2D2-2D7 2DE-2DF 2E5-2EB 2ED 2EF-2FF 55A-55C 55E 58A 5F3 70F A708-A716 A720-A721 A789-A78A AB5B"

/-- Letters of scripts that are written with blanks between words. -/
private def wordLetter : CharSet :=
  letterLike ∪ (alphabetic \ .unions
    [ideographic, wordKatakana, (script? "hiragana").getD ∅, continuing, hebrewLetter, unspacedLetter])

/-- The classes of words, each with its names. -/
private def wordBreaks : List (List String × CharSet) :=
  [(["le", "aletter"], wordLetter), (["cr"], .singleton 0xD), (["dq", "doublequote"], .singleton 0x22),
   (["extend"], continuing ∪ emojiModifier),
   (["ex", "extendnumlet"], .ofTable "5F 202F 203F-2040 2054 FE33-FE34 FE4D-FE4F FF3F"),
   (["fo", "format"], format \ (joiningFormats ∪ .singleton 0x200B)), (["hl", "hebrewletter"], hebrewLetter),
   (["ka", "katakana"], wordKatakana), (["lf"], .singleton 0xA),
   (["ml", "midletter"], .ofTable "3A B7 387 55F 5F4 2027 FE13 FE55 FF1A"),
   (["mn", "midnum"], .ofTable "2C 3B 37E 589 60C-60D 66C 7F8 2044 FE50 FE54 FF0C FF1B"),
   (["mb", "midnumlet"], .ofTable "2E 2018-2019 2024 FE52 FF07 FF0E"),
   (["nl", "newline"], .ofTable "B-C 85 2028-2029"), (["nu", "numeric"], numeric),
   (["ri", "regionalindicator"], regionalIndicator), (["sq", "singlequote"], .singleton 0x27),
   (["wsegspace"], .ofTable "20 1680 2000-2006 2008-200A 205F 3000"), (["zwj"], .singleton 0x200D)]

/-- The set of a class of words. -/
def wordBreak? (name : String) : Option CharSet :=
  (wordBreaks.find? fun c => c.1.contains name).map (·.2)

/-! ### Sentences -/

/-- Full stops, which end a sentence only in some surroundings. -/
private def fullStop : CharSet := .ofTable "2E 2024 FE52 FF0E"

private def sentenceExtend : CharSet := continuing ∪ .singleton 0x200D

private def sentenceLower : CharSet := lowercase \ (graphemeExtend ∪ .ofTable "10D0-10FA 10FD-10FF")

private def sentenceUpper : CharSet := (uppercase ∪ titlecaseLetter) \ .ofTable "1C90-1CBA 1CBD-1CBF"

/-- Letters that are of neither case in sentences. -/
private def sentenceLetter : CharSet :=
  .singleton 0x5F3 ∪ (alphabetic \ .unions [sentenceLower, sentenceUpper, sentenceExtend])

/-- Brackets and quotation marks. -/
private def sentenceClose : CharSet :=
  .unions [openPunctuation, closePunctuation, initialPunctuation, finalPunctuation, quotationMark, .ofTable
    "275B-2760 2E00-2E01 2E06-2E08 2E0B 1F676-1F678"] \ .ofTable "FF02 FF07"

/-- The classes of sentences, each with its names. -/
private def sentenceBreaks : List (List String × CharSet) :=
  [(["at", "aterm"], fullStop), (["cr"], .singleton 0xD), (["cl", "close"], sentenceClose),
   (["ex", "extend"], sentenceExtend), (["fo", "format"], (format \ joiningFormats) ∪ .singleton 0x70F),
   (["lf"], .singleton 0xA), (["lo", "lower"], sentenceLower), (["nu", "numeric"], numeric ∪ .singleton 0x66C),
   (["le", "oletter"], sentenceLetter),
   (["sc", "scontinue"], .ofTable
    "2C-2D 3A-3B 37E 55D 60C-60D 7F8 1802 1808 2013-2014 3001 FE10-FE11 FE13-FE14 FE31-FE32 FE50-FE51 FE54-FE55
    FE58 FE63 FF0C-FF0D FF1A-FF1B FF64"),
   (["st", "sterm"], sentenceTerminal \ fullStop), (["se", "sep"], .ofTable "85 2028-2029"),
   (["sp"], .ofTable "9 B-C 20 A0 1680 2000-200A 202F 205F 3000"), (["up", "upper"], sentenceUpper)]

/-- The set of a class of sentences. -/
def sentenceBreak? (name : String) : Option CharSet :=
  (sentenceBreaks.find? fun c => c.1.contains name).map (·.2)

end Delimited.Unicode
