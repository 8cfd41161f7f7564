import Delimited.Unicode.Property

/-!
# Recent characters

Patterns go by version 16 of the standard, all other handling of texts by version 17. This module gives the properties
that other handling looks at, as changes to those of version 16; `added` are the characters that version 17 has added.
-/

namespace Delimited.Unicode.Recent

/-- The characters of version 17 that version 16 does not have. -/
def added : CharSet := .ofTable
    "88F C5C CDC 1ACF-1ADD 1AE0-1AEB 20C1 2B96 A7CE-A7CF A7D2 A7D4 A7F1 FBC3-FBD2 FD90-FD91 FDC8-FDCE
    10940-10959 10EC5-10EC7 10ED0-10ED8 10EFA-10EFB 11B60-11B67 11DB0-11DDB 11DE0-11DE9 16EA0-16EB8
    16EBB-16ED3 16FF2-16FF6 187F8-187FF 18D09-18D1E 18D80-18DF2 1CCFA-1CCFC 1CEBA-1CED0 1CEE0-1CEF0
    1E6C0-1E6DE 1E6E0-1E6F5 1E6FE-1E6FF 1F6D8 1F777-1F77A 1F8D0-1F8D8 1FA54-1FA57 1FA8A 1FA8E 1FAC8 1FACD
    1FAEA 1FAEF 1FBFA 2B73A-2B73F 2CEA2-2CEAD 323B0-33479"

/-- Letters and letter-like characters. -/
def alphabetic : CharSet := Property.alphabetic ∪ .ofTable
    "88F C5C CDC A7CE-A7CF A7D2 A7D4 A7F1 10940-10959 10EC5-10EC7 10EFA-10EFB 11B60-11B67 11DB0-11DDB
    16EA0-16EB8 16EBB-16ED3 16FF2-16FF6 187F8-187FF 18D09-18D1E 18D80-18DF2 1E6C0-1E6DE 1E6E0-1E6F5
    1E6FE-1E6FF 2B73A-2B73F 2CEA2-2CEAD 323B0-33479"

/-- Numbers of all kinds. -/
def number : CharSet := Category.number ∪ .ofTable "11DE0-11DE9 16FF4-16FF6"

/-- Characters that have a case. One letter without a case was taken for a small one before. -/
def cased : CharSet := (Property.cased \ .singleton 0x295) ∪ .ofTable "A7CE-A7CF A7D2 A7D4 A7F1 16EA0-16EB8 16EBB-16ED3"

/-- Marks that have been added and extend the character before. -/
private def addedExtend : CharSet := .ofTable
    "1ACF-1ADD 1AE0-1AEB 10EFA-10EFB 11B60 11B62-11B64 11B66 1E6E3 1E6E6 1E6EE-1E6EF 1E6F5"

/-- Characters that do not end a word. -/
def caseIgnorable : CharSet := .unions
  [Property.caseIgnorable, addedExtend, .ofTable "A7F1 10EC5 11DD9 16FF2-16FF3 1E6FF"]

/-- Marks that are drawn as part of the character before. -/
def extendingMark : CharSet := (Property.graphemeExtend ∩ Category.mark) ∪ addedExtend

/-- Code points without a character. -/
def unassigned : CharSet := Category.unassigned \ added

end Delimited.Unicode.Recent
