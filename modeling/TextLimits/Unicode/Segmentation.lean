import TextLimits.Unicode.Named

/-! # Classes of characters for segmentation

Three ways to sort characters decide where a text can be divided: into what a reader takes for single
characters, into words, and into sentences.  The classes of each are listed in an order, and a
character is in the first one that takes it (`classSet?`). -/

namespace TextLimits.Unicode

/-- The characters of a general category. -/
def category (name : String) : CharSet := (category? name).getD CharSet.empty

/-- The characters that have a property. -/
def property (name : String) : CharSet := (property? name).getD CharSet.empty

/-- The characters of a script. -/
def script (name : String) : CharSet := (script? name).getD CharSet.empty

/-- The members of all of some sets. -/
def unions (sets : List CharSet) : CharSet := CharSet.ofRanges (sets.flatMap CharSet.ranges)

/-- The set of a class: what it takes and no class before it does. -/
def classSet? (classes : List (String × CharSet)) (name : String) : Option CharSet :=
  match classes with
  | [] => none
  | (first, set) :: rest =>
    if first = name then some set else (classSet? rest name).map fun s => s.diff set

/-! ### Sets shared by the classes -/

/-- Signs written before the number or syllable that they belong to. -/
def prepended : CharSet := .ofTable
  "600-605 6DD 70F 890-891 8E2 D4E 110BD 110CD 111C2-111C3 113D1 1193F 11941 11A3A 11A84-11A89
    11D46 11F02"

/-- Signs among these that go before numbers. -/
def numberSigns : CharSet := (prepended.inter (category "cf")).diff (CharSet.range 0x70F 0x70F)

/-- What cannot be seen and is not part of a number. -/
def formats : CharSet := (category "cf").diff numberSigns

/-- Marks that go with the character before them, also where they take up room. -/
def marks : CharSet := (property "graphemeextend").union (category "mc")

/-- Digits and decimal separators between them. -/
def numerals : CharSet := unions [category "nd", CharSet.range 0x66B 0x66B, numberSigns]

/-! ### Characters as a reader sees them -/

/-- Marks that take up room but do not go with the character before them. -/
def looseMarks : CharSet := .ofTable
  "102B-102C 1038 1062-1064 1067-106D 1083 1087-108C 108F 109A-109C 1A61 1A63-1A64 AA7B AA7D
    11720-11721"

/-- The first syllable of each block of those that differ in the final consonant only. -/
def openSyllables : CharSet :=
  CharSet.ofRanges ((List.range 399).map fun k => (0xAC00 + 28 * k, 0xAC00 + 28 * k))

/-- Classes that decide about single characters. -/
def graphemeClasses : List (String × CharSet) := [
  ("cr", .ofTable "D"), ("lf", .ofTable "A"), ("zwj", .ofTable "200D"),
  ("extend", (property "graphemeextend").union (property "emojimodifier")),
  ("prepend", prepended),
  ("control", unions [category "zl", category "zp", category "cc", category "cf",
    (category "cn").inter (property "defaultignorablecodepoint")]),
  ("regionalindicator", property "regionalindicator"),
  ("l", .ofTable "1100-115F A960-A97C"),
  ("v", .ofTable "1160-11A7 D7B0-D7C6 16D63 16D67-16D6A"),
  ("t", .ofTable "11A8-11FF D7CB-D7FB"),
  ("lv", openSyllables), ("lvt", .ofTable "AC00-D7A3"),
  ("spacingmark", ((category "mc").diff looseMarks).union (.ofTable "E33 EB3"))]

/-! ### Words -/

/-- Letters of scripts in which words are not set apart. -/
def runningLetters : CharSet := .ofTable
  "E01-E30 E32-E33 E40-E46 E81-E82 E84 E86-E8A E8C-EA3 EA5 EA7-EB0 EB2-EB3 EBD EC0-EC4 EC6
    EDC-EDF 1000-102A 103F 1050-1055 105A-105D 1061 1065-1066 106E-1070 1075-1081 108E 1780-17B3
    17D7 17DC 1950-196D 1970-1974 1980-19AB 19B0-19C9 1A20-1A54 1AA7 A9E0-A9E4 A9E6-A9EF A9FA-A9FE
    AA60-AA76 AA7A AA7E-AAAF AAB1 AAB5-AAB6 AAB9-AABD AAC0 AAC2 AADB-AADD 11700-1171A 11740-11746"

/-- Signs that are parts of words without being letters. -/
def letterSigns : CharSet := .ofTable
  "2C2-2C5 2D2-2D7 2DE-2DF 2E5-2EB 2ED 2EF-2FF 55A-55C 55E 58A 5F3 70F A708-A716 A720-A721
    A789-A78A AB5B"

/-- The letters of which a word consists, in most scripts. -/
def wordLetters : CharSet :=
  (alphabetic.union letterSigns).diff (unions [property "ideographic", runningLetters,
    script "hiragana"])

/-- Classes that decide about words. -/
def wordClasses : List (String × CharSet) := [
  ("cr", .ofTable "D"), ("lf", .ofTable "A"), ("zwj", .ofTable "200D"),
  ("newline", .ofTable "B-C 85 2028-2029"),
  ("extend", marks.union (property "emojimodifier")),
  ("regionalindicator", property "regionalindicator"),
  ("format", formats.diff (.ofTable "70F 200B-200C")),
  ("katakana", (script "katakana").union (.ofTable "3031-3035 309B-309C 30A0 30FC FF70")),
  ("hebrewletter", (script "hebrew").inter (category "lo")),
  ("aletter", wordLetters),
  ("singlequote", .ofTable "27"), ("doublequote", .ofTable "22"),
  ("midnumlet", .ofTable "2E 2018-2019 2024 FE52 FF07 FF0E"),
  ("midletter", .ofTable "3A B7 387 55F 5F4 2027 FE13 FE55 FF1A"),
  ("midnum", .ofTable "2C 3B 37E 589 60C-60D 66C 7F8 2044 FE10 FE14 FE50 FE54 FF0C FF1B"),
  ("numeric", numerals),
  ("extendnumlet", (category "pc").union (.ofTable "202F")),
  ("wsegspace", (category "zs").diff (.ofTable "A0 2007 202F"))]

/-! ### Sentences -/

/-- Georgian letters in either case do not tell where a sentence begins. -/
def caselessLetters : CharSet := .ofTable "10D0-10FA 10FD-10FF 1C90-1CBA 1CBD-1CBF"

/-- Quotation marks that neither open nor close by themselves. -/
def plainQuotes : CharSet := .ofTable "22 27 275B-2760 2E00-2E01 2E06-2E08 2E0B 1F676-1F678"

/-- Classes that decide about sentences. -/
def sentenceClasses : List (String × CharSet) := [
  ("cr", .ofTable "D"), ("lf", .ofTable "A"),
  ("extend", marks.union (.ofTable "200D")),
  ("sep", .ofTable "85 2028-2029"),
  ("format", formats.diff (.ofTable "200C")),
  ("sp", property "whitespace"),
  ("lower", (property "lowercase").diff caselessLetters),
  ("upper", ((category "lt").union (property "uppercase")).diff caselessLetters),
  ("oletter", alphabetic.union (.ofTable "5F3")),
  ("numeric", numerals.union (.ofTable "66C")),
  ("aterm", .ofTable "2E 2024 FE52 FF0E"),
  ("scontinue", .ofTable
    "2C-2D 3A 3B 37E 55D 60C-60D 7F8 1802 1808 2013-2014 3001 FE10-FE11 FE13-FE14 FE31-FE32
      FE50-FE51 FE54-FE55 FE58 FE63 FF0C-FF0D FF1A-FF1B FF64"),
  ("sterm", property "sentenceterminal"),
  ("close", (unions [category "ps", category "pe", category "pi", category "pf",
    plainQuotes]).diff (.ofTable "5F3"))]

end TextLimits.Unicode
