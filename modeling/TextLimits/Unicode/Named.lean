import TextLimits.Unicode.CharSet
import TextLimits.Unicode.GeneralCategory
import TextLimits.Unicode.Script
import TextLimits.Unicode.ScriptExtension
import TextLimits.Unicode.BinaryProperty

/-! # Sets of characters by name

A property, a general category or a script is found under its long name or an alias.  Case, blanks,
hyphens, low lines and a leading `is` make no difference in a name (`normalise`). -/

namespace TextLimits.Unicode

/-- A property name in the one form that the tables use. -/
def normalise (name : String) : String :=
  let letters := name.toList.map Char.toLower
  let stripped :=
    match letters with
    | 'i' :: 's' :: rest => rest
    | _ => letters
  let kept := stripped.filter fun c => c.toNat ≤ 0x7F && c ≠ ' ' && c ≠ '_' && c ≠ '-'
  if letters.length ≠ stripped.length ∧ kept = ['c'] then "isc" else String.ofList kept

/-- Short names of scripts. -/
def scriptAliases : List (String × String) := [
  ("adlm", "adlam"), ("aghb", "caucasianalbanian"), ("arab", "arabic"),
  ("armi", "imperialaramaic"), ("armn", "armenian"), ("avst", "avestan"), ("bali", "balinese"),
  ("bamu", "bamum"), ("bass", "bassavah"), ("batk", "batak"), ("beng", "bengali"),
  ("berf", "beriaerfe"), ("bhks", "bhaiksuki"), ("bopo", "bopomofo"), ("brah", "brahmi"),
  ("brai", "braille"), ("bugi", "buginese"), ("buhd", "buhid"), ("cakm", "chakma"),
  ("cans", "canadianaboriginal"), ("cari", "carian"), ("cher", "cherokee"),
  ("chrs", "chorasmian"), ("copt", "coptic"), ("cpmn", "cyprominoan"), ("cprt", "cypriot"),
  ("cyrl", "cyrillic"), ("deva", "devanagari"), ("diak", "divesakuru"), ("dogr", "dogra"),
  ("dsrt", "deseret"), ("dupl", "duployan"), ("egyp", "egyptianhieroglyphs"), ("elba", "elbasan"),
  ("elym", "elymaic"), ("ethi", "ethiopic"), ("gara", "garay"), ("geor", "georgian"),
  ("glag", "glagolitic"), ("gong", "gunjalagondi"), ("gonm", "masaramgondi"), ("goth", "gothic"),
  ("gran", "grantha"), ("grek", "greek"), ("gujr", "gujarati"), ("gukh", "gurungkhema"),
  ("guru", "gurmukhi"), ("hang", "hangul"), ("hani", "han"), ("hano", "hanunoo"),
  ("hatr", "hatran"), ("hebr", "hebrew"), ("hira", "hiragana"), ("hluw", "anatolianhieroglyphs"),
  ("hmng", "pahawhhmong"), ("hmnp", "nyiakengpuachuehmong"), ("hung", "oldhungarian"),
  ("ital", "olditalic"), ("java", "javanese"), ("kali", "kayahli"), ("kana", "katakana"),
  ("khar", "kharoshthi"), ("khmr", "khmer"), ("khoj", "khojki"), ("kits", "khitansmallscript"),
  ("knda", "kannada"), ("krai", "kiratrai"), ("kthi", "kaithi"), ("lana", "taitham"),
  ("laoo", "lao"), ("latn", "latin"), ("lepc", "lepcha"), ("limb", "limbu"), ("lina", "lineara"),
  ("linb", "linearb"), ("lyci", "lycian"), ("lydi", "lydian"), ("mahj", "mahajani"),
  ("maka", "makasar"), ("mand", "mandaic"), ("mani", "manichaean"), ("marc", "marchen"),
  ("medf", "medefaidrin"), ("mend", "mendekikakui"), ("merc", "meroiticcursive"),
  ("mero", "meroitichieroglyphs"), ("mlym", "malayalam"), ("mong", "mongolian"), ("mroo", "mro"),
  ("mtei", "meeteimayek"), ("mult", "multani"), ("mymr", "myanmar"), ("nagm", "nagmundari"),
  ("nand", "nandinagari"), ("narb", "oldnortharabian"), ("nbat", "nabataean"), ("nkoo", "nko"),
  ("nshu", "nushu"), ("ogam", "ogham"), ("olck", "olchiki"), ("onao", "olonal"),
  ("orkh", "oldturkic"), ("orya", "oriya"), ("osge", "osage"), ("osma", "osmanya"),
  ("ougr", "olduyghur"), ("palm", "palmyrene"), ("pauc", "paucinhau"), ("perm", "oldpermic"),
  ("phag", "phagspa"), ("phli", "inscriptionalpahlavi"), ("phlp", "psalterpahlavi"),
  ("phnx", "phoenician"), ("plrd", "miao"), ("prti", "inscriptionalparthian"), ("qaac", "coptic"),
  ("qaai", "inherited"), ("rjng", "rejang"), ("rohg", "hanifirohingya"), ("runr", "runic"),
  ("samr", "samaritan"), ("sarb", "oldsoutharabian"), ("saur", "saurashtra"),
  ("sgnw", "signwriting"), ("shaw", "shavian"), ("shrd", "sharada"), ("sidd", "siddham"),
  ("sidt", "sidetic"), ("sind", "khudawadi"), ("sinh", "sinhala"), ("sogd", "sogdian"),
  ("sogo", "oldsogdian"), ("sora", "sorasompeng"), ("soyo", "soyombo"), ("sund", "sundanese"),
  ("sunu", "sunuwar"), ("sylo", "sylotinagri"), ("syrc", "syriac"), ("tagb", "tagbanwa"),
  ("takr", "takri"), ("tale", "taile"), ("talu", "newtailue"), ("taml", "tamil"),
  ("tang", "tangut"), ("tavt", "taiviet"), ("tayo", "taiyo"), ("telu", "telugu"),
  ("tfng", "tifinagh"), ("tglg", "tagalog"), ("thaa", "thaana"), ("tibt", "tibetan"),
  ("tirh", "tirhuta"), ("tnsa", "tangsa"), ("todr", "todhri"), ("tols", "tolongsiki"),
  ("tutg", "tulutigalari"), ("ugar", "ugaritic"), ("vaii", "vai"), ("vith", "vithkuqi"),
  ("wara", "warangciti"), ("wcho", "wancho"), ("xpeo", "oldpersian"), ("xsux", "cuneiform"),
  ("yezi", "yezidi"), ("yiii", "yi"), ("zanb", "zanabazarsquare"), ("zinh", "inherited"),
  ("zyyy", "common")]

/-- Short names of properties. -/
def propertyAliases : List (String × String) := [
  ("ahex", "asciihexdigit"), ("alpha", "alphabetic"), ("bidic", "bidicontrol"),
  ("bidim", "bidimirrored"), ("ci", "caseignorable"), ("cwcf", "changeswhencasefolded"),
  ("cwcm", "changeswhencasemapped"), ("cwl", "changeswhenlowercased"),
  ("cwt", "changeswhentitlecased"), ("cwu", "changeswhenuppercased"),
  ("di", "defaultignorablecodepoint"), ("dep", "deprecated"), ("dia", "diacritic"),
  ("ecomp", "emojicomponent"), ("emod", "emojimodifier"), ("ebase", "emojimodifierbase"),
  ("epres", "emojipresentation"), ("extpict", "extendedpictographic"), ("ext", "extender"),
  ("grbase", "graphemebase"), ("grext", "graphemeextend"), ("hex", "hexdigit"),
  ("idsb", "idsbinaryoperator"), ("idst", "idstrinaryoperator"), ("idsu", "idsunaryoperator"),
  ("idc", "idcontinue"), ("ids", "idstart"), ("ideo", "ideographic"), ("joinc", "joincontrol"),
  ("loe", "logicalorderexception"), ("lower", "lowercase"), ("nchar", "noncharactercodepoint"),
  ("patsyn", "patternsyntax"), ("patws", "patternwhitespace"),
  ("pcm", "prependedconcatenationmark"), ("qmark", "quotationmark"), ("ri", "regionalindicator"),
  ("sterm", "sentenceterminal"), ("sd", "softdotted"), ("term", "terminalpunctuation"),
  ("uideo", "unifiedideograph"), ("upper", "uppercase"), ("vs", "variationselector"),
  ("wspace", "whitespace"), ("space", "whitespace"), ("xidc", "xidcontinue"),
  ("xids", "xidstart")]

/-- Long names of general categories, and the groups of categories, as their two letters. -/
def categoryGroups : List (List String × List String) := [
  (["l", "letter"], ["lu", "ll", "lt", "lm", "lo"]),
  (["lc", "casedletter"], ["lu", "ll", "lt"]),
  (["lu", "uppercaseletter"], ["lu"]), (["ll", "lowercaseletter"], ["ll"]),
  (["lt", "titlecaseletter"], ["lt"]), (["lm", "modifierletter"], ["lm"]),
  (["lo", "otherletter"], ["lo"]),
  (["m", "mark", "combiningmark"], ["mn", "mc", "me"]),
  (["mn", "nonspacingmark"], ["mn"]), (["mc", "spacingmark"], ["mc"]),
  (["me", "enclosingmark"], ["me"]),
  (["n", "number"], ["nd", "nl", "no"]),
  (["nd", "decimalnumber", "digit"], ["nd"]), (["nl", "letternumber"], ["nl"]),
  (["no", "othernumber"], ["no"]),
  (["p", "punctuation", "punct"], ["pc", "pd", "ps", "pe", "pi", "pf", "po"]),
  (["pc", "connectorpunctuation"], ["pc"]), (["pd", "dashpunctuation"], ["pd"]),
  (["ps", "openpunctuation"], ["ps"]), (["pe", "closepunctuation"], ["pe"]),
  (["pi", "initialpunctuation"], ["pi"]), (["pf", "finalpunctuation"], ["pf"]),
  (["po", "otherpunctuation"], ["po"]),
  (["s", "symbol"], ["sm", "sc", "sk", "so"]),
  (["sm", "mathsymbol"], ["sm"]), (["sc", "currencysymbol"], ["sc"]),
  (["sk", "modifiersymbol"], ["sk"]), (["so", "othersymbol"], ["so"]),
  (["z", "separator"], ["zs", "zl", "zp"]),
  (["zs", "spaceseparator"], ["zs"]), (["zl", "lineseparator"], ["zl"]),
  (["zp", "paragraphseparator"], ["zp"]),
  (["c", "other"], ["cc", "cf", "co", "cn"]),
  (["cc", "control", "cntrl"], ["cc"]), (["cf", "format"], ["cf"]),
  (["co", "privateuse"], ["co"]), (["cn", "unassigned"], ["cn"])]

/-- The set under a name in a table. -/
def lookup (table : List (String × String)) (name : String) : Option CharSet :=
  (table.lookup name).map CharSet.ofTable

/-- The characters of a general category or of a group of them, by normalised name. -/
def category? (name : String) : Option CharSet :=
  if name = "any" then some CharSet.all
  else if name = "ascii" then some (CharSet.range 0 0x7F)
  else if name = "assigned" then (lookup categoryRanges "cn").map CharSet.compl
  else
    (categoryGroups.find? fun g => g.1.contains name).map fun g =>
      CharSet.ofRanges (g.2.flatMap fun short =>
        ((lookup categoryRanges short).getD CharSet.empty).ranges)

/-- The long name of a script. -/
def scriptName (name : String) : String := (scriptAliases.lookup name).getD name

/-- The characters of a script, by normalised name. -/
def script? (name : String) : Option CharSet := lookup scriptRanges (scriptName name)

/-- The characters used with a script, by normalised name. -/
def scriptExtension? (name : String) : Option CharSet :=
  match lookup scriptExtensionRanges (scriptName name) with
  | some s => some s
  | none => script? name

/-- The characters that have a property, by normalised name. -/
def property? (name : String) : Option CharSet :=
  lookup propertyRanges ((propertyAliases.lookup name).getD name)

/-- The set that a single name stands for: a property, else a general category, else a script.
Three short names of categories are taken by other things, and mean the category. -/
def named? (name : String) : Option CharSet :=
  let name := normalise name
  let direct := if name = "cf" ∨ name = "sc" ∨ name = "lc" then none else property? name
  direct.orElse fun _ => (category? name).orElse fun _ => script? name

/-! ### Sets used by name -/

/-- Decimal digits. -/
def digits : CharSet := (category? "nd").getD CharSet.empty

/-- Blanks. -/
def blanks : CharSet := (property? "whitespace").getD CharSet.empty

/-- Letters in the widest sense. -/
def alphabetic : CharSet := (property? "alphabetic").getD CharSet.empty

/-- Letters and numbers. -/
def alphanumeric : CharSet := alphabetic.union ((category? "n").getD CharSet.empty)

/-- Characters that words are made of. -/
def wordChars : CharSet :=
  CharSet.ofRanges (alphabetic.ranges ++ digits.ranges ++
    ((category? "m").getD CharSet.empty).ranges ++ ((category? "pc").getD CharSet.empty).ranges ++
    ((property? "joincontrol").getD CharSet.empty).ranges)

end TextLimits.Unicode
