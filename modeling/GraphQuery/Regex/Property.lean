namespace GraphQuery

namespace Regex

namespace Property

/-- The general categories, with all their short and long names. -/
def generalCategories : List String :=
  ["any", "ascii", "assigned", "c", "casedletter", "cc", "cf", "closepunctuation", "cn", "cntrl",
   "co", "combiningmark", "connectorpunctuation", "control", "currencysymbol", "dashpunctuation",
   "decimalnumber", "digit", "enclosingmark", "finalpunctuation", "format", "initialpunctuation",
   "l", "lc", "letter", "letternumber", "lineseparator", "ll", "lm", "lo", "lowercaseletter",
   "lt", "lu", "m", "mark", "mathsymbol", "mc", "me", "mn", "modifierletter", "modifiersymbol",
   "n", "nd", "nl", "no", "nonspacingmark", "number", "openpunctuation", "other", "otherletter",
   "othernumber", "otherpunctuation", "othersymbol", "p", "paragraphseparator", "pc", "pd", "pe",
   "pf", "pi", "po", "privateuse", "ps", "punct", "punctuation", "s", "sc", "separator", "sk",
   "sm", "so", "spaceseparator", "spacingmark", "symbol", "titlecaseletter", "unassigned",
   "uppercaseletter", "z", "zl", "zp", "zs"]

/-- The scripts, with all their short and long names. -/
def scripts : List String :=
  ["adlam", "adlm", "aghb", "ahom", "anatolianhieroglyphs", "arab", "arabic", "armenian", "armi",
   "armn", "avestan", "avst", "bali", "balinese", "bamu", "bamum", "bass", "bassavah", "batak",
   "batk", "beng", "bengali", "bhaiksuki", "bhks", "bopo", "bopomofo", "brah", "brahmi", "brai",
   "braille", "bugi", "buginese", "buhd", "buhid", "cakm", "canadianaboriginal", "cans", "cari",
   "carian", "caucasianalbanian", "chakma", "cham", "cher", "cherokee", "chorasmian", "chrs",
   "common", "copt", "coptic", "cpmn", "cprt", "cuneiform", "cypriot", "cyprominoan", "cyrillic",
   "cyrl", "deseret", "deva", "devanagari", "diak", "divesakuru", "dogr", "dogra", "dsrt", "dupl",
   "duployan", "egyp", "egyptianhieroglyphs", "elba", "elbasan", "elym", "elymaic", "ethi",
   "ethiopic", "gara", "garay", "geor", "georgian", "glag", "glagolitic", "gong", "gonm", "goth",
   "gothic", "gran", "grantha", "greek", "grek", "gujarati", "gujr", "gukh", "gunjalagondi",
   "gurmukhi", "guru", "gurungkhema", "han", "hang", "hangul", "hani", "hanifirohingya", "hano",
   "hanunoo", "hatr", "hatran", "hebr", "hebrew", "hira", "hiragana", "hluw", "hmng", "hmnp",
   "hung", "imperialaramaic", "inherited", "inscriptionalpahlavi", "inscriptionalparthian",
   "ital", "java", "javanese", "kaithi", "kali", "kana", "kannada", "katakana", "kawi", "kayahli",
   "khar", "kharoshthi", "khitansmallscript", "khmer", "khmr", "khoj", "khojki", "khudawadi",
   "kiratrai", "kits", "knda", "krai", "kthi", "lana", "lao", "laoo", "latin", "latn", "lepc",
   "lepcha", "limb", "limbu", "lina", "linb", "lineara", "linearb", "lisu", "lyci", "lycian",
   "lydi", "lydian", "mahajani", "mahj", "maka", "makasar", "malayalam", "mand", "mandaic",
   "mani", "manichaean", "marc", "marchen", "masaramgondi", "medefaidrin", "medf", "meeteimayek",
   "mend", "mendekikakui", "merc", "mero", "meroiticcursive", "meroitichieroglyphs", "miao",
   "mlym", "modi", "mong", "mongolian", "mro", "mroo", "mtei", "mult", "multani", "myanmar",
   "mymr", "nabataean", "nagm", "nagmundari", "nand", "nandinagari", "narb", "nbat", "newa",
   "newtailue", "nko", "nkoo", "nshu", "nushu", "nyiakengpuachuehmong", "ogam", "ogham",
   "olchiki", "olck", "oldhungarian", "olditalic", "oldnortharabian", "oldpermic", "oldpersian",
   "oldsogdian", "oldsoutharabian", "oldturkic", "olduyghur", "olonal", "onao", "oriya", "orkh",
   "orya", "osage", "osge", "osma", "osmanya", "ougr", "pahawhhmong", "palm", "palmyrene", "pauc",
   "paucinhau", "perm", "phag", "phagspa", "phli", "phlp", "phnx", "phoenician", "plrd", "prti",
   "psalterpahlavi", "qaac", "qaai", "rejang", "rjng", "rohg", "runic", "runr", "samaritan",
   "samr", "sarb", "saur", "saurashtra", "sgnw", "sharada", "shavian", "shaw", "shrd", "sidd",
   "siddham", "signwriting", "sind", "sinh", "sinhala", "sogd", "sogdian", "sogo", "sora",
   "sorasompeng", "soyo", "soyombo", "sund", "sundanese", "sunu", "sunuwar", "sylo",
   "sylotinagri", "syrc", "syriac", "tagalog", "tagb", "tagbanwa", "taile", "taitham", "taiviet",
   "takr", "takri", "tale", "talu", "tamil", "taml", "tang", "tangsa", "tangut", "tavt", "telu",
   "telugu", "tfng", "tglg", "thaa", "thaana", "thai", "tibetan", "tibt", "tifinagh", "tirh",
   "tirhuta", "tnsa", "todhri", "todr", "toto", "tulutigalari", "tutg", "ugar", "ugaritic", "vai",
   "vaii", "vith", "vithkuqi", "wancho", "wara", "warangciti", "wcho", "xpeo", "xsux", "yezi",
   "yezidi", "yi", "yiii", "zanabazarsquare", "zanb", "zinh", "zyyy"]

/-- The properties that a character has or lacks, with all their short and long names. -/
def binaryProperties : List String :=
  ["ahex", "alpha", "alphabetic", "asciihexdigit", "bidic", "bidicontrol", "bidim",
   "bidimirrored", "cased", "caseignorable", "changeswhencasefolded", "changeswhencasemapped",
   "changeswhenlowercased", "changeswhentitlecased", "changeswhenuppercased", "ci", "cwcf",
   "cwcm", "cwl", "cwt", "cwu", "dash", "defaultignorablecodepoint", "dep", "deprecated", "di",
   "dia", "diacritic", "ebase", "ecomp", "emod", "emoji", "emojicomponent", "emojimodifier",
   "emojimodifierbase", "emojipresentation", "epres", "ext", "extendedpictographic", "extender",
   "extpict", "graphemebase", "graphemeextend", "graphemelink", "grbase", "grext", "grlink",
   "hex", "hexdigit", "hyphen", "idc", "idcompatmathcontinue", "idcompatmathstart", "idcontinue",
   "ideo", "ideographic", "ids", "idsb", "idsbinaryoperator", "idst", "idstart",
   "idstrinaryoperator", "idsu", "idsunaryoperator", "joinc", "joincontrol", "loe",
   "logicalorderexception", "lower", "lowercase", "math", "mcm", "modifiercombiningmark", "nchar",
   "noncharactercodepoint", "oalpha", "odi", "ogrext", "oidc", "oids", "olower", "omath",
   "otheralphabetic", "otherdefaultignorablecodepoint", "othergraphemeextend", "otheridcontinue",
   "otheridstart", "otherlowercase", "othermath", "otheruppercase", "oupper", "patsyn",
   "patternsyntax", "patternwhitespace", "patws", "pcm", "prependedconcatenationmark", "qmark",
   "quotationmark", "radical", "regionalindicator", "ri", "sd", "sentenceterminal", "softdotted",
   "space", "sterm", "term", "terminalpunctuation", "uideo", "unifiedideograph", "upper",
   "uppercase", "variationselector", "vs", "whitespace", "wspace", "xidc", "xidcontinue", "xids",
   "xidstart"]

/-- The versions of the standard, as ages of characters. -/
def ages : List String :=
  ["1.1", "10.0", "11.0", "12.0", "12.1", "13.0", "14.0", "15.0", "15.1", "16.0", "2.0", "2.1",
   "3.0", "3.1", "3.2", "4.0", "4.1", "5.0", "5.1", "5.2", "6.0", "6.1", "6.2", "6.3", "7.0",
   "8.0", "9.0", "v100", "v11", "v110", "v120", "v121", "v130", "v140", "v150", "v151", "v160",
   "v20", "v21", "v30", "v31", "v32", "v40", "v41", "v50", "v51", "v52", "v60", "v61", "v62",
   "v63", "v70", "v80", "v90"]

/-- The classes of the boundaries between grapheme clusters. -/
def graphemeBreaks : List String :=
  ["cn", "control", "cr", "ex", "extend", "l", "lf", "lv", "lvt", "pp", "prepend", "ri",
   "regionalindicator", "sm", "spacingmark", "t", "v", "zwj"]

/-- The classes of the boundaries between words. -/
def wordBreaks : List String :=
  ["aletter", "cr", "dq", "doublequote", "ex", "extend", "extendnumlet", "fo", "format",
   "hebrewletter", "hl", "ka", "katakana", "le", "lf", "mb", "midletter", "midnum", "midnumlet",
   "ml", "mn", "newline", "nl", "nu", "numeric", "regionalindicator", "ri", "singlequote", "sq",
   "wsegspace", "zwj"]

/-- The classes of the boundaries between sentences. -/
def sentenceBreaks : List String :=
  ["at", "aterm", "cl", "close", "cr", "ex", "extend", "fo", "format", "le", "lf", "lo", "lower",
   "nu", "numeric", "oletter", "sc", "scontinue", "se", "sep", "sp", "st", "sterm", "up", "upper"]

/-- A name without case, spaces, hyphens, underscores, characters beyond ASCII and an `is` in front.
    An `isc` that has lost its front is given it back, because it is a name of its own. -/
def normalize (name : List Char) : String :=
  let (hasIs, rest) := match name with
    | first :: second :: rest =>
      if first.toLower = 'i' ∧ second.toLower = 's' then (true, rest) else (false, name)
    | _ => (false, name)
  let kept := (rest.filter fun c => c.toNat < 0x80 && c != ' ' && c != '_' && c != '-').map
    Char.toLower
  if hasIs && kept = ['c'] then "isc" else String.ofList kept

/-- Whether a name alone selects a class of characters. -/
def isNamed (name : List Char) : Bool :=
  let name := normalize name
  binaryProperties.contains name || generalCategories.contains name || scripts.contains name

/-- Whether a property has a value by which it selects a class of characters. -/
def isValued (property value : List Char) : Bool :=
  let value := normalize value
  match normalize property with
  | "gc" | "generalcategory" => generalCategories.contains value
  | "sc" | "script" | "scx" | "scriptextensions" => scripts.contains value
  | "age" => ages.contains value
  | "gcb" | "graphemeclusterbreak" => graphemeBreaks.contains value
  | "wb" | "wordbreak" => wordBreaks.contains value
  | "sb" | "sentencebreak" => sentenceBreaks.contains value
  | _ => false

/-- The texts before and after the first occurrence of a separator. -/
def splitAt? (separator : List Char) : List Char → Option (List Char × List Char)
  | [] => none
  | c :: rest =>
    if separator.isPrefixOf (c :: rest) then some ([], (c :: rest).drop separator.length)
    else (splitAt? separator rest).map fun (before, after) => (c :: before, after)

/-- The property and the value that the text between the braces of a property class names, if there
    are two. The separators are tried in a fixed order. -/
def split? (text : List Char) : Option (List Char × List Char) :=
  splitAt? ['!', '='] text <|> splitAt? [':'] text <|> splitAt? ['='] text

/-- Whether the text between the braces of a property class is one of a known property. -/
def isKnown (text : List Char) : Bool :=
  match split? text with
  | some (property, value) => isValued property value
  | none => isNamed text

/-- The only character of a class: the separator of lines or of paragraphs, each of which makes up a
    category, or the character of a boundary that has no others. A value that a property must not
    have selects more. -/
def only? (text : List Char) : Option Char :=
  if (splitAt? ['!', '='] text).isSome then none
  else
    match normalize ((split? text).elim text Prod.snd) with
    | "zl" | "lineseparator" => some '\u2028'
    | "zp" | "paragraphseparator" => some '\u2029'
    | "cr" => some '\r'
    | "lf" => some '\n'
    | "dq" | "doublequote" => some '"'
    | "sq" | "singlequote" => some '\''
    | "zwj" => some '\u200d'
    | _ => none

end Property

end Regex

end GraphQuery
