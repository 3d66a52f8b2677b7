/-!
# The registry of language subtags

A language tag is read against the registry of the subtags it may hold: the
two-letter language codes (with the three-letter codes that stand for them),
the four-letter script codes, the region codes, and the registered variants.
Three-letter language codes are all accepted, since the registry of them is
too large to be worth keeping; two-letter ones must be registered.

Some whole tags predate the subtag grammar; they are looked up first and
replaced by their modern equivalents.
-/

set_option autoImplicit false

namespace Vernacular

namespace Subtags

/-- The two-letter language codes, with the withdrawn codes still accepted. -/
def twoLetterLanguages : List String :=
  ["aa", "ab", "ae", "af", "ak", "am", "an", "ar", "as", "av", "ay", "az", "ba", "be", "bg",
   "bh", "bi", "bm", "bn", "bo", "br", "bs", "ca", "ce", "ch", "co", "cr", "cs", "cu", "cv",
   "cy", "da", "de", "dv", "dz", "ee", "el", "en", "eo", "es", "et", "eu", "fa", "ff", "fi",
   "fj", "fo", "fr", "fy", "ga", "gd", "gl", "gn", "gu", "gv", "ha", "he", "hi", "ho", "hr",
   "ht", "hu", "hy", "hz", "ia", "id", "ie", "ig", "ii", "ik", "in", "io", "is", "it", "iu",
   "iw", "ja", "ji", "jv", "jw", "ka", "kg", "ki", "kj", "kk", "kl", "km", "kn", "ko", "kr",
   "ks", "ku", "kv", "kw", "ky", "la", "lb", "lg", "li", "ln", "lo", "lt", "lu", "lv", "mg",
   "mh", "mi", "mk", "ml", "mn", "mo", "mr", "ms", "mt", "my", "na", "nb", "nd", "ne", "ng",
   "nl", "nn", "no", "nr", "nv", "ny", "oc", "oj", "om", "or", "os", "pa", "pi", "pl", "ps",
   "pt", "qu", "rm", "rn", "ro", "ru", "rw", "sa", "sc", "sd", "se", "sg", "sh", "si", "sk",
   "sl", "sm", "sn", "so", "sq", "sr", "ss", "st", "su", "sv", "sw", "ta", "te", "tg", "th",
   "ti", "tk", "tl", "tn", "to", "tr", "ts", "tt", "tw", "ty", "ug", "uk", "ur", "uz", "ve",
   "vi", "vo", "wa", "wo", "xh", "yi", "yo", "za", "zh", "zu"]

/-- Three-letter language codes that name a language with a two-letter code:
the terminological codes and the bibliographic ones. -/
def threeLetterSynonyms : List (String × String) :=
  [("aar", "aa"), ("abk", "ab"), ("ave", "ae"), ("afr", "af"), ("aka", "ak"), ("amh", "am"),
   ("arg", "an"), ("ara", "ar"), ("asm", "as"), ("ava", "av"), ("aym", "ay"), ("aze", "az"),
   ("bak", "ba"), ("bel", "be"), ("bul", "bg"), ("bih", "bh"), ("bis", "bi"), ("bam", "bm"),
   ("ben", "bn"), ("bod", "bo"), ("tib", "bo"), ("bre", "br"), ("bos", "bs"), ("cat", "ca"),
   ("che", "ce"), ("cha", "ch"), ("cos", "co"), ("cre", "cr"), ("ces", "cs"), ("cze", "cs"),
   ("chu", "cu"), ("chv", "cv"), ("cym", "cy"), ("wel", "cy"), ("dan", "da"), ("deu", "de"),
   ("ger", "de"), ("div", "dv"), ("dzo", "dz"), ("ewe", "ee"), ("ell", "el"), ("gre", "el"),
   ("eng", "en"), ("epo", "eo"), ("spa", "es"), ("est", "et"), ("eus", "eu"), ("baq", "eu"),
   ("fas", "fa"), ("per", "fa"), ("ful", "ff"), ("fin", "fi"), ("fij", "fj"), ("fao", "fo"),
   ("fra", "fr"), ("fre", "fr"), ("fry", "fy"), ("gle", "ga"), ("gla", "gd"), ("glg", "gl"),
   ("grn", "gn"), ("guj", "gu"), ("glv", "gv"), ("hau", "ha"), ("heb", "he"), ("hin", "hi"),
   ("hmo", "ho"), ("hrv", "hr"), ("hat", "ht"), ("hun", "hu"), ("hye", "hy"), ("arm", "hy"),
   ("her", "hz"), ("ina", "ia"), ("ind", "id"), ("ile", "ie"), ("ibo", "ig"), ("iii", "ii"),
   ("ipk", "ik"), ("ido", "io"), ("isl", "is"), ("ice", "is"), ("ita", "it"), ("iku", "iu"),
   ("jpn", "ja"), ("jav", "jv"), ("kat", "ka"), ("geo", "ka"), ("kon", "kg"), ("kik", "ki"),
   ("kua", "kj"), ("kaz", "kk"), ("kal", "kl"), ("khm", "km"), ("kan", "kn"), ("kor", "ko"),
   ("kau", "kr"), ("kas", "ks"), ("kur", "ku"), ("kom", "kv"), ("cor", "kw"), ("kir", "ky"),
   ("lat", "la"), ("ltz", "lb"), ("lug", "lg"), ("lim", "li"), ("lin", "ln"), ("lao", "lo"),
   ("lit", "lt"), ("lub", "lu"), ("lav", "lv"), ("mlg", "mg"), ("mah", "mh"), ("mri", "mi"),
   ("mao", "mi"), ("mkd", "mk"), ("mac", "mk"), ("mal", "ml"), ("mon", "mn"), ("mar", "mr"),
   ("msa", "ms"), ("may", "ms"), ("mlt", "mt"), ("mya", "my"), ("bur", "my"), ("nau", "na"),
   ("nob", "nb"), ("nde", "nd"), ("nep", "ne"), ("ndo", "ng"), ("nld", "nl"), ("dut", "nl"),
   ("nno", "nn"), ("nor", "no"), ("nbl", "nr"), ("nav", "nv"), ("nya", "ny"), ("oci", "oc"),
   ("oji", "oj"), ("orm", "om"), ("ori", "or"), ("oss", "os"), ("pan", "pa"), ("pli", "pi"),
   ("pol", "pl"), ("pus", "ps"), ("por", "pt"), ("que", "qu"), ("roh", "rm"), ("run", "rn"),
   ("ron", "ro"), ("rum", "ro"), ("rus", "ru"), ("kin", "rw"), ("san", "sa"), ("srd", "sc"),
   ("snd", "sd"), ("sme", "se"), ("sag", "sg"), ("sin", "si"), ("slk", "sk"), ("slo", "sk"),
   ("slv", "sl"), ("smo", "sm"), ("sna", "sn"), ("som", "so"), ("sqi", "sq"), ("alb", "sq"),
   ("srp", "sr"), ("ssw", "ss"), ("sot", "st"), ("sun", "su"), ("swe", "sv"), ("swa", "sw"),
   ("tam", "ta"), ("tel", "te"), ("tgk", "tg"), ("tha", "th"), ("tir", "ti"), ("tuk", "tk"),
   ("tgl", "tl"), ("tsn", "tn"), ("ton", "to"), ("tur", "tr"), ("tso", "ts"), ("tat", "tt"),
   ("twi", "tw"), ("tah", "ty"), ("uig", "ug"), ("ukr", "uk"), ("urd", "ur"), ("uzb", "uz"),
   ("ven", "ve"), ("vie", "vi"), ("vol", "vo"), ("wln", "wa"), ("wol", "wo"), ("xho", "xh"),
   ("yid", "yi"), ("yor", "yo"), ("zha", "za"), ("zho", "zh"), ("chi", "zh"), ("zul", "zu")]

/-- Languages whose code was withdrawn, and the code that replaced them. -/
def deprecatedLanguages : List (String × String) :=
  [("in", "id"), ("iw", "he"), ("ji", "yi"), ("jw", "jv"), ("mo", "ro")]

/-- The four-letter script codes. -/
def scripts : List String :=
  ["Adlm", "Afak", "Aghb", "Ahom", "Arab", "Aran", "Armi", "Armn", "Avst", "Bali", "Bamu",
   "Bass", "Batk", "Beng", "Bhks", "Blis", "Bopo", "Brah", "Brai", "Bugi", "Buhd", "Cakm",
   "Cans", "Cari", "Cham", "Cher", "Chrs", "Cirt", "Copt", "Cpmn", "Cprt", "Cyrl", "Cyrs",
   "Deva", "Diak", "Dogr", "Dsrt", "Dupl", "Egyd", "Egyh", "Egyp", "Elba", "Elym", "Ethi",
   "Geok", "Geor", "Glag", "Gong", "Gonm", "Goth", "Gran", "Grek", "Gujr", "Guru", "Hanb",
   "Hang", "Hani", "Hano", "Hans", "Hant", "Hatr", "Hebr", "Hira", "Hluw", "Hmng", "Hmnp",
   "Hrkt", "Hung", "Inds", "Ital", "Jamo", "Java", "Jpan", "Jurc", "Kali", "Kana", "Kawi",
   "Khar", "Khmr", "Khoj", "Kitl", "Kits", "Knda", "Kore", "Kpel", "Kthi", "Lana", "Laoo",
   "Latf", "Latg", "Latn", "Leke", "Lepc", "Limb", "Lina", "Linb", "Lisu", "Loma", "Lyci",
   "Lydi", "Mahj", "Maka", "Mand", "Mani", "Marc", "Maya", "Medf", "Mend", "Merc", "Mero",
   "Mlym", "Modi", "Mong", "Moon", "Mroo", "Mtei", "Mult", "Mymr", "Nagm", "Nand", "Narb",
   "Nbat", "Newa", "Nkdb", "Nkgb", "Nkoo", "Nshu", "Ogam", "Olck", "Orkh", "Orya", "Osge",
   "Osma", "Ougr", "Palm", "Pauc", "Pcun", "Pelm", "Perm", "Phag", "Phli", "Phlp", "Phlv",
   "Phnx", "Piqd", "Plrd", "Prti", "Psin", "Qaaa", "Qaai", "Qabx", "Ranj", "Rjng", "Rohg",
   "Roro", "Runr", "Samr", "Sara", "Sarb", "Saur", "Sgnw", "Shaw", "Shrd", "Shui", "Sidd",
   "Sind", "Sinh", "Sogd", "Sogo", "Sora", "Soyo", "Sund", "Sunu", "Sylo", "Syrc", "Syre",
   "Syrj", "Syrn", "Tagb", "Takr", "Tale", "Talu", "Taml", "Tang", "Tavt", "Telu", "Teng",
   "Tfng", "Tglg", "Thaa", "Thai", "Tibt", "Tirh", "Tnsa", "Toto", "Ugar", "Vaii", "Visp",
   "Vith", "Wara", "Wcho", "Wole", "Xpeo", "Xsux", "Yezi", "Yiii", "Zanb", "Zinh", "Zmth",
   "Zsye", "Zsym", "Zxxx", "Zyyy", "Zzzz"]

/-- Whether a title-cased four-letter code is a script: a registered one or
one of the range kept for private use. -/
def isScript (code : String) : Bool :=
  scripts.contains code ||
    (match code.toList with
     | ['Q', 'a', c, d] => ('a' ≤ c && c ≤ 'b') && ('a' ≤ d && d ≤ 'z') && !(c == 'b' && d > 'x')
     | _ => false)

/-- The two-letter region codes: countries, the reserved codes in use, and
codes since withdrawn. -/
def regions : List String :=
  ["AC", "AD", "AE", "AF", "AG", "AI", "AL", "AM", "AN", "AO", "AQ", "AR", "AS", "AT", "AU",
   "AW", "AX", "AZ", "BA", "BB", "BD", "BE", "BF", "BG", "BH", "BI", "BJ", "BL", "BM", "BN",
   "BO", "BQ", "BR", "BS", "BT", "BU", "BV", "BW", "BY", "BZ", "CA", "CC", "CD", "CF", "CG",
   "CH", "CI", "CK", "CL", "CM", "CN", "CO", "CP", "CR", "CS", "CU", "CV", "CW", "CX", "CY",
   "CZ", "DD", "DE", "DG", "DJ", "DK", "DM", "DO", "DZ", "EA", "EC", "EE", "EG", "EH", "ER",
   "ES", "ET", "EU", "EZ", "FI", "FJ", "FK", "FM", "FO", "FR", "FX", "GA", "GB", "GD", "GE",
   "GF", "GG", "GH", "GI", "GL", "GM", "GN", "GP", "GQ", "GR", "GS", "GT", "GU", "GW", "GY",
   "HK", "HM", "HN", "HR", "HT", "HU", "IC", "ID", "IE", "IL", "IM", "IN", "IO", "IQ", "IR",
   "IS", "IT", "JE", "JM", "JO", "JP", "KE", "KG", "KH", "KI", "KM", "KN", "KP", "KR", "KW",
   "KY", "KZ", "LA", "LB", "LC", "LI", "LK", "LR", "LS", "LT", "LU", "LV", "LY", "MA", "MC",
   "MD", "ME", "MF", "MG", "MH", "MK", "ML", "MM", "MN", "MO", "MP", "MQ", "MR", "MS", "MT",
   "MU", "MV", "MW", "MX", "MY", "MZ", "NA", "NC", "NE", "NF", "NG", "NI", "NL", "NO", "NP",
   "NR", "NT", "NU", "NZ", "OM", "PA", "PE", "PF", "PG", "PH", "PK", "PL", "PM", "PN", "PR",
   "PS", "PT", "PW", "PY", "QA", "RE", "RO", "RS", "RU", "RW", "SA", "SB", "SC", "SD", "SE",
   "SG", "SH", "SI", "SJ", "SK", "SL", "SM", "SN", "SO", "SR", "SS", "ST", "SU", "SV", "SX",
   "SY", "SZ", "TA", "TC", "TD", "TF", "TG", "TH", "TJ", "TK", "TL", "TM", "TN", "TO", "TP",
   "TR", "TT", "TV", "TW", "TZ", "UA", "UG", "UM", "UN", "US", "UY", "UZ", "VA", "VC", "VE",
   "VG", "VI", "VN", "VU", "WF", "WS", "YD", "YE", "YT", "YU", "ZA", "ZM", "ZR", "ZW"]

/-- Whether an upper-cased two-letter code is a region: a listed one or one
of the codes kept for private use (`AA`, `QM` to `QZ`, `XA` to `XZ`, `ZZ`). -/
def isRegion (code : String) : Bool :=
  regions.contains code ||
    (match code.toList with
     | ['A', 'A'] | ['Z', 'Z'] => true
     | ['Q', c] => 'M' ≤ c && c ≤ 'Z'
     | ['X', c] => 'A' ≤ c && c ≤ 'Z'
     | _ => false)

/-- Regions whose code was withdrawn, and the code that replaced them. -/
def deprecatedRegions : List (String × String) :=
  [("BU", "MM"), ("DD", "DE"), ("FX", "FR"), ("TP", "TL"), ("YD", "YE"), ("ZR", "CD")]

/-- The three-digit codes of the world's areas. -/
def areas : List String :=
  ["001", "002", "003", "005", "009", "011", "013", "014", "015", "017", "018", "019", "021",
   "029", "030", "034", "035", "039", "053", "054", "057", "061", "142", "143", "145", "150",
   "151", "154", "155", "202", "419"]

/-- The registered variants, lower-cased. -/
def variants : List String :=
  ["1606nict", "1694acad", "1901", "1959acad", "1994", "1996", "abl1943", "akuapem", "alalc97",
   "aluku", "ao1990", "aranes", "arevela", "arevmda", "arkaika", "asante", "auvern", "baku1926",
   "balanka", "barla", "basiceng", "bauddha", "bciav", "bcizbl", "biscayan", "biske", "bohoric",
   "boont", "bornholm", "cisaup", "colb1945", "cornu", "creiss", "dajnko", "ekavsk", "emodeng",
   "fonipa", "fonkirsh", "fonnapa", "fonupa", "fonxsamp", "gallo", "gascon", "grclass",
   "grital", "grmistr", "hepburn", "heploc", "hognorsk", "hsistemo", "ijekavsk", "itihasa",
   "ivanchov", "jauer", "jyutping", "kkcor", "kociewie", "kscor", "laukika", "lemosin",
   "lengadoc", "lipaw", "ltg1929", "ltg2007", "luna1918", "metelko", "monoton", "ndyuka",
   "nedis", "newfound", "nicard", "njiva", "nulik", "osojs", "oxendict", "pahawh2", "pahawh3",
   "pahawh4", "pamaka", "peano", "petr1708", "pinyin", "polyton", "provenc", "puter", "rigik",
   "rozaj", "rumgr", "scotland", "scouse", "simple", "solba", "sotav", "spanglis", "surmiran",
   "sursilv", "sutsilv", "synnejyl", "tarask", "tongyong", "tunumiit", "uccor", "ucrcor",
   "ulster", "unifon", "vaidika", "valencia", "vallader", "vecdruka", "vivaraup", "wadegile",
   "xsistemo"]

/-- Whole tags from before the subtag grammar, lower-cased with `-`, and the
tags that replace them. -/
def grandfathered : List (String × String) :=
  [("art-lojban", "jbo"), ("i-ami", "ami"), ("i-bnn", "bnn"), ("i-hak", "hak"),
   ("i-klingon", "tlh"), ("i-lux", "lb"), ("i-navajo", "nv"), ("i-pwn", "pwn"),
   ("i-tao", "tao"), ("i-tay", "tay"), ("i-tsu", "tsu"), ("no-bok", "nb"), ("no-nyn", "nn"),
   ("sgn-be-fr", "sfb"), ("sgn-be-nl", "vgt"), ("sgn-ch-de", "sgg"), ("zh-guoyu", "cmn"),
   ("zh-hakka", "hak"), ("zh-min-nan", "nan"), ("zh-xiang", "hsn"),
   ("cel-gaulish", "xtg-x-cel-gaulish"), ("en-gb-oed", "en-GB-oxendict"),
   ("i-default", "en-x-i-default"), ("i-enochian", "und-x-i-enochian"),
   ("i-mingo", "see-x-i-mingo"), ("zh-min", "nan-x-zh-min"), ("root", "und"),
   ("en-us-posix", "en-US-u-va-posix")]

end Subtags

end Vernacular
