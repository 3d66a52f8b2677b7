/-!
# The number data of the locales

Each locale with data of its own says how it writes numbers: the numbering
system it uses by default when that is not the Latin digits, the symbols of
that system, its symbols for Latin digits, and the shape of a decimal number.
What a locale does not say it inherits from its parent locale, up to the root
locale. A locale with no numbering system of its own uses Latin digits, even
when its parent uses other digits: `ar` writes Arabic-Indic digits, `ar-EG`
Latin ones.

Besides the locales there are languages that have a place among them but no
data of their own, such as `no`; they take the root locale's symbols. The
likely script of each language, and of some languages in some regions, tells
which locales stand above which: `sr-Latn` is not below `sr`, whose script is
Cyrillic.
-/

set_option autoImplicit false

namespace Vernacular

/-- The symbols a locale writes numbers with: the decimal and group
separators, the minus sign, and the texts for a value that is not a number and
for infinity. -/
structure NumberSymbols where
  decimal : String
  group : String
  minus : String
  nan : String
  infinity : String
deriving Inhabited, Repr, BEq

/-- The shape of a decimal number: the size of the group of whole digits
nearest the point (zero for no grouping), the size of the groups before it,
and the most fraction digits shown. -/
structure DecimalPattern where
  primary : Nat
  secondary : Nat
  maxFraction : Nat
deriving Inhabited, Repr, BEq

namespace DecimalPattern

/-- Groups of three and up to three fraction digits: `#,##0.###`. -/
def standard : DecimalPattern := ⟨3, 3, 3⟩

/-- A group of three and then groups of two, as in India: `#,##,##0.###`. -/
def indian : DecimalPattern := ⟨3, 2, 3⟩

/-- No grouping and up to six fraction digits: `0.######`. -/
def ungrouped : DecimalPattern := ⟨0, 0, 6⟩

end DecimalPattern

/-- What one locale's own data says about numbers: its tag, its default
numbering system when that is not the Latin digits, with the symbols of that
system, its own symbols for Latin digits, and its own decimal pattern. -/
structure LocaleNumbers where
  tag : String
  system : Option String
  native : Option NumberSymbols
  symbols : Option NumberSymbols
  pattern : Option DecimalPattern
deriving Inhabited, Repr

namespace NumberData

/-- The numbering systems with ten digits, each with the code point of its zero;
the other digits follow the zero. -/
def numberingSystems : List (String × Nat) :=
  [("latn", 0x30), ("adlm", 0x1E950), ("ahom", 0x11730), ("arab", 0x660), ("arabext", 0x6F0),
   ("bali", 0x1B50), ("beng", 0x9E6), ("bhks", 0x11C50), ("brah", 0x11066), ("cakm", 0x11136),
   ("cham", 0xAA50), ("deva", 0x966), ("fullwide", 0xFF10), ("gonm", 0x11D50), ("gujr", 0xAE6),
   ("guru", 0xA66), ("hanidec", 0x3007), ("hmng", 0x16B50), ("java", 0xA9D0), ("kali", 0xA900),
   ("khmr", 0x17E0), ("knda", 0xCE6), ("lana", 0x1A80), ("lanatham", 0x1A90), ("laoo", 0xED0),
   ("lepc", 0x1C40), ("limb", 0x1946), ("mathbold", 0x1D7CE), ("mathdbl", 0x1D7D8),
   ("mathmono", 0x1D7F6), ("mathsanb", 0x1D7EC), ("mathsans", 0x1D7E2), ("mlym", 0xD66),
   ("modi", 0x11650), ("mong", 0x1810), ("mroo", 0x16A60), ("mtei", 0xABF0), ("mymr", 0x1040),
   ("mymrshan", 0x1090), ("mymrtlng", 0xA9F0), ("newa", 0x11450), ("nkoo", 0x7C0),
   ("olck", 0x1C50), ("orya", 0xB66), ("osma", 0x104A0), ("saur", 0xA8D0), ("shrd", 0x111D0),
   ("sind", 0x112F0), ("sinh", 0xDE6), ("sora", 0x110F0), ("sund", 0x1BB0), ("takr", 0x116C0),
   ("talu", 0x19D0), ("tamldec", 0xBE6), ("telu", 0xC66), ("thai", 0xE50), ("tibt", 0xF20),
   ("tirh", 0x114D0), ("vaii", 0xA620), ("wara", 0x118E0)]

/-- The tags of the locales with data, the root locale aside. -/
def localeTags : List String :=
  ((
  "af af-NA af-ZA agq agq-CM ak ak-GH am am-ET ar ar-001 ar-AE ar-BH ar-DJ ar-DZ ar-EG " ++
  "ar-EH ar-ER ar-IL ar-IQ ar-JO ar-KM ar-KW ar-LB ar-LY ar-MA ar-MR ar-OM ar-PS ar-QA " ++
  "ar-SA ar-SD ar-SO ar-SS ar-SY ar-TD ar-TN ar-YE as as-IN asa asa-TZ ast ast-ES az " ++
  "az-Cyrl az-Cyrl-AZ az-Latn az-Latn-AZ bas bas-CM be be-BY bem bem-ZM bez bez-TZ bg " ++
  "bg-BG bm bm-ML bn bn-BD bn-IN bo bo-CN bo-IN br br-FR brx brx-IN bs bs-Cyrl " ++
  "bs-Cyrl-BA bs-Latn bs-Latn-BA ca ca-AD ca-ES ca-FR ca-IT ccp ccp-BD ccp-IN ce ce-RU " ++
  "cgg cgg-UG chr chr-US ckb ckb-IQ ckb-IR cs cs-CZ cu cu-RU cy cy-GB da da-DK da-GL " ++
  "dav dav-KE de de-AT de-BE de-CH de-DE de-IT de-LI de-LU dje dje-NE dsb dsb-DE dua " ++
  "dua-CM dyo dyo-SN dz dz-BT ebu ebu-KE ee ee-GH ee-TG el el-CY el-GR en en-001 " ++
  "en-150 en-AG en-AI en-AS en-AT en-AU en-BB en-BE en-BI en-BM en-BS en-BW en-BZ " ++
  "en-CA en-CC en-CH en-CK en-CM en-CX en-CY en-DE en-DG en-DK en-DM en-ER en-FI en-FJ " ++
  "en-FK en-FM en-GB en-GD en-GG en-GH en-GI en-GM en-GU en-GY en-HK en-IE en-IL en-IM " ++
  "en-IN en-IO en-JE en-JM en-KE en-KI en-KN en-KY en-LC en-LR en-LS en-MG en-MH en-MO " ++
  "en-MP en-MS en-MT en-MU en-MW en-MY en-NA en-NF en-NG en-NL en-NR en-NU en-NZ en-PG " ++
  "en-PH en-PK en-PN en-PR en-PW en-RW en-SB en-SC en-SD en-SE en-SG en-SH en-SI en-SL " ++
  "en-SS en-SX en-SZ en-TC en-TK en-TO en-TT en-TV en-TZ en-UG en-UM en-US en-VC en-VG " ++
  "en-VI en-VU en-WS en-ZA en-ZM en-ZW eo eo-001 es es-419 es-AR es-BO es-BR es-BZ " ++
  "es-CL es-CO es-CR es-CU es-DO es-EA es-EC es-ES es-GQ es-GT es-HN es-IC es-MX es-NI " ++
  "es-PA es-PE es-PH es-PR es-PY es-SV es-US es-UY es-VE et et-EE eu eu-ES ewo ewo-CM " ++
  "fa fa-AF fa-IR ff ff-CM ff-GN ff-MR ff-SN fi fi-FI fil fil-PH fo fo-DK fo-FO fr " ++
  "fr-BE fr-BF fr-BI fr-BJ fr-BL fr-CA fr-CD fr-CF fr-CG fr-CH fr-CI fr-CM fr-DJ fr-DZ " ++
  "fr-FR fr-GA fr-GF fr-GN fr-GP fr-GQ fr-HT fr-KM fr-LU fr-MA fr-MC fr-MF fr-MG fr-ML " ++
  "fr-MQ fr-MR fr-MU fr-NC fr-NE fr-PF fr-PM fr-RE fr-RW fr-SC fr-SN fr-SY fr-TD fr-TG " ++
  "fr-TN fr-VU fr-WF fr-YT fur fur-IT fy fy-NL ga ga-IE gd gd-GB gl gl-ES gsw gsw-CH " ++
  "gsw-FR gsw-LI gu gu-IN guz guz-KE gv gv-IM ha ha-GH ha-NE ha-NG haw haw-US he he-IL " ++
  "hi hi-IN hr hr-BA hr-HR hsb hsb-DE hu hu-HU hy hy-AM id id-ID ig ig-NG ii ii-CN is " ++
  "is-IS it it-CH it-IT it-SM it-VA ja ja-JP jgo jgo-CM jmc jmc-TZ ka ka-GE kab kab-DZ " ++
  "kam kam-KE kde kde-TZ kea kea-CV khq khq-ML ki ki-KE kk kk-KZ kkj kkj-CM kl kl-GL " ++
  "kln kln-KE km km-KH kn kn-IN ko ko-KP ko-KR kok kok-IN ks ks-IN ksb ksb-TZ ksf " ++
  "ksf-CM ksh ksh-DE kw kw-GB ky ky-KG lag lag-TZ lb lb-LU lg lg-UG lkt lkt-US ln " ++
  "ln-AO ln-CD ln-CF ln-CG lo lo-LA lrc lrc-IQ lrc-IR lt lt-LT lu lu-CD luo luo-KE luy " ++
  "luy-KE lv lv-LV mas mas-KE mas-TZ mer mer-KE mfe mfe-MU mg mg-MG mgh mgh-MZ mgo " ++
  "mgo-CM mk mk-MK ml ml-IN mn mn-MN mr mr-IN ms ms-BN ms-MY ms-SG mt mt-MT mua mua-CM " ++
  "my my-MM mzn mzn-IR naq naq-NA nb nb-NO nb-SJ nd nd-ZW nds nds-DE nds-NL ne ne-IN " ++
  "ne-NP nl nl-AW nl-BE nl-BQ nl-CW nl-NL nl-SR nl-SX nmg nmg-CM nn nn-NO nnh nnh-CM " ++
  "nus nus-SS nyn nyn-UG om om-ET om-KE or or-IN os os-GE os-RU pa pa-Arab pa-Arab-PK " ++
  "pa-Guru pa-Guru-IN pl pl-PL prg prg-001 ps ps-AF pt pt-AO pt-BR pt-CH pt-CV pt-GQ " ++
  "pt-GW pt-LU pt-MO pt-MZ pt-PT pt-ST pt-TL qu qu-BO qu-EC qu-PE rm rm-CH rn rn-BI ro " ++
  "ro-MD ro-RO rof rof-TZ ru ru-BY ru-KG ru-KZ ru-MD ru-RU ru-UA rw rw-RW rwk rwk-TZ " ++
  "sah sah-RU saq saq-KE sbp sbp-TZ sd se se-FI se-NO se-SE seh seh-MZ ses ses-ML sg " ++
  "sg-CF shi shi-Latn shi-Latn-MA shi-Tfng shi-Tfng-MA si si-LK sk sk-SK sl sl-SI smn " ++
  "smn-FI sn sn-ZW so so-DJ so-ET so-KE so-SO sq sq-AL sq-MK sq-XK sr sr-Cyrl " ++
  "sr-Cyrl-BA sr-Cyrl-ME sr-Cyrl-RS sr-Cyrl-XK sr-Latn sr-Latn-BA sr-Latn-ME " ++
  "sr-Latn-RS sr-Latn-XK sv sv-AX sv-FI sv-SE sw sw-CD sw-KE sw-TZ sw-UG ta ta-IN " ++
  "ta-LK ta-MY ta-SG te te-IN teo teo-KE teo-UG tg tg-TJ th th-TH ti ti-ER ti-ET tk " ++
  "tk-TM to to-TO tr tr-CY tr-TR tt tt-RU twq twq-NE tzm tzm-MA ug ug-CN uk uk-UA ur " ++
  "ur-IN ur-PK uz uz-Arab uz-Arab-AF uz-Cyrl uz-Cyrl-UZ uz-Latn uz-Latn-UZ vai " ++
  "vai-Latn vai-Latn-LR vai-Vaii vai-Vaii-LR vi vi-VN vo vo-001 vun vun-TZ wae wae-CH " ++
  "wo wo-SN xog xog-UG yav yav-CM yi yi-001 yo yo-BJ yo-NG yue yue-Hans yue-Hans-CN " ++
  "yue-Hant yue-Hant-HK zgh zgh-MA zh zh-Hans zh-Hans-CN zh-Hans-HK zh-Hans-MO " ++
  "zh-Hans-SG zh-Hant zh-Hant-HK zh-Hant-MO zh-Hant-TW zu zu-ZA ").splitOn " ").filter (· != "")

/-- Languages that have a place among the locales but no data of their own. -/
def datalessTags : List String :=
  ["bh", "guw", "in", "io", "iu", "iw", "jbo", "ji", "jv", "jw", "kaj", "kcg", "ku", "mo",
   "nah", "no", "nqo", "nr", "nso", "ny", "pap", "sdh", "sh", "sma", "smi", "smj", "sms", "ss",
   "ssy", "st", "syr", "tig", "tl", "tn", "ts", "ve", "wa", "xh", "ars", "dv", "ia"]

/-- The tag of Valencian Catalan, a locale named by a variant. -/
def valencianTag : String := "ca-ES-valencia"

/-- The tag of the POSIX locale of American English. -/
def posixTag : String := "en-US-u-va-posix"

/-- The likely script of each language. -/
def likelyScripts : List (String × String) :=
  [("af", "Latn"), ("agq", "Latn"), ("ak", "Latn"), ("am", "Ethi"), ("an", "Latn"),
   ("ar", "Arab"), ("ars", "Arab"), ("as", "Beng"), ("asa", "Latn"), ("ast", "Latn"),
   ("az", "Latn"), ("bas", "Latn"), ("be", "Cyrl"), ("bem", "Latn"), ("bez", "Latn"),
   ("bg", "Cyrl"), ("bh", "Deva"), ("bm", "Latn"), ("bn", "Beng"), ("bo", "Tibt"),
   ("br", "Latn"), ("brx", "Deva"), ("bs", "Latn"), ("ca", "Latn"), ("ccp", "Cakm"),
   ("ce", "Cyrl"), ("cgg", "Latn"), ("chr", "Cher"), ("ckb", "Arab"), ("cs", "Latn"),
   ("cu", "Cyrl"), ("cy", "Latn"), ("da", "Latn"), ("dav", "Latn"), ("de", "Latn"),
   ("dje", "Latn"), ("dsb", "Latn"), ("dua", "Latn"), ("dv", "Thaa"), ("dyo", "Latn"),
   ("dz", "Tibt"), ("ebu", "Latn"), ("ee", "Latn"), ("el", "Grek"), ("en", "Latn"),
   ("eo", "Latn"), ("es", "Latn"), ("et", "Latn"), ("eu", "Latn"), ("ewo", "Latn"),
   ("fa", "Arab"), ("ff", "Latn"), ("fi", "Latn"), ("fil", "Latn"), ("fo", "Latn"),
   ("fr", "Latn"), ("fur", "Latn"), ("fy", "Latn"), ("ga", "Latn"), ("gd", "Latn"),
   ("gl", "Latn"), ("gsw", "Latn"), ("gu", "Gujr"), ("guw", "Latn"), ("guz", "Latn"),
   ("gv", "Latn"), ("ha", "Latn"), ("haw", "Latn"), ("he", "Hebr"), ("hi", "Deva"),
   ("hr", "Latn"), ("hsb", "Latn"), ("hu", "Latn"), ("hy", "Armn"), ("ia", "Latn"),
   ("id", "Latn"), ("ig", "Latn"), ("ii", "Yiii"), ("in", "Latn"), ("io", "Latn"),
   ("is", "Latn"), ("it", "Latn"), ("iu", "Cans"), ("iw", "Hebr"), ("ja", "Jpan"),
   ("jbo", "Latn"), ("jgo", "Latn"), ("ji", "Hebr"), ("jmc", "Latn"), ("jv", "Latn"),
   ("jw", "Latn"), ("ka", "Geor"), ("kab", "Latn"), ("kaj", "Latn"), ("kam", "Latn"),
   ("kcg", "Latn"), ("kde", "Latn"), ("kea", "Latn"), ("khq", "Latn"), ("ki", "Latn"),
   ("kk", "Cyrl"), ("kkj", "Latn"), ("kl", "Latn"), ("kln", "Latn"), ("km", "Khmr"),
   ("kn", "Knda"), ("ko", "Kore"), ("kok", "Deva"), ("ks", "Arab"), ("ksb", "Latn"),
   ("ksf", "Latn"), ("ksh", "Latn"), ("ku", "Latn"), ("kw", "Latn"), ("ky", "Cyrl"),
   ("lag", "Latn"), ("lb", "Latn"), ("lg", "Latn"), ("lkt", "Latn"), ("ln", "Latn"),
   ("lo", "Laoo"), ("lrc", "Arab"), ("lt", "Latn"), ("lu", "Latn"), ("luo", "Latn"),
   ("luy", "Latn"), ("lv", "Latn"), ("mas", "Latn"), ("mer", "Latn"), ("mfe", "Latn"),
   ("mg", "Latn"), ("mgh", "Latn"), ("mgo", "Latn"), ("mk", "Cyrl"), ("ml", "Mlym"),
   ("mn", "Cyrl"), ("mo", "Latn"), ("mr", "Deva"), ("ms", "Latn"), ("mt", "Latn"),
   ("mua", "Latn"), ("my", "Mymr"), ("mzn", "Arab"), ("naq", "Latn"), ("nb", "Latn"),
   ("nd", "Latn"), ("nds", "Latn"), ("ne", "Deva"), ("nl", "Latn"), ("nmg", "Latn"),
   ("nn", "Latn"), ("nnh", "Latn"), ("no", "Latn"), ("nqo", "Nkoo"), ("nr", "Latn"),
   ("nso", "Latn"), ("nus", "Latn"), ("ny", "Latn"), ("nyn", "Latn"), ("om", "Latn"),
   ("or", "Orya"), ("os", "Cyrl"), ("pa", "Guru"), ("pap", "Latn"), ("pl", "Latn"),
   ("prg", "Latn"), ("ps", "Arab"), ("pt", "Latn"), ("qu", "Latn"), ("rm", "Latn"),
   ("rn", "Latn"), ("ro", "Latn"), ("rof", "Latn"), ("ru", "Cyrl"), ("rw", "Latn"),
   ("rwk", "Latn"), ("sah", "Cyrl"), ("saq", "Latn"), ("sbp", "Latn"), ("sc", "Latn"),
   ("scn", "Latn"), ("sd", "Arab"), ("sdh", "Arab"), ("se", "Latn"), ("seh", "Latn"),
   ("ses", "Latn"), ("sg", "Latn"), ("sh", "Latn"), ("shi", "Tfng"), ("si", "Sinh"),
   ("sk", "Latn"), ("sl", "Latn"), ("sma", "Latn"), ("smj", "Latn"), ("smn", "Latn"),
   ("sms", "Latn"), ("sn", "Latn"), ("so", "Latn"), ("sq", "Latn"), ("sr", "Cyrl"),
   ("ss", "Latn"), ("ssy", "Latn"), ("st", "Latn"), ("sv", "Latn"), ("sw", "Latn"),
   ("syr", "Syrc"), ("ta", "Taml"), ("te", "Telu"), ("teo", "Latn"), ("tg", "Cyrl"),
   ("th", "Thai"), ("ti", "Ethi"), ("tig", "Ethi"), ("tk", "Latn"), ("tl", "Latn"),
   ("tn", "Latn"), ("to", "Latn"), ("tr", "Latn"), ("ts", "Latn"), ("tt", "Cyrl"),
   ("twq", "Latn"), ("tzm", "Latn"), ("ug", "Arab"), ("uk", "Cyrl"), ("ur", "Arab"),
   ("uz", "Latn"), ("vai", "Vaii"), ("ve", "Latn"), ("vi", "Latn"), ("vo", "Latn"),
   ("vun", "Latn"), ("wa", "Latn"), ("wae", "Latn"), ("wo", "Latn"), ("xh", "Latn"),
   ("xog", "Latn"), ("yav", "Latn"), ("yi", "Hebr"), ("yo", "Latn"), ("yue", "Hant"),
   ("zgh", "Tfng"), ("zh", "Hans"), ("zu", "Latn")]

/-- Languages whose likely script in a region differs from their usual one. -/
def regionalScripts : List (String × String) :=
  [("az-IQ", "Arab"), ("az-IR", "Arab"), ("az-RU", "Cyrl"), ("pa-PK", "Arab"),
   ("sr-ME", "Latn"), ("sr-RO", "Latn"), ("sr-TR", "Latn"), ("uz-AF", "Arab"),
   ("uz-CN", "Cyrl"), ("yue-CN", "Hans"), ("zh-AU", "Hant"), ("zh-BN", "Hant"),
   ("zh-GB", "Hant"), ("zh-GF", "Hant"), ("zh-HK", "Hant"), ("zh-ID", "Hant"),
   ("zh-MO", "Hant"), ("zh-PA", "Hant"), ("zh-PF", "Hant"), ("zh-PH", "Hant"),
   ("zh-SR", "Hant"), ("zh-TH", "Hant"), ("zh-TW", "Hant"), ("zh-US", "Hant"),
   ("zh-VN", "Hant"), ("ha-CM", "Arab"), ("ha-SD", "Arab"), ("ms-CC", "Arab")]

/-- Regions whose locales of English, Spanish, Portuguese and Chinese stand
below a regional locale rather than below the language: each rule gives the
language, its script, the regions and the locale above them. -/
def regionParents : List (String × String × List String × String) :=
  [("en", "Latn", ["150", "AG", "AI", "AU", "BB", "BE", "BM", "BS", "BW", "BZ", "CA", "CC", "CK",
     "CM", "CX", "CY", "DG", "DM", "ER", "FJ", "FK", "FM", "GB", "GD", "GG", "GH", "GI", "GM",
     "GY", "HK", "IE", "IL", "IM", "IN", "IO", "JE", "JM", "KE", "KI", "KN", "KY", "LC", "LR",
     "LS", "MG", "MO", "MS", "MT", "MU", "MW", "MY", "NA", "NF", "NG", "NR", "NU", "NZ", "PG",
     "PH", "PK", "PN", "PW", "RW", "SB", "SC", "SD", "SG", "SH", "SL", "SS", "SX", "SZ", "TC",
     "TK", "TO", "TT", "TV", "TZ", "UG", "VC", "VG", "VU", "WS", "ZA", "ZM", "ZW"], "en-001"),
   ("en", "Latn", ["AT", "CH", "DE", "DK", "FI", "NL", "SE", "SI"], "en-150"),
   ("es", "Latn", ["AR", "BO", "BR", "BZ", "CL", "CO", "CR", "CU", "DO", "EC", "GT", "HN", "MX",
     "NI", "PA", "PE", "PR", "PY", "SV", "US", "UY", "VE"], "es-419"),
   ("pt", "Latn", ["AO", "CH", "CV", "GQ", "GW", "LU", "MO", "MZ", "ST", "TL"], "pt-PT"),
   ("zh", "Hant", ["MO"], "zh-Hant-HK")]

/-- The root locale's symbols for the numbering systems it describes, the
Latin digits first. -/
def rootSymbols : List (String × NumberSymbols) :=
  [("latn", ⟨".", ",", "-", "NaN", "∞"⟩),
   ("arab", ⟨"٫", "٬", "\u061C-", "NaN", "∞"⟩),
   ("arabext", ⟨"٫", "٬", "\u200E-\u200E", "NaN", "∞"⟩)]

/-- The POSIX locale's symbols. -/
def posixSymbols : NumberSymbols := ⟨".", ",", "-", "NaN", "INF"⟩

/-- The number data of the locales that have some of their own. -/
def locales : List LocaleNumbers :=
  [⟨posixTag, none, none, some posixSymbols, some DecimalPattern.ungrouped⟩,
  ⟨"af", none, none, some ⟨",", "\u00A0", "-", "NaN", "∞"⟩, none⟩,
  ⟨"agq", none, none, some ⟨",", "\u00A0", "-", "NaN", "∞"⟩, none⟩,
  ⟨"am", none, none, some ⟨".", ",", "-", "በቁጥር\u00A0ሊገለጽ\u00A0የማይችል", "∞"⟩, none⟩,
  ⟨"ar", some "arab", some ⟨"٫", "٬", "\u061C-", "ليس\u00A0رقمًا", "∞"⟩, some ⟨".", ",", "\u200E-", "ليس\u00A0رقمًا", "∞"⟩, none⟩,
  ⟨"ar-DZ", none, none, some ⟨",", ".", "\u200E-", "ليس\u00A0رقمًا", "∞"⟩, none⟩,
  ⟨"ar-LB", none, none, some ⟨",", ".", "\u200E-", "ليس\u00A0رقمًا", "∞"⟩, none⟩,
  ⟨"ar-LY", none, none, some ⟨",", ".", "\u200E-", "ليس\u00A0رقمًا", "∞"⟩, none⟩,
  ⟨"ar-MA", none, none, some ⟨",", ".", "\u200E-", "ليس\u00A0رقمًا", "∞"⟩, none⟩,
  ⟨"ar-MR", none, none, some ⟨",", ".", "\u200E-", "ليس\u00A0رقمًا", "∞"⟩, none⟩,
  ⟨"ar-TN", none, none, some ⟨",", ".", "\u200E-", "ليس\u00A0رقمًا", "∞"⟩, none⟩,
  ⟨"as", some "beng", some ⟨".", ",", "-", "NaN", "∞"⟩, none, some DecimalPattern.indian⟩,
  ⟨"ast", none, none, some ⟨",", ".", "-", "ND", "∞"⟩, none⟩,
  ⟨"az", none, none, some ⟨",", ".", "-", "NaN", "∞"⟩, none⟩,
  ⟨"az-Cyrl", none, none, some ⟨",", ".", "-", "NaN", "∞"⟩, none⟩,
  ⟨"bas", none, none, some ⟨",", "\u00A0", "-", "NaN", "∞"⟩, none⟩,
  ⟨"be", none, none, some ⟨",", "\u00A0", "-", "NaN", "∞"⟩, none⟩,
  ⟨"bg", none, none, some ⟨",", "\u00A0", "-", "NaN", "∞"⟩, none⟩,
  ⟨"bn", some "beng", some ⟨".", ",", "-", "NaN", "∞"⟩, none, some DecimalPattern.indian⟩,
  ⟨"br", none, none, some ⟨",", "\u00A0", "-", "NaN", "∞"⟩, none⟩,
  ⟨"brx", none, none, none, some DecimalPattern.indian⟩,
  ⟨"bs", none, none, some ⟨",", ".", "-", "NaN", "∞"⟩, none⟩,
  ⟨"bs-Cyrl", none, none, some ⟨",", ".", "-", "NaN", "∞"⟩, none⟩,
  ⟨"ca", none, none, some ⟨",", ".", "-", "NaN", "∞"⟩, none⟩,
  ⟨"ccp", some "cakm", some ⟨".", ",", "-", "NaN", "∞"⟩, none, some DecimalPattern.indian⟩,
  ⟨"ce", none, none, some ⟨".", ",", "-", "Терхьаш\u00A0дац", "∞"⟩, none⟩,
  ⟨"ckb", some "arab", some ⟨"٫", "٬", "\u200F-", "NaN", "∞"⟩, none, none⟩,
  ⟨"cs", none, none, some ⟨",", "\u00A0", "-", "NaN", "∞"⟩, none⟩,
  ⟨"da", none, none, some ⟨",", ".", "-", "NaN", "∞"⟩, none⟩,
  ⟨"de", none, none, some ⟨",", ".", "-", "NaN", "∞"⟩, none⟩,
  ⟨"de-AT", none, none, some ⟨",", "\u00A0", "-", "NaN", "∞"⟩, none⟩,
  ⟨"de-CH", none, none, some ⟨".", "’", "-", "NaN", "∞"⟩, none⟩,
  ⟨"de-LI", none, none, some ⟨".", "’", "-", "NaN", "∞"⟩, none⟩,
  ⟨"dje", none, none, some ⟨".", "\u00A0", "-", "NaN", "∞"⟩, none⟩,
  ⟨"dsb", none, none, some ⟨",", ".", "-", "NaN", "∞"⟩, none⟩,
  ⟨"dua", none, none, some ⟨",", "\u00A0", "-", "NaN", "∞"⟩, none⟩,
  ⟨"dyo", none, none, some ⟨",", "\u00A0", "-", "NaN", "∞"⟩, none⟩,
  ⟨"dz", some "tibt", some ⟨".", ",", "-", "ཨང་མད", "གྲངས་མེད"⟩, none, some DecimalPattern.indian⟩,
  ⟨"ee", none, none, some ⟨".", ",", "-", "mnn", "∞"⟩, none⟩,
  ⟨"el", none, none, some ⟨",", ".", "-", "NaN", "∞"⟩, none⟩,
  ⟨"en-150", none, none, some ⟨",", ".", "-", "NaN", "∞"⟩, none⟩,
  ⟨"en-BE", none, none, some ⟨",", ".", "-", "NaN", "∞"⟩, none⟩,
  ⟨"en-CH", none, none, some ⟨".", "’", "-", "NaN", "∞"⟩, none⟩,
  ⟨"en-FI", none, none, some ⟨",", "\u00A0", "-", "NaN", "∞"⟩, none⟩,
  ⟨"en-IN", none, none, none, some DecimalPattern.indian⟩,
  ⟨"en-SE", none, none, some ⟨",", "\u00A0", "-", "NaN", "∞"⟩, none⟩,
  ⟨"en-ZA", none, none, some ⟨",", "\u00A0", "-", "NaN", "∞"⟩, none⟩,
  ⟨"eo", none, none, some ⟨",", "\u00A0", "−", "NaN", "∞"⟩, none⟩,
  ⟨"es", none, none, some ⟨",", ".", "-", "NaN", "∞"⟩, none⟩,
  ⟨"es-419", none, none, some ⟨".", ",", "-", "NaN", "∞"⟩, none⟩,
  ⟨"es-AR", none, none, some ⟨",", ".", "-", "NaN", "∞"⟩, none⟩,
  ⟨"es-BO", none, none, some ⟨",", ".", "-", "NaN", "∞"⟩, none⟩,
  ⟨"es-CL", none, none, some ⟨",", ".", "-", "NaN", "∞"⟩, none⟩,
  ⟨"es-CO", none, none, some ⟨",", ".", "-", "NaN", "∞"⟩, none⟩,
  ⟨"es-CR", none, none, some ⟨",", "\u00A0", "-", "NaN", "∞"⟩, none⟩,
  ⟨"es-EC", none, none, some ⟨",", ".", "-", "NaN", "∞"⟩, none⟩,
  ⟨"es-PY", none, none, some ⟨",", ".", "-", "NaN", "∞"⟩, none⟩,
  ⟨"es-UY", none, none, some ⟨",", ".", "-", "NaN", "∞"⟩, none⟩,
  ⟨"es-VE", none, none, some ⟨",", ".", "-", "NaN", "∞"⟩, none⟩,
  ⟨"et", none, none, some ⟨",", "\u00A0", "−", "NaN", "∞"⟩, none⟩,
  ⟨"eu", none, none, some ⟨",", ".", "−", "NaN", "∞"⟩, none⟩,
  ⟨"ewo", none, none, some ⟨",", "\u00A0", "-", "NaN", "∞"⟩, none⟩,
  ⟨"fa", some "arabext", some ⟨"٫", "٬", "\u200E−", "ناعدد", "∞"⟩, some ⟨".", ",", "\u200E−", "ناعدد", "∞"⟩, none⟩,
  ⟨"ff", none, none, some ⟨",", "\u00A0", "-", "NaN", "∞"⟩, none⟩,
  ⟨"fi", none, none, some ⟨",", "\u00A0", "−", "epäluku", "∞"⟩, none⟩,
  ⟨"fo", none, none, some ⟨",", ".", "−", "NaN", "∞"⟩, none⟩,
  ⟨"fr", none, none, some ⟨",", "\u00A0", "-", "NaN", "∞"⟩, none⟩,
  ⟨"fr-LU", none, none, some ⟨",", ".", "-", "NaN", "∞"⟩, none⟩,
  ⟨"fr-MA", none, none, some ⟨",", ".", "-", "NaN", "∞"⟩, none⟩,
  ⟨"fur", none, none, some ⟨",", ".", "-", "NaN", "∞"⟩, none⟩,
  ⟨"fy", none, none, some ⟨",", ".", "-", "NaN", "∞"⟩, none⟩,
  ⟨"ga", none, none, some ⟨".", ",", "-", "Nuimh", "∞"⟩, none⟩,
  ⟨"gl", none, none, some ⟨",", ".", "-", "NaN", "∞"⟩, none⟩,
  ⟨"gsw", none, none, some ⟨".", "’", "−", "NaN", "∞"⟩, none⟩,
  ⟨"gu", none, none, none, some DecimalPattern.indian⟩,
  ⟨"he", none, none, some ⟨".", ",", "\u200E-", "NaN", "∞"⟩, none⟩,
  ⟨"hi", none, none, none, some DecimalPattern.indian⟩,
  ⟨"hr", none, none, some ⟨",", ".", "-", "NaN", "∞"⟩, none⟩,
  ⟨"hsb", none, none, some ⟨",", ".", "-", "NaN", "∞"⟩, none⟩,
  ⟨"hu", none, none, some ⟨",", "\u00A0", "-", "NaN", "∞"⟩, none⟩,
  ⟨"hy", none, none, some ⟨",", "\u00A0", "-", "ՈչԹ", "∞"⟩, none⟩,
  ⟨"id", none, none, some ⟨",", ".", "-", "NaN", "∞"⟩, none⟩,
  ⟨"is", none, none, some ⟨",", ".", "-", "NaN", "∞"⟩, none⟩,
  ⟨"it", none, none, some ⟨",", ".", "-", "NaN", "∞"⟩, none⟩,
  ⟨"it-CH", none, none, some ⟨".", "’", "-", "NaN", "∞"⟩, none⟩,
  ⟨"jgo", none, none, some ⟨",", ".", "-", "NaN", "∞"⟩, none⟩,
  ⟨"ka", none, none, some ⟨",", "\u00A0", "-", "არ\u00A0არის\u00A0რიცხვი", "∞"⟩, none⟩,
  ⟨"kab", none, none, some ⟨",", "\u00A0", "-", "NaN", "∞"⟩, none⟩,
  ⟨"kea", none, none, some ⟨",", "\u00A0", "-", "NaN", "∞"⟩, none⟩,
  ⟨"khq", none, none, some ⟨".", "\u00A0", "-", "NaN", "∞"⟩, none⟩,
  ⟨"kk", none, none, some ⟨",", "\u00A0", "-", "сан\u00A0емес", "∞"⟩, none⟩,
  ⟨"kkj", none, none, some ⟨",", ".", "-", "NaN", "∞"⟩, none⟩,
  ⟨"kl", none, none, some ⟨",", ".", "−", "¤¤¤", "∞"⟩, none⟩,
  ⟨"kok", none, none, none, some DecimalPattern.indian⟩,
  ⟨"ks", some "arabext", some ⟨"٫", "٬", "\u200E-\u200E", "NaN", "∞"⟩, some ⟨".", "،", "-", "NaN", "∞"⟩, some DecimalPattern.indian⟩,
  ⟨"ksf", none, none, some ⟨",", "\u00A0", "-", "NaN", "∞"⟩, none⟩,
  ⟨"ksh", none, none, some ⟨",", "\u00A0", "−", "NaN", "∞"⟩, none⟩,
  ⟨"ky", none, none, some ⟨",", "\u00A0", "-", "сан\u00A0эмес", "∞"⟩, none⟩,
  ⟨"lb", none, none, some ⟨",", ".", "-", "NaN", "∞"⟩, none⟩,
  ⟨"ln", none, none, some ⟨",", ".", "-", "NaN", "∞"⟩, none⟩,
  ⟨"lo", none, none, some ⟨",", ".", "-", "ບໍ່\u200Bແມ່ນ\u200Bໂຕ\u200Bເລກ", "∞"⟩, none⟩,
  ⟨"lrc", some "arabext", some ⟨"٫", "٬", "\u200E-\u200E", "NaN", "∞"⟩, none, none⟩,
  ⟨"lt", none, none, some ⟨",", "\u00A0", "−", "NaN", "∞"⟩, none⟩,
  ⟨"lu", none, none, some ⟨",", ".", "-", "NaN", "∞"⟩, none⟩,
  ⟨"lv", none, none, some ⟨",", "\u00A0", "-", "NS", "∞"⟩, none⟩,
  ⟨"mfe", none, none, some ⟨".", "\u00A0", "-", "NaN", "∞"⟩, none⟩,
  ⟨"mgh", none, none, some ⟨",", ".", "-", "NaN", "∞"⟩, none⟩,
  ⟨"mk", none, none, some ⟨",", ".", "-", "NaN", "∞"⟩, none⟩,
  ⟨"ml", none, none, none, some DecimalPattern.indian⟩,
  ⟨"mr", some "deva", some ⟨".", ",", "-", "NaN", "∞"⟩, none, some DecimalPattern.indian⟩,
  ⟨"ms-BN", none, none, some ⟨",", ".", "-", "NaN", "∞"⟩, none⟩,
  ⟨"mua", none, none, some ⟨",", ".", "-", "NaN", "∞"⟩, none⟩,
  ⟨"my", some "mymr", some ⟨".", ",", "-", "ဂဏန်းမဟုတ်သော", "∞"⟩, some ⟨".", ",", "-", "ဂဏန်းမဟုတ်သော", "∞"⟩, none⟩,
  ⟨"mzn", some "arabext", some ⟨"٫", "٬", "\u200E-\u200E", "NaN", "∞"⟩, none, none⟩,
  ⟨"nb", none, none, some ⟨",", "\u00A0", "−", "NaN", "∞"⟩, none⟩,
  ⟨"nds", none, none, some ⟨",", ".", "-", "NaN", "∞"⟩, none⟩,
  ⟨"ne", some "deva", some ⟨".", ",", "-", "NaN", "∞"⟩, none, none⟩,
  ⟨"nl", none, none, some ⟨",", ".", "-", "NaN", "∞"⟩, none⟩,
  ⟨"nmg", none, none, some ⟨",", "\u00A0", "-", "NaN", "∞"⟩, none⟩,
  ⟨"nn", none, none, some ⟨",", "\u00A0", "−", "NaN", "∞"⟩, none⟩,
  ⟨"nnh", none, none, some ⟨",", ".", "-", "NaN", "∞"⟩, none⟩,
  ⟨"or", none, none, none, some DecimalPattern.indian⟩,
  ⟨"os", none, none, some ⟨",", "\u00A0", "-", "НН", "∞"⟩, none⟩,
  ⟨"pa", none, none, none, some DecimalPattern.indian⟩,
  ⟨"pa-Arab", some "arabext", some ⟨"٫", "٬", "\u200E-\u200E", "NaN", "∞"⟩, some ⟨".", ",", "\u200E-", "NaN", "∞"⟩, none⟩,
  ⟨"pl", none, none, some ⟨",", "\u00A0", "-", "NaN", "∞"⟩, none⟩,
  ⟨"prg", none, none, some ⟨",", "\u00A0", "-", "NaN", "∞"⟩, none⟩,
  ⟨"ps", some "arabext", some ⟨"٫", "٬", "\u200E-\u200E", "NaN", "∞"⟩, some ⟨",", ".", "\u200E−", "NaN", "∞"⟩, none⟩,
  ⟨"pt", none, none, some ⟨",", ".", "-", "NaN", "∞"⟩, none⟩,
  ⟨"pt-PT", none, none, some ⟨",", "\u00A0", "-", "NaN", "∞"⟩, none⟩,
  ⟨"qu-BO", none, none, some ⟨",", ".", "-", "NaN", "∞"⟩, none⟩,
  ⟨"rm", none, none, some ⟨".", "’", "−", "NaN", "∞"⟩, none⟩,
  ⟨"rn", none, none, some ⟨",", ".", "-", "NaN", "∞"⟩, none⟩,
  ⟨"ro", none, none, some ⟨",", ".", "-", "NaN", "∞"⟩, none⟩,
  ⟨"ru", none, none, some ⟨",", "\u00A0", "-", "не\u00A0число", "∞"⟩, none⟩,
  ⟨"rw", none, none, some ⟨",", ".", "-", "NaN", "∞"⟩, none⟩,
  ⟨"sah", none, none, some ⟨",", "\u00A0", "-", "чыыһыла\u00A0буотах", "∞"⟩, none⟩,
  ⟨"sd", some "arab", some ⟨".", "٬", "\u061C-", "NaN", "∞"⟩, none, none⟩,
  ⟨"se", none, none, some ⟨",", "\u00A0", "−", "NaN", "∞"⟩, none⟩,
  ⟨"seh", none, none, some ⟨",", ".", "-", "NaN", "∞"⟩, none⟩,
  ⟨"ses", none, none, some ⟨".", "\u00A0", "-", "NaN", "∞"⟩, none⟩,
  ⟨"sg", none, none, some ⟨",", ".", "-", "NaN", "∞"⟩, none⟩,
  ⟨"shi", none, none, some ⟨",", "\u00A0", "-", "NaN", "∞"⟩, none⟩,
  ⟨"shi-Latn", none, none, some ⟨",", "\u00A0", "-", "NaN", "∞"⟩, none⟩,
  ⟨"sk", none, none, some ⟨",", "\u00A0", "-", "NaN", "∞"⟩, none⟩,
  ⟨"sl", none, none, some ⟨",", ".", "−", "NaN", "∞"⟩, none⟩,
  ⟨"smn", none, none, some ⟨",", "\u00A0", "-", "epiloho", "∞"⟩, none⟩,
  ⟨"so", none, none, some ⟨".", ",", "-", "MaL", "∞"⟩, none⟩,
  ⟨"sq", none, none, some ⟨",", "\u00A0", "-", "NaN", "∞"⟩, none⟩,
  ⟨"sr", none, none, some ⟨",", ".", "-", "NaN", "∞"⟩, none⟩,
  ⟨"sr-Latn", none, none, some ⟨",", ".", "-", "NaN", "∞"⟩, none⟩,
  ⟨"sv", none, none, some ⟨",", "\u00A0", "−", "¤¤¤", "∞"⟩, none⟩,
  ⟨"sw-CD", none, none, some ⟨",", ".", "-", "NaN", "∞"⟩, none⟩,
  ⟨"ta", none, none, none, some DecimalPattern.indian⟩,
  ⟨"ta-MY", none, none, none, some DecimalPattern.standard⟩,
  ⟨"ta-SG", none, none, none, some DecimalPattern.standard⟩,
  ⟨"tg", none, none, some ⟨",", "\u00A0", "-", "NaN", "∞"⟩, none⟩,
  ⟨"tk", none, none, some ⟨",", "\u00A0", "-", "san\u00A0däl", "∞"⟩, none⟩,
  ⟨"to", none, none, some ⟨".", ",", "-", "TF", "∞"⟩, none⟩,
  ⟨"tr", none, none, some ⟨",", ".", "-", "NaN", "∞"⟩, none⟩,
  ⟨"tt", none, none, some ⟨",", "\u00A0", "-", "NaN", "∞"⟩, none⟩,
  ⟨"twq", none, none, some ⟨".", "\u00A0", "-", "NaN", "∞"⟩, none⟩,
  ⟨"tzm", none, none, some ⟨",", "\u00A0", "-", "NaN", "∞"⟩, none⟩,
  ⟨"uk", none, none, some ⟨",", "\u00A0", "-", "NaN", "∞"⟩, none⟩,
  ⟨"ur", none, none, some ⟨".", ",", "\u200E-", "NaN", "∞"⟩, none⟩,
  ⟨"ur-IN", some "arabext", some ⟨"٫", "٬", "\u200E-\u200E", "NaN", "∞"⟩, none, none⟩,
  ⟨"uz", none, none, some ⟨",", "\u00A0", "-", "son\u00A0emas", "∞"⟩, none⟩,
  ⟨"uz-Arab", some "arabext", some ⟨"٫", "٬", "\u200E-\u200E", "NaN", "∞"⟩, some ⟨",", ".", "\u200E−", "NaN", "∞"⟩, none⟩,
  ⟨"uz-Cyrl", none, none, some ⟨",", "\u00A0", "-", "ҳақиқий\u00A0сон\u00A0эмас", "∞"⟩, none⟩,
  ⟨"vi", none, none, some ⟨",", ".", "-", "NaN", "∞"⟩, none⟩,
  ⟨"wae", none, none, some ⟨",", "’", "-", "NaN", "∞"⟩, none⟩,
  ⟨"wo", none, none, some ⟨",", ".", "-", "NaN", "∞"⟩, none⟩,
  ⟨"yav", none, none, some ⟨",", "\u00A0", "-", "NaN", "∞"⟩, none⟩,
  ⟨"yue", none, none, some ⟨".", ",", "-", "非數值", "∞"⟩, none⟩,
  ⟨"yue-Hans", none, none, some ⟨".", ",", "-", "非数值", "∞"⟩, none⟩,
  ⟨"zgh", none, none, some ⟨",", "\u00A0", "-", "NaN", "∞"⟩, none⟩,
  ⟨"zh-Hant", none, none, some ⟨".", ",", "-", "非數值", "∞"⟩, none⟩
]

end NumberData

end Vernacular
