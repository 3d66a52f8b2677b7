import Vernacular.Dialect.Basic
/-!
# Built-in dialects

The five dialects every registry starts with, as documents. They are
registered in the order genz, myriad, nepali, pirate, uwu.
-/

set_option autoImplicit false

namespace Vernacular.Builtin

/-- The genz dialect. -/
def genzSpec : DialectSpec where
  name := "genz"
  extension := ".genzl"
  keywords :=
    [("let", "lit"), ("const", "litaf"), ("if", "sus"), ("else", "nvm"),
     ("fun", "squad"), ("true", "nocap"), ("false", "cap"), ("null", "ghost"),
     ("while", "tweark"), ("for", "grind"), ("return", "clapback"), ("try", "stan"),
     ("catch", "yikes"), ("throw", "yeet"), ("break", "drag"), ("continue", "continue"),
     ("import", "yoink"), ("export", "flaunt")]
  operators :=
    [("lessOrEqual", "flaybe"), ("greatOrEqual", "flopbe"), ("great", "slay"), ("less", "flop"),
     ("plus", "+"), ("minus", "-"), ("mul", "*"), ("div", "/"),
     ("equal", "be"), ("equalEqual", "finna"), ("notEqual", "nah"), ("plusEqual", "+be"),
     ("minusEqual", "-be"), ("mulEqual", "*be"), ("divEqual", "/be"), ("plusPlus", "++"),
     ("minusMinus", "--"), ("andAnd", "and"), ("orOr", "or"), ("not", "aint")]
  brackets :=
    [("sqrOpen", "["), ("sqrClose", "]"), ("curlyOpen", "\x7b"), ("curlyClose", "\x7d"),
     ("parenOpen", "("), ("parenClose", ")")]
  specials :=
    [("comma", ","), ("colon", ":"), ("dot", "."), ("semiColon", "rn")]
  globals :=
    [("print", "flex"), ("input", "spill"), ("len", "lenz")]

/-- The myriad dialect. -/
def myriadSpec : DialectSpec where
  name := "myriad"
  extension := ".myriad"
  keywords :=
    [("let", "let"), ("const", "const"), ("if", "if"), ("else", "else"),
     ("fun", "func"), ("true", "true"), ("false", "false"), ("null", "null"),
     ("while", "while"), ("for", "for"), ("return", "return"), ("try", "try"),
     ("catch", "catch"), ("throw", "throw"), ("break", "break"), ("continue", "continue"),
     ("import", "import"), ("export", "export")]
  operators :=
    [("lessOrEqual", "<="), ("greatOrEqual", ">="), ("great", ">"), ("less", "<"),
     ("plus", "+"), ("minus", "-"), ("mul", "*"), ("div", "/"),
     ("equal", "="), ("equalEqual", "=="), ("notEqual", "!="), ("plusEqual", "+="),
     ("minusEqual", "-="), ("mulEqual", "*="), ("divEqual", "/="), ("plusPlus", "++"),
     ("minusMinus", "--"), ("andAnd", "&&"), ("orOr", "||"), ("not", "!")]
  brackets :=
    [("sqrOpen", "["), ("sqrClose", "]"), ("curlyOpen", "\x7b"), ("curlyClose", "\x7d"),
     ("parenOpen", "("), ("parenClose", ")")]
  specials :=
    [("comma", ","), ("colon", ":"), ("dot", "."), ("semiColon", ";")]
  globals :=
    [("print", "print"), ("input", "input"), ("len", "len")]

/-- The nepali dialect. -/
def nepaliSpec : DialectSpec where
  name := "nepali"
  extension := ".nepalil"
  keywords :=
    [("let", "manum"), ("const", "sthir"), ("if", "yedi"), ("else", "natra"),
     ("fun", "kaam"), ("true", "satya"), ("false", "galat"), ("null", "khali"),
     ("while", "jabasamma"), ("for", "pratyek"), ("return", "farki"), ("try", "prayas"),
     ("catch", "samat"), ("throw", "faal"), ("break", "todh"), ("continue", "jaarirakh"),
     ("import", "lyau"), ("export", "pathau")]
  operators :=
    [("lessOrEqual", "sabarabar"), ("greatOrEqual", "thbarabar"), ("great", "thulo"), ("less", "sano"),
     ("plus", "+"), ("minus", "-"), ("mul", "*"), ("div", "/"),
     ("equal", "barabar"), ("equalEqual", "ho"), ("notEqual", "hoina"), ("plusEqual", "+="),
     ("minusEqual", "-="), ("mulEqual", "*="), ("divEqual", "/="), ("plusPlus", "++"),
     ("minusMinus", "--"), ("andAnd", "ra"), ("orOr", "wa"), ("not", "nai")]
  brackets :=
    [("sqrOpen", "["), ("sqrClose", "]"), ("curlyOpen", "\x7b"), ("curlyClose", "\x7d"),
     ("parenOpen", "("), ("parenClose", ")")]
  specials :=
    [("comma", ","), ("colon", ":"), ("dot", "."), ("semiColon", "rok")]
  globals :=
    [("print", "lekh"), ("input", "bhan"), ("len", "lambai")]

/-- The pirate dialect. -/
def pirateSpec : DialectSpec where
  name := "pirate"
  extension := ".piratel"
  keywords :=
    [("let", "ahoy"), ("const", "unchangin"), ("if", "ifn"), ("else", "elsewise"),
     ("fun", "voyage"), ("true", "aye"), ("false", "nay"), ("null", "nada"),
     ("while", "whilst"), ("for", "fer"), ("return", "giveback"), ("try", "tryyerluck"),
     ("catch", "catchem"), ("throw", "heave"), ("break", "belay"), ("continue", "keepgoin"),
     ("import", "fetchaboard"), ("export", "divvyup")]
  operators :=
    [("lessOrEqual", "<="), ("greatOrEqual", ">="), ("great", ">"), ("less", "<"),
     ("plus", "+"), ("minus", "-"), ("mul", "*"), ("div", "/"),
     ("equal", "binds"), ("equalEqual", "equalstwin"), ("notEqual", "notmatches"), ("plusEqual", "+="),
     ("minusEqual", "-="), ("mulEqual", "*="), ("divEqual", "/="), ("plusPlus", "++"),
     ("minusMinus", "--"), ("andAnd", "and"), ("orOr", "or"), ("not", "denied")]
  brackets :=
    [("sqrOpen", "["), ("sqrClose", "]"), ("curlyOpen", "\x7b"), ("curlyClose", "\x7d"),
     ("parenOpen", "("), ("parenClose", ")")]
  specials :=
    [("comma", ","), ("colon", ":"), ("dot", "."), ("semiColon", "arrr")]
  globals :=
    [("print", "shout"), ("input", "listen"), ("len", "headcount"), ("typeof", "wotbe"),
     ("format", "arrange")]

/-- The uwu dialect. -/
def uwuSpec : DialectSpec where
  name := "uwu"
  extension := ".uwul"
  keywords :=
    [("let", "wet"), ("const", "consty"), ("if", "ifw"), ("else", "ewse"),
     ("fun", "fwun"), ("true", "twue"), ("false", "fawse"), ("null", "nuww"),
     ("while", "whiwe"), ("for", "fow"), ("return", "wetuwn"), ("try", "twy"),
     ("catch", "catchy"), ("throw", "thwow"), ("break", "bweak"), ("continue", "continwue"),
     ("import", "impowt"), ("export", "expowt")]
  operators :=
    [("lessOrEqual", "<="), ("greatOrEqual", ">="), ("great", ">"), ("less", "<"),
     ("plus", "+"), ("minus", "-"), ("mul", "*"), ("div", "/"),
     ("equal", "ish"), ("equalEqual", "eqwualsu"), ("notEqual", "nyotlsu"), ("plusEqual", "+="),
     ("minusEqual", "-="), ("mulEqual", "*="), ("divEqual", "/="), ("plusPlus", "++"),
     ("minusMinus", "--"), ("andAnd", "awnd"), ("orOr", "ow"), ("not", "nyot")]
  brackets :=
    [("sqrOpen", "["), ("sqrClose", "]"), ("curlyOpen", "\x7b"), ("curlyClose", "\x7d"),
     ("parenOpen", "("), ("parenClose", ")")]
  specials :=
    [("comma", ","), ("colon", ":"), ("dot", "."), ("semiColon", "uwu")]
  globals :=
    [("print", "pwint"), ("input", "inpawt"), ("len", "wen")]

/-- The built-in documents in registration order. -/
def builtinSpecs : List DialectSpec := [genzSpec, myriadSpec, nepaliSpec, pirateSpec, uwuSpec]

end Vernacular.Builtin
