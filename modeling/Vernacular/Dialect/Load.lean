import Vernacular.Yaml.Document
import Vernacular.Dialect.Registry
import Vernacular.Number.Decimal
/-!
# Loading dialect documents

A dialect document is the first YAML document of a text: a mapping with the
fields `name`, `extension`, `keywords`, `operators`, `brackets`, `specials`
and `globals`. The first two are strings and the others map strings to
strings. Decoding is strict:

* an empty text has no document, reported as `EOF`;
* a mapping may not repeat a key, and a repeated key stops the decoding of
  that mapping;
* an unknown field, and a value of the wrong shape, is reported with its line
  and decoding goes on, so that one message lists every such problem;
* an empty or null value leaves a string field empty, and in a table gives the
  key an empty spelling.

A plain scalar is typed as YAML does (null, boolean, integer, float,
timestamp or string); any scalar but null can be a string. An explicit tag
names the type instead: a scalar whose text is not of the type it is tagged
with stops the decoding, `!!binary` text is decoded from base 64, and a tag
YAML does not type (one of the document's own, or `!!null`) keeps the text.

Messages are bytes: a scalar quoted in one is cut to seven bytes, which may
split a character.
-/

set_option autoImplicit false

namespace Vernacular

namespace Yaml

/-- Whether a text is a run of decimal digits. -/
def isDigits (s : List Char) : Bool := !s.isEmpty && s.all (fun c => '0' ≤ c && c ≤ '9')

/-- Whether a text reads as a 64-bit integer in base 10, 16, 8 or 2 with an
optional sign: a negative one down to `-2⁶³`, one with `+` up to `2⁶³ - 1`,
and an unsigned one up to `2⁶⁴ - 1`. Underscores are ignored. -/
def isIntegerText (s : String) : Bool :=
  let cs := (s.toList.filter (· != '_'))
  let (sign, body) := match cs with
    | '-' :: rest => (some true, rest)
    | '+' :: rest => (some false, rest)
    | rest => (none, rest)
  let bound := match sign with
    | some true => Nat.pow 2 63
    | some false => Nat.pow 2 63 - 1
    | none => Nat.pow 2 64 - 1
  let inBase (digits : List Char) (ok : Char → Bool) (base : Nat) : Bool :=
    !digits.isEmpty && digits.all ok &&
      digits.foldl (fun acc c => acc * base + ((hexDigit? c).getD 0)) 0 ≤ bound
  match body with
  | '0' :: 'x' :: rest | '0' :: 'X' :: rest => inBase rest (fun c => (hexDigit? c).isSome) 16
  | '0' :: 'o' :: rest | '0' :: 'O' :: rest => inBase rest (fun c => '0' ≤ c && c ≤ '7') 8
  | '0' :: 'b' :: rest | '0' :: 'B' :: rest => inBase rest (fun c => c == '0' || c == '1') 2
  | ['0'] => true
  | '0' :: rest => inBase rest (fun c => '0' ≤ c && c ≤ '7') 8
  | rest => inBase rest (fun c => '0' ≤ c && c ≤ '9') 10

/-- Whether a text is a YAML float: an optional sign, digits with an optional
fraction or a fraction alone, and an optional exponent, whose value does not
round beyond the largest double. -/
def isFloatText (s : String) : Bool :=
  let cs := s.toList
  let body := match cs with
    | '-' :: rest | '+' :: rest => rest
    | rest => rest
  let mantissa := body.takeWhile (fun c => c != 'e' && c != 'E')
  let exponent := body.drop mantissa.length
  let mantissaOk :=
    match mantissa with
    | '.' :: frac => isDigits frac
    | _ =>
      let whole := mantissa.takeWhile (· != '.')
      let rest := mantissa.drop whole.length
      isDigits whole && (match rest with
        | [] => true
        | '.' :: frac => frac.all (fun c => '0' ≤ c && c ≤ '9')
        | _ => false)
  let exponentOk :=
    match exponent with
    | [] => true
    | _ :: '-' :: ds | _ :: '+' :: ds => isDigits ds
    | _ :: ds => isDigits ds
  mantissaOk && exponentOk && ((Decimal.readLiteral cs).bind Decimal.Literal.toFloat?).isSome

/-- The days of a month of the Gregorian calendar. -/
def daysInMonth (year month : Nat) : Nat :=
  if month == 2 then
    if (year % 4 == 0 && year % 100 != 0) || year % 400 == 0 then 29 else 28
  else if [4, 6, 9, 11].contains month then 30
  else 31

/-- A number of one or two digits at the start of a text, taking two when
there are two. -/
def shortNumber : List Char → Option (Nat × List Char)
  | a :: rest =>
    if !('0' ≤ a && a ≤ '9') then none
    else match rest with
      | b :: more =>
        if '0' ≤ b && b ≤ '9' then some (10 * (a.toNat - 48) + (b.toNat - 48), more)
        else some (a.toNat - 48, rest)
      | [] => some (a.toNat - 48, [])
  | [] => none

/-- The rest of a text after a time of day `h:m:s`, each part one or two
digits and in range, and an optional fraction of a second. -/
def afterClock (cs : List Char) : Option (List Char) := do
  let (hour, cs) ← shortNumber cs
  let cs ← match cs with | ':' :: rest => some rest | _ => none
  let (minute, cs) ← shortNumber cs
  let cs ← match cs with | ':' :: rest => some rest | _ => none
  let (second, cs) ← shortNumber cs
  if hour ≥ 24 || minute ≥ 60 || second ≥ 60 then none
  else match cs with
    | c :: d :: rest =>
      if (c == '.' || c == ',') && '0' ≤ d && d ≤ '9' then
        some (rest.dropWhile fun x => '0' ≤ x && x ≤ '9')
      else some cs
    | _ => some cs

/-- Whether a text is a zone: `Z`, or a sign and `hh:mm` in range. -/
def isZone : List Char → Bool
  | ['Z'] => true
  | [sign, h1, h2, ':', m1, m2] =>
    (sign == '+' || sign == '-') && [h1, h2, m1, m2].all (fun c => '0' ≤ c && c ≤ '9') &&
      10 * (h1.toNat - 48) + (h2.toNat - 48) ≤ 24 && 10 * (m1.toNat - 48) + (m2.toNat - 48) ≤ 60
  | _ => false

/-- Whether a text is a YAML timestamp: a date `yyyy-m-d` that exists,
alone, or followed by `T` or `t`, a time and a zone, or by a space and a
time. -/
def isTimestampText (s : String) : Bool :=
  let cs := s.toList
  let year := cs.take 4
  match cs.drop 4 with
  | '-' :: rest =>
    isDigits year && year.length == 4 &&
      (match shortNumber rest with
       | some (month, '-' :: rest) =>
         match shortNumber rest with
         | some (day, rest) =>
           1 ≤ month && month ≤ 12 && 1 ≤ day &&
             day ≤ daysInMonth (year.foldl (fun acc c => 10 * acc + (c.toNat - 48)) 0) month &&
             (match rest with
              | [] => true
              | c :: clock =>
                if c == 'T' || c == 't' then (afterClock clock).any isZone
                else if c == ' ' then afterClock clock == some []
                else false)
         | none => false
       | _ => false)
  | _ => false

/-- The tag YAML gives a scalar text under an explicit tag (empty for none):
null, boolean, integer, float, timestamp or string. A timestamp is only
tried without a tag or under `!!timestamp`, and `<<` is the merge key only
without a tag. -/
def resolveTag (explicit s : String) : String :=
  if ["", "~", "null", "Null", "NULL"].contains s then "!!null"
  else if ["true", "True", "TRUE", "false", "False", "FALSE"].contains s then "!!bool"
  else if [".nan", ".NaN", ".NAN", ".inf", ".Inf", ".INF", "+.inf", "+.Inf", "+.INF",
      "-.inf", "-.Inf", "-.INF"].contains s then "!!float"
  else if s == "<<" && explicit.isEmpty then "!!merge"
  else match s.toList.head? with
    | some c =>
      if c == '.' then (if isFloatText s then "!!float" else "!!str")
      else if ('0' ≤ c && c ≤ '9') || c == '-' || c == '+' then
        let plain := String.ofList (s.toList.filter (· != '_'))
        if (explicit.isEmpty || explicit == "!!timestamp") && isTimestampText s then "!!timestamp"
        else if isIntegerText s then "!!int"
        else if isFloatText plain then "!!float"
        else "!!str"
      else "!!str"
    | none => "!!null"

/-- The tag YAML gives a plain scalar. -/
def resolvePlain (s : String) : String := resolveTag "" s

/-- The tags whose text YAML types. -/
def typedTags : List String := ["!!bool", "!!int", "!!float", "!!timestamp"]

/-- The value of a base-64 digit. -/
def base64Value (c : Char) : Option Nat :=
  if 'A' ≤ c && c ≤ 'Z' then some (c.toNat - 'A'.toNat)
  else if 'a' ≤ c && c ≤ 'z' then some (c.toNat - 'a'.toNat + 26)
  else if '0' ≤ c && c ≤ '9' then some (c.toNat - '0'.toNat + 52)
  else if c == '+' then some 62
  else if c == '/' then some 63
  else none

/-- Decode groups of four base-64 digits; the last group may end in one or
two `=`. -/
def base64Groups : List Char → Option (List UInt8)
  | [] => some []
  | [a, b, '=', '='] => do
    let x ← base64Value a
    let y ← base64Value b
    some [UInt8.ofNat ((x * 4 + y / 16) % 256)]
  | [a, b, c, '='] => do
    let x ← base64Value a
    let y ← base64Value b
    let z ← base64Value c
    some [UInt8.ofNat ((x * 4 + y / 16) % 256), UInt8.ofNat ((y * 16 + z / 4) % 256)]
  | a :: b :: c :: d :: rest => do
    let x ← base64Value a
    let y ← base64Value b
    let z ← base64Value c
    let w ← base64Value d
    let more ← base64Groups rest
    some (UInt8.ofNat ((x * 4 + y / 16) % 256) :: UInt8.ofNat ((y * 16 + z / 4) % 256) ::
      UInt8.ofNat ((z * 64 + w) % 256) :: more)
  | _ => none

/-- The bytes of base-64 text, whose line breaks are ignored. -/
def base64Decode (s : String) : Option (List UInt8) :=
  base64Groups (s.toList.filter fun c => c != '\n' && c != '\r')

/-- How a scalar decodes as a string: its text, nothing when it is null, or
the problem that stops the decoding when its text does not fit its tag. -/
def scalarText (text : String) (style : ScalarStyle) (tag : String) : Except String (Option String) :=
  if tag == "!!str" || (tag.isEmpty && style != .plain) then .ok (some text)
  else if tag.isEmpty then .ok (if resolvePlain text == "!!null" then none else some text)
  else if typedTags.contains tag then
    let found := resolveTag tag text
    if found == tag || (tag == "!!float" && found == "!!int") then .ok (some text)
    else .error ("yaml: cannot decode " ++ found ++ " " ++ String.ofList ['`'] ++ text ++
      String.ofList ['`'] ++ " as a " ++ tag)
  else if tag == "!!binary" then
    match base64Decode text with
    | some bytes => .ok (some (Text.mk bytes).toStringLossy)
    | none => .error "yaml: !!binary value contains invalid base64 data"
  else .ok (some text)

namespace Node

/-- The short tag of a node: its explicit tag; else quoted and block scalars
are strings, plain ones are resolved, and collections are maps and
sequences. -/
def shortTag : Node → String
  | scalar t style tag _ =>
    if !tag.isEmpty then tag else if style == .plain then resolvePlain t else "!!str"
  | mapping _ tag _ => if tag.isEmpty then "!!map" else tag
  | sequence _ tag _ => if tag.isEmpty then "!!seq" else tag
  | aliasRef _ target _ => target.shortTag

/-- Whether a node's tag is null. -/
def isNull (n : Node) : Bool := n.shortTag == "!!null"

/-- The message for a node that cannot be decoded as `target`: its line, its
tag and, unless the tag is a map or sequence, its text, cut to seven bytes
when longer than ten. -/
def mismatch (n : Node) (target : String) : Text :=
  let tag := n.shortTag
  let tick := Text.ofString (String.ofList ['`'])
  let shown :=
    if tag == "!!seq" || tag == "!!map" then Text.empty
    else
      let v := Text.ofString n.value
      if v.size > 10 then Text.ofString " " ++ tick ++ ⟨v.bytes.take 7⟩ ++ Text.ofString "..." ++ tick
      else Text.ofString " " ++ tick ++ v ++ tick
  Text.ofString ("line " ++ toString n.line ++ ": cannot unmarshal " ++ tag) ++ shown ++
    Text.ofString (" into " ++ target)

end Node

/-- The messages for repeated keys of a mapping: each later key equal in kind
and text to an earlier one. -/
def repeatedKeys (pairs : List (Node × Node)) : List Text :=
  let keys := pairs.map Prod.fst
  (List.range keys.length).flatMap fun i =>
    let ki := keys.getD i default
    ((keys.drop (i + 1)).filter fun kj => kj.kindIndex == ki.kindIndex && kj.value == ki.value).map
      fun kj => Text.ofString ("line " ++ toString kj.line ++ ": mapping key " ++
        escapedQuote ki.value ++ " already defined at line " ++ toString ki.line)

/-- A node decoded as a string: a scalar gives its text, or nothing when it
is null; a collection is a mismatch. A scalar whose text does not fit its
tag stops the decoding. -/
def stringOf : Node → Except String (Option String × List Text)
  | .aliasRef _ target _ => stringOf target
  | .scalar t style tag _ => (scalarText t style tag).map fun r => (r, [])
  | n => .ok (none, [n.mismatch "string"])

/-- A scalar decoded as a collection type: null decodes as nothing, and
anything else is a mismatch; a text that does not fit its tag stops the
decoding first. -/
def scalarAsCollection (n : Node) (text : String) (style : ScalarStyle) (tag target : String) :
    Except String (List Text) :=
  match scalarText text style tag with
  | .error e => .error e
  | .ok none => .ok []
  | .ok (some _) => .ok [n.mismatch target]

/-- Set a key of a table, replacing an earlier entry. -/
def setKey (entries : List (String × String)) (key value : String) : List (String × String) :=
  if entries.any (·.1 == key) then entries.map fun e => if e.1 == key then (key, value) else e
  else entries ++ [(key, value)]

/-- Decode the pairs of a mapping into a table of strings. A key that is null
or not a scalar is skipped, and a value whose tag is null gives an empty
string even when it is not a scalar. -/
def tablePairs : List (Node × Node) → List (String × String) → List Text →
    Except String (List (String × String) × List Text)
  | [], entries, messages => .ok (entries, messages)
  | (key, value) :: rest, entries, messages => do
    let (k, m) ← stringOf key
    match k with
    | none => tablePairs rest entries (messages ++ m)
    | some k =>
      let (v, m2) ← stringOf value
      match v with
      | some v => tablePairs rest (setKey entries k v) (messages ++ m ++ m2)
      | none =>
        if value.isNull then tablePairs rest (setKey entries k "") (messages ++ m ++ m2)
        else tablePairs rest entries (messages ++ m ++ m2)

/-- A node decoded as a table of strings. Null gives no table. -/
def tableOf : Node → Except String (Option (List (String × String)) × List Text)
  | .aliasRef _ target _ => tableOf target
  | .mapping pairs _ _ =>
    let repeated := repeatedKeys pairs
    if !repeated.isEmpty then .ok (none, repeated)
    else (tablePairs pairs [] []).map fun (entries, messages) => (some entries, messages)
  | n@(.scalar t style tag _) =>
    (scalarAsCollection n t style tag "map[string]string").map fun m => (none, m)
  | n => .ok (none, [n.mismatch "map[string]string"])

end Yaml

/-- The type a dialect document decodes into, as messages name it. -/
def dialectTypeName : String := "core.Dialect"

/-- Decode one field of a dialect document. -/
def DialectSpec.withField (spec : DialectSpec) (keyNode : Yaml.Node) (field : String)
    (value : Yaml.Node) : Except String (DialectSpec × List Text) := do
  let table (set : List (String × String) → DialectSpec) :
      Except String (DialectSpec × List Text) :=
    (Yaml.tableOf value).map fun (t, m) => (set (t.getD []), m)
  match field with
  | "name" =>
    let (text, m) ← Yaml.stringOf value
    return ({ spec with name := text.getD spec.name }, m)
  | "extension" =>
    let (text, m) ← Yaml.stringOf value
    return ({ spec with extension := text.getD spec.extension }, m)
  | "keywords" => table fun t => { spec with keywords := t }
  | "operators" => table fun t => { spec with operators := t }
  | "brackets" => table fun t => { spec with brackets := t }
  | "specials" => table fun t => { spec with specials := t }
  | "globals" => table fun t => { spec with globals := t }
  | other =>
    return (spec, [Text.ofString ("line " ++ toString keyNode.line ++ ": field " ++ other ++
      " not found in type " ++ dialectTypeName)])

/-- Decode the fields of a dialect document in order. -/
def DialectSpec.ofPairs : List (Yaml.Node × Yaml.Node) → DialectSpec → List Text →
    Except String (DialectSpec × List Text)
  | [], spec, messages => .ok (spec, messages)
  | (key, value) :: rest, spec, messages => do
    let (field, m) ← Yaml.stringOf key
    match field with
    | none => ofPairs rest spec (messages ++ m)
    | some field =>
      let (spec, m2) ← spec.withField key field value
      ofPairs rest spec (messages ++ m ++ m2)

/-- Decode the root node of a dialect document, with the messages of every
mismatch found, or the problem that stops the decoding. -/
def DialectSpec.ofNode : Yaml.Node → Except String (DialectSpec × List Text)
  | .aliasRef _ target _ => ofNode target
  | .mapping pairs _ _ =>
    let repeated := Yaml.repeatedKeys pairs
    if !repeated.isEmpty then .ok (default, repeated)
    else DialectSpec.ofPairs pairs default []
  | n@(.scalar t style tag _) =>
    (Yaml.scalarAsCollection n t style tag dialectTypeName).map fun m => (default, m)
  | n => .ok (default, [n.mismatch dialectTypeName])

/-- Decode a dialect document. -/
def DialectSpec.decode (source : String) : Except Text DialectSpec :=
  let lead := Text.ofString "decode dialect: "
  match Yaml.firstDocument source with
  | .error p => .error (lead ++ Text.ofString p.message)
  | .ok none => .error (lead ++ Text.ofString "EOF")
  | .ok (some root) =>
    match DialectSpec.ofNode root with
    | .error problem => .error (lead ++ Text.ofString problem)
    | .ok (spec, []) => .ok spec
    | .ok (_, m :: ms) =>
      .error (lead ++ Text.ofString "yaml: unmarshal errors:\n  " ++
        ms.foldl (fun acc x => acc ++ Text.ofString "\n  " ++ x) m)

/-- Decode and validate a dialect document. -/
def DialectSpec.load (source : String) : Except Text DialectSpec := do
  let spec ← DialectSpec.decode source
  match spec.validate with
  | .ok _ => .ok spec
  | .error refusal => .error (Text.ofString refusal.message)

namespace Registry

/-- Load dialect documents and register them in order; the first refused one
stops the loading. -/
def loadAll (r : Registry) : List String → Except Text Registry
  | [] => .ok r
  | doc :: rest => do
    let spec ← DialectSpec.load doc
    match r.register spec with
    | .ok r => loadAll r rest
    | .error refusal => .error (Text.ofString refusal.message)

end Registry

end Vernacular
