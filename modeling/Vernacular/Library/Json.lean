import Vernacular.Interpreter.Machine
import Vernacular.Library.Methods
/-!
# JSON

Reading JSON documents into values and writing values as JSON.

Reading takes exactly one document: arrays become arrays, objects become
objects with their keys in document order (a repeated key keeps its first
place and its last value), numbers are read as doubles and must be finite.
The errors name the offending character and what was expected there; a
document cut off inside a token reports `unexpected EOF`, and one cut off
between the tokens of an array or an object `unexpected end of JSON input`.

Writing drops functions from objects and writes them as `null` inside
arrays; NaN and the infinities become `null`, and a value that contains
itself is refused. An indent, when given, puts every element on its own
line.
-/

set_option autoImplicit false

namespace Vernacular

/-- A JSON document, before it is put in the heap. -/
inductive JsonTree where
  | null
  | boolean (b : Bool)
  | number (x : Float)
  | string (t : Text)
  | array (elements : List JsonTree)
  | object (entries : List (Text × JsonTree))
deriving Inhabited

namespace Json

/-- A byte as an ASCII character code. -/
def code (c : Char) : UInt8 := UInt8.ofNat c.toNat

/-- JSON white space. -/
def isSpace (b : UInt8) : Bool := b == 32 || b == 9 || b == 10 || b == 13

/-- Skip white space. -/
def skipSpace (bs : List UInt8) : List UInt8 := bs.dropWhile isSpace

/-- A character as messages quote it: in single quotes, escaped as in a Go
rune literal. -/
def quoteChar (c : Char) : String :=
  if c == '\'' then "'\\''"
  else if c == '"' then "'\"'"
  else "'" ++ Text.escapeRune c ++ "'"

/-- The first character of the bytes as messages quote it; a byte that starts
no UTF-8 sequence is written `\x` and its hexadecimal value. -/
def quoteRune (bs : List UInt8) : String :=
  match Utf8.sequences bs with
  | (c, [b]) :: _ => if b.toNat < 0x80 then quoteChar c else "'\\x" ++ hexPadded 2 b.toNat ++ "'"
  | (c, _) :: _ => quoteChar c
  | [] => "''"

/-- The error for an unexpected character at the start of `bs`. -/
def invalidChar (bs : List UInt8) (context : String) : String :=
  "invalid character " ++ quoteRune bs ++ " " ++ context

/-- A document cut off inside a token. -/
def cutInToken : String := "unexpected EOF"

/-- A document cut off between tokens of an array or an object. -/
def cutBetweenTokens : String := "unexpected end of JSON input"

/-- The error for an object key that is a value but not a string. -/
def nonStringKey : String := "object member name must be a string"

/-- The value of a hexadecimal digit. -/
def hexValue (b : UInt8) : Option Nat :=
  if code '0' ≤ b && b ≤ code '9' then some (b.toNat - '0'.toNat)
  else if code 'a' ≤ b && b ≤ code 'f' then some (b.toNat - 'a'.toNat + 10)
  else if code 'A' ≤ b && b ≤ code 'F' then some (b.toNat - 'A'.toNat + 10)
  else none

/-- Read four hexadecimal digits after `\u`; on failure, the bytes read so far
including the offending one. -/
def readHex4 (bs : List UInt8) : Except (Option (List UInt8)) (Nat × List UInt8) :=
  let rec go : Nat → Nat → List UInt8 → List UInt8 → Except (Option (List UInt8)) (Nat × List UInt8)
    | 0, acc, _, rest => .ok (acc, rest)
    | n + 1, acc, seen, rest =>
      match rest with
      | [] => .error none
      | b :: tail =>
        match hexValue b with
        | some v => go n (acc * 16 + v) (seen ++ [b]) tail
        | none => .error (some (seen ++ [b]))
  go 4 0 [] bs

/-- Whether an escape sequence is shown in double quotes rather than
backquotes: it holds a backquote, an ill-formed or replacement character, white
space, or a character that is not printable. -/
def escapeNeedsQuotes (seq : List UInt8) : Bool :=
  (Utf8.sequences seq).any fun (c, bytes) =>
    c == '`' || c == Utf8.replacement || (match bytes with | [b] => decide (b.toNat ≥ 0x80) | _ => false) ||
      Text.isSpaceChar c || !Unicode.isPrintable c

/-- The escape error for the bytes of an escape sequence. -/
def badEscape (seq : List UInt8) : String :=
  if escapeNeedsQuotes seq then "invalid escape sequence " ++ (Text.mk seq).quoted ++ " in string"
  else "invalid escape sequence " ++ String.ofList ['`'] ++ (Text.mk seq).toStringLossy ++
    String.ofList ['`'] ++ " in string"

/-- Whether a code is a high surrogate. -/
def isHighSurrogate (n : Nat) : Bool := 0xD800 ≤ n && n < 0xDC00

/-- Whether a code is a low surrogate. -/
def isLowSurrogate (n : Nat) : Bool := 0xDC00 ≤ n && n < 0xE000

/-- Read the rest of a string after its opening quote. Ill-formed UTF-8 and
lone surrogates become U+FFFD. -/
def readString (bs : List UInt8) : Except String (Text × List UInt8) :=
  let rec go : Nat → List UInt8 → List UInt8 → Except String (Text × List UInt8)
    | 0, _, _ => .error cutInToken
    | fuel + 1, acc, rest =>
      match rest with
      | [] => .error cutInToken
      | b :: tail =>
        if b == code '"' then .ok (⟨Utf8.encode (Utf8.runes acc.reverse)⟩, tail)
        else if b < 0x20 then .error (invalidChar [b] "in string")
        else if b == code '\\' then
          match tail with
          | [] => .error cutInToken
          | e :: tail =>
            let simple (c : Char) := go fuel ((Utf8.encodeChar c).reverse ++ acc) tail
            if e == code '"' then simple '"'
            else if e == code '\\' then simple '\\'
            else if e == code '/' then simple '/'
            else if e == code 'b' then simple '\x08'
            else if e == code 'f' then simple '\x0c'
            else if e == code 'n' then simple '\n'
            else if e == code 'r' then simple '\r'
            else if e == code 't' then simple '\t'
            else if e == code 'u' then
              match readHex4 tail with
              | .error none => .error cutInToken
              | .error (some _) => .error (badEscape (([code '\\', code 'u'] ++ tail).take 6))
              | .ok (n, after) =>
                if isHighSurrogate n then
                  match after with
                  | b1 :: b2 :: more =>
                    if b1 == code '\\' && b2 == code 'u' then
                      match readHex4 more with
                      | .ok (m, after2) =>
                        if isLowSurrogate m then
                          let c := Char.ofNat (0x10000 + (n - 0xD800) * 0x400 + (m - 0xDC00))
                          go fuel ((Utf8.encodeChar c).reverse ++ acc) after2
                        else go fuel ((Utf8.encodeChar Utf8.replacement).reverse ++ acc) after
                      | .error _ => go fuel ((Utf8.encodeChar Utf8.replacement).reverse ++ acc) after
                    else go fuel ((Utf8.encodeChar Utf8.replacement).reverse ++ acc) after
                  | _ => go fuel ((Utf8.encodeChar Utf8.replacement).reverse ++ acc) after
                else
                  let c := if isLowSurrogate n then Utf8.replacement else Char.ofNat n
                  go fuel ((Utf8.encodeChar c).reverse ++ acc) after
            else .error (badEscape [code '\\', e])
        else go fuel (b :: acc) tail
  go (bs.length + 1) [] bs

/-- Whether a byte is a decimal digit. -/
def isDigit (b : UInt8) : Bool := code '0' ≤ b && b ≤ code '9'

/-- The error for a byte inside a number, or the end of the document. -/
def numberError (rest : List UInt8) : String :=
  match rest with
  | [] => cutInToken
  | _ :: _ => invalidChar rest "in numeric literal"

/-- Read the digits of a number: `-`, an integer part without leading zeros,
an optional fraction and an optional exponent. Gives the number's bytes. -/
def readNumberText (bs : List UInt8) : Except String (List UInt8 × List UInt8) :=
  let (sign, rest) := match bs with
    | b :: tail => if b == code '-' then ([b], tail) else ([], bs)
    | [] => ([], bs)
  let intPart : Except String (List UInt8 × List UInt8) :=
    match rest with
    | b :: tail =>
      if b == code '0' then .ok ([b], tail)
      else if isDigit b then .ok (b :: tail.takeWhile isDigit, tail.dropWhile isDigit)
      else .error (numberError rest)
    | [] => .error cutInToken
  match intPart with
  | .error e => .error e
  | .ok (digits, rest) =>
    let frac : Except String (List UInt8 × List UInt8) :=
      match rest with
      | b :: tail =>
        if b == code '.' then
          match tail with
          | d :: _ =>
            if isDigit d then .ok (b :: tail.takeWhile isDigit, tail.dropWhile isDigit)
            else .error (numberError tail)
          | [] => .error cutInToken
        else .ok ([], rest)
      | [] => .ok ([], rest)
    match frac with
    | .error e => .error e
    | .ok (fracDigits, rest) =>
      let expo : Except String (List UInt8 × List UInt8) :=
        match rest with
        | b :: tail =>
          if b == code 'e' || b == code 'E' then
            let (expSign, tail) := match tail with
              | s :: more => if s == code '+' || s == code '-' then ([s], more) else ([], tail)
              | [] => ([], tail)
            match tail with
            | d :: _ =>
              if isDigit d then .ok (b :: expSign ++ tail.takeWhile isDigit, tail.dropWhile isDigit)
              else .error (numberError tail)
            | [] => .error cutInToken
          else .ok ([], rest)
        | [] => .ok ([], rest)
      match expo with
      | .error e => .error e
      | .ok (expDigits, rest) => .ok (sign ++ digits ++ fracDigits ++ expDigits, rest)

/-- Read a number and convert it to a finite double. -/
def readNumber (bs : List UInt8) : Except String (Float × List UInt8) := do
  let (digits, rest) ← readNumberText bs
  let s := (Text.mk digits).toStringLossy
  match (Decimal.readLiteral s.toList).bind Decimal.Literal.toFloat? with
  | some x => .ok (x, rest)
  | none => .error ("strconv.ParseFloat: parsing " ++ escapedQuote s ++ ": value out of range")

/-- Read one of the words `true`, `false`, `null`, whose first byte is seen. -/
def readWord (word : String) (v : JsonTree) (bs : List UInt8) : Except String (JsonTree × List UInt8) :=
  let expected := (Text.ofString word).bytes
  let rec go : List UInt8 → List UInt8 → Except String (List UInt8)
    | [], rest => .ok rest
    | e :: more, rest =>
      match rest with
      | [] => .error cutInToken
      | b :: tail =>
        if b == e then go more tail
        else .error (invalidChar (b :: tail) ("in literal " ++ word ++ " (expecting " ++ quoteRune [e] ++ ")"))
  match go expected bs with
  | .ok rest => .ok (v, rest)
  | .error e => .error e

mutual

/-- Read a value at the start of `bs` (white space skipped). `nested` tells
whether the value is inside an array or an object. -/
def readValue : Nat → Bool → List UInt8 → Except String (JsonTree × List UInt8)
  | 0, _, _ => .error cutBetweenTokens
  | fuel + 1, nested, bs =>
    match skipSpace bs with
    | [] => .error (if nested then cutBetweenTokens else "EOF")
    | b :: tail =>
      if b == code '[' then readArray fuel tail
      else if b == code '{' then readObject fuel tail
      else if b == code '"' then (readString tail).map fun (t, rest) => (.string t, rest)
      else if b == code '-' || isDigit b then (readNumber (b :: tail)).map fun (x, rest) => (.number x, rest)
      else if b == code 't' then readWord "true" (.boolean true) (b :: tail)
      else if b == code 'f' then readWord "false" (.boolean false) (b :: tail)
      else if b == code 'n' then readWord "null" .null (b :: tail)
      else .error (invalidChar (b :: tail) "looking for beginning of value")

/-- Read the rest of an array after `[`. -/
def readArray : Nat → List UInt8 → Except String (JsonTree × List UInt8)
  | 0, _ => .error cutBetweenTokens
  | fuel + 1, bs =>
    match skipSpace bs with
    | [] => .error cutBetweenTokens
    | b :: tail =>
      if b == code ']' then .ok (.array [], tail)
      else do
        let (first, rest) ← readValue fuel true (b :: tail)
        let (more, rest) ← readElements fuel rest
        return (.array (first :: more), rest)

/-- Read the elements of an array after its first element, and its `]`. -/
def readElements : Nat → List UInt8 → Except String (List JsonTree × List UInt8)
  | 0, _ => .error cutBetweenTokens
  | fuel + 1, bs =>
    match skipSpace bs with
    | [] => .error cutBetweenTokens
    | b :: tail =>
      if b == code ']' then .ok ([], tail)
      else if b == code ',' then
        match skipSpace tail with
        | [] => .error cutBetweenTokens
        | c :: more =>
          if c == code ']' then .error (invalidChar [b] "looking for beginning of value")
          else do
            let (v, rest) ← readValue fuel true (c :: more)
            let (vs, rest) ← readElements fuel rest
            return (v :: vs, rest)
      else .error (invalidChar (b :: tail) "after array element")

/-- Read the rest of an object after `{`. -/
def readObject : Nat → List UInt8 → Except String (JsonTree × List UInt8)
  | 0, _ => .error cutBetweenTokens
  | fuel + 1, bs =>
    match skipSpace bs with
    | [] => .error cutBetweenTokens
    | b :: tail =>
      if b == code '}' then .ok (.object [], tail)
      else do
        let (entries, rest) ← readMembers fuel (b :: tail)
        return (.object entries, rest)

/-- Read members from a key on, and the closing `}`. A document that ends
where a member's value is due reports `EOF`. A key that is a value other than
a string is refused as such; anything else is an invalid character. -/
def readMembers : Nat → List UInt8 → Except String (List (Text × JsonTree) × List UInt8)
  | 0, _ => .error cutBetweenTokens
  | fuel + 1, bs =>
    match skipSpace bs with
    | [] => .error cutBetweenTokens
    | b :: tail =>
      if b == code '"' then do
        let (key, rest) ← readString tail
        match skipSpace rest with
        | [] => .error "EOF"
        | c :: more =>
          if c != code ':' then .error (invalidChar (c :: more) "after object key")
          else
            match skipSpace more with
            | [] => .error "EOF"
            | d :: after =>
              if d == code '}' then .error "missing value after object key"
              else do
                let (v, rest) ← readValue fuel true (d :: after)
                match skipSpace rest with
                | [] => .error cutBetweenTokens
                | e :: tail2 =>
                  if e == code '}' then .ok ([(key, v)], tail2)
                  else if e == code ',' then
                    match skipSpace tail2 with
                    | [] => .error cutBetweenTokens
                    | f :: more2 =>
                      if f == code '}' then .error (invalidChar [e] "looking for beginning of value")
                      else do
                        let (entries, rest) ← readMembers fuel (f :: more2)
                        return ((key, v) :: entries, rest)
                  else .error (invalidChar (e :: tail2) "after object key:value pair")
      else if b == code '[' || b == code '{' then .error nonStringKey
      else if b == code '-' || isDigit b then
        match readNumberText (b :: tail) with
        | .ok _ => .error nonStringKey
        | .error e => .error e
      else if b == code 't' || b == code 'f' || b == code 'n' then
        let word := if b == code 't' then "true" else if b == code 'f' then "false" else "null"
        match readWord word .null (b :: tail) with
        | .ok _ => .error nonStringKey
        | .error e => .error e
      else .error (invalidChar (b :: tail) "looking for beginning of value")

end

/-- Read one JSON document. -/
def decode (t : Text) : Except String JsonTree := do
  let (v, rest) ← readValue (t.size + 2) false t.bytes
  if (skipSpace rest).isEmpty then .ok v else .error "unexpected data after top-level value"

/-! ## Writing -/

/-- A string as a JSON string literal. -/
def quote (t : Text) : Text := Text.ofString t.jsonQuoted

end Json

namespace Eval

/-- Put a JSON document in the heap. Objects keep the first place of a
repeated key and its last value. -/
def ofJson : Nat → JsonTree → Eval Value
  | 0, _ => pure .null
  | fuel + 1, tree =>
    match tree with
    | .null => pure .null
    | .boolean b => pure (.boolean b)
    | .number x => pure (.number x)
    | .string t => pure (.string t)
    | .array els => do
      let vs ← els.mapM (ofJson fuel)
      newArray vs.toArray
    | .object entries => do
      let vs ← entries.mapM fun (k, v) => do return (k, ← ofJson fuel v)
      newObject vs false

/-- Read a JSON text into a value. -/
def decodeJson (t : Text) : Eval (Except String Value) := do
  match Json.decode t with
  | .error e => return .error e
  | .ok tree => return .ok (← ofJson (t.size + 2) tree)

end Eval

namespace Heap

/-- Whether a value is written in objects; functions are left out. -/
def encodable : Value → Bool
  | .closure _ | .native _ => false
  | _ => true

/-- A line break followed by the indent repeated `depth` times, or nothing
without an indent. -/
def jsonBreak (indent : Text) (depth : Nat) : Text :=
  if indent.isEmpty then Text.empty
  else Text.ofString "\n" ++ Text.concat (List.replicate depth indent)

/-- Write a value as JSON: `none` for a value with no JSON form (a function),
an error for a value that contains itself. -/
def encodeJson (h : Heap) (indent : Text) : Nat → Nat → List Value → Value → Except String (Option Text)
  | 0, _, _, _ => .error "circular structure"
  | fuel + 1, depth, seen, v =>
    match v with
    | .null | .nothing => .ok (some (Text.ofString "null"))
    | .boolean b => .ok (some (Text.ofString (if b then "true" else "false")))
    | .number x => .ok (some (if x.isNaN || x.isInf then Text.ofString "null" else Value.numberText x))
    | .string t => .ok (some (Json.quote t))
    | .closure _ | .native _ => .ok none
    | .array r =>
      if onPath seen v then .error "circular structure"
      else
        let els := (h.elements r).toList
        if els.isEmpty then .ok (some (Text.ofString "[]"))
        else do
          let parts ← els.mapM fun el => do
            let t ← encodeJson h indent fuel (depth + 1) (v :: seen) el
            return jsonBreak indent (depth + 1) ++ t.getD (Text.ofString "null")
          return some (Text.concat ([Text.ofString "["] ++ parts.intersperse (Text.ofString ",") ++
            [jsonBreak indent depth, Text.ofString "]"]))
    | .object r =>
      if onPath seen v then .error "circular structure"
      else do
        let entries := (h.object r).entries.toList.filter (fun e => encodable e.2)
        let parts ← entries.mapM fun (k, el) => do
          let t ← encodeJson h indent fuel (depth + 1) (v :: seen) el
          let colon := if indent.isEmpty then Text.ofString ":" else Text.ofString ": "
          return Text.concat [jsonBreak indent (depth + 1), Json.quote k, colon, t.getD Text.empty]
        let close := if parts.isEmpty then Text.empty else jsonBreak indent depth
        return some (Text.concat ([Text.ofString "\x7b"] ++ parts.intersperse (Text.ofString ",") ++
          [close, Text.ofString "\x7d"]))

end Heap

namespace Library

/-- `json.parse(text)`. -/
def jsonParse (args : List Value) : Eval Value := do
  let src ← stringArg "json.parse" args 0
  match ← Eval.decodeJson src with
  | .ok v => return v
  | .error e => Eval.throwMessage ("json.parse: " ++ e)

/-- `json.stringify(value, indent?)`: the indent is a number of spaces (at
most ten) or a string (cut to ten bytes). A number of spaces that is not a
number stops the program: a negative count of repeats. -/
def jsonStringify (args : List Value) : Eval Value := do
  requireArgs "json.stringify" args 1
  if (match argAt args 1 with | .number x => x.isNaN | _ => false) then
    throw (.panicked "strings: negative Repeat count")
  let indent : Text := match argAt args 1 with
    | .number x =>
      let n := if x ≤ 0 then 0 else if x ≥ 10 then 10 else x.toUInt64.toNat
      ⟨List.replicate n 32⟩
    | .string t => ⟨t.bytes.take 10⟩
    | _ => Text.empty
  let h ← Eval.heap
  match h.encodeJson indent h.showFuel 0 [] (argAt args 0) with
  | .error e => Eval.throwMessage ("json.stringify: " ++ e)
  | .ok none => return .null
  | .ok (some t) => return .string t

end Library

end Vernacular
