import Vernacular.Interpreter.Operators
/-!
# The core globals

`print`, `input`, `format`, `typeof` and `len`.

`print` shows each argument as a session would, except that a top-level
string is shown as it is, then turns the escape sequences `\n \t \r \\ \' \"`
into the characters they name, joins the results with spaces and ends the
line. String literals keep escapes verbatim until they are printed.

`format` fills each `{}` of a template with the text of the next argument;
`\{}` is a literal `{}`, unless the backslash is itself escaped, and a
missing argument leaves a marker that names its position.
-/

set_option autoImplicit false

namespace Vernacular

namespace Library

/-- The byte of an ASCII character. -/
def byte (c : Char) : UInt8 := UInt8.ofNat c.toNat

/-- Expand the escape sequences `\\ \n \t \r \' \"`, left to right. -/
def expandEscapes : List UInt8 → List UInt8
  | [] => []
  | b :: c :: rest =>
    if b == byte '\\' then
      if c == byte '\\' then byte '\\' :: expandEscapes rest
      else if c == byte 'n' then byte '\n' :: expandEscapes rest
      else if c == byte 't' then byte '\t' :: expandEscapes rest
      else if c == byte 'r' then byte '\r' :: expandEscapes rest
      else if c == byte '\'' then byte '\'' :: expandEscapes rest
      else if c == byte '"' then byte '"' :: expandEscapes rest
      else b :: expandEscapes (c :: rest)
    else b :: expandEscapes (c :: rest)
  | [b] => [b]

/-- The text a placeholder is filled with: the argument, or a marker naming
its position. -/
def placeholderText (args : List Text) (next : Nat) : Text :=
  match args[next]? with
  | some t => t
  | none => Text.ofString (" <" ++ toString (next + 1) ++ "th parameter expected> ")

/-- The texts `format` produces from a template, given the byte before the
cursor and the number of placeholders filled so far. -/
def fillTemplate (args : List Text) : Option UInt8 → List UInt8 → Nat → List Text
  | _, [], _ => []
  | prev, b :: rest, next =>
    if b == byte '\\' && [byte '{', byte '}'].isPrefixOf rest then
      if prev != some (byte '\\') then
        Text.ofString "\x7b\x7d" :: fillTemplate args (some (byte '}')) (rest.drop 2) next
      else placeholderText args next :: fillTemplate args (some (byte '}')) (rest.drop 2) (next + 1)
    else if b == byte '{' && rest.head? == some (byte '}') then
      placeholderText args next :: fillTemplate args (some (byte '}')) (rest.drop 1) (next + 1)
    else ⟨[b]⟩ :: fillTemplate args (some b) rest next
termination_by _ bytes _ => bytes.length
decreasing_by all_goals simp only [List.length_drop, List.length_cons]; omega

/-- Fill a template. -/
def fillFormat (template : Text) (args : List Text) : Text :=
  Text.concat (fillTemplate args none template.bytes 0)

/-- `print(...)`. -/
def print (args : List Value) : Eval Value := do
  let h ← Eval.heap
  let parts := args.map fun v => (⟨expandEscapes (h.printed v).bytes⟩ : Text)
  Eval.writeOut (Text.joinWith (Text.ofString " ") parts ++ Text.ofString "\n")
  return .nothing

/-- Read one line through a buffered reader: up to and including the first
newline, or what is left at the end of input. Reports whether the end of
input was reached. -/
def readLine (reader : Nat) : Eval (List UInt8 × Bool) := do
  let m ← get
  let rec go : Nat → List UInt8 → List UInt8 → List UInt8 → List UInt8 × List UInt8 × List UInt8 × Bool
    | 0, acc, buf, input => (acc ++ buf, [], input, true)
    | fuel + 1, acc, buf, input =>
      match buf.findIdx? (· == byte '\n') with
      | some i => (acc ++ buf.take (i + 1), buf.drop (i + 1), input, false)
      | none =>
        if buf.length ≥ 4096 then go fuel (acc ++ buf) [] input
        else if input.isEmpty then (acc ++ buf, [], [], true)
        else
          let n := 4096 - buf.length
          go fuel acc (buf ++ input.take n) (input.drop n)
  let buf := m.readers.getD reader []
  let (line, buf, input, atEnd) := go (m.stdin.length + buf.length + 2) [] buf m.stdin
  set { m with readers := m.readers.set! reader buf, stdin := input }
  return (line, atEnd)

/-- `input(query?)`: show the query, read a line and drop its line ending;
`null` at the end of input. -/
def input (reader : Nat) (args : List Value) : Eval Value := do
  let query ← match args with
    | [] => pure Text.empty
    | q :: _ => Eval.text q
  Eval.writeOut query
  let (line, atEnd) ← readLine reader
  if atEnd && line.isEmpty then return .null
  let trimmed := (line.reverse.dropWhile (fun b => b == byte '\n' || b == byte '\r')).reverse
  return .string ⟨trimmed⟩

/-- `format(template, ...)`. -/
def format (args : List Value) : Eval Value := do
  match argAt args 0 with
  | .string template =>
    let h ← Eval.heap
    return .string (fillFormat template ((args.drop 1).map h.text))
  | _ => return .null

/-- `typeof(value)`. -/
def typeOf (args : List Value) : Eval Value := do
  requireArgs "typeof" args 1
  return .string (Text.ofString (argAt args 0).typeName)

/-- `len(value)`: runes of a string, elements of an array, keys of an object. -/
def length (args : List Value) : Eval Value := do
  requireArgs "len" args 1
  let h ← Eval.heap
  match argAt args 0 with
  | .string t => return .number t.runeCount.toFloat
  | .array r => return .number (h.elements r).size.toFloat
  | .object r => return .number (h.object r).entries.size.toFloat
  | v => Eval.throwMessage ("len does not support type " ++ v.typeName)

end Library

end Vernacular
