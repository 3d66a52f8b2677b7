import Vernacular.Text.Basic
import Vernacular.Text.Printable
/-!
# Quoted text

Two ways to write a text between double quotes so that the result is
well-formed UTF-8 and shows every character:

* `Text.quoted`, the escaped form used in messages: printable characters stand
  as they are; quotes and backslashes get a backslash; control characters use
  the short escapes `\a \b \f \n \r \t \v` or `\xHH`; other unprintable
  characters use `\uHHHH` or `\UHHHHHHHH`; an ill-formed byte is `\xHH`.
* `Text.jsonQuoted`, a JSON string literal: only quotes, backslashes,
  control characters and the separators U+2028 and U+2029 are escaped, and an
  ill-formed byte becomes U+FFFD.

Hexadecimal digits are lower case in both.
-/

set_option autoImplicit false

namespace Vernacular

/-- `n` in lower-case hexadecimal, padded with zeros to `width` digits. -/
def hexPadded (width n : Nat) : String :=
  let digits := Nat.toDigits 16 n
  String.ofList (List.replicate (width - digits.length) '0' ++ digits)

namespace Text

/-- The escape of one rune in the message form. -/
def escapeRune (c : Char) : String :=
  if c == '"' || c == '\\' then "\\" ++ c.toString
  else if Unicode.isPrintable c then c.toString
  else match c.toNat with
    | 7 => "\\a"
    | 8 => "\\b"
    | 12 => "\\f"
    | 10 => "\\n"
    | 13 => "\\r"
    | 9 => "\\t"
    | 11 => "\\v"
    | n =>
      if n < 32 || n == 127 then "\\x" ++ hexPadded 2 n
      else if n < 0x10000 then "\\u" ++ hexPadded 4 n
      else "\\U" ++ hexPadded 8 n

/-- The escape of one UTF-8 sequence; an ill-formed byte is written `\xHH`. -/
def escapeSequence (piece : Char × List UInt8) : String :=
  match piece.2 with
  | [b] => if b.toNat < 0x80 then escapeRune piece.1 else "\\x" ++ hexPadded 2 b.toNat
  | _ => escapeRune piece.1

/-- The text in double quotes with escapes, as messages show names and tokens. -/
def quoted (t : Text) : String :=
  "\"" ++ String.join ((Utf8.sequences t.bytes).map escapeSequence) ++ "\""

/-- The JSON form of one UTF-8 sequence. -/
def jsonSequence (piece : Char × List UInt8) : String :=
  match piece.2 with
  | [b] =>
    let n := b.toNat
    if 0x80 ≤ n then "\uFFFD"
    else if n == 34 then "\\\""
    else if n == 92 then "\\\\"
    else if n == 8 then "\\b"
    else if n == 12 then "\\f"
    else if n == 10 then "\\n"
    else if n == 13 then "\\r"
    else if n == 9 then "\\t"
    else if n < 32 then "\\u" ++ hexPadded 4 n
    else piece.1.toString
  | _ =>
    if piece.1 == '\u2028' then "\\u2028"
    else if piece.1 == '\u2029' then "\\u2029"
    else piece.1.toString

/-- The text as a JSON string literal. -/
def jsonQuoted (t : Text) : String :=
  "\"" ++ String.join ((Utf8.sequences t.bytes).map jsonSequence) ++ "\""

end Text

/-- A string in double quotes with escapes. -/
def escapedQuote (s : String) : String := (Text.ofString s).quoted

/-! ## Literals without escapes

String literals of the language have no escapes, so a literal is delimited by
the first quote of a preference list that the text does not contain. A text
that contains every quote has no exact literal and gets the first quote. -/

/-- The quote a text is delimited with, from a preference list of ASCII quotes. -/
def Text.delimiter (quotes : List Char) (t : Text) : Char :=
  match quotes.find? (fun q => !t.hasByte (UInt8.ofNat q.toNat)) with
  | some q => q
  | none => quotes.headD '"'

/-- The text between the quote `Text.delimiter` picks. -/
def Text.delimitWith (quotes : List Char) (t : Text) : Text :=
  let q := Text.ofChars [t.delimiter quotes]
  q ++ t ++ q

/-- The source literal of a text: double quote first, then single, then backtick. -/
def Text.sourceLiteral (t : Text) : Text := t.delimitWith ['"', '\'', '`']

/-- The literal of a text inside a displayed container: single quote first,
then double, then backtick. -/
def Text.displayLiteral (t : Text) : Text := t.delimitWith ['\'', '"', '`']

/-- The source literal of a string. -/
def sourceLiteral (s : String) : String :=
  let q := (Text.ofString s).delimiter ['"', '\'', '`']
  q.toString ++ s ++ q.toString

end Vernacular
