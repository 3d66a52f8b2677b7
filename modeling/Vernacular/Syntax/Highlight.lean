import Vernacular.Syntax.Lexer
/-!
# Highlighting

The interactive prompt colours a line token by token with terminal escape
sequences: strings green, numbers magenta, booleans and null yellow, and the
other keywords cyan. Everything else, the trivia between tokens, and the rest
of the line after a character the scanner cannot read, is copied through
unchanged. Without colour the line comes back as it was.
-/

set_option autoImplicit false

namespace Vernacular

/-- The terminal colour code a token kind is shown in, if any. -/
def TokenKind.colour? : TokenKind → Option String
  | .string => some "32"
  | .number => some "35"
  | .boolean | .null => some "33"
  | k => if k.isKeyword then some "36" else none

/-- The bytes `[start, stop)` of a byte list. -/
def sliceBytes (bytes : List UInt8) (start stop : Nat) : List UInt8 :=
  (bytes.drop start).take (stop - start)

/-- Text wrapped in a colour escape and a reset. -/
def paint (colour : String) (text : List UInt8) : List UInt8 :=
  (Text.ofString ("\x1b[" ++ colour ++ "m")).bytes ++ text ++ (Text.ofString "\x1b[0m").bytes

/-- A line with its tokens coloured. -/
def highlight (d : Dialect) (colour : Bool) (line : String) : String :=
  let bytes := line.toUTF8.toList
  let tokens := (d.lexicon.scan line).tokens.filter (·.kind != .endOfInput)
  let step (acc : List UInt8 × Nat) (t : Token) : List UInt8 × Nat :=
    let (out, i) := acc
    let gap := if t.start > i then sliceBytes bytes i t.start else []
    let text := sliceBytes bytes t.start t.stop
    let shown := match colour, t.kind.colour? with
      | true, some c => paint c text
      | _, _ => text
    (out ++ gap ++ shown, t.stop)
  let (out, i) := tokens.foldl step ([], 0)
  (Text.mk (out ++ bytes.drop i)).toStringLossy

end Vernacular
