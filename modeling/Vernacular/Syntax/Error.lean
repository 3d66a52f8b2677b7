import Vernacular.Syntax.Token
import Vernacular.Text.Width
/-!
# Parse errors

A parse error is a message at a 1-based line and rune column, and names the
module file when it comes from an imported module. Shown with its context it
is followed by the offending source line, tabs widened to four spaces, and a
caret under the column: the caret is indented by the display width of the
text before the column, so wide characters move it two columns.
-/

set_option autoImplicit false

namespace Vernacular

/-- A lexical or syntax error. `file` is empty unless the error is in an imported module. -/
structure ParseError where
  message : String
  line : Nat
  column : Nat
  file : String := ""
deriving DecidableEq, Repr, Inhabited

/-- Split characters at every newline; `n` newlines give `n + 1` lines. -/
def splitLines : List Char → List (List Char)
  | [] => [[]]
  | c :: rest =>
    if c == '\n' then [] :: splitLines rest
    else match splitLines rest with
      | [] => [[c]]
      | line :: lines => (c :: line) :: lines

/-- Replace each tab by four spaces. -/
def widenTabs (cs : List Char) : List Char :=
  cs.flatMap fun c => if c == '\t' then [' ', ' ', ' ', ' '] else [c]

/-- A natural number right-aligned in a field of `width` characters. -/
def padLeft (width : Nat) (s : String) : String :=
  String.ofList (List.replicate (width - s.length) ' ') ++ s

namespace ParseError

/-- The error as one line: where, then what. -/
def render (e : ParseError) : String :=
  let place := "[" ++ toString e.line ++ ":" ++ toString e.column ++ "]"
  if e.file.isEmpty then "Parse error at " ++ place ++ ": " ++ e.message
  else "Parse error in " ++ e.file ++ " at " ++ place ++ ": " ++ e.message

/-- The error with the offending line of `source` and a caret under its column.
Errors in imported modules, and lines outside the source, show the plain form. -/
def withContext (e : ParseError) (source : String) : String :=
  let lines := splitLines source.toList
  if !e.file.isEmpty || e.line < 1 || lines.length < e.line then e.render
  else
    let line := ((lines.getD (e.line - 1) []).reverse.dropWhile (· == '\r')).reverse
    let before := if e.column - 1 < line.length then line.take (e.column - 1) else line
    let pad := Unicode.displayWidth (widenTabs before)
    e.render ++ "\n" ++ padLeft 4 (toString e.line) ++ " | " ++ String.ofList (widenTabs line) ++
      "\n     | " ++ String.ofList (List.replicate pad ' ') ++ "^"

end ParseError

end Vernacular
