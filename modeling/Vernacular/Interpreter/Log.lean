import Vernacular.Interpreter.Machine
import Vernacular.Time.Civil
/-!
# Debug log lines

With logging on, the interpreter notes events on standard error, one line
each, as `key=value` pairs: the time, the level `DEBUG`, the message, and
the event's attributes in order.

A text value is written as it is unless it is empty or holds a blank, `=`, a
double quote, a control character, a space or unprintable character beyond
ASCII, or the replacement character; then it is written in double quotes with
escapes. A backslash alone needs no quotes.
-/

set_option autoImplicit false

namespace Vernacular

/-- The value of a log attribute. -/
inductive LogValue where
  | text (s : String)
  | flag (b : Bool)

/-- Whether a logged text needs quotes. -/
def logNeedsQuotes (s : String) : Bool :=
  s.isEmpty || s.toList.any fun c =>
    if c.toNat < 128 then
      c == ' ' || c == '=' || c == '"' || c.toNat < 32 || c.toNat == 127
    else c == '\uFFFD' || Text.isSpaceChar c || !Unicode.isPrintable c

/-- A logged text, quoted when it needs to be. -/
def logText (s : String) : String := if logNeedsQuotes s then escapedQuote s else s

/-- How a value is logged. -/
def LogValue.render : LogValue → String
  | .text s => logText s
  | .flag b => if b then "true" else "false"

/-- One debug line, stamped with a time. -/
def debugLine (stamp message : String) (attrs : List (String × LogValue)) : String :=
  "time=" ++ stamp ++ " level=DEBUG msg=" ++ logText message ++
    String.join (attrs.map fun (k, v) => " " ++ k ++ "=" ++ v.render) ++ "\n"

namespace Eval

/-- Note an event on standard error when logging is on. -/
def debug (message : String) (attrs : List (String × LogValue)) : Eval Unit := do
  let m ← get
  if m.logging then
    writeErr (Text.ofString (debugLine (CivilTime.ofMillis m.clock).stamp message attrs))

end Eval

end Vernacular
