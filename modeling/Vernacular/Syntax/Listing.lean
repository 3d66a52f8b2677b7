import Vernacular.Text.Basic
import Vernacular.Text.Printable
/-!
# Coloured listings

The command shows a parsed program as a coloured listing of its canonical
source. The listing is read the way a highlighter for script sources reads
it: a stack of modes, each with an ordered list of rules, where the first
rule that matches at the current place gives the next token and may push or
pop a mode. A place where no rule matches gives a one-character error token;
a line break met that way outside the root mode drops back to the root mode.

The modes are the root, the place after an operator, an opening bracket or a
keyword where a slash starts a regular expression, the rest of a line after a
slash that does not, a backquoted template, and code inside a template's
`${ }`. Neighbouring tokens of the same kind are merged, empty ones dropped,
and each token is written in the 256-colour escape of its kind followed by a
reset.

Classes of characters are those of ASCII; beyond ASCII, white space is the
Unicode white space and every other printable character counts as a letter.
-/

set_option autoImplicit false

namespace Vernacular

/-- The kinds of token a listing tells apart. -/
inductive ListingToken where
  | text
  | comment
  | lineComment
  | blockComment
  | hashbang
  | keyword
  | declaration
  | reserved
  | constant
  | builtin
  | name
  | float
  | binary
  | octal
  | hex
  | integer
  | punctuation
  | operator
  | doubleQuoted
  | singleQuoted
  | backquoted
  | interpolation
  | regex
  | error
deriving Inhabited, BEq

/-- The terminal escape a kind of token is shown in. -/
def ListingToken.escape : ListingToken → String
  | .text | .punctuation | .builtin => "\x1b[38;5;231m"
  | .comment | .lineComment | .blockComment | .hashbang => "\x1b[38;5;242m"
  | .keyword | .declaration | .reserved | .constant => "\x1b[38;5;81m"
  | .name => "\x1b[38;5;148m"
  | .float | .binary | .octal | .hex | .integer => "\x1b[38;5;141m"
  | .doubleQuoted | .singleQuoted | .backquoted | .interpolation | .regex => "\x1b[38;5;186m"
  | .operator => "\x1b[38;5;197m"
  | .error => "\x1b[38;5;89m\x1b[48;5;232m"

/-- The modes of the listing reader. -/
inductive ListingMode where
  | root
  | regexStart
  | badRegex
  | template
  | templateCode
deriving Inhabited, BEq

/-- What a rule does to the stack of modes. -/
inductive ModeChange where
  | stay
  | push (m : ListingMode)
  | pop
  /-- Pop the current mode and push another. -/
  | swap (m : ListingMode)

/-- Apply a change to the stack of modes, top first. -/
def ModeChange.apply (stack : List ListingMode) : ModeChange → List ListingMode
  | .stay => stack
  | .push m => m :: stack
  | .pop => stack.drop 1
  | .swap m => m :: stack.drop 1

/-- A rule's match: the characters it takes, the kind of token they make,
and the change to the modes. -/
abbrev RuleMatch := Nat × ListingToken × ModeChange

namespace Listing

/-! ## Character classes -/

/-- White space. -/
def isSpace (c : Char) : Bool := Text.isSpaceChar c

/-- An ASCII decimal digit. -/
def isDigit (c : Char) : Bool := '0' ≤ c && c ≤ '9'

/-- A printable character beyond ASCII that is not white space. -/
def isWide (c : Char) : Bool := c.toNat ≥ 128 && !isSpace c && Unicode.isPrintable c

/-- A letter or a number. -/
def isAlnum (c : Char) : Bool :=
  ('a' ≤ c && c ≤ 'z') || ('A' ≤ c && c ≤ 'Z') || isDigit c || isWide c

/-- A character of a word, for word boundaries. -/
def isWordChar (c : Char) : Bool := isAlnum c || c == '_'

/-- A hexadecimal digit. -/
def isHexDigit (c : Char) : Bool :=
  isDigit c || ('a' ≤ c && c ≤ 'f') || ('A' ≤ c && c ≤ 'F')

/-! ## Pieces of rules -/

/-- Whether the characters start with a word. -/
def startsWith (cs pat : List Char) : Bool := pat.isPrefixOf cs

/-- The index of the first occurrence of a pattern. -/
def findFrom (pat : List Char) : List Char → Nat → Option Nat
  | [], i => if pat.isEmpty then some i else none
  | c :: rest, i => if pat.isPrefixOf (c :: rest) then some i else findFrom pat rest (i + 1)

/-- The length up to and including the first line break, if there is one. -/
def throughLineBreak (cs : List Char) : Option Nat := (findFrom ['\n'] cs 0).map (· + 1)

/-- The length of the run of characters with a property. -/
def runLength (p : Char → Bool) (cs : List Char) : Nat := (cs.takeWhile p).length

/-- An exponent: `e` or `E`, an optional sign, and at least one digit. -/
def exponent (cs : List Char) : Option Nat :=
  match cs with
  | e :: rest =>
    if e == 'e' || e == 'E' then
      let signed := match rest with
        | s :: _ => s == '+' || s == '-'
        | [] => false
      let afterSign := if signed then rest.drop 1 else rest
      let digits := runLength isDigit afterSign
      if digits == 0 then none else some (1 + (if signed then 1 else 0) + digits)
    else none
  | [] => none

/-- The span of a quoted string after its opening quote when the plain
reading finds the closing quote: an escaped backslash or quote is skipped,
and the first other quote closes. -/
def quotedForward (q : Char) : List Char → Nat → Option Nat
  | [], _ => none
  | '\\' :: d :: more, n =>
    if d == '\\' || d == q then quotedForward q more (n + 2) else quotedForward q (d :: more) (n + 1)
  | c :: rest, n => if c == q then some (n + 1) else quotedForward q rest (n + 1)
termination_by cs => cs.length

/-- The spans of a quoted string after its opening quote, trying each way of
reading every backslash: the span from here and from one character on. The
first reading that ends in a quote wins, escapes tried before plain
backslashes. -/
def quotedSpans (q : Char) : List Char → Option Nat × Option Nat
  | [] => (none, none)
  | c :: rest =>
    let (fromNext, fromAfterNext) := quotedSpans q rest
    let escaped : Option Nat :=
      if c == '\\' then
        match rest with
        | d :: _ => if d == '\\' || d == q then fromAfterNext.map (· + 2) else none
        | [] => none
      else none
    let plain := if c != q then fromNext.map (· + 1) else none
    let close := if c == q then some 1 else none
    ((escaped.orElse fun _ => plain).orElse fun _ => close, fromNext)

/-- The length of a quoted string starting with its quote. -/
def quoted (q : Char) (cs : List Char) : Option Nat :=
  match cs with
  | c :: rest =>
    if c != q then none
    else match quotedForward q rest 0 with
      | some n => some (n + 1)
      | none => ((quotedSpans q rest).1).map (· + 1)
  | [] => none

/-- The body of a bracketed class in a regular expression, after the `[`:
its length through the closing `]`. -/
def regexClass : List Char → Nat → Option Nat
  | [], _ => none
  | c :: rest, n =>
    if c == ']' then some (n + 1)
    else if c == '\\' then
      match rest with
      | _ :: more => regexClass more (n + 2)
      | [] => none
    else if c == '\n' then none
    else regexClass rest (n + 1)

/-- The body of a regular expression literal after its first slash: the
characters up to where the body cannot go on. -/
def regexBody : List Char → Nat → Nat
  | [], n => n
  | '\\' :: _ :: more, n => regexBody more (n + 2)
  | '\\' :: [], n => n
  | '[' :: rest, n =>
    match regexClass rest 1 with
    | some k => regexBody (rest.drop (k - 1)) (n + k)
    | none => n
  | c :: rest, n => if c == '/' || c == '\n' then n else regexBody rest (n + 1)
termination_by cs => cs.length
decreasing_by
  all_goals simp only [List.length_drop, List.length_cons]
  all_goals omega

/-- A regular expression literal: a slash, a nonempty body, a slash, and
flags that end a word, or no flags before a non-word character. -/
def regexLiteral (cs : List Char) : Option Nat :=
  match cs with
  | '/' :: rest =>
    let body := regexBody rest 0
    if body == 0 then none
    else match rest.drop body with
      | '/' :: after =>
        let flags := runLength (fun c => ['g', 'i', 'm', 'u', 'y'].contains c) after
        let next := (after.drop flags).head?
        let nextIsWord := next.any isWordChar
        if flags > 0 then (if nextIsWord then none else some (body + 2 + flags))
        else if nextIsWord then none else some (body + 2)
      | _ => none
  | _ => none

/-- A name: a letter, number, `$` or `_` first, then letters, numbers and
`$`; `\u` with four hexadecimal digits counts as one character. -/
def nameLength (cs : List Char) : Option Nat :=
  let unicodeEscape (cs : List Char) : Bool :=
    match cs with
    | '\\' :: 'u' :: more => (more.take 4).length == 4 && (more.take 4).all isHexDigit
    | _ => false
  let rec more : Nat → List Char → Nat → Nat
    | 0, _, n => n
    | fuel + 1, cs, n =>
      if unicodeEscape cs then more fuel (cs.drop 6) (n + 6)
      else match cs with
        | c :: rest => if c == '$' || isAlnum c then more fuel rest (n + 1) else n
        | [] => n
  if unicodeEscape cs then some (more cs.length (cs.drop 6) 6)
  else match cs with
    | c :: rest =>
      if c == '$' || c == '_' || isAlnum c then some (more cs.length rest 1) else none
    | [] => none

/-- The word at the front, if it is one of a list: the run of word
characters must be exactly that word. -/
def wordIn (words : List String) (cs : List Char) : Option Nat :=
  let run := cs.takeWhile isWordChar
  if words.contains (String.ofList run) then some run.length else none

/-- Keywords that a regular expression may follow. -/
def keywords : List String :=
  ["for", "in", "while", "do", "break", "return", "continue", "switch", "case", "default", "if",
   "else", "throw", "try", "catch", "finally", "new", "delete", "typeof", "instanceof", "void",
   "yield", "this", "of"]

/-- Declaration keywords. -/
def declarations : List String := ["var", "let", "with", "function"]

/-- Reserved words. -/
def reservedWords : List String :=
  ["abstract", "async", "await", "boolean", "byte", "char", "class", "const", "debugger", "double",
   "enum", "export", "extends", "final", "float", "goto", "implements", "import", "int",
   "interface", "long", "native", "package", "private", "protected", "public", "short", "static",
   "super", "synchronized", "throws", "transient", "volatile"]

/-- Constant words. -/
def constants : List String := ["true", "false", "null", "NaN", "Infinity", "undefined"]

/-- Names of built-in objects. -/
def builtins : List String :=
  ["Array", "Boolean", "Date", "Error", "Function", "Math", "netscape", "Number", "Object",
   "Packages", "RegExp", "String", "Promise", "Proxy", "sun", "decodeURI", "decodeURIComponent",
   "encodeURI", "encodeURIComponent", "eval", "isFinite", "isNaN", "isSafeInteger", "parseFloat",
   "parseInt", "document", "this", "window"]

/-- An operator: the fixed ones first, then a comparison, shift or
arithmetic sign with an optional `=`. -/
def operatorLength (cs : List Char) : Option Nat :=
  let fixed : List (List Char) := [['+', '+'], ['-', '-'], ['~'], ['&', '&'], ['?'], [':'], ['|', '|']]
  match fixed.find? (startsWith cs) with
  | some op => some op.length
  | none =>
    if startsWith cs ['\\', '\n'] then some 1
    else
      let core : Option Nat :=
        if startsWith cs ['<', '<'] then some 2
        else if startsWith cs ['>', '>', '>'] then some 3
        else if startsWith cs ['>', '>'] then some 2
        else if startsWith cs ['=', '='] then some 2
        else if startsWith cs ['='] then some 1
        else if startsWith cs ['!', '='] then some 2
        else if startsWith cs ['!'] then some 1
        else match cs with
          | c :: _ => if ['-', '<', '>', '+', '*', '%', '&', '|', '^', '/'].contains c then some 1
                      else none
          | [] => none
      core.map fun n => if (cs.drop n).head? == some '=' then n + 1 else n

/-! ## Rules of the modes -/

/-- Where the reader stands: the characters left, the one before, and
whether it is at the very start. -/
structure Cursor where
  rest : List Char
  before : Option Char
  atStart : Bool

/-- Comments and white space. -/
def triviaRule (cs : List Char) : Option RuleMatch :=
  let spaces := runLength isSpace cs
  if spaces > 0 then some (spaces, .text, .stay)
  else if startsWith cs ['<', '!', '-', '-'] then some (4, .comment, .stay)
  else if startsWith cs ['/', '/'] then
    (throughLineBreak (cs.drop 2)).map fun n => (n + 2, .lineComment, .stay)
  else if startsWith cs ['/', '*'] then
    (findFrom ['*', '/'] (cs.drop 2) 0).map fun n => (n + 4, .blockComment, .stay)
  else none

/-- The first of a list of ways to match that succeeds. -/
def firstOf : List (Unit → Option RuleMatch) → Option RuleMatch
  | [] => none
  | r :: rest => match r () with
    | some m => some m
    | none => firstOf rest

/-- A number. -/
def numberRule (cs : List Char) : Option RuleMatch :=
  firstOf [
    fun _ =>
      let digits := runLength isDigit cs
      if digits == 0 then none
      else match cs.drop digits with
        | '.' :: rest => some (digits + 1 + runLength isDigit rest, .float, .stay)
        | rest => (exponent rest).map fun n => (digits + n, .float, .stay),
    fun _ => match cs with
      | '0' :: b :: rest =>
        let n := runLength (fun c => c == '0' || c == '1') rest
        if (b == 'b' || b == 'B') && n > 0 then some (n + 2, .binary, .stay) else none
      | _ => none,
    fun _ => match cs with
      | '0' :: o :: rest =>
        let n := runLength (fun c => '0' ≤ c && c ≤ '7') rest
        if (o == 'o' || o == 'O') && n > 0 then some (n + 2, .octal, .stay) else none
      | _ => none,
    fun _ => match cs with
      | '0' :: x :: rest =>
        let n := runLength isHexDigit rest
        if (x == 'x' || x == 'X') && n > 0 then some (n + 2, .hex, .stay) else none
      | _ => none,
    fun _ => match cs with
      | c :: rest =>
        if isDigit c then some (1 + runLength (fun c => isDigit c || c == '_') rest, .integer, .stay)
        else none
      | [] => none,
    fun _ => match cs with
      | '.' :: rest =>
        let digits := runLength isDigit rest
        if digits == 0 then none
        else some (1 + digits + ((exponent (rest.drop digits)).getD 0), .float, .stay)
      | _ => none]

/-- The rules of the root mode. -/
def rootRule (at' : Cursor) : Option RuleMatch :=
  let cs := at'.rest
  firstOf [
    fun _ =>
      if at'.atStart && startsWith cs ['#', '!'] then
        (throughLineBreak (cs.drop 2)).map fun n => (n + 2, .hashbang, .stay)
      else none,
    fun _ =>
      let lineStart := at'.before.isNone || at'.before == some '\n'
      let ahead := match cs with
        | c :: _ => isSpace c || c == '/' || startsWith cs ['<', '!', '-', '-']
        | [] => false
      if lineStart && ahead then some (0, .text, .push .regexStart) else none,
    fun _ => triviaRule cs,
    fun _ => numberRule cs,
    fun _ =>
      if startsWith cs ['.', '.', '.'] then some (3, .punctuation, .stay)
      else if startsWith cs ['=', '>'] then some (2, .punctuation, .stay)
      else none,
    fun _ => (operatorLength cs).map fun n => (n, .operator, .push .regexStart),
    fun _ => match cs with
      | c :: _ =>
        if ['{', '(', '[', ';', ','].contains c then some (1, .punctuation, .push .regexStart)
        else if ['}', ')', ']', '.'].contains c then some (1, .punctuation, .stay)
        else none
      | [] => none,
    fun _ => (wordIn keywords cs).map fun n => (n, .keyword, .push .regexStart),
    fun _ => (wordIn declarations cs).map fun n => (n, .declaration, .push .regexStart),
    fun _ => (wordIn reservedWords cs).map fun n => (n, .reserved, .stay),
    fun _ => (wordIn constants cs).map fun n => (n, .constant, .stay),
    fun _ => (wordIn builtins cs).map fun n => (n, .builtin, .stay),
    fun _ => (nameLength cs).map fun n => (n, .name, .stay),
    fun _ => (quoted '"' cs).map fun n => (n, .doubleQuoted, .stay),
    fun _ => (quoted '\'' cs).map fun n => (n, .singleQuoted, .stay),
    fun _ => if startsWith cs ['`'] then some (1, .backquoted, .push .template) else none]

/-- The rules of a mode. -/
def modeRule (m : ListingMode) (at' : Cursor) : Option RuleMatch :=
  let cs := at'.rest
  match m with
  | .root => rootRule at'
  | .regexStart =>
    firstOf [
      fun _ => triviaRule cs,
      fun _ => (regexLiteral cs).map fun n => (n, .regex, .pop),
      fun _ => if startsWith cs ['/'] then some (0, .text, .swap .badRegex) else none,
      fun _ => some (0, .text, .pop)]
  | .badRegex => if startsWith cs ['\n'] then some (1, .text, .pop) else none
  | .template =>
    if startsWith cs ['`'] then some (1, .backquoted, .pop)
    else if startsWith cs ['\\', '\\'] then some (2, .backquoted, .stay)
    else if startsWith cs ['\\', '`'] then some (2, .backquoted, .stay)
    else if (match cs with | '\\' :: _ :: _ => true | _ => false) then some (2, .backquoted, .stay)
    else if startsWith cs ['$', '{'] then some (2, .interpolation, .push .templateCode)
    else if startsWith cs ['$'] then some (1, .backquoted, .stay)
    else
      let n := runLength (fun c => c != '`' && c != '\\' && c != '$') cs
      if n > 0 then some (n, .backquoted, .stay) else none
  | .templateCode =>
    if startsWith cs ['}'] then some (1, .interpolation, .pop) else rootRule at'

/-- Read tokens until the text or the modes run out. -/
def tokens : Nat → Cursor → List ListingMode → List (ListingToken × List Char) →
    List (ListingToken × List Char)
  | 0, at', _, acc => (acc.reverse) ++ (if at'.rest.isEmpty then [] else [(.error, at'.rest)])
  | fuel + 1, at', stack, acc =>
    match at'.rest, stack with
    | [], _ => acc.reverse
    | rest, [] => acc.reverse ++ [(.error, rest)]
    | c :: more, m :: _ =>
      match modeRule m at' with
      | some (n, kind, change) =>
        let taken := at'.rest.take n
        let next : Cursor :=
          if n == 0 then at' else ⟨at'.rest.drop n, taken.getLast?, false⟩
        tokens fuel next (change.apply stack) ((kind, taken) :: acc)
      | none =>
        if c == '\n' && m != .root then tokens fuel at' [.root] acc
        else tokens fuel ⟨more, some c, false⟩ stack ((.error, [c]) :: acc)

/-- Merge neighbouring tokens of one kind, up to a size, and drop empty ones. -/
def merge (ts : List (ListingToken × List Char)) : List (ListingToken × List Char) :=
  let step (acc : List (ListingToken × List Char)) (t : ListingToken × List Char) :=
    if t.2.isEmpty then acc
    else match acc with
      | (k, cs) :: rest =>
        if k == t.1 && (String.ofList cs).utf8ByteSize < 8192 then (k, cs ++ t.2) :: rest
        else t :: acc
      | [] => [t]
  (ts.foldl step []).reverse

/-- Line breaks as the listing reads them: a carriage return, alone or before
a line feed, becomes a line feed. -/
def normaliseBreaks : List Char → List Char
  | [] => []
  | '\r' :: '\n' :: rest => '\n' :: normaliseBreaks rest
  | '\r' :: rest => '\n' :: normaliseBreaks rest
  | c :: rest => c :: normaliseBreaks rest

end Listing

/-- A coloured listing of a text that ends with a line break. -/
def listing (text : String) : String :=
  let cs := Listing.normaliseBreaks text.toList
  let cs := if cs.getLast? == some '\n' then cs else cs ++ ['\n']
  let ts := Listing.merge (Listing.tokens (4 * cs.length + 8) ⟨cs, none, true⟩ [.root] [])
  String.join (ts.map fun (k, chars) => k.escape ++ String.ofList chars ++ "\x1b[0m")

end Vernacular
