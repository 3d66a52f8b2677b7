/-!
# Scanning YAML

The scanner turns a YAML stream into tokens on demand. Indentation is made
explicit: a block collection opens with a start token when a line is indented
further and closes with an end token when the indentation falls back. A
*simple key* is a scalar or flow collection that may turn out to be a mapping
key: it is remembered where it starts, and when a `:` follows on the same line
within 1024 characters, a key token (and, at a new indentation, a mapping start
token) is inserted before it.

The scanner runs ahead of the reader: a token is handed out only when at
least two more tokens follow it and no simple key is still undecided at it.
Errors therefore surface at the same point of the stream whichever way the
reader asks for tokens.

A `%` at the start of a line begins a directive, `%YAML major.minor` or
`%TAG handle prefix`, which takes the rest of its line.

Marks count characters; lines and columns are zero-based.
-/

set_option autoImplicit false

namespace Vernacular.Yaml

/-- A position in a stream: characters read, and the zero-based line and column. -/
structure Mark where
  index : Nat
  line : Nat
  column : Nat
deriving Inhabited, Repr, BEq

/-- How a scalar was written. -/
inductive ScalarStyle where
  | plain
  | singleQuoted
  | doubleQuoted
  | literal
  | folded
deriving DecidableEq, Inhabited, Repr

/-- The kinds of tokens. -/
inductive TokenSort where
  | streamStart | streamEnd | documentStart | documentEnd
  | blockSequenceStart | blockMappingStart | blockEnd
  | flowSequenceStart | flowSequenceEnd | flowMappingStart | flowMappingEnd
  | blockEntry | flowEntry | key | value | aliasRef | anchor | tag | scalar
  | versionDirective | tagDirective
deriving DecidableEq, Inhabited, Repr

/-- A token with its span; scalars, anchors, aliases and tags carry their
text. A tag carries its handle (`!`, `!!`, a named `!name!`, or nothing) and
its suffix as the text. A `%YAML` directive carries its version as
`major.minor`, and a `%TAG` directive its handle and its prefix as the text. -/
structure Token where
  sort : TokenSort
  start : Mark
  stop : Mark
  text : String
  style : ScalarStyle
  handle : String
deriving Inhabited

/-- Why a stream cannot be read: the problem, where it was found, and the mark
of the construct it was found in. -/
structure Problem where
  fromScanner : Bool
  context : Mark
  problem : String
  place : Mark
deriving Inhabited

/-- The message of a problem. The line shown is the context's, else the
problem's; it is shown one-based for scanning problems and zero-based for
structural ones, and not at all when it is zero. -/
def Problem.message (p : Problem) : String :=
  let shift := if p.fromScanner then 1 else 0
  let line :=
    if p.context.line != 0 then p.context.line + shift
    else if p.place.line != 0 then p.place.line + shift
    else 0
  "yaml: " ++ (if line != 0 then "line " ++ toString line ++ ": " else "") ++ p.problem

/-- A place where a simple key may start. -/
structure SimpleKey where
  possible : Bool
  required : Bool
  tokenNumber : Nat
  mark : Mark
deriving Inhabited

/-- The scanner state. `tokens` holds every token produced so far and `head`
is the number the reader has taken. `keys` has one entry per flow level, the
innermost first. -/
structure Scanner where
  input : Array Char
  mark : Mark
  tokens : Array Token
  head : Nat
  started : Bool
  indent : Int
  indents : List Int
  keyAllowed : Bool
  keys : List SimpleKey
  flowLevel : Nat

/-- A scanner at the start of a stream. -/
def Scanner.init (source : String) : Scanner :=
  ⟨source.toList.toArray, ⟨0, 0, 0⟩, #[], 0, false, -1, [], false, [], 0⟩

/-- The character `k` places after the cursor; the end of the stream reads as NUL. -/
def Scanner.charAt (s : Scanner) (k : Nat) : Char := s.input.getD (s.mark.index + k) '\x00'

/-- Scanning steps. -/
abbrev ScanM := StateT Scanner (Except Problem)

/-! ## Characters -/

/-- A space or a tab. -/
def isSpaceOrTab (c : Char) : Bool := c == ' ' || c == '\t'

/-- A line break. -/
def isLineBreak (c : Char) : Bool :=
  c == '\r' || c == '\n' || c == '\x85' || c == '\u2028' || c == '\u2029'

/-- The end of the stream. -/
def isEnd (c : Char) : Bool := c == '\x00'

/-- A blank, a line break or the end of the stream. -/
def isBlankOrEnd (c : Char) : Bool := isSpaceOrTab c || isLineBreak c || isEnd c

/-- Characters of anchor and alias names. -/
def isNameChar (c : Char) : Bool :=
  ('0' ≤ c && c ≤ '9') || ('a' ≤ c && c ≤ 'z') || ('A' ≤ c && c ≤ 'Z') || c == '_' || c == '-'

/-- Hexadecimal digits and their values. -/
def hexDigit? (c : Char) : Option Nat :=
  if '0' ≤ c && c ≤ '9' then some (c.toNat - '0'.toNat)
  else if 'a' ≤ c && c ≤ 'f' then some (c.toNat - 'a'.toNat + 10)
  else if 'A' ≤ c && c ≤ 'F' then some (c.toNat - 'A'.toNat + 10)
  else none

/-- Characters a stream may contain. -/
def isPrintable (c : Char) : Bool :=
  let n := c.toNat
  n == 0x9 || n == 0xA || n == 0xD || (0x20 ≤ n && n ≤ 0x7E) || n == 0x85 ||
    (0xA0 ≤ n && n ≤ 0xD7FF) || (0xE000 ≤ n && n ≤ 0xFFFD) || (0x10000 ≤ n && n ≤ 0x10FFFF)

/-! ## Moving the cursor -/

namespace Scan

/-- The character at the cursor. -/
def cur : ScanM Char := do return (← get).charAt 0

/-- The character `k` places ahead. -/
def ahead (k : Nat) : ScanM Char := do return (← get).charAt k

/-- Step over one character of a line. -/
def advance : ScanM Unit :=
  modify fun s => { s with mark := ⟨s.mark.index + 1, s.mark.line, s.mark.column + 1⟩ }

/-- Step over a line break; a carriage return and line feed count as one. -/
def advanceLine : ScanM Unit :=
  modify fun s =>
    if s.charAt 0 == '\r' && s.charAt 1 == '\n' then
      { s with mark := ⟨s.mark.index + 2, s.mark.line + 1, 0⟩ }
    else if isLineBreak (s.charAt 0) then
      { s with mark := ⟨s.mark.index + 1, s.mark.line + 1, 0⟩ }
    else s

/-- Copy the character at the cursor. -/
def readChar (acc : Array Char) : ScanM (Array Char) := do
  let c ← cur
  advance
  return acc.push c

/-- Copy a line break, normalised to a line feed unless it is a line or
paragraph separator. -/
def readBreak (acc : Array Char) : ScanM (Array Char) := do
  let c ← cur
  if c == '\u2028' || c == '\u2029' then
    advanceLine
    return acc.push c
  else if isLineBreak c then
    advanceLine
    return acc.push '\n'
  else return acc

/-- Fail with a scanning problem found at the cursor. -/
def fail {α : Type} (context : Mark) (problem : String) : ScanM α := fun s =>
  .error ⟨true, context, problem, s.mark⟩

/-- Add a token at the end of the queue, or at a given place in it. -/
def insertToken (place : Option Nat) (t : Token) : ScanM Unit :=
  modify fun s =>
    match place with
    | none => { s with tokens := s.tokens.push t }
    | some n => { s with tokens := (s.tokens.extract 0 n).push t ++ s.tokens.extract n s.tokens.size }

/-- A token without text. -/
def bare (sort : TokenSort) (start stop : Mark) : Token := ⟨sort, start, stop, "", .plain, ""⟩

/-! ## Simple keys -/

/-- Forget the simple key of the current flow level; a required one is a problem. -/
def removeSimpleKey : ScanM Unit := do
  let s ← get
  match s.keys with
  | k :: rest =>
    if k.possible then
      if k.required then fail k.mark "could not find expected ':'"
      else set { s with keys := { k with possible := false } :: rest }
  | [] => pure ()

/-- Remember that a simple key may start at the cursor. -/
def saveSimpleKey : ScanM Unit := do
  let s ← get
  let required := s.flowLevel == 0 && s.indent == (s.mark.column : Int)
  if s.keyAllowed then
    removeSimpleKey
    let key : SimpleKey := ⟨true, required, s.tokens.size, s.mark⟩
    modify fun s => { s with keys := match s.keys with
      | _ :: rest => key :: rest
      | [] => [key] }

/-- Whether a simple key can still be completed: it must be on the cursor's
line and at most 1024 characters back. A required key that can no longer be
completed is a problem. -/
def keyValid (k : SimpleKey) : ScanM Bool := do
  if !k.possible then return false
  let s ← get
  if k.mark.line < s.mark.line || k.mark.index + 1024 < s.mark.index then
    if k.required then fail k.mark "could not find expected ':'"
    modify fun s => { s with keys := s.keys.map fun j =>
      if j.possible && j.tokenNumber == k.tokenNumber then { j with possible := false } else j }
    return false
  return true

/-- Enter a flow collection. -/
def increaseFlowLevel : ScanM Unit :=
  modify fun s => { s with keys := ⟨false, false, 0, ⟨0, 0, 0⟩⟩ :: s.keys,
                           flowLevel := s.flowLevel + 1 }

/-- Leave a flow collection. -/
def decreaseFlowLevel : ScanM Unit :=
  modify fun s =>
    if s.flowLevel > 0 then { s with flowLevel := s.flowLevel - 1, keys := s.keys.drop 1 } else s

/-! ## Indentation -/

/-- Open a block collection when `column` is indented further than the current level. -/
def rollIndent (column : Int) (place : Option Nat) (sort : TokenSort) (mark : Mark) :
    ScanM Unit := do
  let s ← get
  if s.flowLevel == 0 && s.indent < column then
    set { s with indents := s.indent :: s.indents, indent := column }
    insertToken place (bare sort mark mark)

/-- Close the block collections indented further than `column`. -/
def unrollIndent : Nat → Int → ScanM Unit
  | 0, _ => pure ()
  | fuel + 1, column => do
    let s ← get
    if s.flowLevel == 0 && s.indent > column then
      match s.indents with
      | previous :: rest =>
        set { s with indent := previous, indents := rest,
                     tokens := s.tokens.push (bare .blockEnd s.mark s.mark) }
        unrollIndent fuel column
      | [] => pure ()

/-! ## Trivia -/

/-- Step over blanks: spaces always, tabs only where a key cannot start a
block line. -/
def skipBlanks : Nat → ScanM Unit
  | 0 => pure ()
  | fuel + 1 => do
    let s ← get
    let c := s.charAt 0
    if c == ' ' || (c == '\t' && (s.flowLevel > 0 || !s.keyAllowed)) then
      advance
      skipBlanks fuel

/-- Step over the rest of a comment. -/
def skipComment : Nat → ScanM Unit
  | 0 => pure ()
  | fuel + 1 => do
    let c ← cur
    if !(isLineBreak c || isEnd c) then
      advance
      skipComment fuel

/-- Step over blanks, comments and line breaks up to the next token. A line
break in the block context allows a simple key again. -/
def skipTrivia : Nat → ScanM Unit
  | 0 => pure ()
  | fuel + 1 => do
    let s ← get
    if s.mark.column == 0 && s.charAt 0 == '\uFEFF' then advance
    skipBlanks s.input.size
    if (← cur) == '#' then skipComment s.input.size
    if isLineBreak (← cur) then
      advanceLine
      if (← get).flowLevel == 0 then modify fun s => { s with keyAllowed := true }
      skipTrivia fuel

/-! ## Indicators -/

/-- The start of the stream. -/
def fetchStreamStart : ScanM Unit := do
  modify fun s => { s with indent := -1, keys := [⟨false, false, 0, ⟨0, 0, 0⟩⟩],
                           keyAllowed := true, started := true }
  let s ← get
  insertToken none (bare .streamStart s.mark s.mark)

/-- The end of the stream closes every block collection. -/
def fetchStreamEnd : ScanM Unit := do
  modify fun s =>
    if s.mark.column != 0 then { s with mark := ⟨s.mark.index, s.mark.line + 1, 0⟩ } else s
  unrollIndent ((← get).indents.length + 1) (-1)
  removeSimpleKey
  modify fun s => { s with keyAllowed := false }
  let s ← get
  insertToken none (bare .streamEnd s.mark s.mark)

/-- A `---` or `...` line. -/
def fetchDocumentIndicator (sort : TokenSort) : ScanM Unit := do
  unrollIndent ((← get).indents.length + 1) (-1)
  removeSimpleKey
  modify fun s => { s with keyAllowed := false }
  let start := (← get).mark
  advance; advance; advance
  insertToken none (bare sort start (← get).mark)

/-- A `[` or `{`, which may start a simple key. -/
def fetchFlowStart (sort : TokenSort) : ScanM Unit := do
  saveSimpleKey
  increaseFlowLevel
  modify fun s => { s with keyAllowed := true }
  let start := (← get).mark
  advance
  insertToken none (bare sort start (← get).mark)

/-- A `]` or `}`. -/
def fetchFlowEnd (sort : TokenSort) : ScanM Unit := do
  removeSimpleKey
  decreaseFlowLevel
  modify fun s => { s with keyAllowed := false }
  let start := (← get).mark
  advance
  insertToken none (bare sort start (← get).mark)

/-- A `,` between flow entries. -/
def fetchFlowEntry : ScanM Unit := do
  removeSimpleKey
  modify fun s => { s with keyAllowed := true }
  let start := (← get).mark
  advance
  insertToken none (bare .flowEntry start (← get).mark)

/-- A `-` that starts a block sequence entry. -/
def fetchBlockEntry : ScanM Unit := do
  let s ← get
  if s.flowLevel == 0 then
    if !s.keyAllowed then fail s.mark "block sequence entries are not allowed in this context"
    rollIndent s.mark.column none .blockSequenceStart s.mark
  removeSimpleKey
  modify fun s => { s with keyAllowed := true }
  let start := (← get).mark
  advance
  insertToken none (bare .blockEntry start (← get).mark)

/-- A `?` that starts a complex key. -/
def fetchKey : ScanM Unit := do
  let s ← get
  if s.flowLevel == 0 then
    if !s.keyAllowed then fail s.mark "mapping keys are not allowed in this context"
    rollIndent s.mark.column none .blockMappingStart s.mark
  removeSimpleKey
  modify fun s => { s with keyAllowed := s.flowLevel == 0 }
  let start := (← get).mark
  advance
  insertToken none (bare .key start (← get).mark)

/-- A `:`. After a simple key it inserts the key token before the key, and a
mapping start if the key opens a new indentation level. -/
def fetchValue : ScanM Unit := do
  let s ← get
  let top := s.keys.headD ⟨false, false, 0, ⟨0, 0, 0⟩⟩
  if ← keyValid top then
    insertToken (some top.tokenNumber) (bare .key top.mark top.mark)
    rollIndent top.mark.column (some top.tokenNumber) .blockMappingStart top.mark
    modify fun s => { s with keyAllowed := false, keys := match s.keys with
      | k :: rest => { k with possible := false } :: rest
      | [] => [] }
  else
    let s ← get
    if s.flowLevel == 0 then
      if !s.keyAllowed then fail s.mark "mapping values are not allowed in this context"
      rollIndent s.mark.column none .blockMappingStart s.mark
    modify fun s => { s with keyAllowed := s.flowLevel == 0 }
  let start := (← get).mark
  advance
  insertToken none (bare .value start (← get).mark)

/-- Read a run of name characters. -/
def readName : Nat → Array Char → ScanM (Array Char)
  | 0, acc => pure acc
  | fuel + 1, acc => do
    if isNameChar (← cur) then readName fuel (← readChar acc) else pure acc

/-- An anchor `&name` or an alias `*name`. -/
def fetchAnchor (sort : TokenSort) : ScanM Unit := do
  saveSimpleKey
  modify fun s => { s with keyAllowed := false }
  let start := (← get).mark
  advance
  let name ← readName (← get).input.size #[]
  let c ← cur
  if name.isEmpty || !(isBlankOrEnd c || ['?', ':', ',', ']', '}', '%', '@'].contains c || c == '`') then
    fail start "did not find expected alphabetic or numeric character"
  insertToken none ⟨sort, start, (← get).mark, String.ofList name.toList, .plain, ""⟩

/-- Characters of a tag URI: name characters and the URI punctuation; inside
`!<...>` also `,`, `[` and `]`. -/
def isUriChar (verbatim : Bool) (c : Char) : Bool :=
  isNameChar c ||
    [';', '/', '?', ':', '@', '&', '=', '+', '$', '.', '%', '!', '~', '*', '\'', '(', ')'].contains c ||
    (verbatim && (c == ',' || c == '[' || c == ']'))

/-- The length of a UTF-8 sequence from its first byte; zero for a byte that
cannot start one. -/
def utf8Width (b : Nat) : Nat :=
  if b < 0x80 then 1
  else if 0xC0 ≤ b && b < 0xE0 then 2
  else if 0xE0 ≤ b && b < 0xF0 then 3
  else if 0xF0 ≤ b && b < 0xF8 then 4
  else 0

/-- Read the `%XX` escapes of one UTF-8 character of a tag URI. `left` is
the number of bytes still to read, or `none` before the first. -/
def readUriEscapes (start : Mark) : Nat → Option Nat → Array UInt8 → ScanM (Array UInt8)
  | 0, _, acc => pure acc
  | fuel + 1, left, acc => do
    let s ← get
    let octet? :=
      match hexDigit? (s.charAt 1), hexDigit? (s.charAt 2) with
      | some h, some l => if s.charAt 0 == '%' then some (16 * h + l) else none
      | _, _ => none
    match octet? with
    | none => fail start "did not find URI escaped octet"
    | some octet =>
      let width ← match left with
        | none =>
          if utf8Width octet == 0 then fail start "found an incorrect leading UTF-8 octet"
          else pure (utf8Width octet)
        | some n =>
          if 0x80 ≤ octet && octet < 0xC0 then pure n
          else fail start "found an incorrect trailing UTF-8 octet"
      advance; advance; advance
      let acc := acc.push (UInt8.ofNat octet)
      if width ≤ 1 then pure acc else readUriEscapes start fuel (some (width - 1)) acc

/-- Read the characters of a tag URI, decoding its escapes, after `acc`. -/
def readTagUri (verbatim : Bool) (start : Mark) : Nat → Array UInt8 → ScanM (Array UInt8)
  | 0, acc => pure acc
  | fuel + 1, acc => do
    let c ← cur
    if !isUriChar verbatim c then pure acc
    else if c == '%' then readTagUri verbatim start fuel (← readUriEscapes start 4 none acc)
    else
      advance
      readTagUri verbatim start fuel (acc.push c.toNat.toUInt8)

/-- The text of the bytes of a tag; bytes that are not UTF-8 are read one
character each. -/
def tagText (bytes : Array UInt8) : String :=
  (String.fromUTF8? ⟨bytes⟩).getD (String.ofList (bytes.toList.map fun b => Char.ofNat b.toNat))

/-- A tag: `!<uri>` verbatim, `!handle!suffix` with a named, secondary or
primary handle, `!suffix` with the primary handle, or `!` alone. It must be
followed by a blank, or by a comma in a flow collection. -/
def fetchTag : ScanM Unit := do
  saveSimpleKey
  modify fun s => { s with keyAllowed := false }
  let start := (← get).mark
  let fuel := (← get).input.size + 1
  let (handle, suffix) ← do
    if (← ahead 1) == '<' then
      advance; advance
      let uri ← readTagUri true start fuel #[]
      if uri.isEmpty then fail start "did not find expected tag URI"
      if (← cur) != '>' then fail start "did not find the expected '>'"
      advance
      pure ("", tagText uri)
    else
      advance
      let name ← readName fuel #[]
      if (← cur) == '!' then
        advance
        let uri ← readTagUri false start fuel #[]
        if uri.isEmpty then fail start "did not find expected tag URI"
        pure ("!" ++ String.ofList name.toList ++ "!", tagText uri)
      else
        let uri ← readTagUri false start fuel (name.map (·.toNat.toUInt8))
        if uri.isEmpty then pure ("", "!") else pure ("!", tagText uri)
  let s ← get
  let c := s.charAt 0
  if !isBlankOrEnd c && !(s.flowLevel > 0 && c == ',') then
    fail start "did not find expected whitespace or line break"
  insertToken none ⟨.tag, start, s.mark, suffix, .plain, handle⟩

/-! ## Scalars -/

/-- Whether the cursor is at a `---` or `...` line start. -/
def atDocumentIndicator : ScanM Bool := do
  let s ← get
  let c := s.charAt 0
  return s.mark.column == 0 && (c == '-' || c == '.') && s.charAt 1 == c && s.charAt 2 == c &&
    isBlankOrEnd (s.charAt 3)

/-- Line folding: a single line break between two pieces of a scalar becomes
a space, and further breaks are kept. -/
def fold (leadingBreak trailingBreaks : Array Char) : Array Char :=
  if leadingBreak.toList.head? == some '\n' then
    if trailingBreaks.isEmpty then #[' '] else trailingBreaks
  else leadingBreak ++ trailingBreaks

/-- The pieces of a scalar being read: its text, the blanks and breaks read
after the last piece, and whether a line break was among them. -/
structure Folding where
  text : Array Char
  blanks : Array Char
  leadingBreak : Array Char
  trailingBreaks : Array Char
  broken : Bool

/-- Consume blanks and line breaks between the pieces of a scalar. -/
def readGap (plainStart : Option (Mark × Nat)) : Nat → Folding → ScanM Folding
  | 0, f => pure f
  | fuel + 1, f => do
    let c ← cur
    if isSpaceOrTab c then
      match plainStart with
      | some (start, indent) =>
        if f.broken && (← get).mark.column < indent && c == '\t' then
          fail start "found a tab character that violates indentation"
      | none => pure ()
      if f.broken then
        advance
        readGap plainStart fuel f
      else readGap plainStart fuel { f with blanks := ← readChar f.blanks }
    else if isLineBreak c then
      if f.broken then readGap plainStart fuel { f with trailingBreaks := ← readBreak f.trailingBreaks }
      else readGap plainStart fuel { f with blanks := #[], leadingBreak := ← readBreak #[], broken := true }
    else pure f

/-- Add the gap before the next piece of a scalar. -/
def Folding.join (f : Folding) : Folding :=
  if f.broken then
    { f with text := f.text ++ fold f.leadingBreak f.trailingBreaks, leadingBreak := #[],
             trailingBreaks := #[], broken := false }
  else { f with text := f.text ++ f.blanks, blanks := #[] }

/-- Read the escape after a backslash in a double-quoted scalar. -/
def readEscape (start : Mark) (text : Array Char) : ScanM (Array Char) := do
  let e ← ahead 1
  let simple : Option Char :=
    match e with
    | '0' => some '\x00' | 'a' => some '\x07' | 'b' => some '\x08' | 't' => some '\t'
    | '\t' => some '\t' | 'n' => some '\n' | 'v' => some '\x0b' | 'f' => some '\x0c'
    | 'r' => some '\r' | 'e' => some '\x1b' | ' ' => some ' ' | '"' => some '"'
    | '\'' => some '\'' | '\\' => some '\\' | 'N' => some '\x85' | '_' => some '\xa0'
    | 'L' => some '\u2028' | 'P' => some '\u2029' | '/' => some '/'
    | _ => none
  let width := match e with | 'x' => 2 | 'u' => 4 | 'U' => 8 | _ => 0
  match simple with
  | some c =>
    advance; advance
    return text.push c
  | none =>
    if width == 0 then fail start "found unknown escape character"
    advance; advance
    let s ← get
    let digits := (List.range width).map fun k => hexDigit? (s.charAt k)
    if digits.any Option.isNone then fail start "did not find expected hexdecimal number"
    let code := digits.foldl (fun acc d => acc * 16 + d.getD 0) 0
    if (0xD800 ≤ code && code ≤ 0xDFFF) || code > 0x10FFFF then
      fail start "found invalid Unicode character escape code"
    for _ in List.range width do advance
    return text.push (Char.ofNat code)

/-- Read the characters of a quoted scalar up to a blank, a break or the
closing quote. Returns the text and whether an escaped line break ended it. -/
def readQuotedRun (single : Bool) (start : Mark) : Nat → Array Char → ScanM (Array Char × Bool)
  | 0, text => pure (text, false)
  | fuel + 1, text => do
    let c ← cur
    let d ← ahead 1
    if isBlankOrEnd c then pure (text, false)
    else if single && c == '\'' && d == '\'' then
      advance; advance
      readQuotedRun single start fuel (text.push '\'')
    else if single && c == '\'' then pure (text, false)
    else if !single && c == '"' then pure (text, false)
    else if !single && c == '\\' && isLineBreak d then
      advance
      advanceLine
      pure (text, true)
    else if !single && c == '\\' then
      readQuotedRun single start fuel (← readEscape start text)
    else readQuotedRun single start fuel (← readChar text)

/-- Read a quoted scalar after its opening quote. -/
def readQuoted (single : Bool) (start : Mark) : Nat → Folding → ScanM (Array Char)
  | 0, f => pure f.text
  | fuel + 1, f => do
    if ← atDocumentIndicator then fail start "found unexpected document indicator"
    if isEnd (← cur) then fail start "found unexpected end of stream"
    let (text, escapedBreak) ← readQuotedRun single start (← get).input.size f.text
    let c ← cur
    if (single && c == '\'') || (!single && c == '"') then pure text
    else
      let f : Folding := ⟨text, #[], #[], #[], escapedBreak⟩
      let f ← readGap none (← get).input.size f
      readQuoted single start fuel f.join

/-- A single- or double-quoted scalar. -/
def fetchQuoted (single : Bool) : ScanM Unit := do
  saveSimpleKey
  modify fun s => { s with keyAllowed := false }
  let start := (← get).mark
  advance
  let text ← readQuoted single start ((← get).input.size + 1) ⟨#[], #[], #[], #[], false⟩
  advance
  insertToken none ⟨.scalar, start, (← get).mark, String.ofList text.toList,
    if single then .singleQuoted else .doubleQuoted, ""⟩

/-- Whether a character ends a piece of a plain scalar. -/
def endsPlain (flow : Bool) (c d : Char) : Bool :=
  (c == ':' && isBlankOrEnd d) || (flow && (c == ',' || c == '[' || c == ']' || c == '{' || c == '}'))

/-- Read one piece of a plain scalar, joining the gap before it. -/
def readPlainRun : Nat → Folding → Mark → ScanM (Folding × Mark)
  | 0, f, stop => pure (f, stop)
  | fuel + 1, f, stop => do
    let s ← get
    let c := s.charAt 0
    if isBlankOrEnd c || endsPlain (s.flowLevel > 0) c (s.charAt 1) then pure (f, stop)
    else
      let f := if f.broken || !f.blanks.isEmpty then f.join else f
      let text ← readChar f.text
      readPlainRun fuel { f with text } (← get).mark

/-- Read a plain scalar: pieces separated by blanks and line breaks, as long
as continuation lines are indented past the enclosing block. -/
def readPlain (start : Mark) (indent : Nat) : Nat → Folding → Mark → ScanM (Folding × Mark)
  | 0, f, stop => pure (f, stop)
  | fuel + 1, f, stop => do
    if ← atDocumentIndicator then return (f, stop)
    if (← cur) == '#' then return (f, stop)
    let (f, stop) ← readPlainRun (← get).input.size f stop
    let c ← cur
    if !(isSpaceOrTab c || isLineBreak c) then return (f, stop)
    let f ← readGap (some (start, indent)) (← get).input.size f
    let s ← get
    if s.flowLevel == 0 && s.mark.column < indent then return (f, stop)
    readPlain start indent fuel f stop

/-- A plain scalar, which may be a simple key. -/
def fetchPlain : ScanM Unit := do
  saveSimpleKey
  modify fun s => { s with keyAllowed := false }
  let s ← get
  let start := s.mark
  let indent := (s.indent + 1).toNat
  let (f, stop) ← readPlain start indent (s.input.size + 1) ⟨#[], #[], #[], #[], false⟩ start
  insertToken none ⟨.scalar, start, stop, String.ofList f.text.toList, .plain, ""⟩
  if f.broken then modify fun s => { s with keyAllowed := true }

/-! ## Block scalars -/

/-- Step over the indentation of a block scalar line: every space while the
indentation is not known yet, else the spaces before it. -/
def skipIndentation (indent : Nat) : Nat → ScanM Unit
  | 0 => pure ()
  | fuel + 1 => do
    let s ← get
    if (indent == 0 || s.mark.column < indent) && s.charAt 0 == ' ' then
      advance
      skipIndentation indent fuel

/-- Read the indentation and the empty lines before the next line of a block
scalar, keeping their line breaks. An indentation not known yet (zero) is
fixed by the deepest of these lines, and is at least one past the enclosing
block and at least one. -/
def readBlockBreaks (start : Mark) (enclosing : Int) :
    Nat → Nat → Nat → Array Char → ScanM (Nat × Array Char)
  | 0, indent, _, breaks => pure (indent, breaks)
  | fuel + 1, indent, deepest, breaks => do
    skipIndentation indent (← get).input.size
    let s ← get
    let deepest := max deepest s.mark.column
    if (indent == 0 || s.mark.column < indent) && s.charAt 0 == '\t' then
      fail start "found a tab character where an indentation space is expected"
    if isLineBreak (s.charAt 0) then
      readBlockBreaks start enclosing fuel indent deepest (← readBreak breaks)
    else if indent == 0 then pure (max 1 (max deepest (enclosing + 1).toNat), breaks)
    else pure (indent, breaks)

/-- A block scalar being read: the text so far, the line break after the
last line, the empty lines since, and whether the last line started with a
blank. -/
structure BlockText where
  text : Array Char
  leadingBreak : Array Char
  trailingBreaks : Array Char
  leadingBlank : Bool

/-- Read the rest of a line. -/
def readRestOfLine : Nat → Array Char → ScanM (Array Char)
  | 0, acc => pure acc
  | fuel + 1, acc => do
    let c ← cur
    if isLineBreak c || isEnd c then pure acc else readRestOfLine fuel (← readChar acc)

/-- Read the lines of a block scalar at its indentation. A folded scalar
joins a line to the one before with a space when neither starts with a blank
and no empty line stands between them; a literal one keeps every break. -/
def readBlockLines (literal : Bool) (start : Mark) (enclosing : Int) (indent : Nat) :
    Nat → BlockText → ScanM BlockText
  | 0, b => pure b
  | fuel + 1, b => do
    let s ← get
    if s.mark.column != indent || isEnd (s.charAt 0) then return b
    let blank := isSpaceOrTab (s.charAt 0)
    let text :=
      if !literal && !b.leadingBlank && !blank && b.leadingBreak.toList.head? == some '\n' then
        if b.trailingBreaks.isEmpty then b.text.push ' ' else b.text
      else b.text ++ b.leadingBreak
    let text ← readRestOfLine s.input.size (text ++ b.trailingBreaks)
    let leadingBreak ← readBreak #[]
    let (_, trailingBreaks) ← readBlockBreaks start enclosing s.input.size indent 0 #[]
    readBlockLines literal start enclosing indent fuel ⟨text, leadingBreak, trailingBreaks, blank⟩

/-- Step over spaces and tabs. -/
def skipSpaceTab : Nat → ScanM Unit
  | 0 => pure ()
  | fuel + 1 => do
    if isSpaceOrTab (← cur) then
      advance
      skipSpaceTab fuel

/-- A literal `|` or folded `>` block scalar. The indicator may be followed
by a chomping indicator (`-` strips the final line break, `+` keeps the
trailing empty lines too) and an indentation indicator from 1 to 9, in
either order, then only a comment on its line. -/
def fetchBlockScalar (literal : Bool) : ScanM Unit := do
  removeSimpleKey
  modify fun s => { s with keyAllowed := true }
  let start := (← get).mark
  advance
  let isDigit (c : Char) : Bool := '0' ≤ c && c ≤ '9'
  let chompOf (c : Char) : Int := if c == '+' then 1 else -1
  let mut chomping : Int := 0
  let mut increment : Nat := 0
  let c ← cur
  if c == '+' || c == '-' then
    chomping := chompOf c
    advance
    let d ← cur
    if isDigit d then
      if d == '0' then fail start "found an indentation indicator equal to 0"
      increment := d.toNat - '0'.toNat
      advance
  else if isDigit c then
    if c == '0' then fail start "found an indentation indicator equal to 0"
    increment := c.toNat - '0'.toNat
    advance
    let d ← cur
    if d == '+' || d == '-' then
      chomping := chompOf d
      advance
  skipSpaceTab (← get).input.size
  if (← cur) == '#' then skipComment (← get).input.size
  let c ← cur
  if !(isLineBreak c || isEnd c) then fail start "did not find expected comment or line break"
  advanceLine
  let s ← get
  let indent :=
    if increment == 0 then 0
    else if s.indent ≥ 0 then s.indent.toNat + increment
    else increment
  let (indent, breaks) ← readBlockBreaks start s.indent s.input.size indent 0 #[]
  let b ← readBlockLines literal start s.indent indent (s.input.size + 1) ⟨#[], #[], breaks, false⟩
  let text := if chomping != -1 then b.text ++ b.leadingBreak else b.text
  let text := if chomping == 1 then text ++ b.trailingBreaks else text
  insertToken none ⟨.scalar, start, (← get).mark, String.ofList text.toList,
    if literal then .literal else .folded, ""⟩

/-! ## Directives -/

/-- A number of a `%YAML` version: one or two digits. -/
def readVersionNumber (start : Mark) : Nat → Nat → Nat → ScanM Nat
  | 0, value, _ => pure value
  | fuel + 1, value, length => do
    let c ← cur
    if '0' ≤ c && c ≤ '9' then
      if length ≥ 2 then fail start "found extremely long version number"
      advance
      readVersionNumber start fuel (value * 10 + (c.toNat - '0'.toNat)) (length + 1)
    else if length == 0 then fail start "did not find expected version number"
    else pure value

/-- The handle of a `%TAG` directive: `!`, `!!` or `!name!`. -/
def readTagHandle (start : Mark) : ScanM String := do
  if (← cur) != '!' then fail start "did not find expected '!'"
  advance
  let name ← readName (← get).input.size #[]
  if (← cur) == '!' then
    advance
    return "!" ++ String.ofList name.toList ++ "!"
  else if name.isEmpty then return "!"
  else fail start "did not find expected '!'"

/-- A directive line. The name is a run of name characters ended by a blank;
only `YAML` and `TAG` are known. Blanks and a comment may follow the value,
and the line break is taken with the directive. -/
def fetchDirective : ScanM Unit := do
  unrollIndent ((← get).indents.length + 1) (-1)
  removeSimpleKey
  modify fun s => { s with keyAllowed := false }
  let start := (← get).mark
  let fuel := (← get).input.size + 1
  advance
  let name := String.ofList (← readName fuel #[]).toList
  if name.isEmpty then fail start "could not find expected directive name"
  if !isBlankOrEnd (← cur) then fail start "found unexpected non-alphabetical character"
  let token : Token ←
    if name == "YAML" then do
      skipBlanks fuel
      let major ← readVersionNumber start 3 0 0
      if (← cur) != '.' then fail start "did not find expected digit or '.' character"
      advance
      let minor ← readVersionNumber start 3 0 0
      pure ⟨.versionDirective, start, (← get).mark, toString major ++ "." ++ toString minor, .plain, ""⟩
    else if name == "TAG" then do
      skipBlanks fuel
      let handle ← readTagHandle start
      if !isSpaceOrTab (← cur) then fail start "did not find expected whitespace"
      skipBlanks fuel
      let pfx ← readTagUri true start fuel #[]
      if pfx.isEmpty then fail start "did not find expected tag URI"
      if !isBlankOrEnd (← cur) then fail start "did not find expected whitespace or line break"
      pure ⟨.tagDirective, start, (← get).mark, tagText pfx, .plain, handle⟩
    else fail start "found unknown directive name"
  skipBlanks fuel
  if (← cur) == '#' then skipComment fuel
  let c ← cur
  if !(isLineBreak c || isEnd c) then fail start "did not find expected comment or line break"
  if isLineBreak c then advanceLine
  insertToken none token

/-! ## Tokens -/

/-- Whether a character may start a plain scalar. -/
def startsPlain (flow : Bool) (c d : Char) : Bool :=
  !(isBlankOrEnd c || ['-', '?', ':', ',', '[', ']', '{', '}', '#', '&', '*', '!', '|', '>', '\'', '"', '%', '@'].contains c || c == '`') ||
    (c == '-' && !isSpaceOrTab d) ||
    (!flow && (c == '?' || c == ':') && !isSpaceOrTab d)

/-- Scan the next token. -/
def fetchNext : ScanM Unit := do
  if !(← get).started then
    fetchStreamStart
    return
  skipTrivia ((← get).input.size + 1)
  unrollIndent ((← get).indents.length + 1) (← get).mark.column
  let s ← get
  let c := s.charAt 0
  let d := s.charAt 1
  let flow := s.flowLevel > 0
  if isEnd c then fetchStreamEnd
  else if s.mark.column == 0 && c == '%' then fetchDirective
  else if s.mark.column == 0 && (c == '-' || c == '.') && (← atDocumentIndicator) then
    fetchDocumentIndicator (if c == '-' then .documentStart else .documentEnd)
  else if c == '[' then fetchFlowStart .flowSequenceStart
  else if c == '{' then fetchFlowStart .flowMappingStart
  else if c == ']' then fetchFlowEnd .flowSequenceEnd
  else if c == '}' then fetchFlowEnd .flowMappingEnd
  else if c == ',' then fetchFlowEntry
  else if c == '-' && isBlankOrEnd d then fetchBlockEntry
  else if c == '?' && (flow || isBlankOrEnd d) then fetchKey
  else if c == ':' && (flow || isBlankOrEnd d) then fetchValue
  else if c == '*' then fetchAnchor .aliasRef
  else if c == '&' then fetchAnchor .anchor
  else if c == '!' then fetchTag
  else if c == '|' && !flow then fetchBlockScalar true
  else if c == '>' && !flow then fetchBlockScalar false
  else if c == '\'' then fetchQuoted true
  else if c == '"' then fetchQuoted false
  else if startsPlain flow c d then fetchPlain
  else fail s.mark "found character that cannot start any token"

/-- Scan until the token at the head can be handed out: two more tokens
follow it and no simple key is undecided at it. -/
def fetchMore : Nat → ScanM Unit
  | 0 => pure ()
  | fuel + 1 => do
    let s ← get
    if s.head + 2 < s.tokens.size then
      match s.keys.find? (fun k => k.possible && k.tokenNumber == s.head) with
      | none => return
      | some k => if !(← keyValid k) then return
    fetchNext
    fetchMore fuel

/-- The token at the head. -/
def peek : ScanM Token := do
  if !(← get).input.all isPrintable then
    throw ⟨false, ⟨0, 0, 0⟩, "control characters are not allowed", ⟨0, 0, 0⟩⟩
  fetchMore (4 * (← get).input.size + 16)
  let s ← get
  return s.tokens.getD s.head (bare .streamEnd s.mark s.mark)

/-- Hand out the token at the head. -/
def skip : ScanM Unit := modify fun s => { s with head := s.head + 1 }

end Scan

end Vernacular.Yaml
