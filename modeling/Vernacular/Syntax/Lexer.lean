import Vernacular.Dialect.Basic
import Vernacular.Syntax.Error
/-!
# Scanning

The scanner cuts source text into tokens with a dialect's spellings, skipping
blanks and comments between them. At a token it tries the dialect's symbols
longest first, then a number, a word (keyword or identifier) and a string.
-/

set_option autoImplicit false

namespace Vernacular

/-- The number of UTF-8 bytes of a list of characters. -/
def byteLength (cs : List Char) : Nat := cs.foldl (fun n c => n + c.utf8Size) 0

/-- The line and rune column of a byte offset within `source`: the line is
one more than the newlines before the offset, the column one more than the
runes since the last of them. -/
def positionAt (source : List Char) (offset : Nat) : Position :=
  let rec walk (cs : List Char) (bytes line column : Nat) : Position :=
    match cs with
    | [] => ⟨line, column⟩
    | c :: rest =>
      if bytes < offset then
        if c == '\n' then walk rest (bytes + c.utf8Size) (line + 1) 1
        else walk rest (bytes + c.utf8Size) line (column + 1)
      else ⟨line, column⟩
  walk source 0 1 1

/-- Blanks the scanner skips. -/
def isBlankChar (c : Char) : Bool :=
  c == ' ' || c == '\t' || c == '\n' || c == '\r' || c == '\x0c' || c == '\x0b'

/-- The index of the first occurrence of `*/`, if any. -/
def findCommentEnd : List Char → Option Nat
  | [] => none
  | [_] => none
  | a :: b :: rest =>
    if a == '*' && b == '/' then some 0 else (findCommentEnd (b :: rest)).map (· + 1)

/-- The number of characters of trivia at the start of `cs`. -/
def triviaLength (cs : List Char) : Nat :=
  match cs with
  | [] => 0
  | c :: rest =>
    if isBlankChar c then triviaLength rest + 1
    else if c == '/' then
      match rest with
      | '/' :: body =>
        let tail := body.dropWhile (· != '\n')
        (body.length - tail.length + 2) + triviaLength tail
      | '*' :: body =>
        match findCommentEnd body with
        | some at_ => at_ + 4 + triviaLength (body.drop (at_ + 2))
        | none => 0
      | _ => 0
    else 0
termination_by cs.length
decreasing_by
  all_goals simp only [List.length_cons, List.length_drop]
  all_goals first
    | omega
    | (have hs := (List.dropWhile_suffix (· != '\n') : body.dropWhile _ <:+ body).length_le; omega)

/-- The scanner's reading of a dialect: its symbols in trial order and its keywords. -/
structure Lexicon where
  symbols : List Symbol
  dialect : Dialect

/-- The lexicon of a dialect. -/
def Dialect.lexicon (d : Dialect) : Lexicon := ⟨d.symbols, d⟩

/-- What the scanner reads at a cursor that is not at the end: a token kind,
its payload and the number of characters it takes, or nothing. -/
structure Lexeme where
  kind : TokenKind
  payload : List Char
  width : Nat
  positive : 0 < width

/-- Whether a character opens a string. -/
def isQuoteChar (c : Char) : Bool := c == '"' || c == '\'' || c == '`'

/-- The lexeme at the head of a nonempty character list, if any. -/
def Lexicon.lexeme (lex : Lexicon) (afterDot : Bool) (c : Char) (rest : List Char) :
    Option Lexeme :=
  let cs := c :: rest
  let word := if isWordChar c then cs.takeWhile isWordChar else []
  let fits (sym : Symbol) : Bool :=
    if sym.isWord then word == sym.spelling.toList
    else !sym.spelling.isEmpty && sym.spelling.toList.isPrefixOf cs
  match lex.symbols.find? fits with
  | some sym =>
    let spelled := sym.spelling.toList
    if h : 0 < spelled.length then some ⟨sym.role.tokenKind, spelled, spelled.length, h⟩
    else none
  | none =>
    if hd : isDigitChar c then
      let digits := cs.takeWhile isDigitChar
      let number :=
        match cs.drop digits.length with
        | '.' :: d :: _ =>
          if !afterDot && isDigitChar d then
            digits ++ '.' :: (cs.drop (digits.length + 1)).takeWhile isDigitChar
          else digits
        | _ => digits
      some ⟨.number, number, number.length, by
        have : 0 < digits.length := by simp [digits, cs, hd]
        simp only [number]; split <;> (try split) <;> simp <;> omega⟩
    else if hw : isWordChar c then
      let kind := (lex.dialect.keywordKind? (String.ofList word)).getD .identifier
      some ⟨kind, word, word.length, by simp [word, cs, hw]⟩
    else if isQuoteChar c then
      match rest.findIdx? (· == c) with
      | some close => some ⟨.string, rest.take close, close + 2, by omega⟩
      | none => none
    else none

/-- A character the scanner cannot read, at a byte offset. -/
structure ScanFault where
  offset : Nat
  char : Char
deriving Repr, Inhabited

/-- The tokens of a source, ending with the end-of-input token, or the tokens
before the first unreadable character together with that character. -/
structure Scan where
  tokens : List Token
  fault : Option ScanFault
deriving Repr, Inhabited

/-- Where the scanner stands: the text not yet read, its byte offset in the
source, and whether the last token read was a dot. -/
structure Cursor where
  rest : List Char
  offset : Nat
  afterDot : Bool
deriving Repr, Inhabited

/-- One call of the scanner: skip trivia, then read the end of input, a token,
or an unreadable character. At the end of input the cursor stays at the end,
and at an unreadable character it stays on that character. -/
def Lexicon.next (lex : Lexicon) (cur : Cursor) : Except ScanFault Token × Cursor :=
  let skipped := triviaLength cur.rest
  let start := cur.offset + byteLength (cur.rest.take skipped)
  match cur.rest.drop skipped with
  | [] => (.ok ⟨.endOfInput, "EOF", start, start⟩, ⟨[], start, false⟩)
  | c :: rest =>
    match lex.lexeme cur.afterDot c rest with
    | none => (.error ⟨start, c⟩, ⟨c :: rest, start, cur.afterDot⟩)
    | some lexeme =>
      let stop := start + byteLength ((c :: rest).take lexeme.width)
      (.ok ⟨lexeme.kind, String.ofList lexeme.payload, start, stop⟩,
        ⟨(c :: rest).drop lexeme.width, stop, lexeme.kind == .dot⟩)

/-- A token other than the end of input consumes text. -/
theorem Lexicon.next_shortens (lex : Lexicon) (cur after : Cursor) (token : Token)
    (read : lex.next cur = (.ok token, after)) (notLast : ¬ token.kind = .endOfInput) :
    after.rest.length < cur.rest.length := by
  unfold Lexicon.next at read
  dsimp only at read
  split at read
  · cases read; exact absurd rfl notLast
  · next c rest cut =>
    split at read
    · cases read
    · next lexeme _ =>
      cases read
      have whole : (cur.rest.drop (triviaLength cur.rest)).length = rest.length + 1 := by
        rw [cut]; rfl
      have := lexeme.positive
      simp only [List.length_drop, List.length_cons] at whole ⊢
      omega

/-- Call the scanner until the end of input or an unreadable character. -/
def Lexicon.scanFrom (lex : Lexicon) (cur : Cursor) (done : Array Token) : Scan :=
  match read : lex.next cur with
  | (.error fault, _) => ⟨done.toList, some fault⟩
  | (.ok token, after) =>
    if last : token.kind = .endOfInput then ⟨(done.push token).toList, none⟩
    else lex.scanFrom after (done.push token)
termination_by cur.rest.length
decreasing_by exact lex.next_shortens cur after token read last

/-- Scan a whole source. -/
def Lexicon.scan (lex : Lexicon) (source : String) : Scan :=
  lex.scanFrom ⟨source.toList, 0, false⟩ #[]

/-- The message of an unreadable character. -/
def ScanFault.message (fault : ScanFault) : String :=
  "Unexpected token: " ++ escapedQuote fault.char.toString

/-- An unreadable character as a parse error at its position in `source`. -/
def ScanFault.toParseError (fault : ScanFault) (source : List Char) : ParseError :=
  let pos := positionAt source fault.offset
  { message := fault.message, line := pos.line, column := pos.column }

end Vernacular
