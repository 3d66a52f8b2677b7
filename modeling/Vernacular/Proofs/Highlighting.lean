import Mathlib
import Vernacular.Proofs.Tiling
/-!
# Highlighting keeps the text

`highlight` walks over the scanned tokens and copies the bytes between them.
Because the tokens tile the line, the walk reads the line as tiles (`Tile`):
the trivia before a token, the token and the text it was read from, and after
the last tile the rest of the line. The result is the tiles woven back together
(`highlight_weaves`), each token's text painted when colour is on. Without
colour that is the line itself (`highlight_plain`), and only strings, numbers
and keywords have a colour (`TokenKind.colour_isSome_iff`).
-/

set_option autoImplicit false

namespace Vernacular


/-- A stretch of source read as one token: the trivia before it, the token,
and the text it was read from. -/
structure Tile where
  gap : List Char
  token : Token
  text : List Char

/-- The text of a tile as the prompt shows it: inside its colour and a reset
when colour is on and the token's kind has a colour. -/
def Tile.shown (colour : Bool) (tile : Tile) : List Char :=
  match colour, tile.token.kind.colour? with
  | true, some code => ("\x1b[" ++ code ++ "m").toList ++ tile.text ++ "\x1b[0m".toList
  | _, _ => tile.text

/-- Without colour a tile shows its text. -/
@[simp] theorem Tile.shown_false (tile : Tile) : tile.shown false = tile.text := rfl

/-- One step of `highlight`'s walk over the tokens: the bytes before the token,
then the token's bytes, painted when colour is on. -/
def highlightStep (bytes : List UInt8) (colour : Bool) (acc : List UInt8 × Nat) (t : Token) :
    List UInt8 × Nat :=
  let (out, i) := acc
  let gap := if t.start > i then sliceBytes bytes i t.start else []
  let text := sliceBytes bytes t.start t.stop
  let shown := match colour, t.kind.colour? with
    | true, some c => paint c text
    | _, _ => text
  (out ++ gap ++ shown, t.stop)

theorem highlight_eq_foldl (d : Dialect) (colour : Bool) (line : String) :
    highlight d colour line =
      let bytes := (Text.ofString line).bytes
      let walked := ((d.lexicon.scan line).tokens.filter (·.kind != .endOfInput)).foldl
        (highlightStep bytes colour) ([], 0)
      (Text.mk (walked.1 ++ bytes.drop walked.2)).toStringLossy := rfl

/-- Painting the encoded text of a tile encodes the text it shows. -/
theorem encode_shown (colour : Bool) (tile : Tile) :
    (match colour, tile.token.kind.colour? with
      | true, some c => paint c (Utf8.encode tile.text)
      | _, _ => Utf8.encode tile.text) = Utf8.encode (tile.shown colour) := by
  unfold Tile.shown
  split <;> simp only [paint, Text.bytes_ofString, Utf8.encode_append, List.append_assoc]

/-- The walk over one token appends the trivia before it and the text it shows. -/
theorem highlightStep_tile (colour : Bool) (pre post out : List UInt8) (tile : Tile)
    (start : tile.token.start = pre.length + (Utf8.encode tile.gap).length)
    (stop : tile.token.stop = tile.token.start + (Utf8.encode tile.text).length) :
    highlightStep (pre ++ Utf8.encode tile.gap ++ Utf8.encode tile.text ++ post) colour
        (out, pre.length) tile.token =
      (out ++ Utf8.encode (tile.gap ++ tile.shown colour), tile.token.stop) := by
  have gapBytes : (if tile.token.start > pre.length then
      sliceBytes (pre ++ Utf8.encode tile.gap ++ Utf8.encode tile.text ++ post) pre.length
        tile.token.start else []) = Utf8.encode tile.gap := by
    split
    · rw [start, List.append_assoc (pre ++ _), sliceBytes_append]
    · -- no bytes between the two tokens: the gap is empty
      have : (Utf8.encode tile.gap).length = 0 := by omega
      exact (List.length_eq_zero_iff.mp this).symm
  have textBytes : sliceBytes (pre ++ Utf8.encode tile.gap ++ Utf8.encode tile.text ++ post)
      tile.token.start tile.token.stop = Utf8.encode tile.text := by
    rw [stop, start, ← List.length_append, sliceBytes_append]
  unfold highlightStep
  dsimp only
  rw [gapBytes, textBytes, encode_shown, Utf8.encode_append, List.append_assoc]

/-- Tiles laid out in order, each as its gap and the text it shows, followed by
the rest of the source. Without colour this is the source itself. -/
def Tile.weave (colour : Bool) (tiles : List Tile) (tail : List Char) : List Char :=
  (tiles.flatMap fun tile => tile.gap ++ tile.shown colour) ++ tail

@[simp] theorem Tile.weave_nil (colour : Bool) (tail : List Char) : Tile.weave colour [] tail = tail := rfl

@[simp] theorem Tile.weave_cons (colour : Bool) (tile : Tile) (tiles : List Tile) (tail : List Char) :
    Tile.weave colour (tile :: tiles) tail = tile.gap ++ tile.shown colour ++ Tile.weave colour tiles tail := by
  simp [Tile.weave]

/-- The tokens of a scan, but for the end of input, tile the text it read, and
`highlight`'s walk over them shows the tiles woven. -/
theorem Cursor.Scans.tiles {cur : Cursor} {ts : List Token} {fault : Option ScanFault}
    (scans : cur.Scans ts fault) :
    ∃ (tiles : List Tile) (tail : List Char),
      tiles.map Tile.token = ts.filter (·.kind != .endOfInput) ∧
      cur.rest = Tile.weave false tiles tail ∧
      (∀ tile ∈ tiles, Trivia tile.gap ∧ tile.token.Spells tile.text) ∧
      ∀ (colour : Bool) (pre out : List UInt8), pre.length = cur.offset →
        let walked := (ts.filter (·.kind != .endOfInput)).foldl
          (highlightStep (pre ++ Utf8.encode cur.rest) colour) (out, cur.offset)
        walked.1 ++ (pre ++ Utf8.encode cur.rest).drop walked.2 =
          out ++ Utf8.encode (Tile.weave colour tiles tail) := by
  induction scans with
  | @finish cur after t _ last =>
    refine ⟨[], cur.rest, by simp [last], rfl, by simp, ?_⟩
    intro colour pre out offset
    simp [last, ← offset]
  | @fault cur after _ _ =>
    refine ⟨[], cur.rest, rfl, rfl, by simp, ?_⟩
    intro colour pre out offset
    simp [← offset]
  | @token cur after t ts fault call notLast _ ih =>
    cases call with
    | finish => exact absurd rfl notLast
    | @token gap text rest _ split trivia _ _ _ start stop spells =>
      obtain ⟨tiles, tail, tokens, source, laid, walk⟩ := ih
      dsimp only at source walk
      have kept : (t :: ts).filter (·.kind != .endOfInput) = t :: ts.filter (·.kind != .endOfInput) :=
        List.filter_cons_of_pos (by simpa using notLast)
      refine ⟨⟨gap, t, text⟩ :: tiles, tail, by simp [kept, tokens], ?_, ?_, ?_⟩
      · rw [split, source]
        simp [List.append_assoc]
      · intro tile mem
        rcases List.mem_cons.mp mem with rfl | later
        · exact ⟨trivia, spells⟩
        · exact laid tile later
      · intro colour pre out offset
        have bytes : pre ++ Utf8.encode cur.rest =
            pre ++ Utf8.encode gap ++ Utf8.encode text ++ Utf8.encode rest := by
          rw [split, Utf8.encode_append, Utf8.encode_append]
          simp only [List.append_assoc]
        have first := highlightStep_tile colour pre (Utf8.encode rest) out ⟨gap, t, text⟩
          (by rw [start, offset, byteLength_eq_length_encode])
          (by rw [stop, byteLength_eq_length_encode])
        dsimp only at first ⊢
        rw [kept, List.foldl_cons, bytes, ← offset, first]
        have later := walk colour (pre ++ Utf8.encode gap ++ Utf8.encode text)
          (out ++ Utf8.encode (gap ++ Tile.shown colour ⟨gap, t, text⟩))
          (by simp only [List.length_append, stop, start, offset, byteLength_eq_length_encode])
        rw [later, Tile.weave_cons]
        simp only [Utf8.encode_append, List.append_assoc]

/-- A highlighted line is its tiles woven: the scanned tokens but the end of
input, each after the trivia before it, then the rest of the line. -/
theorem highlight_weaves (d : Dialect) (s : String) :
    ∃ (tiles : List Tile) (tail : List Char),
      tiles.map Tile.token = (d.lexicon.scan s).tokens.filter (·.kind != .endOfInput) ∧
      s.toList = Tile.weave false tiles tail ∧
      (∀ tile ∈ tiles, Trivia tile.gap ∧ tile.token.Spells tile.text) ∧
      ∀ colour, highlight d colour s = String.ofList (Tile.weave colour tiles tail) := by
  obtain ⟨ts, tokens, scans⟩ := d.lexicon.scanFrom_scans ⟨s.toList, 0, false⟩ #[]
  have scanned : (d.lexicon.scan s).tokens = ts := by
    rw [Lexicon.scan, tokens, Array.toList_empty, List.nil_append]
  obtain ⟨tiles, tail, kept, source, laid, walk⟩ := scans.tiles
  refine ⟨tiles, tail, by rw [kept, scanned], source, laid, fun colour => ?_⟩
  have walked := walk colour [] [] rfl
  dsimp only at walked
  rw [highlight_eq_foldl, scanned, Text.bytes_ofString]
  dsimp only
  rw [List.nil_append] at walked
  rw [walked, List.nil_append]
  exact Text.toStringLossy_ofChars _

/-- Without colour, highlighting gives the line back. -/
theorem highlight_plain (d : Dialect) (s : String) : highlight d false s = s := by
  obtain ⟨tiles, tail, -, source, -, shown⟩ := highlight_weaves d s
  rw [shown, ← source, String.ofList_toList]

/-- Only strings, numbers and keywords, booleans and null among them, have a colour. -/
theorem TokenKind.colour_isSome_iff (k : TokenKind) :
    k.colour?.isSome ↔ k = .string ∨ k = .number ∨ k.isKeyword := by
  cases k <;> decide

/-- The tokens tile the source. Every token but the end of input lies after the
one before it: its span is not empty and ends within the source, the bytes
between are trivia, and its payload is its bytes, less a string's quotes. A call
of the scanner reads the end of input exactly when only trivia is left, and then
reads it again on every later call; a scan reads at most one token per character
and the end of input. Highlighting gives the line back without colour, and with
colour weaves the same tiles, painting only strings, numbers and keywords. -/
theorem tokens_tile_source (d : Dialect) (s : String) :
    (∀ p ∈ (0 :: (d.lexicon.scan s).tokens.map Token.stop).zip (d.lexicon.scan s).tokens,
        p.2.kind ≠ .endOfInput → p.2.LiesAfter (Text.ofString s).bytes p.1) ∧
    (∀ cur : Cursor,
        (∃ t after, d.lexicon.next cur = (.ok t, after) ∧ t.kind = .endOfInput) ↔ Trivia cur.rest) ∧
    (∀ (cur after : Cursor) (t : Token), d.lexicon.next cur = (.ok t, after) →
        t.kind = .endOfInput → d.lexicon.next after = (.ok t, after)) ∧
    (d.lexicon.scan s).tokens.length ≤ s.length + 1 ∧
    highlight d false s = s ∧
    (∃ (tiles : List Tile) (tail : List Char),
      tiles.map Tile.token = (d.lexicon.scan s).tokens.filter (·.kind != .endOfInput) ∧
      s.toList = Tile.weave false tiles tail ∧
      (∀ tile ∈ tiles, Trivia tile.gap ∧ tile.token.Spells tile.text) ∧
      highlight d true s = String.ofList (Tile.weave true tiles tail)) ∧
    (∀ k : TokenKind, k.colour?.isSome ↔ k = .string ∨ k = .number ∨ k.isKeyword) := by
  obtain ⟨tiles, tail, tokens, source, laid, shown⟩ := highlight_weaves d s
  exact ⟨d.lexicon.scan_liesAfter s, d.lexicon.next_ends_iff,
    fun _ _ _ read last => d.lexicon.next_after_end read last, d.lexicon.scan_length_le s,
    highlight_plain d s, ⟨tiles, tail, tokens, source, laid, shown true⟩,
    TokenKind.colour_isSome_iff⟩

end Vernacular
