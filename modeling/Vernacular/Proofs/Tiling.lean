import Mathlib
import Vernacular.Proofs.Decoding
import Vernacular.Proofs.Scanning
import Vernacular.Proofs.Trivia
import Vernacular.Syntax.Highlight
/-!
# Tokens tile the source

One call of the scanner (`Lexicon.next`) does one of three things
(`Cursor.Call`): it reads the end of input over trailing trivia, stops at a
character no token starts with, or reads a token from the text after the
trivia, whose payload is the text read, less the quotes of a string
(`Token.Spells`). A scan is the run of its calls (`Cursor.Scans`,
`Lexicon.scanFrom_scans`).

In the bytes of the source, each token but the end of input therefore lies
after the one before it (`Token.LiesAfter`, `Lexicon.scan_liesAfter`): its span
is not empty and ends within the source, the bytes between are trivia, and its
payload is its bytes. A call reads the end of input exactly when only trivia is
left (`Lexicon.next_ends_iff`), and reads it again on every later call
(`Lexicon.next_after_end`).
-/

set_option autoImplicit false

namespace Vernacular

/-! ## Byte counts -/

theorem foldl_utf8Size (cs : List Char) (k : Nat) :
    cs.foldl (fun n c => n + c.utf8Size) k = k + (Utf8.encode cs).length := by
  induction cs generalizing k with
  | nil => simp [Utf8.encode]
  | cons c cs ih =>
    simp only [List.foldl_cons, ih, Utf8.encode, List.flatMap_cons, List.length_append,
      Utf8.encodeChar, String.length_utf8EncodeChar]
    omega

/-- The byte count of characters is the length of their encoding. -/
theorem byteLength_eq_length_encode (cs : List Char) : byteLength cs = (Utf8.encode cs).length := by
  rw [byteLength, foldl_utf8Size, Nat.zero_add]

/-! ## The text of a token -/

/-- The text a token was read from: its payload, or, for a string, its payload
between two equal quotes that do not occur in it. -/
def Token.Spells (t : Token) (text : List Char) : Prop :=
  if t.kind = .string then
    ∃ q, isQuoteChar q ∧ q ∉ t.payload.toList ∧ text = q :: t.payload.toList ++ [q]
  else text = t.payload.toList

theorem Role.tokenKind_ne_string (role : Role) : role.tokenKind ≠ .string := by
  cases role <;> decide

theorem Dialect.keywordKind_ne_string (d : Dialect) (word : String) :
    (d.keywordKind? word).getD .identifier ≠ .string := by
  cases keyword : d.keywordKind? word with
  | none => simp
  | some kind =>
    obtain ⟨role, -, rfl⟩ := Option.map_eq_some_iff.mp keyword
    exact Role.tokenKind_ne_string role

/-- A token that is no string spells its payload when its payload starts the text. -/
theorem Token.spells_of_starts_text {kind : TokenKind} {payload cs : List Char} (notString : kind ≠ .string)
    (start stop : Nat) (starts : payload <+: cs) :
    Token.Spells ⟨kind, String.ofList payload, start, stop⟩ (cs.take payload.length) := by
  rw [Token.Spells, if_neg notString, String.toList_ofList]
  exact (List.prefix_iff_eq_take.mp starts).symm

/-- A number's digits, with a fraction if one follows, start the text. -/
theorem number_starts_text (afterDot : Bool) (cs : List Char) :
    (match cs.drop (cs.takeWhile isDigitChar).length with
     | '.' :: d :: _ =>
       if !afterDot && isDigitChar d then
         cs.takeWhile isDigitChar ++ '.' ::
           (cs.drop ((cs.takeWhile isDigitChar).length + 1)).takeWhile isDigitChar
       else cs.takeWhile isDigitChar
     | _ => cs.takeWhile isDigitChar) <+: cs := by
  have digits : cs.takeWhile isDigitChar <+: cs := List.takeWhile_prefix _
  split
  · next d tail after =>
    split
    · have whole : cs = cs.takeWhile isDigitChar ++ '.' :: d :: tail := by
        have split := List.take_append_drop (cs.takeWhile isDigitChar).length cs
        rw [← List.prefix_iff_eq_take.mp digits, after] at split
        exact split.symm
      have fraction : cs.drop ((cs.takeWhile isDigitChar).length + 1) = d :: tail := by
        rw [← List.drop_drop, after]
        rfl
      rw [fraction]
      conv => rhs; rw [whole]
      exact (List.prefix_append_right_inj _).mpr (List.cons_prefix_cons.mpr ⟨rfl, List.takeWhile_prefix _⟩)
    · exact digits
  · exact digits

theorem Lexicon.lexeme_spells (lex : Lexicon) {afterDot : Bool} {c : Char} {rest : List Char}
    {lexeme : Lexeme} (read : lex.lexeme afterDot c rest = some lexeme) (start stop : Nat) :
    Token.Spells ⟨lexeme.kind, String.ofList lexeme.payload, start, stop⟩
      ((c :: rest).take lexeme.width) := by
  unfold Lexicon.lexeme at read
  dsimp only at read
  split at read
  · next sym found =>
    split at read
    · cases read
      have fits := List.find?_some found
      have whole : sym.spelling.toList <+: c :: rest := by
        split at fits
        · -- a word symbol is the whole word at the cursor
          rw [← eq_of_beq fits]
          split
          · exact List.takeWhile_prefix _
          · exact List.nil_prefix
        · simp only [Bool.and_eq_true] at fits
          exact List.isPrefixOf_iff_prefix.mp fits.2
      exact Token.spells_of_starts_text (Role.tokenKind_ne_string _) start stop whole
    · cases read
  · split at read
    · cases read
      exact Token.spells_of_starts_text (by simp) start stop (number_starts_text afterDot _)
    · split at read
      · cases read
        have word : (c :: rest).takeWhile isWordChar <+: c :: rest := List.takeWhile_prefix _
        exact Token.spells_of_starts_text (Dialect.keywordKind_ne_string _ _) start stop word
      · split at read
        · next quote =>
          split at read
          · next close found =>
            cases read
            -- the string runs to the first equal quote, which closes it
            obtain ⟨inside, closes, before⟩ := List.findIdx?_eq_some_iff_getElem.mp found
            rw [Token.Spells, if_pos rfl]
            refine ⟨c, quote, ?_, ?_⟩
            · rw [String.toList_ofList]
              intro mem
              obtain ⟨i, early, same⟩ := List.getElem_of_mem mem
              have within : i < close := by
                simp only [List.length_take, Nat.lt_min] at early
                exact early.1
              exact before i within (by simp [List.getElem_take] at same; simp [same])
            · have last : rest.take (close + 1) = rest.take close ++ [c] := by
                rw [List.take_add_one, List.getElem?_eq_getElem inside, eq_of_beq closes]
                rfl
              rw [String.toList_ofList, List.take_succ_cons, last]
              rfl
          · cases read
        · cases read

/-! ## One call of the scanner -/

/-- What one call of the scanner can return from a cursor: the end of input
over trailing trivia; a character no token starts with, after trivia; or a
token read from the text after trivia, with the cursor past it. -/
inductive Cursor.Call (cur : Cursor) : Except ScanFault Token × Cursor → Prop
  | finish : Trivia cur.rest →
      Cursor.Call cur
        (.ok ⟨.endOfInput, "EOF", cur.offset + byteLength cur.rest, cur.offset + byteLength cur.rest⟩,
          ⟨[], cur.offset + byteLength cur.rest, false⟩)
  | fault {gap rest : List Char} {c : Char} : cur.rest = gap ++ c :: rest → Trivia gap →
      ¬ Trivia cur.rest →
      Cursor.Call cur (.error ⟨cur.offset + byteLength gap, c⟩,
        ⟨c :: rest, cur.offset + byteLength gap, cur.afterDot⟩)
  | token {gap text rest : List Char} {t : Token} : cur.rest = gap ++ text ++ rest → Trivia gap →
      ¬ Trivia cur.rest → text ≠ [] → t.kind ≠ .endOfInput → t.start = cur.offset + byteLength gap →
      t.stop = t.start + byteLength text → t.Spells text →
      Cursor.Call cur (.ok t, ⟨rest, t.stop, t.kind == .dot⟩)

/-- Every call of the scanner is one of the three. -/
theorem Lexicon.next_call (lex : Lexicon) (cur : Cursor) : cur.Call (lex.next cur) := by
  have skipped := trivia_take_triviaLength cur.rest
  have whole := List.take_append_drop (triviaLength cur.rest) cur.rest
  match cut : cur.rest.drop (triviaLength cur.rest) with
  | [] =>
    have trivia : Trivia cur.rest := trivia_iff_drop_eq_nil.mpr cut
    rw [lex.next_of_trivia_end cur cut, List.take_of_length_le (List.drop_eq_nil_iff.mp cut)]
    exact .finish trivia
  | c :: rest =>
    have notTrivia : ¬ Trivia cur.rest := fun trivia => by
      rw [trivia_iff_drop_eq_nil, cut] at trivia
      cases trivia
    rw [cut] at whole
    match readable : lex.lexeme cur.afterDot c rest with
    | none =>
      rw [lex.next_of_unreadable cur cut readable]
      exact .fault whole.symm skipped notTrivia
    | some lexeme =>
      rw [lex.next_of_lexeme cur cut readable]
      have nonempty : (c :: rest).take lexeme.width ≠ [] := by
        have := lexeme.positive
        simp only [ne_eq, List.take_eq_nil_iff, List.cons_ne_nil, or_false]
        omega
      refine .token ?_ skipped notTrivia nonempty (lex.lexeme_kind_ne_endOfInput readable) rfl rfl
        (lex.lexeme_spells readable _ _)
      rw [List.append_assoc, List.take_append_drop]
      exact whole.symm

/-- A call reads the end of input exactly when only trivia is left. -/
theorem Lexicon.next_ends_iff (lex : Lexicon) (cur : Cursor) :
    (∃ t after, lex.next cur = (.ok t, after) ∧ t.kind = .endOfInput) ↔ Trivia cur.rest := by
  constructor
  · rintro ⟨t, after, read, last⟩
    have call := lex.next_call cur
    rw [read] at call
    cases call with
    | finish trivia => exact trivia
    | token _ _ _ _ notLast => exact absurd last notLast
  · intro trivia
    have call := lex.next_call cur
    generalize lex.next cur = result at call ⊢
    cases call with
    | finish => exact ⟨_, _, rfl, rfl⟩
    | fault _ _ notTrivia => exact absurd trivia notTrivia
    | token _ _ notTrivia => exact absurd trivia notTrivia

/-- After the end of input every later call reads it again, at the same place. -/
theorem Lexicon.next_after_end (lex : Lexicon) {cur after : Cursor} {t : Token}
    (read : lex.next cur = (.ok t, after)) (last : t.kind = .endOfInput) :
    lex.next after = (.ok t, after) := by
  have call := lex.next_call cur
  rw [read] at call
  cases call with
  | finish =>
    rw [lex.next_of_trivia_end _ List.drop_nil]
    simp [byteLength]
  | token _ _ _ _ notLast => exact absurd last notLast

/-! ## A whole scan -/

/-- The calls of the scanner from a cursor on: tokens, each read by one call,
ending with the end of input or at a character no token starts with. -/
inductive Cursor.Scans : Cursor → List Token → Option ScanFault → Prop
  | finish {cur after : Cursor} {t : Token} : cur.Call (.ok t, after) → t.kind = .endOfInput →
      Cursor.Scans cur [t] none
  | fault {cur after : Cursor} {fault : ScanFault} : cur.Call (.error fault, after) →
      Cursor.Scans cur [] (some fault)
  | token {cur after : Cursor} {t : Token} {ts : List Token} {fault : Option ScanFault} :
      cur.Call (.ok t, after) → t.kind ≠ .endOfInput → Cursor.Scans after ts fault →
      Cursor.Scans cur (t :: ts) fault

/-- A scan is the run of its calls. -/
theorem Lexicon.scanFrom_scans (lex : Lexicon) (cur : Cursor) (done : Array Token) :
    ∃ ts, (lex.scanFrom cur done).tokens = done.toList ++ ts ∧
      cur.Scans ts (lex.scanFrom cur done).fault := by
  fun_induction lex.scanFrom cur done with
  | case1 cur done fault after read =>
    have call := lex.next_call cur
    rw [read] at call
    exact ⟨[], by simp, .fault call⟩
  | case2 cur done token after read last =>
    have call := lex.next_call cur
    rw [read] at call
    exact ⟨[token], by simp, .finish call last⟩
  | case3 cur done token after read notLast ih =>
    have call := lex.next_call cur
    rw [read] at call
    obtain ⟨ts, tokens, scans⟩ := ih
    exact ⟨token :: ts, by simp [tokens], .token call notLast scans⟩

/-- A token other than the end of input consumes text. -/
theorem Cursor.Call.shortens {cur after : Cursor} {t : Token} (call : cur.Call (.ok t, after))
    (notLast : t.kind ≠ .endOfInput) : after.rest.length < cur.rest.length := by
  cases call with
  | finish => exact absurd rfl notLast
  | token split _ _ nonempty =>
    rw [split]
    have := List.length_pos_iff.mpr nonempty
    simp only [List.length_append]
    omega

/-- A scan reads at most one token per character, and the end of input. -/
theorem Cursor.Scans.length_le {cur : Cursor} {ts : List Token} {fault : Option ScanFault}
    (scans : cur.Scans ts fault) : ts.length ≤ cur.rest.length + 1 := by
  induction scans with
  | finish => simp
  | fault => simp
  | token call notLast _ ih =>
    have := call.shortens notLast
    simp only [List.length_cons]
    omega

/-! ## Spans in the bytes of the source -/

theorem sliceBytes_append (pre mid post : List UInt8) :
    sliceBytes (pre ++ mid ++ post) pre.length (pre.length + mid.length) = mid := by
  simp [sliceBytes]

/-- A quote is one byte. -/
theorem length_encode_quote {q : Char} (quote : isQuoteChar q) : (Utf8.encode [q]).length = 1 := by
  simp only [isQuoteChar, Bool.or_eq_true, beq_iff_eq] at quote
  rcases quote with (rfl | rfl) | rfl <;> rfl

/-- Where a token lies in the bytes of a source, after the end `prev` of the
token before it: it starts no earlier than `prev`, its span is not empty and
within the bytes, the bytes between are trivia, and its payload is its bytes,
less the quotes for a string. -/
def Token.LiesAfter (t : Token) (bytes : List UInt8) (prev : Nat) : Prop :=
  prev ≤ t.start ∧ t.start < t.stop ∧ t.stop ≤ bytes.length ∧
    (∃ gap, Trivia gap ∧ Utf8.encode gap = sliceBytes bytes prev t.start) ∧
    (Text.ofString t.payload).bytes =
      if t.kind = .string then sliceBytes bytes (t.start + 1) (t.stop - 1)
      else sliceBytes bytes t.start t.stop

/-- The payload of a token is the encoding of the text it was read from, less
the quotes of a string. -/
theorem Token.payload_bytes_of_spells {t : Token} {text : List Char} (spells : t.Spells text)
    (pre post : List UInt8) :
    (Text.ofString t.payload).bytes =
      if t.kind = .string then
        sliceBytes (pre ++ Utf8.encode text ++ post) (pre.length + 1)
          (pre.length + (Utf8.encode text).length - 1)
      else sliceBytes (pre ++ Utf8.encode text ++ post) pre.length (pre.length + (Utf8.encode text).length) := by
  rw [Text.bytes_ofString]
  unfold Token.Spells at spells
  split at spells
  · next isString =>
    obtain ⟨q, quote, -, rfl⟩ := spells
    rw [if_pos isString]
    have one := length_encode_quote quote
    have split : pre ++ Utf8.encode (q :: t.payload.toList ++ [q]) ++ post =
        (pre ++ Utf8.encode [q]) ++ Utf8.encode t.payload.toList ++ (Utf8.encode [q] ++ post) := by
      rw [List.cons_append, ← List.singleton_append, Utf8.encode_append, Utf8.encode_append]
      simp only [List.append_assoc]
    have width : (Utf8.encode (q :: t.payload.toList ++ [q])).length =
        (Utf8.encode t.payload.toList).length + 2 := by
      rw [List.cons_append, ← List.singleton_append, Utf8.encode_append, Utf8.encode_append]
      simp only [List.length_append, one]
      omega
    rw [split, width, show pre.length + ((Utf8.encode t.payload.toList).length + 2) - 1 =
      (pre ++ Utf8.encode [q]).length + (Utf8.encode t.payload.toList).length by simp [one]; omega,
      show pre.length + 1 = (pre ++ Utf8.encode [q]).length by simp [one], sliceBytes_append]
  · next notString =>
    rw [if_neg notString, spells, sliceBytes_append]

/-- Each token of a scan other than the end of input lies after the one before it. -/
theorem Cursor.Scans.liesAfter {cur : Cursor} {ts : List Token} {fault : Option ScanFault}
    (scans : cur.Scans ts fault) (pre : List UInt8) (offset : pre.length = cur.offset) :
    ∀ p ∈ (cur.offset :: ts.map Token.stop).zip ts, p.2.kind ≠ .endOfInput →
      p.2.LiesAfter (pre ++ Utf8.encode cur.rest) p.1 := by
  induction scans generalizing pre with
  | finish _ last =>
    intro p mem notLast
    simp only [List.map_cons, List.map_nil, List.zip_cons_cons, List.zip_nil_right,
      List.mem_singleton] at mem
    exact absurd (mem ▸ last) notLast
  | fault => simp
  | @token cur after t ts fault call notLast _ ih =>
    cases call with
    | finish => exact absurd rfl notLast
    | @token gap text rest _ split trivia _ nonempty _ start stop spells =>
      intro p mem pNotLast
      have bytes : pre ++ Utf8.encode cur.rest =
          (pre ++ Utf8.encode gap) ++ Utf8.encode text ++ Utf8.encode rest := by
        rw [split, Utf8.encode_append, Utf8.encode_append]
        simp only [List.append_assoc]
      have startAt : t.start = (pre ++ Utf8.encode gap).length := by
        rw [start, List.length_append, offset, byteLength_eq_length_encode]
      have stopAt : t.stop = (pre ++ Utf8.encode gap).length + (Utf8.encode text).length := by
        rw [stop, startAt, byteLength_eq_length_encode]
      rw [List.map_cons, List.zip_cons_cons, List.mem_cons] at mem
      rcases mem with rfl | later
      · -- the token this call reads
        dsimp only
        have textPos := Utf8.length_encode_pos nonempty
        have gapSlice : Utf8.encode gap = sliceBytes (pre ++ Utf8.encode cur.rest) cur.offset t.start := by
          rw [startAt, ← offset, bytes, List.length_append, List.append_assoc (pre ++ _),
            sliceBytes_append]
        refine ⟨?_, ?_, ?_, ⟨gap, trivia, gapSlice⟩, ?_⟩
        · simp only [startAt, List.length_append, offset]; omega
        · omega
        · simp only [bytes, List.length_append] at stopAt ⊢; omega
        · rw [bytes, startAt, stopAt]
          exact Token.payload_bytes_of_spells spells _ _
      · -- the tokens after it, with the bytes read so far before them
        have rest_ := ih (pre ++ Utf8.encode gap ++ Utf8.encode text)
          (by rw [List.length_append, stopAt]) p later pNotLast
        rwa [bytes]

/-- The tokens of a scanned source other than the end of input each lie after
the one before them, the first after the start. -/
theorem Lexicon.scan_liesAfter (lex : Lexicon) (s : String) :
    ∀ p ∈ (0 :: (lex.scan s).tokens.map Token.stop).zip (lex.scan s).tokens,
      p.2.kind ≠ .endOfInput → p.2.LiesAfter (Text.ofString s).bytes p.1 := by
  obtain ⟨ts, tokens, scans⟩ := lex.scanFrom_scans ⟨s.toList, 0, false⟩ #[]
  rw [Lexicon.scan, tokens, Array.toList_empty, List.nil_append, Text.bytes_ofString]
  exact scans.liesAfter [] rfl

/-- A scan reads at most one token per character of the source, and the end of input. -/
theorem Lexicon.scan_length_le (lex : Lexicon) (s : String) :
    (lex.scan s).tokens.length ≤ s.length + 1 := by
  obtain ⟨ts, tokens, scans⟩ := lex.scanFrom_scans ⟨s.toList, 0, false⟩ #[]
  rw [Lexicon.scan, tokens, Array.toList_empty, List.nil_append, ← String.length_toList]
  exact scans.length_le

end Vernacular
