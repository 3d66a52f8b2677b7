import Mathlib
import Vernacular.Proofs.StringViews
import Vernacular.Proofs.ShortestDigits
import Vernacular.Library.Json
/-!
# The tokens of written JSON read back

The JSON writer writes scalars as tokens: `null`, `true` and `false`, numbers
as `Decimal.format` lays them out, and strings as JSON string literals. This
module proves that the reader reads each token back as what was written,
whatever follows it in the document, as long as it is something that may
follow a value (`Follows`): a word reads as the value it names
(`readWord_ofString`), a finite number as the same double
(`readNumber_numberText`), and a string literal of UTF-8 text as the text
(`readString_quote`).

A string is read byte by byte into an accumulator. Each character of the text
is written as itself, as a one-letter escape or as a `\u` escape, and each way
leaves exactly the character's UTF-8 bytes in the accumulator (`go_char`); the
closing quote then decodes the accumulator, which gives the text back since
the text was UTF-8.
-/

set_option autoImplicit false

namespace Vernacular

namespace Json

/-! ## The bytes of characters -/

theorem toNat_code {c : Char} (small : c.toNat < 256) : (code c).toNat = c.toNat :=
  Utf8.toNat_ofNat_of_lt small

theorem encodeChar_ascii {c : Char} (ascii : c.toNat < 128) : Utf8.encodeChar c = [code c] := by
  have small : c.val.toNat ≤ 127 := by
    unfold Char.toNat at ascii
    omega
  simp only [Utf8.encodeChar, String.utf8EncodeChar, small, if_true]
  rfl

/-- Every byte of a character beyond ASCII has its high bit set. -/
theorem encodeChar_wide {c : Char} (wide : 128 ≤ c.toNat) : ∀ b ∈ Utf8.encodeChar c, 128 ≤ b.toNat := by
  have valid : c.val.toNat < 0xd800 ∨ (0xdfff < c.val.toNat ∧ c.val.toNat < 0x110000) := c.valid
  have large : 127 < c.val.toNat := by
    unfold Char.toNat at wide
    omega
  unfold Utf8.encodeChar String.utf8EncodeChar
  generalize c.val.toNat = v at valid large ⊢
  intro b mem
  dsimp only at mem
  split_ifs at mem <;> simp only [List.mem_cons, List.not_mem_nil, or_false] at mem <;>
    rcases mem with rfl | rfl | rfl | rfl <;> rw [Utf8.toNat_ofNat_of_lt (by omega)] <;> omega

theorem encodeChar_length_wide {c : Char} (wide : 128 ≤ c.toNat) : 2 ≤ (Utf8.encodeChar c).length := by
  have large : 127 < c.val.toNat := by
    unfold Char.toNat at wide
    omega
  unfold Utf8.encodeChar String.utf8EncodeChar
  generalize c.val.toNat = v at large ⊢
  dsimp only
  split_ifs with one
  · exact absurd one (by omega)
  all_goals simp

/-! ## Reading a string -/

section ReadString

variable (acc tail : List UInt8)

/-- A byte that stands for itself inside a string: no quote, no backslash,
no control character. -/
def Plain (b : UInt8) : Prop := b ≠ code '"' ∧ ¬ b < 0x20 ∧ b ≠ code '\\'

theorem go_close (fuel : Nat) :
    readString.go (fuel + 1) acc (code '"' :: tail) = .ok (⟨Utf8.encode (Utf8.runes acc.reverse)⟩, tail) := by
  simp [readString.go]

theorem go_plain {b : UInt8} (plain : Plain b) (fuel : Nat) :
    readString.go (fuel + 1) acc (b :: tail) = readString.go fuel (b :: acc) tail := by
  obtain ⟨quote, control, slash⟩ := plain
  simp [readString.go, quote, control, slash]

/-- Plain bytes are taken one by one. -/
theorem go_plains {bs : List UInt8} (plain : ∀ b ∈ bs, Plain b) :
    ∀ (fuel : Nat) (acc : List UInt8), (bs ++ tail).length < fuel →
      readString.go fuel acc (bs ++ tail) = readString.go (fuel - bs.length) (bs.reverse ++ acc) tail := by
  induction bs with
  | nil => intro fuel acc _; simp
  | cons b bs ih =>
    intro fuel acc enough
    obtain ⟨f, rfl⟩ : ∃ f, fuel = f + 1 := ⟨fuel - 1, by simp at enough; omega⟩
    rw [List.cons_append, go_plain _ _ (plain b List.mem_cons_self),
      ih (fun b mem => plain b (List.mem_cons_of_mem _ mem)) f _ (by simp at enough ⊢; omega)]
    simp only [List.length_cons, List.reverse_cons, List.append_assoc, List.singleton_append]
    rw [show f + 1 - (bs.length + 1) = f - bs.length by omega]

/-- The escapes of one letter after a backslash, and what they stand for. -/
def simpleEscapes : List (UInt8 × Char) :=
  [(code '"', '"'), (code '\\', '\\'), (code '/', '/'), (code 'b', '\x08'), (code 'f', '\x0c'),
    (code 'n', '\n'), (code 'r', '\r'), (code 't', '\t')]

theorem go_escape {e : UInt8} {c : Char} (escape : (e, c) ∈ simpleEscapes) (fuel : Nat) :
    readString.go (fuel + 1) acc (code '\\' :: e :: tail) =
      readString.go fuel ((Utf8.encodeChar c).reverse ++ acc) tail := by
  simp only [simpleEscapes, List.mem_cons, Prod.mk.injEq, List.not_mem_nil, or_false] at escape
  rcases escape with ⟨rfl, rfl⟩ | ⟨rfl, rfl⟩ | ⟨rfl, rfl⟩ | ⟨rfl, rfl⟩ | ⟨rfl, rfl⟩ | ⟨rfl, rfl⟩ | ⟨rfl, rfl⟩ |
    ⟨rfl, rfl⟩ <;> simp +decide [readString.go]

theorem readHex4_go_append (tail : List UInt8) :
    ∀ (k acc : Nat) (seen hex : List UInt8) (n : Nat), hex.length = k →
      readHex4.go k acc seen hex = .ok (n, []) → readHex4.go k acc seen (hex ++ tail) = .ok (n, tail)
  | 0, acc, seen, [], n, _, read => by
    simp only [readHex4.go, Except.ok.injEq, Prod.mk.injEq] at read ⊢
    exact ⟨read.1, rfl⟩
  | k + 1, acc, seen, b :: hex, n, length, read => by
    simp only [List.length_cons, Nat.add_right_cancel_iff] at length
    simp only [readHex4.go, List.cons_append] at read ⊢
    split at read
    · exact readHex4_go_append tail k _ _ hex n length read
    · simp at read

/-- A `\u` escape of a character that is no surrogate. -/
theorem go_unicode {n : Nat} {hex : List UInt8} (read : readHex4 hex = .ok (n, [])) (four : hex.length = 4)
    (high : isHighSurrogate n = false) (low : isLowSurrogate n = false) (fuel : Nat) :
    readString.go (fuel + 1) acc (code '\\' :: code 'u' :: (hex ++ tail)) =
      readString.go fuel ((Utf8.encodeChar (Char.ofNat n)).reverse ++ acc) tail := by
  have digits : readHex4 (hex ++ tail) = .ok (n, tail) := readHex4_go_append tail 4 0 [] hex n four read
  simp +decide [readString.go, digits, high, low]

/-- The `\\u` escapes the writer uses read back: the control characters, -/
theorem hex_controls : ∀ n < 32, readHex4 (Utf8.encode (hexPadded 4 n).toList) = .ok (n, []) ∧
    (Utf8.encode (hexPadded 4 n).toList).length = 4 := by
  decide +kernel

/-- and the line and paragraph separators. -/
theorem hex_separators : ∀ n ∈ [0x2028, 0x2029], readHex4 (Utf8.encode (hexPadded 4 n).toList) = .ok (n, []) ∧
    (Utf8.encode (hexPadded 4 n).toList).length = 4 := by
  decide +kernel

theorem plain_of_toNat {b : UInt8} (printable : 32 ≤ b.toNat) (quote : b.toNat ≠ 34) (slash : b.toNat ≠ 92) :
    Plain b := by
  refine ⟨fun same => quote (by rw [same]; rfl), fun below => ?_, fun same => slash (by rw [same]; rfl)⟩
  rw [UInt8.lt_iff_toNat_lt] at below
  exact absurd below (by simpa using printable)

/-- One character of a JSON string literal, escaped or not, is read as the
character: its UTF-8 bytes join the accumulated bytes. -/
theorem go_char (c : Char) (fuel : Nat) (acc : List UInt8)
    (enough : (Utf8.encode (Text.jsonSequence (c, Utf8.encodeChar c)).toList ++ tail).length < fuel) :
    ∃ fuel', tail.length < fuel' ∧
      readString.go fuel acc (Utf8.encode (Text.jsonSequence (c, Utf8.encodeChar c)).toList ++ tail) =
        readString.go fuel' ((Utf8.encodeChar c).reverse ++ acc) tail := by
  have back : ∀ {n : Nat}, c.toNat = n → c = Char.ofNat n := fun same => by rw [← same, Char.ofNat_toNat]
  generalize hs : Text.jsonSequence (c, Utf8.encodeChar c) = s at enough ⊢
  -- the three ways a character is written: a one-letter escape, a `\u` escape, or its own bytes
  have escaped : ∀ (e : UInt8) (d : Char), Utf8.encode s.toList = [code '\\', e] →
      (e, d) ∈ simpleEscapes → c = d → ∃ fuel', tail.length < fuel' ∧
        readString.go fuel acc (Utf8.encode s.toList ++ tail) =
          readString.go fuel' ((Utf8.encodeChar c).reverse ++ acc) tail := by
    intro e d bytes escape same
    rw [bytes] at enough ⊢
    obtain ⟨f, rfl⟩ : ∃ f, fuel = f + 1 := ⟨fuel - 1, by simp at enough; omega⟩
    exact ⟨f, by simp at enough; omega, by rw [same]; exact go_escape acc tail escape f⟩
  have unicode : ∀ n : Nat, Utf8.encode s.toList = code '\\' :: code 'u' :: Utf8.encode (hexPadded 4 n).toList →
      readHex4 (Utf8.encode (hexPadded 4 n).toList) = .ok (n, []) ∧ (Utf8.encode (hexPadded 4 n).toList).length = 4 →
      isHighSurrogate n = false → isLowSurrogate n = false → c = Char.ofNat n → ∃ fuel', tail.length < fuel' ∧
        readString.go fuel acc (Utf8.encode s.toList ++ tail) =
          readString.go fuel' ((Utf8.encodeChar c).reverse ++ acc) tail := by
    intro n bytes hex high low same
    obtain ⟨read, four⟩ := hex
    rw [bytes] at enough ⊢
    obtain ⟨f, rfl⟩ : ∃ f, fuel = f + 1 := ⟨fuel - 1, by simp at enough; omega⟩
    refine ⟨f, by simp at enough; omega, ?_⟩
    rw [same, List.cons_append, List.cons_append]
    exact go_unicode acc tail read four high low f
  have literal : Utf8.encode s.toList = Utf8.encodeChar c → (∀ b ∈ Utf8.encodeChar c, Plain b) →
      ∃ fuel', tail.length < fuel' ∧ readString.go fuel acc (Utf8.encode s.toList ++ tail) =
        readString.go fuel' ((Utf8.encodeChar c).reverse ++ acc) tail := by
    intro bytes plain
    rw [bytes] at enough ⊢
    exact ⟨fuel - (Utf8.encodeChar c).length, by simp at enough; omega, go_plains tail plain fuel acc enough⟩
  have own : Utf8.encode c.toString.toList = Utf8.encodeChar c := by simp [Utf8.encode]
  by_cases ascii : c.toNat < 128
  · rw [encodeChar_ascii ascii] at hs
    simp only [Text.jsonSequence, toNat_code (show c.toNat < 256 by omega)] at hs
    split_ifs at hs with wide dquote slash backspace feed newline return_ tab control <;> subst hs
    · omega
    · exact escaped _ '"' rfl (by decide) (back (by simpa using dquote))
    · exact escaped _ '\\' rfl (by decide) (back (by simpa using slash))
    · exact escaped _ '\x08' rfl (by decide) (back (by simpa using backspace))
    · exact escaped _ '\x0c' rfl (by decide) (back (by simpa using feed))
    · exact escaped _ '\n' rfl (by decide) (back (by simpa using newline))
    · exact escaped _ '\r' rfl (by decide) (back (by simpa using return_))
    · exact escaped _ '\t' rfl (by decide) (back (by simpa using tab))
    · obtain ⟨read, four⟩ := hex_controls c.toNat control
      refine unicode c.toNat (by rw [String.toList_append, Utf8.encode_append]; rfl) ⟨read, four⟩ ?_ ?_ (back rfl) <;>
        simp [isHighSurrogate, isLowSurrogate] <;> omega
    · refine literal own fun b mem => ?_
      rw [encodeChar_ascii ascii, List.mem_singleton] at mem
      subst mem
      simp only [beq_iff_eq] at dquote slash
      have same := toNat_code (show c.toNat < 256 by omega)
      exact plain_of_toNat (by omega) (by rwa [same]) (by rwa [same])
  · -- beyond ASCII: two bytes or more, each with its high bit set
    obtain ⟨b₁, b₂, more, bytes⟩ : ∃ b₁ b₂ more, Utf8.encodeChar c = b₁ :: b₂ :: more := by
      have two := encodeChar_length_wide (show 128 ≤ c.toNat by omega)
      rcases split : Utf8.encodeChar c with _ | ⟨b₁, _ | ⟨b₂, more⟩⟩
      · simp [split] at two
      · simp [split] at two
      · exact ⟨b₁, b₂, more, rfl⟩
    rw [bytes] at hs
    simp only [Text.jsonSequence] at hs
    split_ifs at hs with line paragraph <;> subst hs
    · obtain ⟨read, four⟩ := hex_separators 0x2028 (by simp)
      exact unicode 0x2028 rfl ⟨read, four⟩ (by decide) (by decide) (by simpa using line)
    · obtain ⟨read, four⟩ := hex_separators 0x2029 (by simp)
      exact unicode 0x2029 rfl ⟨read, four⟩ (by decide) (by decide) (by simpa using paragraph)
    · refine literal own fun b mem => plain_of_toNat ?_ ?_ ?_ <;>
        have := encodeChar_wide (show 128 ≤ c.toNat by omega) b mem <;> omega

/-- A run of characters written as in a JSON string literal and the closing
quote are read as the UTF-8 bytes of the characters. -/
theorem go_chars (cs : List Char) : ∀ (fuel : Nat) (acc : List UInt8),
    ((cs.flatMap fun c => Utf8.encode (Text.jsonSequence (c, Utf8.encodeChar c)).toList) ++ code '"' :: tail).length <
      fuel →
    readString.go fuel acc
        ((cs.flatMap fun c => Utf8.encode (Text.jsonSequence (c, Utf8.encodeChar c)).toList) ++ code '"' :: tail) =
      .ok (⟨Utf8.encode (Utf8.runes (acc.reverse ++ Utf8.encode cs))⟩, tail) := by
  induction cs with
  | nil =>
    intro fuel acc enough
    obtain ⟨f, rfl⟩ : ∃ f, fuel = f + 1 := ⟨fuel - 1, by simp at enough; omega⟩
    simpa [Utf8.encode] using go_close acc tail f
  | cons c cs ih =>
    intro fuel acc enough
    rw [List.flatMap_cons, List.append_assoc] at enough ⊢
    obtain ⟨fuel', enough', step⟩ := go_char _ c fuel acc enough
    rw [step, ih fuel' _ enough']
    simp [Utf8.encode, List.flatMap_cons]

theorem bytes_quote_ofChars (cs : List Char) :
    (quote (Text.ofChars cs)).bytes =
      code '"' :: ((cs.flatMap fun c => Utf8.encode (Text.jsonSequence (c, Utf8.encodeChar c)).toList) ++
        [code '"']) := by
  rw [quote, Text.bytes_ofString, Text.jsonQuoted, Text.ofChars, Utf8.sequences_encode]
  simp only [String.toList_append, String.toList_join, Utf8.encode_append, List.map_map]
  have closing : Utf8.encodeChar '"' = [code '"'] := rfl
  simp [Utf8.encode, List.flatMap_map, Function.comp_def, List.flatMap_assoc, closing]

/-- A JSON string literal of UTF-8 text is read back as the text. -/
theorem readString_quote (cs : List Char) (rest : List UInt8) :
    readString ((quote (Text.ofChars cs)).bytes.tail ++ rest) = .ok (Text.ofChars cs, rest) := by
  rw [bytes_quote_ofChars, List.tail_cons, List.append_assoc, List.singleton_append, readString,
    go_chars rest cs _ [] (by simp)]
  simp [Utf8.runes_encode, Text.ofChars]

end ReadString

/-! ## Reading a number -/

/-- The whole part of a JSON number: `0`, or digits that do not start with `0`. -/
def WholePart (ws : List Char) : Prop :=
  ws = ['0'] ∨ ∃ d ds, ws = d :: ds ∧ d ≠ '0' ∧ ∀ c ∈ ws, Decimal.isDigit c = true

/-- The fraction of a JSON number: nothing, or a point and at least one digit. -/
def FractionPart (fs : List Char) : Prop :=
  fs = [] ∨ ∃ ds, fs = '.' :: ds ∧ ds ≠ [] ∧ ∀ c ∈ ds, Decimal.isDigit c = true

/-- The positional text of a positive number is a whole part and a fraction. -/
theorem positional_layout {c : Nat} (n : Int) (positive : 0 < c) :
    ∃ whole fraction, (Decimal.positional c n).toList = whole ++ fraction ∧ WholePart whole ∧ FractionPart fraction := by
  have numeral := Decimal.toDigits_numeral c
  have text : toString c = String.ofList (Nat.toDigits 10 c) := Nat.toString_eq_ofList_toDigits
  have zeros : ∀ k, ∀ d ∈ List.replicate k '0', Decimal.isDigit d = true := fun k d mem => by
    rw [List.eq_of_mem_replicate mem]
    rfl
  obtain ⟨d, ds, split⟩ := List.exists_cons_of_ne_nil numeral.nonempty
  have lead : d ≠ '0' := fun zero => numeral.leading positive (by rw [split, zero]; rfl)
  unfold Decimal.positional
  simp only [text, String.length_ofList, String.toList_ofList]
  rcases le_or_gt 0 n with nonneg | negative_
  · rw [if_pos nonneg]
    refine ⟨Nat.toDigits 10 c ++ List.replicate n.toNat '0', [], by simp, .inr ⟨d, ds ++ List.replicate n.toNat '0',
      by rw [split, List.cons_append], lead, fun e mem => ?_⟩, .inl rfl⟩
    rcases List.mem_append.mp mem with mem | mem
    exacts [numeral.digits e mem, zeros _ e mem]
  · rw [if_neg (not_le.mpr negative_)]
    set digits := Nat.toDigits 10 c
    by_cases inside : (-n).toNat < digits.length
    · rw [if_pos inside]
      have taken : 0 < digits.length - (-n).toNat := by omega
      obtain ⟨e, es, front⟩ : ∃ e es, digits.take (digits.length - (-n).toNat) = e :: es :=
        List.exists_cons_of_ne_nil (List.ne_nil_of_length_pos (by simp; omega))
      have first : e = d := by
        have := congrArg List.head? front
        rw [List.head?_take, if_neg (by omega), split] at this
        simpa using this.symm
      refine ⟨digits.take (digits.length - (-n).toNat), '.' :: digits.drop (digits.length - (-n).toNat), by simp,
        .inr ⟨e, es, front, first ▸ lead, fun x mem => numeral.digits x (List.mem_of_mem_take mem)⟩,
        .inr ⟨_, rfl, List.ne_nil_of_length_pos (by simp; omega),
          fun x mem => numeral.digits x (List.mem_of_mem_drop mem)⟩⟩
    · rw [if_neg inside]
      refine ⟨['0'], '.' :: (List.replicate ((-n).toNat - digits.length) '0' ++ digits), by simp, .inl rfl,
        .inr ⟨_, rfl, by simp [numeral.nonempty], fun x mem => ?_⟩⟩
      rcases List.mem_append.mp mem with mem | mem
      exacts [zeros _ x mem, numeral.digits x mem]

theorem digit_toNat {d : Char} (digit : Decimal.isDigit d = true) : 48 ≤ d.toNat ∧ d.toNat ≤ 57 := by
  simp only [Decimal.isDigit, Bool.and_eq_true, decide_eq_true_eq] at digit
  obtain ⟨low, high⟩ := digit
  exact ⟨low, high⟩

theorem isDigit_code {d : Char} (digit : Decimal.isDigit d = true) : isDigit (code d) = true := by
  obtain ⟨low, high⟩ := digit_toNat digit
  have same := toNat_code (show d.toNat < 256 by omega)
  simp only [isDigit, Bool.and_eq_true, decide_eq_true_eq, UInt8.le_iff_toNat_le, same]
  exact ⟨low, high⟩

/-- The bytes of ASCII characters are their codes. -/
theorem encode_ascii {cs : List Char} (ascii : ∀ c ∈ cs, c.toNat < 128) : Utf8.encode cs = cs.map code := by
  induction cs with
  | nil => rfl
  | cons c cs ih =>
    rw [Utf8.encode, List.flatMap_cons, ← Utf8.encode, encodeChar_ascii (ascii c List.mem_cons_self),
      ih fun c mem => ascii c (List.mem_cons_of_mem _ mem)]
    rfl

/-- What may follow a value in written JSON: the end, white space, a comma, or
the bracket or brace that closes its container. -/
def Follows (rest : List UInt8) : Prop :=
  ∀ b ∈ rest.head?, b ∈ [32, 9, 10, 13, code ',', code ']', code '}']

theorem follows_stops {b : UInt8} {tail : List UInt8} (follows : Follows (b :: tail)) :
    isDigit b = false ∧ b ≠ code '.' ∧ b ≠ code 'e' ∧ b ≠ code 'E' := by
  have stops : ∀ b ∈ ([32, 9, 10, 13, code ',', code ']', code '}'] : List UInt8),
      isDigit b = false ∧ b ≠ code '.' ∧ b ≠ code 'e' ∧ b ≠ code 'E' := by decide +kernel
  exact stops b (follows b rfl)

/-- Digits are read up to the first byte that is none. -/
theorem takeWhile_digits {ds : List Char} (digits : ∀ c ∈ ds, Decimal.isDigit c = true) {more : List UInt8}
    (stop : ∀ b ∈ more.head?, isDigit b = false) :
    (ds.map code ++ more).takeWhile isDigit = ds.map code ∧ (ds.map code ++ more).dropWhile isDigit = more := by
  have mapped : ∀ b ∈ ds.map code, isDigit b = true := by
    intro b mem
    obtain ⟨d, held, rfl⟩ := List.mem_map.mp mem
    exact isDigit_code (digits d held)
  rw [List.takeWhile_append_of_pos mapped, List.dropWhile_append_of_pos mapped]
  cases more with
  | nil => simp
  | cons b tail => simp [stop b rfl]

/-- A number laid out as `Decimal.format` writes it, followed by what may
follow a value, is read as one number token. -/
theorem readNumberText_plain (negative : Bool) {whole fraction : List Char} (rest : List UInt8)
    (wholeOk : WholePart whole) (fractionOk : FractionPart fraction) (follows : Follows rest) :
    readNumberText (((if negative then ['-'] else []) ++ whole ++ fraction).map code ++ rest) =
      .ok (((if negative then ['-'] else []) ++ whole ++ fraction).map code, rest) := by
  -- the byte after the number ends it
  have restStops : ∀ b ∈ rest.head?, isDigit b = false := fun b mem => by
    cases rest with
    | nil => simp at mem
    | cons c tail =>
      simp only [List.head?_cons, Option.mem_def, Option.some.injEq] at mem
      subst mem
      exact (follows_stops follows).1
  have expo : ∀ b tail, rest = b :: tail → (b == code 'e' || b == code 'E') = false := fun b tail split => by
    subst split
    obtain ⟨-, -, e, E⟩ := follows_stops follows
    simp [e, E]
  have point : ∀ b tail, rest = b :: tail → (b == code '.') = false := fun b tail split => by
    subst split
    simp [(follows_stops follows).2.1]
  -- a leading digit of the whole part other than zero
  have leading : ∀ d, d ≠ '0' → Decimal.isDigit d = true →
      isDigit (code d) = true ∧ code d ≠ code '0' ∧ code d ≠ code '-' := fun d lead digit => by
    obtain ⟨low, high⟩ := digit_toNat digit
    have same := toNat_code (show d.toNat < 256 by omega)
    refine ⟨isDigit_code digit, fun zero => lead ?_, fun minus => ?_⟩
    · have := congrArg UInt8.toNat zero
      rw [same] at this
      exact Char.toNat_inj.mp this
    · have := congrArg UInt8.toNat minus
      rw [same, show (code '-').toNat = 45 from rfl] at this
      omega
  have zeroMinus : (code '0' == code '-') = false := by decide +kernel
  have restTaken : rest.takeWhile isDigit = [] ∧ rest.dropWhile isDigit = rest := by
    cases rest with
    | nil => simp
    | cons b tail => simp [restStops b rfl]
  -- the digits of a part are read as a run, whatever follows them
  have run : ∀ {ds : List Char}, (∀ c ∈ ds, Decimal.isDigit c = true) → ∀ b ∈ ds.map code, isDigit b = true :=
    fun digits b mem => by
      obtain ⟨d, held, rfl⟩ := List.mem_map.mp mem
      exact isDigit_code (digits d held)
  rcases fractionOk with rfl | ⟨fs, rfl, nonempty, fdigits⟩
  · rcases wholeOk with rfl | ⟨d, ds, rfl, lead, digits⟩
    · cases negative <;> cases rest <;> simp_all [readNumberText, code]
    · obtain ⟨digit, notZero, notMinus⟩ := leading d lead (digits d List.mem_cons_self)
      have whole := run fun c mem => digits c (List.mem_cons_of_mem d mem)
      cases negative <;> cases rest <;>
        simp [readNumberText, List.takeWhile_append_of_pos whole, List.dropWhile_append_of_pos whole,
          List.takeWhile_eq_self_iff.mpr whole, List.dropWhile_eq_nil_iff.mpr whole, restTaken, digit, notZero,
          notMinus, expo, point]
  · obtain ⟨f, fs', rfl⟩ := List.exists_cons_of_ne_nil nonempty
    have fractionRun := run fun c mem => fdigits c (List.mem_cons_of_mem f mem)
    have fDigit := isDigit_code (fdigits f List.mem_cons_self)
    have dot : isDigit (code '.') = false := by decide +kernel
    rcases wholeOk with rfl | ⟨d, ds, rfl, lead, digits⟩
    · cases negative <;> cases rest <;>
        simp [readNumberText, List.takeWhile_append_of_pos fractionRun, List.dropWhile_append_of_pos fractionRun,
          List.takeWhile_eq_self_iff.mpr fractionRun, List.dropWhile_eq_nil_iff.mpr fractionRun, restTaken, fDigit,
          zeroMinus, expo]
    · obtain ⟨digit, notZero, notMinus⟩ := leading d lead (digits d List.mem_cons_self)
      have whole := run fun c mem => digits c (List.mem_cons_of_mem d mem)
      cases negative <;> cases rest <;>
        simp [readNumberText, List.takeWhile_append_of_pos whole, List.dropWhile_append_of_pos whole,
          List.takeWhile_append_of_pos fractionRun, List.dropWhile_append_of_pos fractionRun,
          List.takeWhile_eq_self_iff.mpr fractionRun, List.dropWhile_eq_nil_iff.mpr fractionRun, restTaken, fDigit,
          dot, digit, notZero, notMinus, expo]

/-- The text of a finite double is laid out as a JSON number without exponent. -/
theorem format_layout {x : Float} (finite : (x.isNaN || x.isInf) = false) :
    ∃ (negative : Bool) (whole fraction : List Char), (Decimal.format x).toList = (if negative then ['-'] else []) ++ whole ++ fraction ∧
      WholePart whole ∧ FractionPart fraction := by
  obtain ⟨negative, m, e, shape⟩ := (Binary64.shape_finite_iff x).mpr finite
  unfold Decimal.format
  rw [shape]
  dsimp only
  split
  · exact ⟨negative, ['0'], [], by cases negative <;> rfl, .inl rfl, .inl rfl⟩
  · rename_i nonzero
    obtain ⟨canonical, -⟩ := Binary64.compose_shape shape
    generalize written : Decimal.shortest (Binary64.compose false m e).toBits m e = digits
    obtain ⟨c, n⟩ := digits
    obtain ⟨-, cPos, -⟩ := Decimal.shortest_spec canonical (Nat.pos_of_ne_zero nonzero) written
    obtain ⟨whole, fraction, layout, wholeOk, fractionOk⟩ := positional_layout n cPos
    refine ⟨negative, whole, fraction, ?_, wholeOk, fractionOk⟩
    rw [String.toList_append, layout]
    cases negative <;> simp

/-- The characters of a number laid out this way are ASCII. -/
theorem plain_ascii (negative : Bool) {whole fraction : List Char} (wholeOk : WholePart whole)
    (fractionOk : FractionPart fraction) :
    ∀ c ∈ (if negative then ['-'] else []) ++ whole ++ fraction, c.toNat < 128 := by
  have digit : ∀ d, Decimal.isDigit d = true → d.toNat < 128 := fun d isDigit_ => by
    have := digit_toNat isDigit_
    omega
  intro c mem
  simp only [List.mem_append] at mem
  rcases mem with (sign | inWhole) | inFraction
  · cases negative <;> simp_all
  · rcases wholeOk with rfl | ⟨d, ds, rfl, -, digits⟩
    · simp_all
    · exact digit c (digits c inWhole)
  · rcases fractionOk with rfl | ⟨ds, rfl, -, digits⟩
    · simp at inFraction
    · rcases List.mem_cons.mp inFraction with rfl | inDigits
      · decide
      · exact digit c (digits c inDigits)

theorem numberText_bytes {x : Float} {negative : Bool} {whole fraction : List Char}
    (layout : (Decimal.format x).toList = (if negative then ['-'] else []) ++ whole ++ fraction)
    (wholeOk : WholePart whole) (fractionOk : FractionPart fraction) :
    (Value.numberText x).bytes = ((if negative then ['-'] else []) ++ whole ++ fraction).map code := by
  rw [Value.numberText, Text.bytes_ofString, layout, encode_ascii (plain_ascii negative wholeOk fractionOk)]

/-- A finite number as the writer writes it, followed by what may follow a
value, is read back as the same double. -/
theorem readNumber_numberText {x : Float} (finite : (x.isNaN || x.isInf) = false) (rest : List UInt8)
    (follows : Follows rest) : readNumber ((Value.numberText x).bytes ++ rest) = .ok (x, rest) := by
  obtain ⟨negative, whole, fraction, layout, wholeOk, fractionOk⟩ := format_layout finite
  have bytes := numberText_bytes layout wholeOk fractionOk
  have text : (Text.mk (((if negative then ['-'] else []) ++ whole ++ fraction).map code)).toStringLossy =
      Decimal.format x := by
    rw [← bytes, Value.numberText, Text.toStringLossy_ofString]
  unfold readNumber
  rw [bytes, readNumberText_plain negative rest wholeOk fractionOk follows]
  simp only [bind, Except.bind, text, Decimal.format_reads_back finite]

/-! ## Reading a word -/

theorem readWord_go_self (word : String) :
    ∀ expected rest : List UInt8, readWord.go word expected (expected ++ rest) = .ok rest
  | [], rest => rfl
  | e :: more, rest => by
    simp only [readWord.go, List.cons_append, beq_self_eq_true, if_true]
    exact readWord_go_self word more rest

/-- A word is read back as the value it names. -/
theorem readWord_ofString (word : String) (v : JsonTree) (rest : List UInt8) :
    readWord word v ((Text.ofString word).bytes ++ rest) = .ok (v, rest) := by
  simp only [readWord, readWord_go_self]

end Json

end Vernacular
