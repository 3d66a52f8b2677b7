import Mathlib
import Vernacular.Text.Basic
/-!
# Decoding what the encoder wrote

The rune reader of byte strings (`Utf8.decodeHead`, `Utf8.runes`) reads back
every character the UTF-8 encoder writes: each of the encoder's four widths
meets the reader's case for that width (`decodeHead_encodeChar_append`), so
the runes of encoded characters are the characters (`runes_encode`) and the
text of a string reads back as the string (`Text.toStringLossy_ofString`).
-/

set_option autoImplicit false

namespace Vernacular.Utf8

/-! ## One character -/

theorem toNat_ofNat_of_lt {n : Nat} (h : n < 256) : (UInt8.ofNat n).toNat = n := by
  simp only [UInt8.toNat_ofNat', Nat.reducePow]
  omega

theorem isContinuation_ofNat (n : Nat) : isContinuation (UInt8.ofNat (n % 64 + 128)) := by
  simp only [isContinuation, toNat_ofNat_of_lt (show n % 64 + 128 < 256 by omega), beq_iff_eq]
  omega

theorem headWidth_one (v : Nat) (hi : v ≤ 0x7f) (rest : List UInt8) :
    headWidth (UInt8.ofNat v :: rest) = 1 := by
  simp only [headWidth, toNat_ofNat_of_lt (show v < 256 by omega)]
  rw [if_pos (by omega)]

theorem headWidth_two (v : Nat) (lo : 0x7f < v) (hi : v ≤ 0x7ff) (rest : List UInt8) :
    headWidth (UInt8.ofNat (v / 64 % 32 + 192) :: UInt8.ofNat (v % 64 + 128) :: rest) = 2 := by
  simp only [headWidth, toNat_ofNat_of_lt (show v / 64 % 32 + 192 < 256 by omega),
    isContinuation_ofNat]
  rw [if_neg (by omega), if_neg (by omega), if_pos (by omega), if_pos trivial]

/-- A three-byte lead of `0xE0` or `0xED` narrows the second byte's range; the
second byte of an encoded character lies in it because the character is past
`0x7FF` and no surrogate. -/
theorem headWidth_three (v : Nat) (lo : 0x7ff < v) (hi : v ≤ 0xffff)
    (valid : v < 0xd800 ∨ 0xdfff < v) (rest : List UInt8) :
    headWidth (UInt8.ofNat (v / 4096 % 16 + 224) :: UInt8.ofNat (v / 64 % 64 + 128) ::
      UInt8.ofNat (v % 64 + 128) :: rest) = 3 := by
  simp only [headWidth, toNat_ofNat_of_lt (show v / 4096 % 16 + 224 < 256 by omega),
    toNat_ofNat_of_lt (show v / 64 % 64 + 128 < 256 by omega), isContinuation_ofNat, Bool.and_true]
  rw [if_neg (by omega), if_neg (by omega), if_neg (by omega), if_pos (by omega), if_pos]
  simp only [Bool.and_eq_true, decide_eq_true_eq, beq_iff_eq]
  split_ifs <;> omega

theorem headWidth_four (v : Nat) (lo : 0xffff < v) (hi : v < 0x110000) (rest : List UInt8) :
    headWidth (UInt8.ofNat (v / 262144 % 8 + 240) :: UInt8.ofNat (v / 4096 % 64 + 128) ::
      UInt8.ofNat (v / 64 % 64 + 128) :: UInt8.ofNat (v % 64 + 128) :: rest) = 4 := by
  simp only [headWidth, toNat_ofNat_of_lt (show v / 262144 % 8 + 240 < 256 by omega),
    toNat_ofNat_of_lt (show v / 4096 % 64 + 128 < 256 by omega), isContinuation_ofNat, Bool.and_true]
  rw [if_neg (by omega), if_neg (by omega), if_neg (by omega), if_neg (by omega), if_pos (by omega),
    if_pos]
  simp only [Bool.and_eq_true, decide_eq_true_eq, beq_iff_eq]
  split_ifs <;> omega

theorem decodeHead_of_headWidth {bytes : List UInt8} {width : Nat} (h : headWidth bytes = width)
    (pos : 0 < width) : decodeHead bytes = (Char.ofNat (valueOf width bytes), width) := by
  obtain ⟨w, rfl⟩ : ∃ w, width = w + 1 := ⟨width - 1, by omega⟩
  simp only [decodeHead, h]

theorem decodeHead_one (v : Nat) (hi : v ≤ 0x7f) (rest : List UInt8) :
    decodeHead (UInt8.ofNat v :: rest) = (Char.ofNat v, 1) := by
  rw [decodeHead_of_headWidth (headWidth_one v hi rest) Nat.one_pos]
  simp only [valueOf, List.getD_cons_zero, toNat_ofNat_of_lt (show v < 256 by omega)]

theorem decodeHead_two (v : Nat) (lo : 0x7f < v) (hi : v ≤ 0x7ff) (rest : List UInt8) :
    decodeHead (UInt8.ofNat (v / 64 % 32 + 192) :: UInt8.ofNat (v % 64 + 128) :: rest) =
      (Char.ofNat v, 2) := by
  rw [decodeHead_of_headWidth (headWidth_two v lo hi rest) Nat.two_pos]
  simp only [valueOf, List.getD_cons_zero, List.getD_cons_succ,
    toNat_ofNat_of_lt (show v / 64 % 32 + 192 < 256 by omega),
    toNat_ofNat_of_lt (show v % 64 + 128 < 256 by omega)]
  congr 2
  omega

theorem decodeHead_three (v : Nat) (lo : 0x7ff < v) (hi : v ≤ 0xffff)
    (valid : v < 0xd800 ∨ 0xdfff < v) (rest : List UInt8) :
    decodeHead (UInt8.ofNat (v / 4096 % 16 + 224) :: UInt8.ofNat (v / 64 % 64 + 128) ::
      UInt8.ofNat (v % 64 + 128) :: rest) = (Char.ofNat v, 3) := by
  rw [decodeHead_of_headWidth (headWidth_three v lo hi valid rest) (by omega)]
  simp only [valueOf, List.getD_cons_zero, List.getD_cons_succ,
    toNat_ofNat_of_lt (show v / 4096 % 16 + 224 < 256 by omega),
    toNat_ofNat_of_lt (show v / 64 % 64 + 128 < 256 by omega),
    toNat_ofNat_of_lt (show v % 64 + 128 < 256 by omega)]
  congr 2
  omega

theorem decodeHead_four (v : Nat) (lo : 0xffff < v) (hi : v < 0x110000) (rest : List UInt8) :
    decodeHead (UInt8.ofNat (v / 262144 % 8 + 240) :: UInt8.ofNat (v / 4096 % 64 + 128) ::
      UInt8.ofNat (v / 64 % 64 + 128) :: UInt8.ofNat (v % 64 + 128) :: rest) =
      (Char.ofNat v, 4) := by
  rw [decodeHead_of_headWidth (headWidth_four v lo hi rest) (by omega)]
  simp only [valueOf, List.getD_cons_zero, List.getD_cons_succ,
    toNat_ofNat_of_lt (show v / 262144 % 8 + 240 < 256 by omega),
    toNat_ofNat_of_lt (show v / 4096 % 64 + 128 < 256 by omega),
    toNat_ofNat_of_lt (show v / 64 % 64 + 128 < 256 by omega),
    toNat_ofNat_of_lt (show v % 64 + 128 < 256 by omega)]
  congr 2
  omega

/-- The rune reader reads back the encoding of a character, whatever follows it. -/
theorem decodeHead_encodeChar_append (c : Char) (rest : List UInt8) :
    decodeHead (encodeChar c ++ rest) = (c, (encodeChar c).length) := by
  have valid : c.val.toNat < 0xd800 ∨ (0xdfff < c.val.toNat ∧ c.val.toNat < 0x110000) := c.valid
  have back : Char.ofNat c.val.toNat = c := Char.ofNat_toNat c
  unfold encodeChar String.utf8EncodeChar
  generalize c.val.toNat = v at valid back ⊢
  dsimp only
  -- the encoder's four widths, each read back by its own case of the reader
  split_ifs with one two three
  · rw [List.singleton_append, decodeHead_one v one rest, back, List.length_singleton]
  · rw [List.cons_append, List.singleton_append, decodeHead_two v (by omega) two rest, back]
    rfl
  · rw [List.cons_append, List.cons_append, List.singleton_append,
      decodeHead_three v (by omega) three (by omega) rest, back]
    rfl
  · rw [List.cons_append, List.cons_append, List.cons_append, List.singleton_append,
      decodeHead_four v (by omega) (by omega) rest, back]
    rfl

/-! ## Strings -/

theorem sequences_encodeChar_append (c : Char) (rest : List UInt8) :
    sequences (encodeChar c ++ rest) = (c, encodeChar c) :: sequences rest := by
  obtain ⟨b, tail, split⟩ : ∃ b tail, encodeChar c = b :: tail :=
    List.exists_cons_of_ne_nil String.utf8EncodeChar_ne_nil
  have head := decodeHead_encodeChar_append c rest
  rw [split] at head ⊢
  rw [List.cons_append, sequences, ← List.cons_append, head]
  simp

/-- Reading the encoding of characters as runes gives the characters back. -/
theorem runes_encode (cs : List Char) : runes (encode cs) = cs := by
  induction cs with
  | nil => simp [runes, encode, sequences]
  | cons c cs ih =>
    rw [runes, encode, List.flatMap_cons, ← encode, sequences_encodeChar_append]
    simpa [runes] using ih

theorem encode_append (cs ds : List Char) :
    encode (cs ++ ds) = encode cs ++ encode ds := List.flatMap_append

theorem length_encode_pos {cs : List Char} (nonempty : cs ≠ []) : 0 < (encode cs).length := by
  obtain ⟨c, cs, rfl⟩ := List.exists_cons_of_ne_nil nonempty
  simp only [encode, List.flatMap_cons, List.length_append, encodeChar,
    String.length_utf8EncodeChar]
  have := Char.utf8Size_pos c
  omega

end Vernacular.Utf8

namespace Vernacular

theorem ByteArray.toList_loop (bs : ByteArray) (i : Nat) (r : List UInt8) :
    ByteArray.toList.loop bs i r = r.reverse ++ bs.data.toList.drop i := by
  fun_induction ByteArray.toList.loop bs i r with
  | case1 i r inside ih =>
    have inData : i < bs.data.toList.length := by simpa using inside
    rw [ih, List.drop_eq_getElem_cons inData]
    simp [ByteArray.get!, getElem!_pos bs.data i (by simpa using inside)]
  | case2 i r outside =>
    simp
    omega

/-- The bytes of a string are the UTF-8 encoding of its characters. -/
theorem Text.bytes_ofString (s : String) : (Text.ofString s).bytes = Utf8.encode s.toList := by
  rw [Text.ofString, String.toUTF8_eq_toByteArray, ← String.utf8Encode_toList]
  simp only [ByteArray.toList, ByteArray.toList_loop, List.utf8Encode, List.toList_data_toByteArray,
    List.reverse_nil, List.nil_append, List.drop_zero]
  rfl

/-- Text made of whole characters reads back as those characters. -/
theorem Text.toStringLossy_ofChars (cs : List Char) :
    (Text.ofChars cs).toStringLossy = String.ofList cs := by
  rw [toStringLossy, runes, ofChars, Utf8.runes_encode]

/-- A string's text reads back as the string. -/
theorem Text.toStringLossy_ofString (s : String) : (Text.ofString s).toStringLossy = s := by
  have same : Text.ofString s = Text.ofChars s.toList := by
    rw [Text.ofChars, ← Text.bytes_ofString]
  rw [same, toStringLossy_ofChars, String.ofList_toList]

end Vernacular
