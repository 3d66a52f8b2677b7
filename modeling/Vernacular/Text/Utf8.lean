/-!
# UTF-8 sequences

Strings of the language are byte strings and may hold any bytes. They are read
as runes one sequence at a time: a well-formed UTF-8 sequence gives its scalar
value, and a byte that starts no well-formed sequence gives the replacement
character U+FFFD and is read alone. So every byte belongs to exactly one
sequence, and gluing the sequences back together gives the bytes again
(`join_sequences`).
-/

set_option autoImplicit false

namespace Vernacular.Utf8

/-- The replacement character stands for a byte that starts no well-formed sequence. -/
def replacement : Char := '\uFFFD'

/-- A continuation byte has the bit pattern `10xxxxxx`. -/
def isContinuation (b : UInt8) : Bool := b.toNat / 64 == 2

/-- The length of the well-formed sequence at the head of `bytes`, or zero when
the head byte starts none. Overlong forms, surrogates and values past U+10FFFF
are not well formed. -/
def headWidth : List UInt8 → Nat
  | [] => 0
  | b0 :: rest =>
    let lead := b0.toNat
    if lead < 0x80 then 1
    else if lead < 0xC2 then 0
    else if lead < 0xE0 then
      match rest with
      | b1 :: _ => if isContinuation b1 then 2 else 0
      | [] => 0
    else if lead < 0xF0 then
      let low := if lead == 0xE0 then 0xA0 else 0x80
      let high := if lead == 0xED then 0x9F else 0xBF
      match rest with
      | b1 :: b2 :: _ =>
        if low ≤ b1.toNat && b1.toNat ≤ high && isContinuation b2 then 3 else 0
      | _ => 0
    else if lead < 0xF5 then
      let low := if lead == 0xF0 then 0x90 else 0x80
      let high := if lead == 0xF4 then 0x8F else 0xBF
      match rest with
      | b1 :: b2 :: b3 :: _ =>
        if low ≤ b1.toNat && b1.toNat ≤ high && isContinuation b2 && isContinuation b3
        then 4 else 0
      | _ => 0
    else 0

/-- The scalar value spelled by a well-formed sequence of the given width. -/
def valueOf (width : Nat) (bytes : List UInt8) : Nat :=
  let at_ (i : Nat) : Nat := (bytes.getD i 0).toNat
  match width with
  | 1 => at_ 0
  | 2 => (at_ 0 % 32) * 64 + at_ 1 % 64
  | 3 => (at_ 0 % 16) * 4096 + (at_ 1 % 64) * 64 + at_ 2 % 64
  | _ => (at_ 0 % 8) * 262144 + (at_ 1 % 64) * 4096 + (at_ 2 % 64) * 64 + at_ 3 % 64

/-- The rune at the head of a nonempty byte list and the number of bytes it
takes; an ill-formed head reads as the replacement character of width one. -/
def decodeHead (bytes : List UInt8) : Char × Nat :=
  match headWidth bytes with
  | 0 => (replacement, 1)
  | width => (Char.ofNat (valueOf width bytes), width)

theorem decodeHead_width_pos (bytes : List UInt8) : 0 < (decodeHead bytes).2 := by
  unfold decodeHead
  split <;> simp_all <;> omega

/-- The sequences of a byte string, each with the rune it reads as. -/
def sequences (bytes : List UInt8) : List (Char × List UInt8) :=
  match bytes with
  | [] => []
  | b :: rest =>
    let head := decodeHead (b :: rest)
    (head.1, (b :: rest).take head.2) :: sequences ((b :: rest).drop head.2)
termination_by bytes.length
decreasing_by
  simp only [List.length_drop, List.length_cons]
  have := decodeHead_width_pos (b :: rest)
  omega

/-- The runes of a byte string; each ill-formed byte reads as U+FFFD. -/
def runes (bytes : List UInt8) : List Char := (sequences bytes).map Prod.fst

/-- The number of runes: a well-formed sequence counts once, an ill-formed byte once. -/
def runeCount (bytes : List UInt8) : Nat := (sequences bytes).length

/-- Every byte lies in exactly one sequence. -/
theorem join_sequences (bytes : List UInt8) :
    ((sequences bytes).map Prod.snd).flatten = bytes := by
  induction bytes using sequences.induct with
  | case1 => simp [sequences]
  | case2 b rest head ih =>
    rw [sequences]
    simp only [List.map_cons, List.flatten_cons]
    rw [ih]
    exact List.take_append_drop _ _

/-- The UTF-8 bytes of a character. -/
def encodeChar (c : Char) : List UInt8 := String.utf8EncodeChar c

/-- The UTF-8 bytes of a list of characters. -/
def encode (cs : List Char) : List UInt8 := cs.flatMap encodeChar

/-- Whether every sequence is well formed, that is, whether the bytes are UTF-8 text. -/
def isWellFormed (bytes : List UInt8) : Bool :=
  (String.fromUTF8? (ByteArray.mk bytes.toArray)).isSome

end Vernacular.Utf8
