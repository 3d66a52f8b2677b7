import Vernacular.Text.Utf8
import Vernacular.Text.Case
/-!
# Byte strings

`Text` is the string type of the language: a sequence of bytes that is
usually, but not always, UTF-8. Operations that look at characters read the
bytes as runes (`Utf8.sequences`); operations that look for or cut at a
substring work on bytes. Comparison is byte-wise and lexicographic, which on
UTF-8 agrees with the order of code points.
-/

set_option autoImplicit false

namespace Vernacular

/-- A byte string of the language. -/
structure Text where
  bytes : List UInt8
deriving DecidableEq, Inhabited, Hashable, Repr

namespace Text

/-- The empty text. -/
def empty : Text := ⟨[]⟩

/-- The UTF-8 bytes of a string. -/
def ofString (s : String) : Text := ⟨s.toUTF8.toList⟩

instance : Coe String Text := ⟨ofString⟩

instance : Append Text := ⟨fun a b => ⟨a.bytes ++ b.bytes⟩⟩

@[simp] theorem bytes_append (a b : Text) : (a ++ b).bytes = a.bytes ++ b.bytes := rfl

/-- The text of a list of characters. -/
def ofChars (cs : List Char) : Text := ⟨Utf8.encode cs⟩

/-- The number of bytes. -/
def size (t : Text) : Nat := t.bytes.length

/-- Whether the text has no bytes. -/
def isEmpty (t : Text) : Bool := t.bytes.isEmpty

/-- The runes of the text; an ill-formed byte reads as U+FFFD. -/
def runes (t : Text) : List Char := Utf8.runes t.bytes

/-- The number of runes. -/
def runeCount (t : Text) : Nat := Utf8.runeCount t.bytes

/-- Whether the bytes are well-formed UTF-8. -/
def isWellFormed (t : Text) : Bool := Utf8.isWellFormed t.bytes

/-- The string spelled by the text, each ill-formed byte read as U+FFFD. -/
def toStringLossy (t : Text) : String := String.ofList t.runes

/-- Whether every byte is ASCII. -/
def isAscii (t : Text) : Bool := t.bytes.all (fun b => b < 0x80)

/-! ## Order -/

/-- Byte-wise lexicographic comparison; a proper prefix comes first. -/
def compareBytes : List UInt8 → List UInt8 → Ordering
  | [], [] => .eq
  | [], _ :: _ => .lt
  | _ :: _, [] => .gt
  | a :: as, b :: bs =>
    if a < b then .lt else if b < a then .gt else compareBytes as bs

/-- Texts are ordered byte by byte. -/
def compare (a b : Text) : Ordering := compareBytes a.bytes b.bytes

/-- Strictly before in byte order. -/
def lt (a b : Text) : Bool := compare a b == .lt

/-! ## Substrings -/

/-- Whether `pattern` occurs at the start of `bytes`. -/
def bytesStartWith (bytes pattern : List UInt8) : Bool := pattern.isPrefixOf bytes

/-- The byte offset of the first occurrence of a nonempty pattern, if any. -/
def findBytes (pattern : List UInt8) : List UInt8 → Option Nat
  | [] => if pattern.isEmpty then some 0 else none
  | b :: rest =>
    if pattern.isPrefixOf (b :: rest) then some 0
    else (findBytes pattern rest).map (· + 1)

/-- Whether `needle` occurs in the text; the empty text occurs everywhere. -/
def contains (t needle : Text) : Bool := (findBytes needle.bytes t.bytes).isSome

/-- Replace the first occurrence of `old` by `new`. The empty text occurs at
the start, so replacing it puts `new` in front. -/
def replaceFirst (t old new : Text) : Text :=
  match findBytes old.bytes t.bytes with
  | none => t
  | some at_ => ⟨t.bytes.take at_ ++ new.bytes ++ t.bytes.drop (at_ + old.size)⟩

/-- Cut `bytes` at every occurrence of a nonempty separator, left to right;
`piece` holds the bytes of the current piece in reverse. -/
def splitBytes (separator : List UInt8) (nonempty : separator ≠ [])
    (bytes : List UInt8) (piece : List UInt8) : List (List UInt8) :=
  match bytes with
  | [] => [piece.reverse]
  | b :: rest =>
    if separator.isPrefixOf (b :: rest) then
      piece.reverse :: splitBytes separator nonempty ((b :: rest).drop separator.length) []
    else splitBytes separator nonempty rest (b :: piece)
termination_by bytes.length
decreasing_by
  · simp only [List.length_drop, List.length_cons]
    have : 0 < separator.length := List.length_pos_iff.mpr nonempty
    omega
  · simp

/-- Split at every occurrence of the separator. An empty separator splits
into the UTF-8 sequences, each ill-formed byte alone; an empty text with a
nonempty separator gives one empty piece. -/
def splitOn (t separator : Text) : List Text :=
  if h : separator.bytes = [] then
    (Utf8.sequences t.bytes).map (fun piece => ⟨piece.2⟩)
  else
    (splitBytes separator.bytes h t.bytes []).map Text.mk

/-- Join texts with a separator between neighbours. -/
def join (separator : Text) : List Text → Text
  | [] => empty
  | [t] => t
  | t :: rest => t ++ separator ++ join separator rest

/-! ## Characters -/

/-- White space by the Unicode White_Space property. -/
def isSpaceChar (c : Char) : Bool :=
  let n := c.toNat
  (9 ≤ n && n ≤ 13) || n == 32 || n == 0x85 || n == 0xA0 || n == 0x1680 ||
    (0x2000 ≤ n && n ≤ 0x200A) || n == 0x2028 || n == 0x2029 || n == 0x202F ||
    n == 0x205F || n == 0x3000

/-- Drop leading and trailing white space runes; ill-formed bytes are not space. -/
def trimSpace (t : Text) : Text :=
  let kept := ((Utf8.sequences t.bytes).dropWhile (fun piece => isSpaceChar piece.1)).reverse
    |>.dropWhile (fun piece => isSpaceChar piece.1) |>.reverse
  ⟨(kept.map Prod.snd).flatten⟩

/-- Map every rune; ill-formed bytes become U+FFFD first. -/
def mapRunes (f : Char → Char) (t : Text) : Text := ofChars (t.runes.map f)

/-- Upper case by the simple case mapping of each rune. -/
def toUpper (t : Text) : Text := mapRunes Unicode.toUpper t

/-- Lower case by the simple case mapping of each rune. -/
def toLower (t : Text) : Text := mapRunes Unicode.toLower t

/-- Whether the byte occurs in the text. -/
def hasByte (t : Text) (b : UInt8) : Bool := t.bytes.contains b

end Text

end Vernacular
