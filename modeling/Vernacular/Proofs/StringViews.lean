import Mathlib
import Vernacular.Proofs.Decoding
import Vernacular.Proofs.Members
import Vernacular.Proofs.ImportStack
/-!
# The views of a string

A string is a byte string, and a script sees it in several ways: by its
length (`len(s)`, `s.length()`), by its pieces (`s.split("")`) and by its
characters at positions (`s[i]`). Counts and positions are in UTF-8
sequences, each byte that starts no well-formed sequence a sequence of its own.

The counts always agree. A position reads a sequence in two ways: `s[i]`
decodes it into a rune and writes the rune out again, so an ill-formed byte
becomes U+FFFD, while a piece of `split` keeps the sequence's bytes. So the
characters of a string are its pieces, and glue back into the string, exactly
when the string is UTF-8 text (`Text.singles_eq_splitOn_iff`,
`Text.concat_singles_iff`).

Main statement: `Text.string_views_agree_iff_utf8`.
-/

set_option autoImplicit false

namespace Vernacular

namespace Utf8

/-- The sequences of encoded characters are the characters with their encodings. -/
theorem sequences_encode (cs : List Char) :
    sequences (encode cs) = cs.map fun c => (c, encodeChar c) := by
  induction cs with
  | nil => simp [encode, sequences]
  | cons c cs ih =>
    rw [encode, List.flatMap_cons, ← encode, sequences_encodeChar_append, ih, List.map_cons]

end Utf8

namespace Text

/-- The characters of a text, each as a string of one rune: what indexing reads. -/
def singles (t : Text) : List Text := t.runes.map fun c => Text.ofChars [c]

/-! ## Counts and pieces -/

/-- The pieces of a text split on the empty separator are its sequences. -/
theorem splitOn_empty (t : Text) :
    t.splitOn Text.empty = (Utf8.sequences t.bytes).map fun piece => ⟨piece.2⟩ := by
  simp [splitOn, Text.empty]

theorem length_singles (t : Text) : t.singles.length = t.runeCount := by
  simp [singles, runes, runeCount, Utf8.runes, Utf8.runeCount]

theorem length_splitOn_empty (t : Text) : (t.splitOn Text.empty).length = t.runeCount := by
  simp [splitOn_empty, runeCount, Utf8.runeCount]

/-- The pieces glue back into the text. -/
theorem concat_splitOn_empty (t : Text) : Text.concat (t.splitOn Text.empty) = t := by
  rw [splitOn_empty, Text.concat, List.map_map]
  exact congrArg Text.mk (Utf8.join_sequences t.bytes)

/-- The characters glue into the text of the runes. -/
theorem concat_singles (t : Text) : Text.concat t.singles = Text.ofChars t.runes := by
  simp [Text.concat, singles, ofChars, Utf8.encode, List.flatMap, Function.comp_def]

/-! ## Agreement on UTF-8 text -/

/-- A text is the text of its runes exactly when it is UTF-8 text. -/
theorem ofChars_runes_iff (t : Text) : Text.ofChars t.runes = t ↔ ∃ cs, t = Text.ofChars cs := by
  constructor
  · intro same
    exact ⟨t.runes, same.symm⟩
  · rintro ⟨cs, rfl⟩
    simp only [runes, ofChars, Utf8.runes_encode]

theorem singles_ofChars (cs : List Char) :
    (Text.ofChars cs).singles = cs.map fun c => Text.ofChars [c] := by
  simp only [singles, runes, ofChars, Utf8.runes_encode]

theorem splitOn_empty_ofChars (cs : List Char) :
    (Text.ofChars cs).splitOn Text.empty = cs.map fun c => Text.ofChars [c] := by
  rw [splitOn_empty, ofChars, Utf8.sequences_encode, List.map_map]
  simp [Function.comp_def, ofChars, Utf8.encode]

/-- The characters of a text are its pieces exactly when it is UTF-8 text. -/
theorem singles_eq_splitOn_iff (t : Text) :
    t.singles = t.splitOn Text.empty ↔ ∃ cs, t = Text.ofChars cs := by
  constructor
  · intro same
    -- glued, the characters give the text of the runes and the pieces the text
    have glued := congrArg Text.concat same
    rw [concat_singles, concat_splitOn_empty] at glued
    exact (ofChars_runes_iff t).mp glued
  · rintro ⟨cs, rfl⟩
    rw [singles_ofChars, splitOn_empty_ofChars]

/-- The characters of a text glue back into it exactly when it is UTF-8 text. -/
theorem concat_singles_iff (t : Text) : Text.concat t.singles = t ↔ ∃ cs, t = Text.ofChars cs := by
  rw [concat_singles]
  exact ofChars_runes_iff t

end Text

/-! ## The views as the program computes them -/

open Eval

namespace Library

theorem length_string_run (t : Text) (m : Machine) :
    (length [.string t]).run m = .ok (.number t.runeCount.toFloat) m := rfl

theorem stringLength_run (t : Text) (m : Machine) :
    (stringMethod .length [.string t]).run m = .ok (.number t.runeCount.toFloat) m := rfl

theorem split_run (t sep : Text) (m : Machine) :
    (stringMethod .split [.string t, .string sep]).run m =
      .ok (.array m.heap.arrays.size)
        { m with heap := (m.heap.allocArray ((t.splitOn sep).map Value.string).toArray).2 } := rfl

end Library

/-- Indexing a string reads its characters. -/
theorem getProperty_string_run (scope : Nat) (t : Text) {key : Value} {i : Nat}
    (indexed : key.index? = some i) (m : Machine) :
    (getProperty scope (.string t) key).run m = .ok ((t.singles.map Value.string).getD i .null) m := by
  simp only [getProperty, indexed, Text.singles, List.map_map]
  cases rune : t.runes[i]? <;> simp [rune, List.getD_eq_getElem?_getD]

/-- Indexing the result of `split` reads its pieces. -/
theorem split_getProperty_run (scope : Nat) (t sep : Text) {key : Value} {i : Nat}
    (indexed : key.index? = some i) (m : Machine) :
    (Library.stringMethod .split [.string t, .string sep] >>= fun pieces => getProperty scope pieces key).run' m =
      some (((t.splitOn sep).map Value.string).getD i .null) := by
  rw [EStateM.run', run_bind_ok (Library.split_run t sep m), getProperty_array_run _ scope _ indexed,
    Heap.elements_allocArray, if_pos rfl]
  simp [List.getD_eq_getElem?_getD]

/-- The views of a string as a script reads them. `len(s)`, `s.length()` and
the number of pieces of `s.split("")` are all its rune count. At a position
`s[i]` reads the `i`-th character and `s.split("")[i]` the `i`-th piece; the
characters are the pieces, and glue back into the string, exactly when the
string is UTF-8 text. -/
theorem Text.string_views_agree_iff_utf8 (scope : Nat) (t : Text) (m : Machine) :
    (Library.length [.string t]).run' m = some (.number t.runeCount.toFloat) ∧
    (Library.stringMethod .length [.string t]).run' m = some (.number t.runeCount.toFloat) ∧
    (Library.stringMethod .split [.string t, .string Text.empty] >>= fun pieces =>
      Library.length [pieces]).run' m = some (.number t.runeCount.toFloat) ∧
    (∀ key i, key.index? = some i →
      (getProperty scope (.string t) key).run' m = some ((t.singles.map Value.string).getD i .null) ∧
      (Library.stringMethod .split [.string t, .string Text.empty] >>= fun pieces =>
        getProperty scope pieces key).run' m = some (((t.splitOn Text.empty).map Value.string).getD i .null)) ∧
    (t.singles = t.splitOn Text.empty ↔ ∃ cs, t = Text.ofChars cs) ∧
    (Text.concat t.singles = t ↔ ∃ cs, t = Text.ofChars cs) := by
  refine ⟨by simp [EStateM.run', Library.length_string_run],
    by simp [EStateM.run', Library.stringLength_run], ?count,
    fun key i indexed => ⟨?index, split_getProperty_run scope t _ indexed m⟩,
    t.singles_eq_splitOn_iff, t.concat_singles_iff⟩
  case count =>
    -- the array of pieces has one element for each rune
    rw [EStateM.run', run_bind_ok (Library.split_run t Text.empty m)]
    simp [Library.length, requireArgs, argAt, heap, Heap.elements_allocArray, Text.length_splitOn_empty]
  case index => simp [EStateM.run', getProperty_string_run scope t indexed m]

/-- A lone byte `0xC3` starts no well-formed sequence: indexing reads it as
U+FFFD, while its piece of `split` keeps the byte. -/
theorem lone_byte_indexed_apart_from_its_piece :
    (getProperty 0 (.string ⟨[0xC3]⟩) (.number 0)).run' default =
        some (.string (Text.ofChars ['\uFFFD'])) ∧
      (Library.stringMethod .split [.string ⟨[0xC3]⟩, .string Text.empty] >>= fun pieces =>
        getProperty 0 pieces (.number 0)).run' default = some (.string ⟨[0xC3]⟩) ∧
      Text.ofChars ['\uFFFD'] ≠ ⟨[0xC3]⟩ := by
  have indexed : (Value.number 0).index? = some 0 := by decide
  have read : Utf8.sequences [0xC3] = [('\uFFFD', [0xC3])] := by
    rw [Utf8.sequences]
    simp [Utf8.decodeHead, Utf8.headWidth, Utf8.replacement, Utf8.sequences]
  refine ⟨?index, ?piece, by decide⟩
  case index =>
    simp [EStateM.run', getProperty_string_run 0 _ indexed, Text.singles, Text.runes, Utf8.runes, read]
  case piece =>
    rw [split_getProperty_run 0 _ _ indexed]
    simp [Text.splitOn_empty, read]

end Vernacular
