import Vernacular.Interpreter.Show
import Vernacular.Dialect.Basic
/-!
# Source forms of values

The source form of a data value is text in a dialect that reads back as an
equal value. Null, booleans, numbers, strings, arrays and objects have one;
functions and the ignore value do not, and neither does a container that
contains itself.

Numbers are written in positional notation with the dialect's minus sign.
No literal spells a non-finite number, so those are written as the division
that yields them: `(0 / 0)`, `(1 / 0)` and `(-1 / 0)`. Strings take the first
of `"`, `'` and a backtick they do not contain as their delimiter. An object
key needs to be a word that starts with no digit and is not reserved in the
dialect. Brackets and punctuation spelled as words are padded with blanks so
that they do not merge with their neighbours.
-/

set_option autoImplicit false

namespace Vernacular

/-- Pad a spelling that starts with a word character with a blank on each side. -/
def spacedSpelling (s : String) : String :=
  match s.toList.head? with
  | some c => if isWordChar c then " " ++ s ++ " " else s
  | none => s

/-- Whether a key can be written bare in an object literal of a dialect. -/
def Dialect.bareKey (d : Dialect) (key : Text) : Bool :=
  match key.bytes with
  | [] => false
  | first :: _ =>
    key.bytes.all (fun b => b < 0x80 && isWordChar (Char.ofNat b.toNat)) &&
      !(first ≥ 48 && first ≤ 57) && !d.reserved key.toStringLossy

/-- The division a non-finite number is written as, with `numerator` over zero. -/
def Dialect.nonFinite (d : Dialect) (numerator : String) : String :=
  spacedSpelling (d.spelling .parenOpen) ++ numerator ++ " " ++ d.spelling .div ++ " 0" ++
    spacedSpelling (d.spelling .parenClose)

/-- The source form of a number in a dialect. -/
def Dialect.numberSource (d : Dialect) (x : Float) : String :=
  if x.isNaN then d.nonFinite "0"
  else if x.isInf then
    if x > 0 then d.nonFinite "1" else d.nonFinite (d.spelling .minus ++ "1")
  else
    match (Decimal.format x).toList with
    | '-' :: digits => d.spelling .minus ++ String.ofList digits
    | digits => String.ofList digits

namespace Heap

/-- The message for a value with no source form. -/
def noSourceForm (kind : String) : String := kind ++ " value has no source form"

/-- The source form of a value in a dialect, given the containers on the path
from the top, or the reason it has none. Elements and entries are written in
order and the first failure is reported. -/
def sourceForm (h : Heap) (d : Dialect) : Nat → List Value → Value → Except String Text
  | 0, _, v => .error (noSourceForm ("circular " ++ v.typeName))
  | fuel + 1, seen, v =>
    let word (s : String) : Except String Text := .ok (Text.ofString s)
    match v with
    | .null => word (d.spelling .nullWord)
    | .boolean b => word (d.spelling (if b then .trueWord else .falseWord))
    | .number x => word (d.numberSource x)
    | .string t => .ok t.sourceLiteral
    | .array r =>
      if seen.any (·.same v) then .error (noSourceForm "circular array") else do
        let parts ← (h.elements r).toList.mapM (sourceForm h d fuel (v :: seen))
        let sep := Text.ofString (spacedSpelling (d.spelling .comma) ++ " ")
        .ok (Text.concat [Text.ofString (spacedSpelling (d.spelling .sqrOpen)),
          Text.joinWith sep parts, Text.ofString (spacedSpelling (d.spelling .sqrClose))])
    | .object r =>
      if seen.any (·.same v) then .error (noSourceForm "circular object") else do
        let entry (kv : Text × Value) : Except String Text := do
          if !d.bareKey kv.1 then .error ("object key " ++ kv.1.quoted ++ " has no source form")
          let value ← sourceForm h d fuel (v :: seen) kv.2
          .ok (Text.concat [Text.ofString " ", kv.1,
            Text.ofString (spacedSpelling (d.spelling .colon) ++ " "), value])
        let parts ← (h.object r).entries.toList.mapM entry
        .ok (Text.concat [Text.ofString (spacedSpelling (d.spelling .curlyOpen)),
          Text.joinWith (Text.ofString (spacedSpelling (d.spelling .comma))) parts,
          Text.ofString (" " ++ spacedSpelling (d.spelling .curlyClose))])
    | other => .error (noSourceForm other.typeName)

/-- The source form of a value in a dialect, or why it has none. -/
def source (h : Heap) (d : Dialect) (v : Value) : Except String Text :=
  h.sourceForm d (h.arrays.size + h.objects.size + 1) [] v

end Heap

end Vernacular
