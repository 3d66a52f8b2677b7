import Vernacular.Interpreter.Operators
/-!
# Methods of strings, arrays and numbers

The method tables `__string__`, `__array__` and `__number__`. A method takes
its receiver as the first argument, so `s.trim()` is `__string__.trim(s)`.
`array.foreach` calls back into evaluation and lives with the evaluator.

Counts and positions in strings are in runes, an ill-formed byte counting as
one rune. Conversions of numbers to whole numbers truncate toward zero, and a
number outside the range of the whole-number type, or NaN, becomes the
smallest value of that type.
-/

set_option autoImplicit false

namespace Vernacular

/-- A double converted to a 64-bit integer: truncated toward zero; NaN and
values out of range become `-2⁶³`. -/
def toInt64Truncated (x : Float) : Int :=
  if x.isNaN || x >= 9223372036854775808.0 || x < -9223372036854775808.0 then -9223372036854775808
  else if x < 0 then -((-x).toUInt64.toNat : Int)
  else (x.toUInt64.toNat : Int)

/-- A double converted to a 32-bit integer: truncated toward zero; NaN and
values out of range become `-2³¹`. -/
def toInt32Truncated (x : Float) : Int :=
  if x.isNaN || x >= 2147483648.0 || x <= -2147483649.0 then -2147483648
  else if x < 0 then -((-x).toUInt64.toNat : Int)
  else (x.toUInt64.toNat : Int)

/-- The character of a code point, or U+FFFD when it is not a scalar value. -/
def charOfCode (n : Int) : Char :=
  if n < 0 then Utf8.replacement
  else if n.toNat.isValidChar then Char.ofNat n.toNat else Utf8.replacement

namespace Library

/-! ## Strings -/

/-- A string method applied to its arguments, the receiver first. -/
def stringMethod (m : StringMethod) (args : List Value) : Eval Value := do
  let h ← Eval.heap
  match m with
  | .length =>
    let s ← stringArg "string.length" args 0
    return .number s.runeCount.toFloat
  | .replace =>
    requireArgs "string.replace" args 3
    let s ← stringArg "string.replace" args 0
    return .string (s.replaceFirst (h.text (argAt args 1)) (h.text (argAt args 2)))
  | .uppercase =>
    let s ← stringArg "string.uppercase" args 0
    return .string s.toUpper
  | .lowercase =>
    let s ← stringArg "string.lowercase" args 0
    return .string s.toLower
  | .split =>
    let s ← stringArg "string.split" args 0
    let sep := match argAt args 1 with
      | .string t => t
      | _ => Text.empty
    Eval.newArray ((s.splitOn sep).map Value.string).toArray
  | .charCode =>
    let s ← stringArg "string.char_code" args 0
    let i : Int := match argAt args 1 with
      | .number x => toInt64Truncated x
      | _ => 0
    let runes := s.runes
    if i < 0 then return .null
    match runes[i.toNat]? with
    | some c => return .number c.toNat.toFloat
    | none => return .null
  | .trim =>
    let s ← stringArg "string.trim" args 0
    return .string s.trimSpace
  | .includes =>
    let s ← stringArg "string.includes" args 0
    return .boolean (s.contains (h.text (argAt args 1)))

/-! ## Arrays -/

/-- The array receiver of an array method. -/
def arrayArg (name : String) (args : List Value) : Eval Nat :=
  match argAt args 0 with
  | .array r => pure r
  | v => Eval.throwMessage (name ++ " expects an array, got " ++ v.typeName)

/-- An array method other than `foreach`, applied to its arguments. -/
def arrayMethod (m : ArrayMethod) (args : List Value) : Eval Value := do
  match m with
  | .length =>
    let r ← arrayArg "array.length" args
    return .number ((← Eval.heap).elements r).size.toFloat
  | .join =>
    let r ← arrayArg "array.join" args
    let sep := match argAt args 1 with
      | .string t => if t.isEmpty then Text.ofString "," else t
      | _ => Text.ofString ","
    let h ← Eval.heap
    return .string (Text.joinWith sep ((h.elements r).toList.map h.text))
  | .pop =>
    let r ← arrayArg "array.pop" args
    let els := (← Eval.heap).elements r
    match els.back? with
    | none => return .null
    | some last =>
      Eval.updateHeap (·.setElements r els.pop)
      return last
  | .push =>
    let r ← arrayArg "array.push" args
    let els := (← Eval.heap).elements r ++ (args.drop 1).toArray
    Eval.updateHeap (·.setElements r els)
    return .number els.size.toFloat
  | .includes =>
    let r ← arrayArg "array.includes" args
    let target := argAt args 1
    return .boolean (((← Eval.heap).elements r).any (·.same target))
  | .foreach => return .null

/-! ## Numbers -/

/-- `number.code_to_str`: the character of a code point. -/
def codeToStr (args : List Value) : Eval Value := do
  let n ← numberArg "number.code_to_str" args 0
  return .string (Text.ofChars [charOfCode (toInt32Truncated n)])

end Library

end Vernacular
