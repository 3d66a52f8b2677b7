import Vernacular.Interpreter.Machine
import Vernacular.Syntax.Tree
/-!
# Operators and properties

The operators on values, and reading and writing properties.

Arithmetic is defined on two numbers, and `+` also on two strings; any other
pair gives `null`. Comparisons order two numbers or two strings (strings by
their bytes) and are false for any other pair or when a number is NaN.
Equality is `Value.same`. The logical operators look at the truthiness of
both operands, which are always both evaluated.

An array or a string read at a whole index from 0 up to 2³¹ - 1 gives the
element or rune there, or `null` past the end. Any other string key on an
array, a string or a number looks the key up in the method table of its type,
which is an ordinary binding (`__array__`, `__string__`, `__number__`) seen
from the scope of the access; a method found there comes back bound to its
receiver. Objects take string keys and number keys by their text.
-/

set_option autoImplicit false

namespace Vernacular

namespace Value

/-- The three-way comparison of two numbers or two strings, if they compare. -/
def order : Value → Value → Option Ordering
  | number x, number y =>
    if x.isNaN || y.isNaN then none
    else some (if x < y then .lt else if x > y then .gt else .eq)
  | string s, string t => some (Text.compare s t)
  | _, _ => none

/-- A binary operator applied to two values. -/
def binary (op : BinaryOp) (l r : Value) : Value :=
  match op with
  | .eq => boolean (l.same r)
  | .ne => boolean !(l.same r)
  | .lt | .gt | .le | .ge =>
    match order l r with
    | none => boolean false
    | some o =>
      boolean (match op with
        | .lt => o == .lt
        | .gt => o == .gt
        | .le => o != .gt
        | _ => o != .lt)
  | .add =>
    match l, r with
    | string s, string t => string (s ++ t)
    | number x, number y => number (x + y)
    | _, _ => null
  | .sub => match l, r with
    | number x, number y => number (x - y)
    | _, _ => null
  | .mul => match l, r with
    | number x, number y => number (x * y)
    | _, _ => null
  | .div => match l, r with
    | number x, number y => number (x / y)
    | _, _ => null

/-- A prefix operator applied to a value: `!` negates truthiness, `-` and `+`
act on numbers and give `null` for anything else. -/
def unary (op : UnaryOp) (v : Value) : Value :=
  match op, v with
  | .not, _ => boolean !v.truthy
  | .minus, number x => number (-x)
  | .plus, number x => number x
  | _, _ => null

/-- The element index a key denotes: a whole number from 0 up to 2³¹ - 1.
In that range a number is whole exactly when truncating it to an integer and
back gives it again; NaN is in no range and equals nothing. -/
def index? : Value → Option Nat
  | number x =>
    if x < 0 || x > 2147483647 then none
    else if x.toUInt64.toFloat == x then some x.toUInt64.toNat
    else none
  | _ => none

end Value

namespace Eval

/-- The object key a key denotes: a string, or a number by its text. -/
def propertyName? : Value → Option Text
  | .string t => some t
  | .number x => some (Value.numberText x)
  | _ => none

/-- The fault of reading a property a value does not have. -/
def unknownProperty {α : Type} (obj key : Value) : Eval α := do
  let keyText ← text key
  throw (.fault ⟨.unknownProperty, Text.ofString "Cannot read the property " ++
    Text.ofString keyText.quoted ++ Text.ofString (" of type " ++ escapedQuote obj.typeName)⟩)

/-- A method from the method table bound in scope under `table`, bound to its
receiver. -/
def method (scope : Nat) (table : String) (self key : Value) : Eval Value := do
  match key with
  | .string name =>
    let h ← heap
    match h.lookup scope table with
    | .error _ => unknownProperty self key
    | .ok (.object ref) =>
      match (h.object ref).get? name with
      | some m =>
        match m with
        | .native _ | .closure _ => newNative (.bound m self)
        | _ => pure m
      | none => unknownProperty self key
    | .ok _ => unknownProperty self key
  | _ => pure .null

/-- Read a property of a value. -/
def getProperty (scope : Nat) (obj key : Value) : Eval Value := do
  match obj with
  | .null | .nothing =>
    let k ← text key
    throw (.fault ⟨.nullProperty, Text.ofString "Cannot read property " ++ k ++ Text.ofString " of null"⟩)
  | .array ref =>
    match key.index? with
    | some i => return (← heap).elements ref |>.getD i .null
    | none => method scope "__array__" obj key
  | .string t =>
    match key.index? with
    | some i =>
      match t.runes[i]? with
      | some c => return .string (Text.ofChars [c])
      | none => return .null
    | none => method scope "__string__" obj key
  | .number _ => method scope "__number__" obj key
  | .object ref =>
    match propertyName? key with
    | some name => return ((← heap).object ref).get? name |>.getD .null
    | none => return .null
  | _ => unknownProperty obj key

/-- Write a property of a value. Arrays grow with `null` up to the index;
frozen objects refuse. -/
def setProperty (obj key v : Value) : Eval Unit := do
  match obj with
  | .null | .nothing =>
    let k ← text key
    throw (.fault ⟨.nullProperty, Text.ofString "Cannot set property " ++ k ++ Text.ofString " of null"⟩)
  | .object ref =>
    let h ← heap
    if (h.object ref).frozen then
      let k ← text key
      throw (.fault ⟨.readOnly, Text.ofString "Cannot set property " ++ k ++
        Text.ofString " of a read-only namespace"⟩)
    match propertyName? key with
    | some name => updateHeap (·.objectSet ref name v)
    | none =>
      let d ← describe key
      throw (.fault ⟨.invalidAssignment, Text.ofString "Invalid object key " ++ d⟩)
  | .array ref =>
    match key.index? with
    | some i =>
      let els := (← heap).elements ref
      let els := if els.size ≤ i then els ++ Array.replicate (i + 1 - els.size) .null else els
      updateHeap (·.setElements ref (els.set! i v))
    | none =>
      let d ← describe key
      throw (.fault ⟨.invalidAssignment, Text.ofString "Invalid array index " ++ d⟩)
  | _ =>
    let k ← text key
    let d ← describe obj
    throw (.fault ⟨.invalidAssignment, Text.ofString "Cannot set property " ++ k ++
      Text.ofString " of " ++ d⟩)

end Eval

end Vernacular
