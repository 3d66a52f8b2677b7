import Vernacular.Text.Basic
import Vernacular.Number.Decimal
/-!
# Values

Scalars are values in their own right; arrays, objects, functions and native
functions live in the heap and a value holds a reference to them, so two
values are the same container exactly when they hold the same reference.

`nothing` is the value of statements that produce nothing worth printing; it
prints as the empty string and is falsy, like `null`, but is a different
value.
-/

set_option autoImplicit false

namespace Vernacular

/-- A runtime value. Containers and functions are references into the heap. -/
inductive Value where
  | null
  | nothing
  | number (x : Float)
  | string (t : Text)
  | boolean (b : Bool)
  | array (ref : Nat)
  | object (ref : Nat)
  | closure (ref : Nat)
  | native (ref : Nat)
deriving Inhabited, Repr

namespace Value

/-- The type name scripts see through `typeof`. -/
def typeName : Value → String
  | null => "null"
  | nothing => "ignore"
  | number _ => "number"
  | string _ => "string"
  | boolean _ => "boolean"
  | array _ => "array"
  | object _ => "object"
  | closure _ => "function"
  | native _ => "native-function"

/-- Truthiness: `null`, `nothing`, `false`, zero, NaN and the empty string are
falsy; everything else is truthy. -/
def truthy : Value → Bool
  | null | nothing => false
  | number x => x != 0 && !x.isNaN
  | string t => !t.isEmpty
  | boolean b => b
  | _ => true

/-- Equality of values: scalars by value (numbers as doubles, so `NaN` is not
equal to itself and `0` equals `-0`), containers and functions by identity. -/
def same : Value → Value → Bool
  | null, null | nothing, nothing => true
  | number x, number y => x == y
  | string s, string t => s == t
  | boolean a, boolean b => a == b
  | array r, array s | object r, object s | closure r, closure s | native r, native s => r == s
  | _, _ => false

/-- The text of a number. -/
def numberText (x : Float) : Text := Text.ofString (Decimal.format x)

end Value

end Vernacular
