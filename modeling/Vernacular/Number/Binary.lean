/-!
# Binary doubles

A finite double is `± m · 2^e` with a mantissa `m < 2^53`. This module reads
a `Float` as its sign, mantissa and exponent, and builds the double nearest to
a nonnegative rational, rounding ties to the even mantissa the way IEEE 754
does, with overflow as its own answer.
-/

set_option autoImplicit false

namespace Vernacular

namespace Binary64

/-- The mantissa of the smallest normal double. -/
def hiddenBit : Nat := Nat.pow 2 52

/-- The exponent of the smallest subnormal double, `2^-1074`. -/
def minExponent : Int := -1074

/-- The largest exponent of a double with a 53-bit mantissa. -/
def maxExponent : Int := 971

/-- A double read as a value: not a number, an infinity, or `± m · 2^e`. -/
inductive Shape where
  | nan
  | infinite (negative : Bool)
  | finite (negative : Bool) (mantissa : Nat) (exponent : Int)
deriving DecidableEq, Repr

/-- The shape of a double, from its bits. -/
def shape (x : Float) : Shape :=
  let bits := x.toBits.toNat
  let negative := bits ≥ Nat.pow 2 63
  let biased : Nat := (bits / Nat.pow 2 52) % Nat.pow 2 11
  let fraction : Nat := bits % Nat.pow 2 52
  if biased = Nat.pow 2 11 - 1 then
    if fraction = 0 then .infinite negative else .nan
  else if biased = 0 then .finite negative fraction minExponent
  else .finite negative (fraction + hiddenBit) ((biased : Int) - 1075)

/-- The double with a sign, a mantissa below `2^53` and an exponent, where a
mantissa below `2^52` goes with the subnormal exponent `-1074`. -/
def compose (negative : Bool) (mantissa : Nat) (exponent : Int) : Float :=
  let sign := if negative then Nat.pow 2 63 else 0
  let bits :=
    if mantissa < hiddenBit then sign + mantissa
    else sign + (exponent + 1075).toNat * Nat.pow 2 52 + (mantissa - hiddenBit)
  Float.ofBits (UInt64.ofNat bits)

/-- The infinity of a sign. -/
def infinity (negative : Bool) : Float :=
  Float.ofBits (UInt64.ofNat ((if negative then Nat.pow 2 63 else 0) + (Nat.pow 2 11 - 1) * Nat.pow 2 52))

/-- Whether `num / den ≥ 2 ^ k`. -/
def atLeastPow2 (num den : Nat) (k : Int) : Bool :=
  if 0 ≤ k then num ≥ den * Nat.pow 2 k.toNat else num * Nat.pow 2 (-k).toNat ≥ den

/-- `⌊log₂ (num / den)⌋` for positive `num` and `den`. -/
def floorLog2 (num den : Nat) : Int :=
  let guess : Int := (num.log2 : Int) - den.log2
  if atLeastPow2 num den guess then guess else guess - 1

/-- `num / den` scaled by `2 ^ -k`, as a numerator and a denominator. -/
def scaleByPow2 (num den : Nat) (k : Int) : Nat × Nat :=
  if 0 ≤ k then (num, den * Nat.pow 2 k.toNat) else (num * Nat.pow 2 (-k).toNat, den)

/-- Round `n / d` to a whole number, ties to even. -/
def roundHalfEven (n d : Nat) : Nat :=
  let q := n / d
  let r := n % d
  if 2 * r > d || (2 * r == d && q % 2 == 1) then q + 1 else q

/-- The mantissa and exponent of the double nearest to the positive rational
`num / den`, before the range check: the exponent is chosen so the mantissa
has 53 bits, or is the subnormal exponent. -/
def nearestParts (num den : Nat) : Nat × Int :=
  let k := max (floorLog2 num den - 52) minExponent
  let (n, d) := scaleByPow2 num den k
  let m := roundHalfEven n d
  if m = Nat.pow 2 53 then (Nat.pow 2 52, k + 1) else (m, k)

/-- The double nearest to `± num / den`, or `none` when its magnitude rounds
beyond the largest finite double. -/
def nearest (negative : Bool) (num den : Nat) : Option Float :=
  if num = 0 || den = 0 then some (compose negative 0 minExponent)
  else
    let (m, k) := nearestParts num den
    if k > maxExponent then none else some (compose negative m k)

end Binary64

end Vernacular
