import Vernacular.Number.Binary
/-!
# Decimal text of doubles

Reading: a decimal literal, an optional sign, digits with an optional
fraction and an optional exponent, denotes an exact rational, and it reads as
the double nearest to it. A literal whose value rounds beyond the largest
double has no reading.

Writing: a finite double is written with the fewest significant digits that
read back as the same double, and among those the digits closest to its exact
value. The digits are laid out in positional notation, never with an
exponent, so `1e21` is written `1000000000000000000000`.
-/

set_option autoImplicit false

namespace Vernacular

namespace Decimal

/-! ## Powers of ten -/

/-- Whether `num / den ≥ 10 ^ k`. -/
def atLeastPow10 (num den : Nat) (k : Int) : Bool :=
  if 0 ≤ k then num ≥ den * Nat.pow 10 k.toNat else num * Nat.pow 10 (-k).toNat ≥ den

/-- `⌊log₁₀ (num / den)⌋` for positive `num` and `den`. The estimate from the
binary logarithm is off by at most one either way. -/
def floorLog10 (num den : Nat) : Int :=
  let guess := Binary64.floorLog2 num den * 30103 / 100000
  if atLeastPow10 num den (guess + 1) then guess + 1
  else if atLeastPow10 num den guess then guess
  else guess - 1

/-- The rational `c · 10 ^ n` as a numerator and a denominator. -/
def ratio (c : Nat) (n : Int) : Nat × Nat :=
  if 0 ≤ n then (c * Nat.pow 10 n.toNat, 1) else (c, Nat.pow 10 (-n).toNat)

/-! ## Reading -/

/-- A decimal literal: `± mantissa · 10 ^ exponent`. -/
structure Literal where
  negative : Bool
  mantissa : Nat
  exponent : Int
deriving DecidableEq, Repr

/-- The number of decimal digits of a positive number. -/
def digitCount (n : Nat) : Nat := (toString n).length

/-- The double nearest to a literal, or `none` when it rounds beyond the
largest double. Literals far outside the range of doubles are settled without
building their huge powers of ten. -/
def Literal.toFloat? (lit : Literal) : Option Float :=
  if lit.mantissa = 0 then some (Binary64.compose lit.negative 0 Binary64.minExponent)
  else
    let magnitude : Int := (digitCount lit.mantissa : Int) + lit.exponent
    if magnitude ≤ -324 then some (Binary64.compose lit.negative 0 Binary64.minExponent)
    else if magnitude > 310 then none
    else
      let (num, den) := ratio lit.mantissa lit.exponent
      Binary64.nearest lit.negative num den

/-- The value of a list of decimal digits. -/
def digitsValue (ds : List Char) : Nat :=
  ds.foldl (fun acc d => acc * 10 + (d.toNat - '0'.toNat)) 0

/-- Whether a character is an ASCII digit. -/
def isDigit (c : Char) : Bool := '0' ≤ c && c ≤ '9'

/-- Read an optional sign. -/
def readSign : List Char → Bool × List Char
  | '+' :: rest => (false, rest)
  | '-' :: rest => (true, rest)
  | cs => (false, cs)

/-- An exponent beyond this bound settles the value whatever the digits are,
so larger exponents are clamped to it. -/
def exponentCap : Nat := 100000

/-- Read a decimal literal that spans all of `cs`: a sign, digits with an
optional fraction (at least one digit in all), and an optional exponent. -/
def readLiteral (cs : List Char) : Option Literal :=
  let (negative, cs) := readSign cs
  let whole := cs.takeWhile isDigit
  let cs := cs.dropWhile isDigit
  let (fraction, cs) :=
    match cs with
    | '.' :: rest => (rest.takeWhile isDigit, rest.dropWhile isDigit)
    | _ => ([], cs)
  if whole.isEmpty && fraction.isEmpty then none
  else
    let mantissa := digitsValue (whole ++ fraction)
    let scale : Int := -(fraction.length : Int)
    match cs with
    | [] => some ⟨negative, mantissa, scale⟩
    | e :: rest =>
      if e == 'e' || e == 'E' then
        let (expNegative, rest) := readSign rest
        let digits := rest.takeWhile isDigit
        if digits.isEmpty || !(rest.dropWhile isDigit).isEmpty then none
        else
          let magnitude : Int := min (digitsValue digits) exponentCap
          some ⟨negative, mantissa, scale + (if expNegative then -magnitude else magnitude)⟩
      else none

/-! ## Writing -/

/-- The digit string of `c · 10 ^ n` in positional notation, for `c > 0`. -/
def positional (c : Nat) (n : Int) : String :=
  let digits := toString c
  if 0 ≤ n then digits ++ String.ofList (List.replicate n.toNat '0')
  else
    let shift := (-n).toNat
    if shift < digits.length then
      String.ofList (digits.toList.take (digits.length - shift)) ++ "." ++
        String.ofList (digits.toList.drop (digits.length - shift))
    else "0." ++ String.ofList (List.replicate (shift - digits.length) '0') ++ digits

/-- Drop the trailing zeros of `c · 10 ^ n`, keeping its value. -/
def trimZeros (c : Nat) (n : Int) : Nat × Int :=
  let rec go (fuel c : Nat) (n : Int) : Nat × Int :=
    match fuel with
    | 0 => (c, n)
    | fuel + 1 => if c ≠ 0 && c % 10 = 0 then go fuel (c / 10) (n + 1) else (c, n)
  go (digitCount c) c n

/-- Whether `c · 10 ^ n` reads back as the double with the given bits. -/
def readsBackAs (bits : UInt64) (c : Nat) (n : Int) : Bool :=
  let (num, den) := ratio c n
  match Binary64.nearest false num den with
  | some y => y.toBits == bits
  | none => false

/-- The `p`-digit decimals that read back as the positive double `num / den`,
nearest first: `c` with `v ≈ c · 10 ^ n` and `n = ⌊log₁₀ v⌋ - (p - 1)`. -/
def candidates (bits : UInt64) (num den : Nat) (p : Nat) : Option (Nat × Int) :=
  let n := floorLog10 num den - ((p : Int) - 1)
  let (sn, sd) := if 0 ≤ n then (num, den * Nat.pow 10 n.toNat) else (num * Nat.pow 10 (-n).toNat, den)
  let lo := sn / sd
  let rest := sn % sd
  if rest = 0 then
    if readsBackAs bits lo n then some (lo, n) else none
  else
    let downOk := readsBackAs bits lo n
    let upOk := readsBackAs bits (lo + 1) n
    match downOk, upOk with
    | true, true =>
      if 2 * rest < sd then some (lo, n)
      else if 2 * rest > sd then some (lo + 1, n)
      else if lo % 2 = 0 then some (lo, n) else some (lo + 1, n)
    | true, false => some (lo, n)
    | false, true => some (lo + 1, n)
    | false, false => none

/-- The shortest digits `c · 10 ^ n` that read back as the positive double
`m · 2 ^ e`. Seventeen significant digits always suffice. -/
def shortest (bits : UInt64) (m : Nat) (e : Int) : Nat × Int :=
  let (num, den) := if 0 ≤ e then (m * Nat.pow 2 e.toNat, 1) else (m, Nat.pow 2 (-e).toNat)
  let found := (List.range 17).findSome? fun i => candidates bits num den (i + 1)
  let (c, n) := found.getD (num / den, 0)
  trimZeros c n

/-- The text of a number: `NaN`, `Infinity`, `-Infinity`, or the shortest
positional decimal that reads back as it, with `-0` for negative zero. -/
def format (x : Float) : String :=
  match Binary64.shape x with
  | .nan => "NaN"
  | .infinite negative => if negative then "-Infinity" else "Infinity"
  | .finite negative m e =>
    let sign := if negative then "-" else ""
    if m = 0 then sign ++ "0"
    else
      let bits := (Binary64.compose false m e).toBits
      let (c, n) := shortest bits m e
      sign ++ positional c n

end Decimal

end Vernacular
