import Vernacular.Interpreter.Machine
/-!
# Math

The `math` namespace. `round` rounds half up, as `floor(x + 0.5)`; sine, cosine
and tangent are the usual double-precision polynomials on an argument reduced
modulo π/4, the same to the last bit.
-/

set_option autoImplicit false

namespace Vernacular

namespace Trig

/-- A double from its decimal literal, read exactly and rounded once. -/
def lit (s : String) : Float :=
  ((Decimal.readLiteral s.toList).bind Decimal.Literal.toFloat?).getD 0

/-- π as a double. -/
def pi : Float := Float.ofBits 0x400921FB54442D18

/-- e as a double. -/
def e : Float := Float.ofBits 0x4005BF0A8B145769

/-- 4/π as a double. -/
def fourOverPi : Float := Float.ofBits 0x3FF45F306DC9C883

/-- π/4 as a double. -/
def quarterPi : Float := Float.ofBits 0x3FE921FB54442D18

/-- π/4 split in three parts for extended-precision reduction. -/
def pi4a : Float := lit "7.85398125648498535156e-1"
/-- The second part of π/4. -/
def pi4b : Float := lit "3.77489470793079817668e-8"
/-- The third part of π/4. -/
def pi4c : Float := lit "2.69515142907905952645e-15"

/-- Sine coefficients. -/
def sinCoeffs : Array Float :=
  #[lit "1.58962301576546568060e-10", lit "-2.50507477628578072866e-8",
    lit "2.75573136213857245213e-6", lit "-1.98412698295895385996e-4",
    lit "8.33333333332211858878e-3", lit "-1.66666666666666307295e-1"]

/-- Cosine coefficients. -/
def cosCoeffs : Array Float :=
  #[lit "-1.13585365213876817300e-11", lit "2.08757008419747316778e-9",
    lit "-2.75573141792967388112e-7", lit "2.48015872888517045348e-5",
    lit "-1.38888888888730564116e-3", lit "4.16666666666665929218e-2"]

/-- Tangent numerator coefficients. -/
def tanP : Array Float :=
  #[lit "-1.30936939181383777646e4", lit "1.15351664838587416140e6",
    lit "-1.79565251976484877988e7"]

/-- Tangent denominator coefficients. -/
def tanQ : Array Float :=
  #[lit "1.0", lit "1.36812963470692954678e4", lit "-1.32089234440210967447e6",
    lit "2.50083801823357915839e7", lit "-5.38695755929454629881e7"]

/-- The binary digits of 4/π, 64 at a time, the integer part first. -/
def fourOverPiDigits : Array Nat :=
  #[0x0000000000000001, 0x45f306dc9c882a53, 0xf84eafa3ea69bb81, 0xb6c52b3278872083,
    0xfca2c757bd778ac3, 0x6e48dc74849ba5c0, 0x0c925dd413a32439, 0xfc3bd63962534e7d,
    0xd1046bea5d768909, 0xd338e04d68befc82, 0x7323ac7306a673e9, 0x3908bf177bf25076,
    0x3ff12fffbc0b301f, 0xde5e2316b414da3e, 0xda6cfd9e4f96136e, 0x9e8c7ecd3cbfd45a,
    0xea4f758fd7cbe2f6, 0x7a0e73ef14a525d4, 0xd7f6bf623f1aba10, 0xac06608df8f6d757]

/-- Arguments from here on are reduced by the digits of 4/π. -/
def reduceThreshold : Float := 536870912.0

/-- The word size. -/
def word : Nat := Nat.pow 2 64

/-- A left shift within a 64-bit word; shifting by 64 or more gives zero. -/
def shl (a s : Nat) : Nat := if s ≥ 64 then 0 else (a * Nat.pow 2 s) % word

/-- A right shift within a 64-bit word; shifting by 64 or more gives zero. -/
def shr (a s : Nat) : Nat := if s ≥ 64 then 0 else a / Nat.pow 2 s

/-- The number of leading zero bits of a 64-bit word. -/
def leadingZeros (a : Nat) : Nat := if a = 0 then 64 else 63 - a.log2

/-- The octant and the remainder of a large argument, from a window of the binary digits of 4/π. -/
def reduceLarge (x : Float) : Nat × Float :=
  let bits := x.toBits.toNat
  let exp : Int := ((bits / Nat.pow 2 52) % 2048 : Nat) - 1023 - 52
  let ix := bits % Nat.pow 2 52 + Nat.pow 2 52
  let offset := (exp + 61).toNat
  let digit := offset / 64
  let bitshift := offset % 64
  let d (i : Nat) : Nat := fourOverPiDigits.getD i 0
  let z0 := shl (d digit) bitshift ||| shr (d (digit + 1)) (64 - bitshift)
  let z1 := shl (d (digit + 1)) bitshift ||| shr (d (digit + 2)) (64 - bitshift)
  let z2 := shl (d (digit + 2)) bitshift ||| shr (d (digit + 3)) (64 - bitshift)
  let z2hi := (z2 * ix) / word
  let z1hi := (z1 * ix) / word
  let z1lo := (z1 * ix) % word
  let z0lo := (z0 * ix) % word
  let lo := (z1lo + z2hi) % word
  let carry := (z1lo + z2hi) / word
  let hi := (z0lo + z1hi + carry) % word
  let j := hi / Nat.pow 2 61
  let hi := (shl hi 3) ||| (lo / Nat.pow 2 61)
  let lz := leadingZeros hi
  let e := 1023 - (lz + 1)
  let hi := shl hi (lz + 1) ||| shr lo (64 - (lz + 1))
  let hi := hi / Nat.pow 2 12
  let hi := hi ||| (e * Nat.pow 2 52) % word
  let z := Float.ofBits (UInt64.ofNat hi)
  let (j, z) := if j % 2 = 1 then ((j + 1) % 8, z - 1) else (j, z)
  (j, z * quarterPi)

/-- The octant and the remainder of a nonnegative argument. -/
def reduce (x : Float) : Nat × Float :=
  if x ≥ reduceThreshold then reduceLarge x
  else
    let j := (x * fourOverPi).toUInt64.toNat
    let y := j.toFloat
    let (j, y) := if j % 2 = 1 then (j + 1, y + 1) else (j, y)
    (j % 8, ((x - y * pi4a) - y * pi4b) - y * pi4c)

/-- The sine polynomial. -/
def sinPoly (z zz : Float) : Float :=
  let c := sinCoeffs
  z + z * zz * (((((((c.getD 0 0) * zz) + (c.getD 1 0)) * zz + (c.getD 2 0)) * zz +
    (c.getD 3 0)) * zz + (c.getD 4 0)) * zz + (c.getD 5 0))

/-- The cosine polynomial. -/
def cosPoly (zz : Float) : Float :=
  let c := cosCoeffs
  1.0 - 0.5 * zz + zz * zz * (((((((c.getD 0 0) * zz) + (c.getD 1 0)) * zz + (c.getD 2 0)) * zz +
    (c.getD 3 0)) * zz + (c.getD 4 0)) * zz + (c.getD 5 0))

/-- The sine. -/
def sin (x : Float) : Float :=
  if x == 0 || x.isNaN then x
  else if x.isInf then 0.0 / 0.0
  else
    let (sign, x) := if x < 0 then (true, -x) else (false, x)
    let (j, z) := reduce x
    let (sign, j) := if j > 3 then (!sign, j - 4) else (sign, j)
    let zz := z * z
    let y := if j == 1 || j == 2 then cosPoly zz else sinPoly z zz
    if sign then -y else y

/-- The cosine. -/
def cos (x : Float) : Float :=
  if x.isNaN || x.isInf then 0.0 / 0.0
  else
    let x := x.abs
    let (j, z) := reduce x
    let (sign, j) := if j > 3 then (true, j - 4) else (false, j)
    let sign := if j > 1 then !sign else sign
    let zz := z * z
    let y := if j == 1 || j == 2 then sinPoly z zz else cosPoly zz
    if sign then -y else y

/-- The tangent. -/
def tan (x : Float) : Float :=
  if x == 0 || x.isNaN then x
  else if x.isInf then 0.0 / 0.0
  else
    let (sign, x) := if x < 0 then (true, -x) else (false, x)
    let (j, z) :=
      if x ≥ reduceThreshold then reduceLarge x
      else
        let j := (x * fourOverPi).toUInt64.toNat
        let y := j.toFloat
        let (j, y) := if j % 2 = 1 then (j + 1, y + 1) else (j, y)
        (j, ((x - y * pi4a) - y * pi4b) - y * pi4c)
    let zz := z * z
    let y :=
      if zz > 1e-14 then
        z + z * (zz * ((((tanP.getD 0 0) * zz) + (tanP.getD 1 0)) * zz + (tanP.getD 2 0)) /
          ((((zz + (tanQ.getD 1 0)) * zz + (tanQ.getD 2 0)) * zz + (tanQ.getD 3 0)) * zz + (tanQ.getD 4 0)))
      else z
    let y := if j % 4 ≥ 2 then -1 / y else y
    if sign then -y else y

end Trig

/-- The name of a math function in messages. -/
def MathFn.name : MathFn → String
  | .abs => "math.abs" | .ceil => "math.ceil" | .floor => "math.floor"
  | .round => "math.round" | .cos => "math.cos" | .sin => "math.sin" | .tan => "math.tan"

namespace Library

/-- A math function of one number. -/
def mathFn (fn : MathFn) (x : Float) : Float :=
  match fn with
  | .abs => x.abs
  | .ceil => x.ceil
  | .floor => x.floor
  | .round => (x + 0.5).floor
  | .cos => Trig.cos x
  | .sin => Trig.sin x
  | .tan => Trig.tan x

/-- Call a math function on the first argument, which must be a number. -/
def math (fn : MathFn) (args : List Value) : Eval Value := do
  requireArgs fn.name args 1
  let x ← numberArg fn.name args 0
  return .number (mathFn fn x)

/-- `math.rand()`: a number in [0, 1) from the machine's random source. -/
def random : Eval Value := do
  let m ← get
  let next := (m.seed * 6364136223846793005 + 1442695040888963407) % Nat.pow 2 64
  set { m with seed := next }
  return .number ((next / Nat.pow 2 11).toFloat / (Nat.pow 2 53 : Nat).toFloat)

end Library

end Vernacular
