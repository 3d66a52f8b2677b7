import Mathlib
import Vernacular.Proofs.DoubleBits
/-!
# The nearest double

`Binary64.nearest` rounds a rational `num / den` to a double with integer
arithmetic: the binary logarithm `floorLog2` fixes the exponent, and
`roundHalfEven` rounds the scaled quotient to a mantissa. Read over `ℚ`, the
logarithm is `⌊log₂ (num / den)⌋` (`floorLog2_spec`) and the rounding gives
the whole number within a half (`roundHalfEven_eq`). Two consequences carry the
decimal writer: the result depends only on the value of the rational
(`nearest_congr`), and a rational within half a unit in the last place of a
double reads as that double (`nearest_of_near`).
-/

set_option autoImplicit false

namespace Vernacular

namespace Binary64

theorem pow_toNat_cast (b : Nat) (k : Int) (nonneg : 0 ≤ k) :
    ((Nat.pow b k.toNat : Nat) : ℚ) = (b : ℚ) ^ k := by
  rw [Nat.pow_eq, Nat.cast_pow, ← zpow_natCast, Int.toNat_of_nonneg nonneg]

theorem pow_neg_toNat_cast (b : Nat) (k : Int) (neg : k < 0) :
    ((Nat.pow b (-k).toNat : Nat) : ℚ) = ((b : ℚ) ^ k)⁻¹ := by
  rw [Nat.pow_eq, Nat.cast_pow, ← zpow_natCast, Int.toNat_of_nonneg (by omega), zpow_neg]

/-- The integer comparison of `num / den` with `b ^ k` that `atLeastPow2` and
`Decimal.atLeastPow10` make, read over `ℚ`. -/
theorem powerTest_iff {num den : Nat} (b : Nat) (k : Int) (positive : 0 < den) (base : 0 < b) :
    (if 0 ≤ k then decide (num ≥ den * Nat.pow b k.toNat)
      else decide (num * Nat.pow b (-k).toNat ≥ den)) = true ↔ (b : ℚ) ^ k ≤ (num : ℚ) / den := by
  have den_pos : (0 : ℚ) < den := by exact_mod_cast positive
  split
  · rename_i nonneg
    rw [decide_eq_true_iff, le_div_iff₀ den_pos, ← pow_toNat_cast b k nonneg, ← Nat.cast_mul, Nat.cast_le,
      mul_comm]
  · rename_i neg
    have power : (0 : ℚ) < (b : ℚ) ^ k := zpow_pos (by exact_mod_cast base) k
    have cast : (num * Nat.pow b (-k).toNat ≥ den) ↔ ((den : ℚ) ≤ num * ((b : ℚ) ^ k)⁻¹) := by
      rw [← pow_neg_toNat_cast b k (by omega), ← Nat.cast_mul, Nat.cast_le]
    rw [decide_eq_true_iff, cast, le_div_iff₀ den_pos, ← div_eq_mul_inv, le_div_iff₀ power, mul_comm]

theorem atLeastPow2_iff {num den : Nat} (k : Int) (positive : 0 < den) :
    atLeastPow2 num den k = true ↔ (2 : ℚ) ^ k ≤ (num : ℚ) / den := by
  have test := @powerTest_iff num den 2 k positive (by norm_num)
  rw [Nat.cast_ofNat] at test
  exact test

/-- Powers of two bracket a positive natural number by its binary logarithm. -/
theorem log2_bracket {n : Nat} (positive : 0 < n) :
    (2 : ℚ) ^ (n.log2 : Int) ≤ n ∧ (n : ℚ) < (2 : ℚ) ^ ((n.log2 : Int) + 1) := by
  have low : 2 ^ n.log2 ≤ n := Nat.log2_self_le (by omega)
  have high : n < 2 ^ (n.log2 + 1) := Nat.lt_log2_self
  constructor
  · rw [zpow_natCast]; exact_mod_cast low
  · rw [show (n.log2 : Int) + 1 = ((n.log2 + 1 : Nat) : Int) by push_cast; rfl, zpow_natCast]
    exact_mod_cast high

/-- `floorLog2` is the binary logarithm of the rational, rounded down. -/
theorem floorLog2_spec {num den : Nat} (numPos : 0 < num) (denPos : 0 < den) :
    (2 : ℚ) ^ floorLog2 num den ≤ (num : ℚ) / den ∧ (num : ℚ) / den < (2 : ℚ) ^ (floorLog2 num den + 1) := by
  have den_pos : (0 : ℚ) < den := by exact_mod_cast denPos
  obtain ⟨numLow, numHigh⟩ := log2_bracket numPos
  obtain ⟨denLow, denHigh⟩ := log2_bracket denPos
  set a : Int := (num.log2 : Int)
  set b : Int := (den.log2 : Int)
  have two : (0 : ℚ) < 2 := by norm_num
  -- the guess `a - b` is within one of the answer on either side
  have below : (num : ℚ) / den < (2 : ℚ) ^ (a - b + 1) := by
    rw [div_lt_iff₀ den_pos]
    calc (num : ℚ) < 2 ^ (a + 1) := numHigh
      _ = 2 ^ (a - b + 1) * 2 ^ b := by rw [← zpow_add₀ two.ne']; ring_nf
      _ ≤ 2 ^ (a - b + 1) * den := by gcongr
  have above : (2 : ℚ) ^ (a - b - 1) ≤ (num : ℚ) / den := by
    rw [le_div_iff₀ den_pos]
    calc (2 : ℚ) ^ (a - b - 1) * den ≤ 2 ^ (a - b - 1) * 2 ^ (b + 1) := by gcongr
      _ = 2 ^ a := by rw [← zpow_add₀ two.ne']; ring_nf
      _ ≤ num := numLow
  unfold floorLog2
  dsimp only
  split
  · rename_i reached
    exact ⟨(atLeastPow2_iff _ denPos).mp reached, below⟩
  · rename_i short
    rw [Bool.not_eq_true, ← Bool.not_eq_true, atLeastPow2_iff _ denPos, not_le] at short
    exact ⟨above, by simpa using short⟩


/-- The binary logarithm is the one power whose bracket holds the rational. -/
theorem floorLog2_eq {num den : Nat} {k : Int} (numPos : 0 < num) (denPos : 0 < den)
    (low : (2 : ℚ) ^ k ≤ (num : ℚ) / den) (high : (num : ℚ) / den < (2 : ℚ) ^ (k + 1)) :
    floorLog2 num den = k := by
  obtain ⟨low', high'⟩ := floorLog2_spec numPos denPos
  have one : (1 : ℚ) < 2 := by norm_num
  have up : floorLog2 num den < k + 1 := (zpow_lt_zpow_iff_right₀ one).mp (low'.trans_lt high)
  have down : k < floorLog2 num den + 1 := (zpow_lt_zpow_iff_right₀ one).mp (low.trans_lt high')
  omega

/-- Scaling `num / den` by `b ^ -k` the way `scaleByPow2` and the decimal
writer do keeps the denominator positive and divides the value by `b ^ k`. -/
theorem powerScale_eq {num den sn sd : Nat} (b : Nat) (k : Int) (denPos : 0 < den) (base : 0 < b)
    (pair : (if 0 ≤ k then (num, den * Nat.pow b k.toNat) else (num * Nat.pow b (-k).toNat, den)) = (sn, sd)) :
    0 < sd ∧ (sn : ℚ) / sd = (num : ℚ) / den / (b : ℚ) ^ k := by
  have power : (0 : ℚ) < (b : ℚ) ^ k := zpow_pos (by exact_mod_cast base) k
  split at pair
  · rename_i nonneg
    obtain ⟨rfl, rfl⟩ := Prod.mk.inj pair
    refine ⟨Nat.mul_pos denPos (Nat.pow_pos base), ?_⟩
    rw [Nat.cast_mul, pow_toNat_cast b k nonneg]
    field_simp
  · rename_i neg
    obtain ⟨rfl, rfl⟩ := Prod.mk.inj pair
    refine ⟨denPos, ?_⟩
    rw [Nat.cast_mul, pow_neg_toNat_cast b k (by omega)]
    field_simp

theorem scaleByPow2_spec {num den : Nat} (k : Int) (denPos : 0 < den) :
    0 < (scaleByPow2 num den k).2 ∧
      ((scaleByPow2 num den k).1 : ℚ) / (scaleByPow2 num den k).2 = (num : ℚ) / den / (2 : ℚ) ^ k := by
  have scaled := @powerScale_eq num den (scaleByPow2 num den k).1 (scaleByPow2 num den k).2 2 k denPos
    (by norm_num) rfl
  rw [Nat.cast_ofNat] at scaled
  exact scaled

/-- Rounding a quotient to a whole number gives the one within half of it. -/
theorem roundHalfEven_eq {n d M : Nat} (positive : 0 < d) (near : |(n : ℚ) / d - M| < 1 / 2) :
    roundHalfEven n d = M := by
  have d_pos : (0 : ℚ) < d := by exact_mod_cast positive
  rw [abs_sub_lt_iff] at near
  obtain ⟨above, below⟩ := near
  -- cleared of the denominator: `(2M - 1) d < 2n < (2M + 1) d`
  have upper : 2 * n < (2 * M + 1) * d := by
    have : (n : ℚ) < (M + 1 / 2) * d := by rw [← div_lt_iff₀ d_pos]; linarith
    have : ((2 * n : Nat) : ℚ) < ((2 * M + 1) * d : Nat) := by push_cast; linarith
    exact_mod_cast this
  have lower : 2 * M * d < 2 * n + d := by
    have : (M - 1 / 2) * (d : ℚ) < n := by rw [← lt_div_iff₀ d_pos]; linarith
    have : ((2 * M * d : Nat) : ℚ) < ((2 * n + d : Nat) : ℚ) := by push_cast; linarith
    exact_mod_cast this
  have split := Nat.div_add_mod n d
  have rest := Nat.mod_lt n positive
  unfold roundHalfEven
  dsimp only
  -- the quotient is `M` or `M - 1`
  have notAbove : n / d ≤ M := by
    by_contra more
    have bound : d * (M + 1) ≤ d * (n / d) := Nat.mul_le_mul_left d (by omega)
    have : d * (M + 1) = d * M + d := by ring
    have : (2 * M + 1) * d = 2 * (d * M) + d := by ring
    omega
  have notBelow : M ≤ n / d + 1 := by
    by_contra less
    have bound : d * (n / d + 2) ≤ d * M := Nat.mul_le_mul_left d (by omega)
    have : d * (n / d + 2) = d * (n / d) + 2 * d := by ring
    have : 2 * M * d = 2 * (d * M) := by ring
    omega
  rcases Nat.eq_or_lt_of_le notAbove with same | smaller
  · rw [same] at split
    have : (2 * M + 1) * d = 2 * (d * M) + d := by ring
    have half : 2 * (n % d) < d := by omega
    rw [if_neg (by simp; omega), same]
  · have one_less : n / d + 1 = M := by omega
    rw [← one_less] at lower
    have : 2 * (n / d + 1) * d = 2 * (d * (n / d)) + 2 * d := by ring
    have half : d < 2 * (n % d) := by omega
    rw [if_pos (by simp; omega), one_less]


theorem roundHalfEven_mul {n d : Nat} (k : Nat) (positive : 0 < k) :
    roundHalfEven (k * n) (k * d) = roundHalfEven n d := by
  unfold roundHalfEven
  simp only [Nat.mul_div_mul_left _ _ positive, Nat.mul_mod_mul_left]
  have twice : ∀ a b : Nat, (2 * (k * a) > k * b ↔ 2 * a > b) ∧ (2 * (k * a) = k * b ↔ 2 * a = b) := by
    intro a b
    constructor
    · rw [show 2 * (k * a) = k * (2 * a) by ring, gt_iff_lt, gt_iff_lt, Nat.mul_lt_mul_left positive]
    · rw [show 2 * (k * a) = k * (2 * a) by ring, Nat.mul_right_inj (by omega)]
  have halves : (2 * (k * (n % d)) == k * d) = (2 * (n % d) == d) := by
    rw [Bool.eq_iff_iff, beq_iff_eq, beq_iff_eq]
    exact (twice _ _).2
  simp only [(twice _ _).1, halves]

/-- Rounding a quotient depends only on its value. -/
theorem roundHalfEven_congr {n d n' d' : Nat} (positive : 0 < d) (positive' : 0 < d')
    (same : (n : ℚ) / d = (n' : ℚ) / d') : roundHalfEven n d = roundHalfEven n' d' := by
  have cross : n * d' = n' * d := by
    rw [div_eq_div_iff (by exact_mod_cast positive.ne') (by exact_mod_cast positive'.ne')] at same
    exact_mod_cast same
  rw [← roundHalfEven_mul d' positive', ← roundHalfEven_mul d positive (n := n'),
    mul_comm d' n, cross, mul_comm n' d, mul_comm d' d]

/-- The binary logarithm of a rational depends only on its value. -/
theorem floorLog2_congr {num den num' den' : Nat} (numPos : 0 < num) (denPos : 0 < den)
    (numPos' : 0 < num') (denPos' : 0 < den') (same : (num : ℚ) / den = (num' : ℚ) / den') :
    floorLog2 num den = floorLog2 num' den' := by
  obtain ⟨low, high⟩ := floorLog2_spec numPos' denPos'
  rw [← same] at low high
  exact floorLog2_eq numPos denPos low high

/-- The double nearest to a rational depends only on its value. -/
theorem nearestParts_congr {num den num' den' : Nat} (numPos : 0 < num) (denPos : 0 < den)
    (numPos' : 0 < num') (denPos' : 0 < den') (same : (num : ℚ) / den = (num' : ℚ) / den') :
    nearestParts num den = nearestParts num' den' := by
  unfold nearestParts
  rw [floorLog2_congr numPos denPos numPos' denPos' same]
  set k := max (floorLog2 num' den' - 52) minExponent
  have scaled : roundHalfEven (scaleByPow2 num den k).1 (scaleByPow2 num den k).2 =
      roundHalfEven (scaleByPow2 num' den' k).1 (scaleByPow2 num' den' k).2 :=
    roundHalfEven_congr (scaleByPow2_spec k denPos).1 (scaleByPow2_spec k denPos').1
      (by rw [(scaleByPow2_spec k denPos).2, (scaleByPow2_spec k denPos').2, same])
  simp only [scaled]

theorem nearest_congr (negative : Bool) {num den num' den' : Nat} (denPos : 0 < den) (denPos' : 0 < den')
    (same : (num : ℚ) / den = (num' : ℚ) / den') : nearest negative num den = nearest negative num' den' := by
  have zero_iff : num = 0 ↔ num' = 0 := by
    have den_ne : (den : ℚ) ≠ 0 := by exact_mod_cast denPos.ne'
    have den_ne' : (den' : ℚ) ≠ 0 := by exact_mod_cast denPos'.ne'
    constructor
    · intro zero
      rw [zero, Nat.cast_zero, zero_div, eq_comm, div_eq_zero_iff] at same
      exact_mod_cast same.resolve_right den_ne'
    · intro zero
      rw [zero, Nat.cast_zero, zero_div, div_eq_zero_iff] at same
      exact_mod_cast same.resolve_right den_ne
  unfold nearest
  by_cases zero : num = 0
  · simp [zero, zero_iff.mp zero]
  · have zero' : num' ≠ 0 := fun z => zero (zero_iff.mpr z)
    simp only [zero, zero', denPos.ne', denPos'.ne', Bool.or_false, decide_false]
    rw [nearestParts_congr (by omega) denPos (by omega) denPos' same]


theorem nearestParts_of_round {num den : Nat} (k : Int) {m : Nat}
    (exponent : max (floorLog2 num den - 52) minExponent = k)
    (rounded : roundHalfEven (scaleByPow2 num den k).1 (scaleByPow2 num den k).2 = m) :
    nearestParts num den = if m = Nat.pow 2 53 then (Nat.pow 2 52, k + 1) else (m, k) := by
  unfold nearestParts
  rw [exponent]
  simp only [rounded]

theorem roundHalfEven_scaled {num den M : Nat} (k : Int) (denPos : 0 < den)
    (near : |(num : ℚ) / den / (2 : ℚ) ^ k - M| < 1 / 2) :
    roundHalfEven (scaleByPow2 num den k).1 (scaleByPow2 num den k).2 = M :=
  roundHalfEven_eq (scaleByPow2_spec k denPos).1 (by rw [(scaleByPow2_spec k denPos).2]; exact near)

theorem zpow_add_nat (E : Int) (n : Nat) : (2 : ℚ) ^ (E + n) = (2 : ℚ) ^ E * 2 ^ n := by
  rw [zpow_add₀ (by norm_num), zpow_natCast]

/-- A rational within half a unit in the last place of a double rounds to it;
just below a power of two the unit below is half as wide, so there it must be
within a quarter. -/
theorem nearestParts_of_near {num den M : Nat} {E : Int} (numPos : 0 < num) (denPos : 0 < den)
    (canonical : Canonical M E) (positive : 0 < M)
    (within : |(num : ℚ) / den - M * (2 : ℚ) ^ E| < (2 : ℚ) ^ E / 2)
    (boundary : M = 2 ^ 52 → -1074 < E → (M : ℚ) * (2 : ℚ) ^ E - (num : ℚ) / den < (2 : ℚ) ^ E / 4) :
    nearestParts num den = (M, E) := by
  set q : ℚ := (num : ℚ) / den
  set u : ℚ := (2 : ℚ) ^ E
  have unit : 0 < u := zpow_pos (by norm_num) E
  have scaled (k : Int) (M' : Nat) (near : |q / (2 : ℚ) ^ k - M'| < 1 / 2) :=
    roundHalfEven_scaled k denPos near
  -- dividing by the unit in the last place turns the distance into one below a half
  have nearM : |q / u - M| < 1 / 2 := by
    rw [show q / u - M = (q - M * u) / u by field_simp, abs_div, abs_of_pos unit, div_lt_iff₀ unit]
    linarith
  obtain ⟨aboveV, belowV⟩ := abs_sub_lt_iff.mp within
  rcases canonical with ⟨small, rfl⟩ | ⟨large, fits, least, most⟩
  · -- a subnormal: the exponent is already the least
    have low : floorLog2 num den < 52 + -1074 := by
      obtain ⟨lowLog, -⟩ := floorLog2_spec numPos denPos
      have : q < (2 : ℚ) ^ ((-1074 : Int) + (52 : Nat)) := by
        rw [zpow_add_nat]
        have : (M : ℚ) + 1 ≤ 2 ^ 52 := by exact_mod_cast small
        nlinarith
      have := lowLog.trans_lt this
      rw [zpow_lt_zpow_iff_right₀ (by norm_num)] at this
      push_cast at this
      omega
    rw [nearestParts_of_round (-1074) (by simp [minExponent]; omega) (scaled _ M nearM),
      if_neg (by simp [Nat.pow_eq]; omega)]
  · have fitsQ : (M : ℚ) + 1 ≤ 2 ^ 53 := by exact_mod_cast fits
    have largeQ : (2 : ℚ) ^ 52 ≤ M := by exact_mod_cast large
    by_cases reaches : (2 : ℚ) ^ (E + (52 : Nat)) ≤ q
    · -- the rational has the double's binary logarithm: the exponent is kept
      have log : floorLog2 num den = E + 52 := by
        refine floorLog2_eq numPos denPos reaches ?_
        rw [show E + 52 + 1 = E + (53 : Nat) by push_cast; ring, zpow_add_nat]
        nlinarith
      rw [nearestParts_of_round E (by rw [log]; simp [minExponent]; omega) (scaled _ M nearM),
        if_neg (by simp [Nat.pow_eq]; omega)]
    · -- just below a power of two: the double is that power
      rw [not_le, zpow_add_nat] at reaches
      have isPower : M = 2 ^ 52 := by
        have : (M : ℚ) < 2 ^ 52 + 1 := by nlinarith
        have : M < 2 ^ 52 + 1 := by exact_mod_cast this
        omega
      subst isPower
      have log : floorLog2 num den = E + 51 := by
        refine floorLog2_eq numPos denPos ?_ ?_
        · rw [show E + 51 = E + (51 : Nat) by push_cast; rfl, zpow_add_nat]
          push_cast at aboveV belowV
          nlinarith
        · rw [show E + 51 + 1 = E + (52 : Nat) by push_cast; ring, zpow_add_nat]
          exact reaches
      rcases Int.lt_or_eq_of_le least with inside | rfl
      · -- the unit below the power is half as wide: rounding carries into the next binade
        have quarter := boundary rfl inside
        have carry : |q / (2 : ℚ) ^ (E - 1) - ((2 ^ 53 : Nat) : ℚ)| < 1 / 2 := by
          have half : (2 : ℚ) ^ (E - 1) = u / 2 := by
            rw [zpow_sub₀ (by norm_num), zpow_one]
          rw [half, show q / (u / 2) - ((2 ^ 53 : Nat) : ℚ) = 2 * (q - 2 ^ 52 * u) / u by
            field_simp; push_cast; ring, abs_div, abs_of_pos unit, div_lt_iff₀ unit, abs_lt]
          push_cast at quarter
          constructor <;> nlinarith
        rw [nearestParts_of_round (E - 1) (by rw [log]; simp [minExponent]; omega) (scaled _ _ carry),
          if_pos (by simp [Nat.pow_eq])]
        simp [Nat.pow_eq]
      · rw [nearestParts_of_round (-1074) (by rw [log]; simp [minExponent]) (scaled _ _ nearM),
          if_neg (by simp [Nat.pow_eq])]

/-- The double nearest to a rational within half a unit in the last place of
`M · 2 ^ E`, and within a quarter below it when `M · 2 ^ E` is a power of two,
is `± M · 2 ^ E`. -/
theorem nearest_of_near (negative : Bool) {num den M : Nat} {E : Int} (denPos : 0 < den)
    (canonical : Canonical M E) (positive : 0 < M)
    (within : |(num : ℚ) / den - M * (2 : ℚ) ^ E| < (2 : ℚ) ^ E / 2)
    (boundary : M = 2 ^ 52 → -1074 < E → (M : ℚ) * (2 : ℚ) ^ E - (num : ℚ) / den < (2 : ℚ) ^ E / 4) :
    nearest negative num den = some (compose negative M E) := by
  have unit : (0 : ℚ) < (2 : ℚ) ^ E := zpow_pos (by norm_num) E
  -- zero is a whole unit away from a positive double
  have numPos : 0 < num := by
    refine Nat.pos_of_ne_zero fun zero => ?_
    have one : (1 : ℚ) ≤ M := by exact_mod_cast positive
    rw [zero, Nat.cast_zero, zero_div, zero_sub, abs_neg, abs_of_pos (by positivity)] at within
    nlinarith
  have bounded : ¬ E > maxExponent := by
    rcases canonical with ⟨-, rfl⟩ | ⟨-, -, -, most⟩ <;> (simp only [maxExponent]; omega)
  unfold nearest
  simp only [Nat.pos_iff_ne_zero.mp numPos, Nat.pos_iff_ne_zero.mp denPos, decide_false, Bool.or_false,
    Bool.false_eq_true, if_false]
  rw [nearestParts_of_near numPos denPos canonical positive within boundary]
  simp only [bounded, if_false]

/-- Rounding a quotient that lies in `[lo, hi)` gives a whole number in `[lo, hi]`. -/
theorem roundHalfEven_mem {n d lo hi : Nat} (positive : 0 < d)
    (low : (lo : ℚ) ≤ (n : ℚ) / d) (high : (n : ℚ) / d < hi) : lo ≤ roundHalfEven n d ∧ roundHalfEven n d ≤ hi := by
  have d_pos : (0 : ℚ) < d := by exact_mod_cast positive
  have low' : lo * d ≤ n := by
    rw [le_div_iff₀ d_pos] at low
    exact_mod_cast low
  have high' : n < hi * d := by
    rw [div_lt_iff₀ d_pos] at high
    exact_mod_cast high
  have wholeLow : lo ≤ n / d := (Nat.le_div_iff_mul_le positive).mpr low'
  have wholeHigh : n / d < hi := (Nat.div_lt_iff_lt_mul positive).mpr high'
  unfold roundHalfEven
  dsimp only
  split <;> omega

/-- Within the range of the doubles, the mantissa and exponent of the nearest
double are canonical: rounding carries into the next binade at most, and a
subnormal mantissa goes with the least exponent. -/
theorem nearestParts_canonical {num den : Nat} (numPos : 0 < num) (denPos : 0 < den)
    (fits : (nearestParts num den).2 ≤ maxExponent) :
    Canonical (nearestParts num den).1 (nearestParts num den).2 := by
  obtain ⟨lowL, highL⟩ := floorLog2_spec numPos denPos
  set k := max (floorLog2 num den - 52) minExponent with hk
  obtain ⟨sdPos, scaled⟩ := @scaleByPow2_spec num den k denPos
  set m := roundHalfEven (scaleByPow2 num den k).1 (scaleByPow2 num den k).2 with hm
  rw [nearestParts_of_round k rfl hm.symm] at fits ⊢
  have unit : (0 : ℚ) < 2 ^ k := zpow_pos (by norm_num) k
  have two : (1 : ℚ) ≤ 2 := by norm_num
  simp only [maxExponent, minExponent] at fits hk
  -- the scaled value is below `2 ^ 53`
  have high : ((scaleByPow2 num den k).1 : ℚ) / (scaleByPow2 num den k).2 < ((2 ^ 53 : Nat) : ℚ) := by
    rw [scaled, div_lt_iff₀ unit]
    calc (num : ℚ) / den < 2 ^ (floorLog2 num den + 1) := highL
      _ ≤ 2 ^ (k + (53 : Nat)) := zpow_le_zpow_right₀ two (by push_cast; omega)
      _ = ((2 ^ 53 : Nat) : ℚ) * 2 ^ k := by rw [zpow_add_nat]; push_cast; ring
  split_ifs at fits ⊢ with carry
  · -- the rounding carried into the next binade
    exact .inr ⟨by simp [Nat.pow_eq], by simp [Nat.pow_eq], by omega, by omega⟩
  · simp only [Nat.pow_eq] at carry
    by_cases normal : -1074 ≤ floorLog2 num den - 52
    · have low : ((2 ^ 52 : Nat) : ℚ) ≤ ((scaleByPow2 num den k).1 : ℚ) / (scaleByPow2 num den k).2 := by
        rw [scaled, le_div_iff₀ unit]
        calc ((2 ^ 52 : Nat) : ℚ) * 2 ^ k = 2 ^ (k + (52 : Nat)) := by rw [zpow_add_nat]; push_cast; ring
          _ = 2 ^ floorLog2 num den := by congr 1; push_cast; omega
          _ ≤ (num : ℚ) / den := lowL
      obtain ⟨least, most⟩ := roundHalfEven_mem sdPos low high
      exact .inr ⟨least, by omega, by omega, fits⟩
    · -- below the normal range the exponent is the least and the mantissa at most `2 ^ 52`
      have highSub : ((scaleByPow2 num den k).1 : ℚ) / (scaleByPow2 num den k).2 < ((2 ^ 52 : Nat) : ℚ) := by
        rw [scaled, div_lt_iff₀ unit]
        calc (num : ℚ) / den < 2 ^ (floorLog2 num den + 1) := highL
          _ ≤ 2 ^ (k + (52 : Nat)) := zpow_le_zpow_right₀ two (by push_cast; omega)
          _ = ((2 ^ 52 : Nat) : ℚ) * 2 ^ k := by rw [zpow_add_nat]; push_cast; ring
      obtain ⟨-, most⟩ := @roundHalfEven_mem _ _ 0 (2 ^ 52) sdPos (by simp; positivity) highSub
      rcases Nat.lt_or_eq_of_le most with subnormal | edge
      · exact .inl ⟨subnormal, by omega⟩
      · exact .inr ⟨edge.ge, by omega, by omega, fits⟩

/-- The sign of the nearest double is the sign asked for: its magnitude does
not depend on it. -/
theorem nearest_sign {num den m : Nat} {e : Int} (negative : Bool) (canonical : Canonical m e)
    (unsigned : nearest false num den = some (compose false m e)) :
    nearest negative num den = some (compose negative m e) := by
  unfold nearest at unsigned ⊢
  split
  · rename_i zero
    rw [if_pos zero, Option.some.injEq] at unsigned
    have same := congrArg shape unsigned
    rw [shape_compose false 0 minExponent (.inl ⟨by norm_num, rfl⟩), shape_compose _ _ _ canonical] at same
    injection same with _ mantissa exponent
    rw [← mantissa, ← exponent]
  · rename_i nonzero
    rw [if_neg nonzero] at unsigned
    simp only [Bool.or_eq_true, decide_eq_true_eq, not_or] at nonzero
    dsimp only at unsigned ⊢
    split at unsigned
    · simp at unsigned
    · rename_i fits
      rw [if_neg fits]
      rw [Option.some.injEq] at unsigned
      have parts := nearestParts_canonical (Nat.pos_of_ne_zero nonzero.1) (Nat.pos_of_ne_zero nonzero.2)
        (le_of_not_gt fits)
      have same := congrArg shape unsigned
      rw [shape_compose _ _ _ parts, shape_compose _ _ _ canonical] at same
      injection same with _ mantissa exponent
      rw [mantissa, exponent]

end Binary64

end Vernacular
