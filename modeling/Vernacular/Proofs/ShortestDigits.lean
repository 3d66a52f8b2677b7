import Mathlib
import Vernacular.Proofs.NearestDouble
import Vernacular.Number.Decimal
/-!
# Shortest digits read back

`Decimal.format` writes a finite double as the fewest significant digits that
read back as it, laid out in positional notation. This module proves that the
text always reads back as the double (`format_reads_back`).

The digits are searched by length, one to seventeen, among the two neighbours
of `v / 10 ^ n` (`candidates`), and each is kept only if it reads back, so what
is found reads back by construction (`candidates_sound`). The search never
comes back empty: at seventeen digits the step `10 ^ n` is below the unit in
the last place of the double, and below half of it at a power of two, so the
nearer neighbour is within the rounding interval (`seventeen_digits_isSome`).
That step bound needs `floorLog10` to be the decimal logarithm rounded down,
which its binary estimate is over the whole range of the doubles
(`floorLog10_spec`, checked against the tables of `guess_low_table_nonneg` and
its kin). Trimming zeros keeps the value, the positional text reads as a
literal of the same value, and that value lies well inside the range where
`Literal.toFloat?` rounds it to the nearest double.
-/

set_option autoImplicit false

namespace Vernacular

namespace Decimal

open Binary64

theorem atLeastPow10_iff {num den : Nat} (k : Int) (positive : 0 < den) :
    atLeastPow10 num den k = true ↔ (10 : ℚ) ^ k ≤ (num : ℚ) / den := by
  have test := @powerTest_iff num den 10 k positive (by norm_num)
  rw [Nat.cast_ofNat] at test
  exact test

/-! ## The decimal logarithm -/

/-- The estimate `⌊0.30103 · L⌋` of `⌊log₁₀ 2 ^ L⌋`, checked over the binary
logarithms of the doubles: it is never more than one too high, -/
theorem guess_low_table_nonneg : ∀ n < 1024, 10 ^ (n * 30103 / 100000) ≤ 10 * 2 ^ n := by
  decide +kernel

theorem guess_low_table_neg : ∀ n < 1075, 2 ^ n ≤ 10 ^ (1 + (n * 30103 + 99999) / 100000) := by
  decide +kernel

/-- and never more than one too low. -/
theorem guess_high_table_nonneg : ∀ n < 1024, 2 * 2 ^ n ≤ 100 * 10 ^ (n * 30103 / 100000) := by
  decide +kernel

theorem guess_high_table_neg : ∀ n < 1075, 2 * 10 ^ ((n * 30103 + 99999) / 100000) ≤ 100 * 2 ^ n := by
  decide +kernel

theorem pow10_guess_le {L : Int} (low : -1074 ≤ L) (high : L ≤ 1023) :
    (10 : ℚ) ^ (L * 30103 / 100000 - 1) ≤ (2 : ℚ) ^ L := by
  rcases le_or_gt 0 L with nonneg | neg
  · obtain ⟨n, rfl⟩ := Int.eq_ofNat_of_zero_le nonneg
    have table : ((10 ^ (n * 30103 / 100000) : Nat) : ℚ) ≤ ((10 * 2 ^ n : Nat) : ℚ) := by
      exact_mod_cast guess_low_table_nonneg n (by omega)
    rw [show (n : Int) * 30103 / 100000 - 1 = ((n * 30103 / 100000 : Nat) : Int) - 1 by omega,
      zpow_sub₀ (by norm_num), zpow_natCast, zpow_natCast, zpow_one, div_le_iff₀ (by norm_num)]
    push_cast at table
    linarith
  · obtain ⟨n, rfl⟩ : ∃ n : Nat, L = -(n : Int) := ⟨L.natAbs, by omega⟩
    have table : ((2 ^ n : Nat) : ℚ) ≤ ((10 ^ (1 + (n * 30103 + 99999) / 100000) : Nat) : ℚ) := by
      exact_mod_cast guess_low_table_neg n (by omega)
    rw [show -(n : Int) * 30103 / 100000 - 1 = -((1 + (n * 30103 + 99999) / 100000 : Nat) : Int) by omega,
      zpow_neg, zpow_neg, zpow_natCast, zpow_natCast]
    push_cast at table ⊢
    exact inv_anti₀ (by positivity) table

theorem pow2_le_guess {L : Int} (low : -1074 ≤ L) (high : L ≤ 1023) :
    (2 : ℚ) ^ (L + 1) ≤ (10 : ℚ) ^ (L * 30103 / 100000 + 2) := by
  rcases le_or_gt 0 L with nonneg | neg
  · obtain ⟨n, rfl⟩ := Int.eq_ofNat_of_zero_le nonneg
    have table : ((2 * 2 ^ n : Nat) : ℚ) ≤ ((100 * 10 ^ (n * 30103 / 100000) : Nat) : ℚ) := by
      exact_mod_cast guess_high_table_nonneg n (by omega)
    rw [show (n : Int) * 30103 / 100000 + 2 = ((n * 30103 / 100000 + 2 : Nat) : Int) by omega,
      show (n : Int) + 1 = ((n + 1 : Nat) : Int) by omega, zpow_natCast, zpow_natCast, pow_succ, pow_add]
    push_cast at table
    linarith
  · obtain ⟨n, rfl⟩ : ∃ n : Nat, L = -(n : Int) := ⟨L.natAbs, by omega⟩
    have table : ((2 * 10 ^ ((n * 30103 + 99999) / 100000) : Nat) : ℚ) ≤ ((100 * 2 ^ n : Nat) : ℚ) := by
      exact_mod_cast guess_high_table_neg n (by omega)
    set c := (n * 30103 + 99999) / 100000
    rw [show -(n : Int) * 30103 / 100000 + 2 = 2 - (c : Int) by omega, show -(n : Int) + 1 = 1 - n by ring,
      zpow_sub₀ (by norm_num), zpow_sub₀ (by norm_num), zpow_natCast, zpow_natCast, zpow_one,
      div_le_div_iff₀ (by positivity) (by positivity)]
    push_cast at table
    norm_num
    linarith

/-- `floorLog10` is the decimal logarithm of the rational, rounded down, over
the range of the doubles. -/
theorem floorLog10_spec {num den : Nat} (numPos : 0 < num) (denPos : 0 < den)
    (low : (2 : ℚ) ^ (-1074 : Int) ≤ (num : ℚ) / den) (high : (num : ℚ) / den < (2 : ℚ) ^ (1024 : Int)) :
    (10 : ℚ) ^ floorLog10 num den ≤ (num : ℚ) / den ∧ (num : ℚ) / den < (10 : ℚ) ^ (floorLog10 num den + 1) := by
  obtain ⟨lowL, highL⟩ := floorLog2_spec numPos denPos
  set L := floorLog2 num den
  have one : (1 : ℚ) < 2 := by norm_num
  have least : -1074 ≤ L := by
    have := low.trans_lt highL
    rw [zpow_lt_zpow_iff_right₀ one] at this
    omega
  have most : L ≤ 1023 := by
    have := lowL.trans_lt high
    rw [zpow_lt_zpow_iff_right₀ one] at this
    omega
  unfold floorLog10
  dsimp only
  split
  · rename_i above
    refine ⟨(atLeastPow10_iff _ denPos).mp above, ?_⟩
    calc (num : ℚ) / den < 2 ^ (L + 1) := highL
      _ ≤ 10 ^ (L * 30103 / 100000 + 2) := pow2_le_guess least most
      _ = 10 ^ (L * 30103 / 100000 + 1 + 1) := by ring_nf
  · rename_i notAbove
    rw [Bool.not_eq_true, ← Bool.not_eq_true, atLeastPow10_iff _ denPos, not_le] at notAbove
    split
    · rename_i at_
      exact ⟨(atLeastPow10_iff _ denPos).mp at_, notAbove⟩
    · rename_i below
      rw [Bool.not_eq_true, ← Bool.not_eq_true, atLeastPow10_iff _ denPos, not_le] at below
      refine ⟨(pow10_guess_le least most).trans lowL, ?_⟩
      simpa using below

/-! ## Decimal values -/

/-- The pair `(c · b ^ n, 1)` or `(c, b ^ -n)`, as `ratio` and `shortest` build
it, is `c · b ^ n` with a positive denominator. -/
theorem powerRatio_eq {c num den : Nat} (b : Nat) (n : Int) (base : 0 < b)
    (pair : (if 0 ≤ n then (c * Nat.pow b n.toNat, 1) else (c, Nat.pow b (-n).toNat)) = (num, den)) :
    0 < den ∧ (num : ℚ) / den = c * (b : ℚ) ^ n := by
  split at pair
  · rename_i nonneg
    obtain ⟨rfl, rfl⟩ := Prod.mk.inj pair
    refine ⟨Nat.one_pos, ?_⟩
    rw [Nat.cast_one, div_one, Nat.cast_mul, pow_toNat_cast b n nonneg]
  · rename_i neg
    obtain ⟨rfl, rfl⟩ := Prod.mk.inj pair
    refine ⟨Nat.pow_pos base, ?_⟩
    rw [pow_neg_toNat_cast b n (by omega), div_inv_eq_mul]

theorem ratio_spec (c : Nat) (n : Int) :
    0 < (ratio c n).2 ∧ ((ratio c n).1 : ℚ) / (ratio c n).2 = c * (10 : ℚ) ^ n := by
  have value := @powerRatio_eq c (ratio c n).1 (ratio c n).2 10 n (by norm_num) rfl
  rw [Nat.cast_ofNat] at value
  exact value

theorem readsBackAs_iff (bits : UInt64) (c : Nat) (n : Int) :
    readsBackAs bits c n = true ↔
      ∃ y, Binary64.nearest false (ratio c n).1 (ratio c n).2 = some y ∧ y.toBits = bits := by
  unfold readsBackAs
  cases ratio c n with
  | mk num den =>
    dsimp only
    cases Binary64.nearest false num den <;> simp

/-- Whether digits read back depends only on their value. -/
theorem readsBackAs_congr (bits : UInt64) {c c' : Nat} {n n' : Int}
    (same : (c : ℚ) * (10 : ℚ) ^ n = c' * (10 : ℚ) ^ n') : readsBackAs bits c n = readsBackAs bits c' n' := by
  obtain ⟨denPos, value⟩ := ratio_spec c n
  obtain ⟨denPos', value'⟩ := ratio_spec c' n'
  have nearest := Binary64.nearest_congr false denPos denPos' (by rw [value, value', same])
  rw [Bool.eq_iff_iff, readsBackAs_iff, readsBackAs_iff, nearest]

/-- The whole part of a quotient brackets it. -/
theorem div_bracket (sn sd : Nat) :
    ((sn / sd : Nat) : ℚ) ≤ (sn : ℚ) / sd ∧ (sn : ℚ) / sd < (sn / sd : Nat) + 1 := by
  refine ⟨Nat.cast_div_le, ?_⟩
  have floor : ⌊(sn : ℚ) / sd⌋₊ = sn / sd := Nat.floor_div_eq_div sn sd
  rw [← floor]
  exact Nat.lt_floor_add_one _

/-! ## Candidates of a given length -/

section Candidates

variable {bits : UInt64} {num den p : Nat}

/-- The scaled value `v / 10 ^ n` lies between its whole part and the next. -/
theorem scaled_bracket {n : Int} {sn sd : Nat} (denPos : 0 < den)
    (pair : (if 0 ≤ n then (num, den * Nat.pow 10 n.toNat) else (num * Nat.pow 10 (-n).toNat, den)) = (sn, sd)) :
    0 < sd ∧ ((sn / sd : Nat) : ℚ) * 10 ^ n ≤ (num : ℚ) / den ∧
      (num : ℚ) / den < ((sn / sd : Nat) + 1) * 10 ^ n ∧
      (sn % sd = 0 → ((sn / sd : Nat) : ℚ) * 10 ^ n = (num : ℚ) / den) := by
  obtain ⟨sdPos, scaled⟩ := powerScale_eq 10 n denPos (by norm_num) pair
  rw [Nat.cast_ofNat] at scaled
  have unit : (0 : ℚ) < 10 ^ n := zpow_pos (by norm_num) n
  obtain ⟨low, high⟩ := div_bracket sn sd
  rw [scaled, le_div_iff₀ unit] at low
  rw [scaled, div_lt_iff₀ unit] at high
  refine ⟨sdPos, low, high, fun exact => ?_⟩
  have whole : ((sn / sd : Nat) : ℚ) = (sn : ℚ) / sd := by
    rw [Nat.cast_div (Nat.dvd_of_mod_eq_zero exact) (by exact_mod_cast sdPos.ne')]
  rw [whole, scaled, div_mul_cancel₀ _ unit.ne']

/-- The candidates returned read back, and they are the whole part of
`v / 10 ^ n` or the next number up. -/
theorem candidates_sound {c : Nat} {n : Int} (denPos : 0 < den) (found : candidates bits num den p = some (c, n)) :
    readsBackAs bits c n = true ∧ n = floorLog10 num den - ((p : Int) - 1) ∧
      ∃ lo : Nat, (lo : ℚ) * 10 ^ n ≤ (num : ℚ) / den ∧ (num : ℚ) / den < (lo + 1) * 10 ^ n ∧
        (c = lo ∨ c = lo + 1) := by
  unfold candidates at found
  dsimp only at found
  generalize hn : floorLog10 num den - ((p : Int) - 1) = n₀ at found
  generalize hs : (if 0 ≤ n₀ then (num, den * Nat.pow 10 n₀.toNat)
    else (num * Nat.pow 10 (-n₀).toNat, den)) = s at found
  obtain ⟨sn, sd⟩ := s
  obtain ⟨-, low, high, -⟩ := scaled_bracket denPos hs
  dsimp only at found
  have result : ∀ c', readsBackAs bits c' n₀ = true → (c' = sn / sd ∨ c' = sn / sd + 1) →
      some (c', n₀) = some (c, n) → readsBackAs bits c n = true ∧ n = n₀ ∧
        ∃ lo : Nat, (lo : ℚ) * 10 ^ n ≤ (num : ℚ) / den ∧ (num : ℚ) / den < (lo + 1) * 10 ^ n ∧
          (c = lo ∨ c = lo + 1) := by
    intro c' reads which same
    simp only [Option.some.injEq, Prod.mk.injEq] at same
    obtain ⟨rfl, rfl⟩ := same
    exact ⟨reads, rfl, sn / sd, low, high, which⟩
  split at found
  · split at found
    · exact result _ ‹_› (.inl rfl) found
    · simp at found
  · cases down : readsBackAs bits (sn / sd) n₀ <;> cases up : readsBackAs bits (sn / sd + 1) n₀ <;>
      simp only [down, up] at found
    · simp at found
    · exact result _ up (.inr rfl) found
    · exact result _ down (.inl rfl) found
    · split_ifs at found
      · exact result _ down (.inl rfl) found
      · exact result _ up (.inr rfl) found
      · exact result _ down (.inl rfl) found
      · exact result _ up (.inr rfl) found

/-- Some candidate is returned when every number within half a step of
`v / 10 ^ n` reads back. -/
theorem candidates_isSome_of_near (denPos : 0 < den)
    (near : ∀ c : Nat, |(c : ℚ) * 10 ^ (floorLog10 num den - ((p : Int) - 1)) - (num : ℚ) / den| ≤
      10 ^ (floorLog10 num den - ((p : Int) - 1)) / 2 →
      readsBackAs bits c (floorLog10 num den - ((p : Int) - 1)) = true) :
    (candidates bits num den p).isSome := by
  unfold candidates
  dsimp only
  generalize floorLog10 num den - ((p : Int) - 1) = n₀ at near ⊢
  generalize hs : (if 0 ≤ n₀ then (num, den * Nat.pow 10 n₀.toNat)
    else (num * Nat.pow 10 (-n₀).toNat, den)) = s
  obtain ⟨sn, sd⟩ := s
  obtain ⟨-, low, high, exact⟩ := scaled_bracket denPos hs
  have unit : (0 : ℚ) < 10 ^ n₀ := zpow_pos (by norm_num) n₀
  dsimp only
  split
  · rename_i whole
    rw [near _ (by rw [exact whole, sub_self, abs_zero]; positivity), if_pos rfl, Option.isSome_some]
  · -- the nearer of the two neighbours is within half a step
    have either : readsBackAs bits (sn / sd) n₀ = true ∨ readsBackAs bits (sn / sd + 1) n₀ = true := by
      by_cases lower : (num : ℚ) / den - (sn / sd : Nat) * 10 ^ n₀ ≤ 10 ^ n₀ / 2
      · exact .inl (near _ (by rw [abs_sub_le_iff]; constructor <;> linarith))
      · refine .inr (near _ (by rw [abs_sub_le_iff]; push_cast; constructor <;> linarith))
    rcases either with down | up
    · rw [down]
      cases readsBackAs bits (sn / sd + 1) n₀
      case false => rfl
      case true => dsimp only; split_ifs <;> rfl
    · rw [up]
      cases readsBackAs bits (sn / sd) n₀
      case false => rfl
      case true => dsimp only; split_ifs <;> rfl

end Candidates

/-! ## Shortest digits -/

/-- A positive double lies between the least subnormal and `2 ^ 1024`. -/
theorem double_range {m : Nat} {e : Int} (canonical : Canonical m e) (positive : 0 < m) :
    (2 : ℚ) ^ (-1074 : Int) ≤ m * (2 : ℚ) ^ e ∧ (m : ℚ) * (2 : ℚ) ^ e < (2 : ℚ) ^ (1024 : Int) := by
  have one : (1 : ℚ) ≤ m := by exact_mod_cast positive
  have unit : (0 : ℚ) < (2 : ℚ) ^ e := zpow_pos (by norm_num) e
  have wide : (m : ℚ) < 2 ^ 53 := by
    have : m < 2 ^ 53 := by rcases canonical with ⟨small, -⟩ | ⟨-, fits, -⟩ <;> omega
    exact_mod_cast this
  have least : -1074 ≤ e := by rcases canonical with ⟨-, rfl⟩ | ⟨-, -, least, -⟩ <;> omega
  have most : e ≤ 971 := by rcases canonical with ⟨-, rfl⟩ | ⟨-, -, -, most⟩ <;> omega
  constructor
  · calc (2 : ℚ) ^ (-1074 : Int) ≤ 2 ^ e := zpow_le_zpow_right₀ (by norm_num) least
      _ ≤ m * 2 ^ e := le_mul_of_one_le_left unit.le one
  · calc (m : ℚ) * 2 ^ e < 2 ^ 53 * 2 ^ e := by gcongr
      _ = 2 ^ (53 + e) := by rw [zpow_add₀ (by norm_num)]; norm_num
      _ ≤ 2 ^ (1024 : Int) := zpow_le_zpow_right₀ (by norm_num) (by omega)

/-- Seventeen significant digits always read back: a step of `10 ^ n` at that
length is below the unit in the last place of the double, and below half of it
at a power of two. -/
theorem seventeen_digits_isSome {m num den : Nat} {e : Int} (canonical : Canonical m e) (positive : 0 < m)
    (denPos : 0 < den) (value : (num : ℚ) / den = m * (2 : ℚ) ^ e) :
    (candidates (compose false m e).toBits num den 17).isSome := by
  have unit : (0 : ℚ) < (2 : ℚ) ^ e := zpow_pos (by norm_num) e
  obtain ⟨low, high⟩ := double_range canonical positive
  have numPos : 0 < num := by
    have : (0 : ℚ) < (num : ℚ) / den := by rw [value]; exact lt_of_lt_of_le (zpow_pos (by norm_num) _) low
    exact_mod_cast (div_pos_iff_of_pos_right (by exact_mod_cast denPos)).mp this
  obtain ⟨logLow, -⟩ := floorLog10_spec numPos denPos (value ▸ low) (value ▸ high)
  apply candidates_isSome_of_near denPos
  intro c close
  set n₀ := floorLog10 num den - (((17 : Nat) : Int) - 1)
  have step : (10 : ℚ) ^ n₀ * 10 ^ 16 ≤ m * 2 ^ e := by
    rw [← value, ← zpow_natCast, ← zpow_add₀ (by norm_num)]
    simpa [n₀] using logLow
  have wide : (m : ℚ) < 2 ^ 53 := by
    have : m < 2 ^ 53 := by rcases canonical with ⟨small, -⟩ | ⟨-, fits, -⟩ <;> omega
    exact_mod_cast this
  have power : (0 : ℚ) < 10 ^ n₀ := zpow_pos (by norm_num) n₀
  -- the step is below the unit, and below half of it at a power of two
  have below : (10 : ℚ) ^ n₀ < 2 ^ e := by nlinarith
  have belowHalf : m = 2 ^ 52 → 2 * (10 : ℚ) ^ n₀ < 2 ^ e := by
    intro power2
    have : (m : ℚ) = 2 ^ 52 := by exact_mod_cast power2
    nlinarith
  obtain ⟨ratioPos, ratioValue⟩ := ratio_spec c n₀
  rw [value] at close
  obtain ⟨closeAbove, closeBelow⟩ := abs_sub_le_iff.mp close
  refine (readsBackAs_iff _ c n₀).mpr ⟨_, nearest_of_near false ratioPos canonical positive ?_ ?_, rfl⟩
  · rw [ratioValue, abs_sub_lt_iff]
    constructor <;> linarith
  · intro power2 _
    have := belowHalf power2
    rw [ratioValue]
    linarith

/-- What a trimmed pair of digits keeps: its value, and a positive mantissa. -/
theorem trimZeros_go_spec : ∀ (fuel c : Nat) (n : Int), 0 < c →
    0 < (trimZeros.go fuel c n).1 ∧
      ((trimZeros.go fuel c n).1 : ℚ) * 10 ^ (trimZeros.go fuel c n).2 = c * 10 ^ n
  | 0, c, n, positive => ⟨positive, rfl⟩
  | fuel + 1, c, n, positive => by
    unfold trimZeros.go
    split
    · rename_i zeros
      simp only [ne_eq, Bool.and_eq_true, decide_eq_true_eq] at zeros
      obtain ⟨-, divisible⟩ := zeros
      obtain ⟨rest, value⟩ := trimZeros_go_spec fuel (c / 10) (n + 1) (by omega)
      refine ⟨rest, ?_⟩
      have whole : ((c / 10 : Nat) : ℚ) * 10 = c := by
        exact_mod_cast Nat.div_mul_cancel (Nat.dvd_of_mod_eq_zero divisible)
      rw [value, zpow_add_one₀ (by norm_num), ← whole]
      ring
    · exact ⟨positive, rfl⟩

theorem trimZeros_spec {c : Nat} (n : Int) (positive : 0 < c) :
    0 < (trimZeros c n).1 ∧ ((trimZeros c n).1 : ℚ) * 10 ^ (trimZeros c n).2 = c * 10 ^ n :=
  trimZeros_go_spec _ c n positive

/-- The shortest digits of a positive double read back as it, and their value
`V` is within a factor of two of the double's value `v`. -/
theorem shortest_spec {m c : Nat} {e n : Int} (canonical : Canonical m e) (positive : 0 < m)
    (result : shortest (compose false m e).toBits m e = (c, n)) :
    readsBackAs (compose false m e).toBits c n = true ∧ 0 < c ∧
      (m : ℚ) * 2 ^ e / 2 < c * 10 ^ n ∧ (c : ℚ) * 10 ^ n ≤ 2 * (m * 2 ^ e) := by
  unfold shortest at result
  generalize hs : (if 0 ≤ e then (m * Nat.pow 2 e.toNat, 1) else (m, Nat.pow 2 (-e).toNat)) = s at result
  obtain ⟨num, den⟩ := s
  obtain ⟨denPos, value⟩ := powerRatio_eq 2 e (by norm_num) hs
  rw [Nat.cast_ofNat] at value
  dsimp only at result
  obtain ⟨low, high⟩ := double_range canonical positive
  have numPos : 0 < num := by
    have : (0 : ℚ) < (num : ℚ) / den := by rw [value]; exact lt_of_lt_of_le (zpow_pos (by norm_num) _) low
    exact_mod_cast (div_pos_iff_of_pos_right (by exact_mod_cast denPos)).mp this
  obtain ⟨logLow, -⟩ := floorLog10_spec numPos denPos (value ▸ low) (value ▸ high)
  -- the seventeen-digit candidate exists, so the search finds one
  have exists_ : ((List.range 17).findSome? fun i => candidates (compose false m e).toBits num den (i + 1)).isSome :=
    List.findSome?_isSome_iff.mpr ⟨16, by simp, seventeen_digits_isSome canonical positive denPos value⟩
  obtain ⟨⟨c₀, n₀⟩, found⟩ := Option.isSome_iff_exists.mp exists_
  rw [found] at result
  obtain ⟨i, range, candidate⟩ := List.exists_of_findSome?_eq_some found
  obtain ⟨reads, exponent, lo, lowLo, highLo, which⟩ := candidates_sound denPos candidate
  have power : (0 : ℚ) < 10 ^ n₀ := zpow_pos (by norm_num) n₀
  -- the step is at most the leading power of ten, so the whole part is at least one
  have stepLe : (10 : ℚ) ^ n₀ ≤ (num : ℚ) / den := by
    refine le_trans (zpow_le_zpow_right₀ (by norm_num) ?_) logLow
    simp at range
    omega
  have loPos : (1 : ℚ) ≤ lo := by
    have : (1 : ℚ) < lo + 1 := by
      by_contra! small
      have := mul_le_mul_of_nonneg_right small power.le
      linarith
    have : 0 < lo := by exact_mod_cast (show (0 : ℚ) < lo by linarith)
    exact_mod_cast this
  have c₀Pos : 0 < c₀ := by rcases which with rfl | rfl <;> [exact_mod_cast loPos; omega]
  obtain ⟨trimPos, trimValue⟩ := trimZeros_spec n₀ c₀Pos
  simp only [Option.getD_some] at result
  rw [result] at trimPos trimValue
  have oneStep := mul_le_mul_of_nonneg_right loPos power.le
  rw [one_mul] at oneStep
  refine ⟨(readsBackAs_congr _ trimValue).trans reads, trimPos, ?_, ?_⟩ <;>
    rw [trimValue, ← value] <;> rcases which with rfl | rfl <;> push_cast <;> linarith

/-! ## Numerals -/

/-- `ds` is the decimal numeral of `n`: ASCII digits, at least one, with no
leading zero unless `n` is zero, and as many as the magnitude of `n` asks. -/
structure Numeral (ds : List Char) (n : Nat) : Prop where
  digits : ∀ d ∈ ds, isDigit d = true
  value : digitsValue ds = n
  nonempty : ds ≠ []
  leading : 0 < n → ds.head? ≠ some '0'
  size : 0 < n → 10 ^ (ds.length - 1) ≤ n ∧ n < 10 ^ ds.length

theorem digitsValue_foldl (a : Nat) (ds : List Char) :
    ds.foldl (fun acc d => acc * 10 + (d.toNat - '0'.toNat)) a = a * 10 ^ ds.length + digitsValue ds := by
  induction ds generalizing a with
  | nil => simp [digitsValue]
  | cons d ds ih =>
    have first : digitsValue (d :: ds) = (d.toNat - '0'.toNat) * 10 ^ ds.length + digitsValue ds := by
      rw [digitsValue, List.foldl_cons, ih]
      ring
    rw [List.foldl_cons, ih, first, List.length_cons]
    ring

theorem digitsValue_append (xs ys : List Char) :
    digitsValue (xs ++ ys) = digitsValue xs * 10 ^ ys.length + digitsValue ys := by
  rw [digitsValue, List.foldl_append, digitsValue_foldl]
  rfl

@[simp] theorem digitsValue_zeros (k : Nat) : digitsValue (List.replicate k '0') = 0 := by
  induction k with
  | zero => rfl
  | succ k ih =>
    rw [List.replicate_succ', digitsValue_append, ih]
    rfl

theorem digitChar_digit : ∀ d < 10, isDigit d.digitChar = true ∧ d.digitChar.toNat - '0'.toNat = d := by
  decide

/-- `Nat.toDigits` writes the decimal numeral of a number. -/
theorem toDigits_numeral (n : Nat) : Numeral (Nat.toDigits 10 n) n := by
  induction n using Nat.strong_induction_on with
  | _ n ih =>
  rw [Nat.toDigits_eq_if (by norm_num)]
  split
  · rename_i small
    obtain ⟨digit, value⟩ := digitChar_digit n small
    refine ⟨by simpa using digit, by simpa [digitsValue] using value, by simp, fun positive => ?_, fun positive => ?_⟩
    · simp only [List.head?_cons, ne_eq, Option.some.injEq, Nat.digitChar_eq_zero]
      omega
    · simp only [List.length_singleton, Nat.sub_self, pow_zero, pow_one]
      omega
  · rename_i large
    have upper := ih (n / 10) (by omega)
    obtain ⟨digit, value⟩ := digitChar_digit (n % 10) (Nat.mod_lt _ (by norm_num))
    have positive : 0 < n / 10 := by omega
    refine ⟨fun d mem => ?_, ?_, by simp, fun _ => ?_, fun _ => ?_⟩
    · rcases List.mem_append.mp mem with mem | mem
      · exact upper.digits d mem
      · rw [List.mem_singleton.mp mem]
        exact digit
    · rw [digitsValue_append, upper.value]
      simp only [digitsValue, List.foldl_cons, List.foldl_nil, List.length_singleton, pow_one, value]
      omega
    · rw [List.head?_append]
      obtain ⟨d, rest, split⟩ := List.exists_cons_of_ne_nil upper.nonempty
      have := upper.leading positive
      rw [split] at this ⊢
      simpa using this
    · -- one more digit for one more factor of ten
      obtain ⟨low, high⟩ := upper.size positive
      have length : 0 < (Nat.toDigits 10 (n / 10)).length := List.length_pos_of_ne_nil upper.nonempty
      rw [List.length_append, List.length_singleton, Nat.add_sub_cancel]
      obtain ⟨k, hk⟩ : ∃ k, (Nat.toDigits 10 (n / 10)).length = k + 1 := ⟨_, (Nat.succ_pred_eq_of_pos length).symm⟩
      rw [hk, Nat.add_sub_cancel] at low
      rw [hk] at high ⊢
      rw [pow_succ] at high ⊢
      rw [pow_succ, pow_succ]
      omega

/-! ## Reading a written decimal -/

theorem readSign_signed (negative : Bool) {d : Char} (digit : isDigit d = true) (rest : List Char) :
    readSign ((if negative then ['-'] else []) ++ d :: rest) = (negative, d :: rest) := by
  have plus : d ≠ '+' := by rintro rfl; simp [isDigit] at digit
  have minus : d ≠ '-' := by rintro rfl; simp [isDigit] at digit
  cases negative
  · unfold readSign
    split <;> simp_all
  · rfl

/-- Digits with no point read as a whole number. -/
theorem readLiteral_whole (negative : Bool) {ds : List Char} (digits : ∀ d ∈ ds, isDigit d = true)
    (nonempty : ds ≠ []) :
    readLiteral ((if negative then ['-'] else []) ++ ds) = some ⟨negative, digitsValue ds, 0⟩ := by
  obtain ⟨d, rest, rfl⟩ := List.exists_cons_of_ne_nil nonempty
  unfold readLiteral
  rw [readSign_signed negative (digits d List.mem_cons_self)]
  dsimp only
  rw [List.takeWhile_eq_self_iff.mpr digits, List.dropWhile_eq_nil_iff.mpr digits]
  simp

/-- Digits with a point read as a whole number scaled by the digits after the point. -/
theorem readLiteral_point (negative : Bool) {whole fraction : List Char}
    (wholeDigits : ∀ d ∈ whole, isDigit d = true) (fractionDigits : ∀ d ∈ fraction, isDigit d = true)
    (nonempty : whole ≠ []) :
    readLiteral ((if negative then ['-'] else []) ++ whole ++ '.' :: fraction) =
      some ⟨negative, digitsValue (whole ++ fraction), -(fraction.length : Int)⟩ := by
  obtain ⟨d, rest, rfl⟩ := List.exists_cons_of_ne_nil nonempty
  have point : isDigit '.' = false := by decide
  unfold readLiteral
  rw [List.append_assoc, List.cons_append, readSign_signed negative (wholeDigits d List.mem_cons_self)]
  dsimp only
  rw [← List.cons_append, List.takeWhile_append_of_pos wholeDigits, List.dropWhile_append_of_pos wholeDigits,
    List.takeWhile_cons_of_neg (by simp [point]), List.dropWhile_cons_of_neg (by simp [point])]
  simp [List.takeWhile_eq_self_iff.mpr fractionDigits, List.dropWhile_eq_nil_iff.mpr fractionDigits]

/-- The positional text of `c · 10 ^ n` reads back as a literal of the same value. -/
theorem readLiteral_positional (negative : Bool) {c : Nat} (n : Int) (positive : 0 < c) :
    ∃ c' n', readLiteral ((if negative then ['-'] else []) ++ (positional c n).toList) = some ⟨negative, c', n'⟩ ∧
      0 < c' ∧ (c' : ℚ) * 10 ^ n' = c * 10 ^ n := by
  have numeral := toDigits_numeral c
  have text : toString c = String.ofList (Nat.toDigits 10 c) := Nat.toString_eq_ofList_toDigits
  have zeros : ∀ k, ∀ d ∈ List.replicate k '0', isDigit d = true := fun k d mem => by
    rw [List.eq_of_mem_replicate mem]
    rfl
  unfold positional
  simp only [text, String.length_ofList, String.toList_ofList]
  rcases le_or_gt 0 n with nonneg | negative_
  · -- no point: the digits and the zeros of the exponent
    rw [if_pos nonneg]
    refine ⟨c * 10 ^ n.toNat, 0, ?_, by positivity, ?_⟩
    · rw [String.toList_append, String.toList_ofList, String.toList_ofList,
        readLiteral_whole negative (fun d mem => ?_) (by simp [numeral.nonempty])]
      · rw [digitsValue_append, numeral.value, digitsValue_zeros, List.length_replicate, add_zero]
      · rcases List.mem_append.mp mem with mem | mem
        exacts [numeral.digits d mem, zeros _ d mem]
    · push_cast
      rw [mul_one, ← zpow_natCast, Int.toNat_of_nonneg nonneg]
  · rw [if_neg (not_le.mpr negative_)]
    set ds := Nat.toDigits 10 c
    refine ⟨c, n, ?_, positive, rfl⟩
    by_cases inside : (-n).toNat < ds.length
    · -- the point falls inside the digits
      rw [if_pos inside]
      have layout : (String.ofList (ds.take (ds.length - (-n).toNat)) ++ "." ++
          String.ofList (ds.drop (ds.length - (-n).toNat))).toList =
          ds.take (ds.length - (-n).toNat) ++ '.' :: ds.drop (ds.length - (-n).toNat) := by simp
      rw [layout, ← List.append_assoc, readLiteral_point negative
        (fun d mem => numeral.digits d (List.mem_of_mem_take mem))
        (fun d mem => numeral.digits d (List.mem_of_mem_drop mem))
        (List.ne_nil_of_length_pos (by simp; omega)), List.take_append_drop, numeral.value,
        List.length_drop]
      congr 3
      omega
    · -- the point comes first, then zeros
      rw [if_neg inside]
      have layout : ("0." ++ String.ofList (List.replicate ((-n).toNat - ds.length) '0') ++
          String.ofList ds).toList = ['0'] ++ '.' :: (List.replicate ((-n).toNat - ds.length) '0' ++ ds) := by
        simp
      rw [layout, ← List.append_assoc, readLiteral_point negative (fun d mem => by rw [List.mem_singleton.mp mem]; rfl)
        (fun d mem => (List.mem_append.mp mem).elim (zeros _ d) (numeral.digits d)) (by simp),
        digitsValue_append, digitsValue_append, numeral.value, digitsValue_zeros, List.length_append,
        List.length_replicate]
      congr 3
      · simp [digitsValue]
      · omega

/-- A literal whose value lies well inside the range of the doubles is read
as the double nearest to it. -/
theorem toFloat?_of_range {lit : Literal} {num den : Nat} (positive : 0 < lit.mantissa)
    (low : (10 : ℚ) ^ (-324 : Int) < lit.mantissa * 10 ^ lit.exponent)
    (high : (lit.mantissa : ℚ) * 10 ^ lit.exponent < 10 ^ (309 : Int))
    (pair : ratio lit.mantissa lit.exponent = (num, den)) :
    lit.toFloat? = nearest lit.negative num den := by
  have numeral := toDigits_numeral lit.mantissa
  obtain ⟨lower, upper⟩ := numeral.size positive
  have count : digitCount lit.mantissa = (Nat.toDigits 10 lit.mantissa).length := by
    rw [digitCount, Nat.toString_eq_ofList_toDigits, String.length_ofList]
  have length : 0 < (Nat.toDigits 10 lit.mantissa).length := List.length_pos_of_ne_nil numeral.nonempty
  set L := (Nat.toDigits 10 lit.mantissa).length
  have power : (0 : ℚ) < 10 ^ lit.exponent := zpow_pos (by norm_num) _
  have ten : (1 : ℚ) < 10 := by norm_num
  -- the value lies in `[10 ^ (L - 1 + exponent), 10 ^ (L + exponent))`
  have below : (lit.mantissa : ℚ) * 10 ^ lit.exponent < 10 ^ ((L : Int) + lit.exponent) := by
    rw [zpow_add₀ (by norm_num), zpow_natCast]
    exact mul_lt_mul_of_pos_right (by exact_mod_cast upper) power
  have above : (10 : ℚ) ^ (((L - 1 : Nat) : Int) + lit.exponent) ≤ lit.mantissa * 10 ^ lit.exponent := by
    rw [zpow_add₀ (by norm_num), zpow_natCast]
    exact mul_le_mul_of_nonneg_right (by exact_mod_cast lower) power.le
  have tiny : ¬ (L : Int) + lit.exponent ≤ -324 := fun small =>
    lt_irrefl _ (low.trans (below.trans_le (zpow_le_zpow_right₀ ten.le small)))
  have huge : ¬ (L : Int) + lit.exponent > 310 := fun big => by
    have : (10 : ℚ) ^ (309 : Int) < 10 ^ (((L - 1 : Nat) : Int) + lit.exponent) :=
      zpow_lt_zpow_right₀ ten (by omega)
    exact lt_irrefl _ ((this.trans_le above).trans high)
  unfold Literal.toFloat?
  rw [if_neg (by omega)]
  dsimp only
  rw [count, if_neg tiny, if_neg huge, pair]

/-! ## Writing reads back -/

/-- The text of a finite double reads back as that double. The digits that
`format` picks read back by construction, the search finds some because
seventeen digits always do, and the positional layout reads as a literal of
the same value, well inside the range of the doubles. -/
theorem format_reads_back {x : Float} (finite : (x.isNaN || x.isInf) = false) :
    (readLiteral (format x).toList).bind Literal.toFloat? = some x := by
  obtain ⟨negative, m, e, shape⟩ := (shape_finite_iff x).mpr finite
  obtain ⟨canonical, composed⟩ := compose_shape shape
  have signed : ∀ s : String, ((if negative then "-" else "") ++ s).toList =
      (if negative then ['-'] else []) ++ s.toList := by
    intro s
    cases negative <;> simp
  unfold format
  rw [shape]
  dsimp only
  split
  · -- zero keeps its sign
    rename_i zero
    subst zero
    have least : e = minExponent := by
      rcases canonical with ⟨-, rfl⟩ | ⟨large, -⟩
      · rfl
      · norm_num at large
    have zeroText : "0".toList = ['0'] := rfl
    rw [signed, zeroText, readLiteral_whole negative (fun d mem => by rw [List.mem_singleton.mp mem]; rfl)
      (by simp), Option.bind_some, ← composed, least]
    rfl
  · rename_i nonzero
    have positive : 0 < m := Nat.pos_of_ne_zero nonzero
    generalize written : shortest (compose false m e).toBits m e = digits
    obtain ⟨c, n⟩ := digits
    obtain ⟨reads, cPos, lowV, highV⟩ := shortest_spec canonical positive written
    dsimp only
    obtain ⟨c', n', read, c'Pos, same⟩ := readLiteral_positional negative n cPos
    rw [signed, read, Option.bind_some]
    obtain ⟨lowD, highD⟩ := double_range canonical positive
    -- the range of the doubles in powers of ten: `2 ^ -1075 > 10 ^ -324` and `2 ^ 1025 < 10 ^ 309`
    have tenLow : (10 : ℚ) ^ (-324 : Int) < (2 : ℚ) ^ (-1074 : Int) / 2 := by
      have powers : (2 : ℚ) ^ 1075 < 10 ^ 324 := by exact_mod_cast (show 2 ^ 1075 < 10 ^ 324 by decide +kernel)
      rw [show (-324 : Int) = -((324 : Nat) : Int) by norm_num, show (-1074 : Int) = -((1074 : Nat) : Int) by norm_num,
        zpow_neg, zpow_neg, zpow_natCast, zpow_natCast, div_eq_mul_inv, ← mul_inv, ← pow_succ]
      exact inv_strictAnti₀ (by positivity) powers
    have tenHigh : 2 * (2 : ℚ) ^ (1024 : Int) < 10 ^ (309 : Int) := by
      have powers : (2 : ℚ) ^ 1025 < 10 ^ 309 := by exact_mod_cast (show 2 ^ 1025 < 10 ^ 309 by decide +kernel)
      rw [show (1024 : Int) = ((1024 : Nat) : Int) by norm_num, show (309 : Int) = ((309 : Nat) : Int) by norm_num,
        zpow_natCast, zpow_natCast, ← pow_succ']
      exact powers
    obtain ⟨denPos, value⟩ := ratio_spec c' n'
    rcases pair : ratio c' n' with ⟨num, den⟩
    rw [pair] at denPos value
    have low : (10 : ℚ) ^ (-324 : Int) < c' * 10 ^ n' := by
      rw [same]
      have half : (2 : ℚ) ^ (-1074 : Int) / 2 ≤ m * 2 ^ e / 2 := by gcongr
      exact tenLow.trans_le half |>.trans lowV
    have high : (c' : ℚ) * 10 ^ n' < 10 ^ (309 : Int) := by
      rw [same]
      exact highV.trans_lt ((mul_lt_mul_of_pos_left highD two_pos).trans tenHigh)
    rw [@toFloat?_of_range ⟨negative, c', n'⟩ num den c'Pos low high pair]
    -- the literal has the value of the digits, which read back as the double
    obtain ⟨y, nearestY, bitsY⟩ := (readsBackAs_iff _ c n).mp reads
    rw [Float.toBits_inj bitsY] at nearestY
    obtain ⟨denPos', value'⟩ := ratio_spec c n
    rw [← composed, ← nearest_sign negative canonical nearestY]
    exact nearest_congr negative denPos denPos' (by rw [value, value', same])

end Decimal

end Vernacular
