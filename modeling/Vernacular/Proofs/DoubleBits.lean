import Mathlib
import Vernacular.Number.Binary
/-!
# The bits of a double

A `Float` is its 64 bits: a sign bit, eleven bits of biased exponent and
fifty-two bits of fraction. Packing the fields unpacked from a pattern gives
the pattern back whenever the pattern is valid, that is, unless it is a NaN
other than the canonical one (`pack_unpack`). So `Float.ofBits` undoes
`Float.toBits`, and `Float.toBits` undoes `Float.ofBits` on valid patterns.

From this, `Binary64.shape` and `Binary64.compose` are inverse on the finite
doubles: the shape of `compose` of a canonical mantissa and exponent is that
pair (`shape_compose`), and `compose` of the shape of a finite double is the
double (`compose_shape`). A double is NaN or an infinity exactly when its
exponent field is all ones, which is exactly when its shape is not finite.
-/

set_option autoImplicit false

namespace Vernacular

namespace Binary64

open Float.Model Float.Model.UnpackedFloat

/-! ## Fields of a pattern -/

theorem sign_toBitVec_ofBitVec (s : BitVec 1) : (Sign.ofBitVec s).toBitVec = s := by
  unfold Sign.ofBitVec
  split
  · rename_i zero
    simp [Sign.toBitVec, zero]
  · rename_i nonzero
    simp only [Sign.toBitVec]
    rcases BitVec.eq_zero_or_eq_one s with zero | one
    · exact absurd zero nonzero
    · exact one.symm

/-- The three fields of a pattern put back together are the pattern. -/
theorem packComponents_unpack (b : BitVec Format.binary64.numBits) :
    packComponents Format.binary64 (Sign.ofBitVec (unpackSign b)) (unpackExponent b) (unpackMantissa b) = b := by
  simp only [packComponents, sign_toBitVec_ofBitVec]
  ext i inside
  simp only [unpackSign, unpackExponent, unpackMantissa, BitVec.cast_eq, BitVec.getElem_append]
  -- the fraction is bits 0 to 51, the exponent 52 to 62, the sign bit 63
  split
  · simp only [BitVec.getElem_extract, BitVec.getLsbD_eq_getElem inside, Nat.zero_add]
  · split
    · simp only [BitVec.getElem_extract]
      rw [show 52 + (i - (52 - 1 - 0 + 1)) = i by omega, BitVec.getLsbD_eq_getElem]
    · simp only [BitVec.getElem_extract]
      rw [show 52 + 11 + (i - (52 - 1 - 0 + 1) - (52 + 11 - 1 - 52 + 1)) = i by omega,
        BitVec.getLsbD_eq_getElem]

theorem exponent_toNat (b : BitVec Format.binary64.numBits) :
    (unpackExponent b).toNat = b.toNat / 2 ^ 52 % 2 ^ 11 := by
  change (b.toNat >>> 52) % 2 ^ 11 = _
  rw [Nat.shiftRight_eq_div_pow]

theorem exponent_allOnes_iff (b : BitVec Format.binary64.numBits) :
    unpackExponent b = -1#11 ↔ b.toNat / 2 ^ 52 % 2 ^ 11 = 2047 := by
  rw [← exponent_toNat]
  constructor
  · intro allOnes
    rw [allOnes]
    rfl
  · intro eq
    exact BitVec.eq_of_toNat_eq (by rw [eq]; rfl)

/-- Every pattern whose exponent field is not all ones is valid. -/
theorem valid_of_exponent (b : BitVec Format.binary64.numBits) (finite : b.toNat / 2 ^ 52 % 2 ^ 11 ≠ 2047) :
    Format.binary64.Valid b :=
  ⟨fun allOnes _ => absurd ((exponent_allOnes_iff b).mp allOnes) finite⟩

/-! ## Packing what was unpacked -/

theorem pack_normal (s : Sign) (m : Nat) (e : Int) (positive : 0 < m) (low : 2 ^ 52 ≤ m) (high : m < 2 ^ 53)
    (least : -1074 ≤ e) (most : e ≤ 971) :
    UnpackedFloat.pack Format.binary64 (.finite s m e positive) =
      packComponents Format.binary64 s (BitVec.ofNat 11 (e + 1075).toNat) (BitVec.ofNat 52 m) := by
  have width : m.log2 = 52 := (Nat.log2_eq_iff (by omega)).mpr ⟨low, high⟩
  unfold UnpackedFloat.pack
  dsimp only
  split_ifs with overflow normal
  · simp only [Format.exponentBias] at overflow
    omega
  · have biased : (e + ↑Format.binary64.exponentBias + ↑Format.binary64.mantissaBitsWithoutImplicit).toNat =
        (e + 1075).toNat := by
      simp only [Format.exponentBias]
      omega
    rw [biased]
  · simp only [Format.mantissaBits] at normal
    omega

theorem pack_subnormal (s : Sign) (m : Nat) (e : Int) (positive : 0 < m) (high : m < 2 ^ 52)
    (least : e = -1074) :
    UnpackedFloat.pack Format.binary64 (.finite s m e positive) =
      packComponents Format.binary64 s 0#11 (BitVec.ofNat 52 m) := by
  have width : m.log2 < 52 := (Nat.log2_lt (by omega)).mpr high
  unfold UnpackedFloat.pack
  dsimp only
  split_ifs with overflow normal
  · simp only [Format.exponentBias] at overflow
    omega
  · simp only [Format.mantissaBits] at normal
    omega
  · rfl

/-- Unpacking a valid pattern loses nothing: packing gives it back. -/
theorem pack_unpack (b : BitVec Format.binary64.numBits) (valid : Format.binary64.Valid b) :
    UnpackedFloat.pack Format.binary64 (UnpackedFloat.unpack Format.binary64 b) = b := by
  have whole := packComponents_unpack b
  have small : (unpackMantissa b).toNat < 2 ^ 52 := (unpackMantissa b).isLt
  unfold UnpackedFloat.unpack
  dsimp only
  split
  · rename_i allOnes
    split
    · rename_i zero
      rw [allOnes, zero] at whole
      exact whole
    · rename_i nonzero
      exact (valid.eq_packedNaN allOnes nonzero).symm
  · rename_i notOnes
    have below : (unpackExponent b).toNat < 2047 := by
      have fits : (unpackExponent b).toNat < 2048 := (unpackExponent b).isLt
      have ne : (unpackExponent b).toNat ≠ 2047 := fun eq =>
        notOnes (BitVec.eq_of_toNat_eq (by simpa using eq))
      omega
    split
    · rename_i zeroExponent
      split
      · rename_i zeroMantissa
        rw [zeroExponent, zeroMantissa] at whole
        exact whole
      case isFalse =>
        -- a subnormal: the fraction is the mantissa, without the hidden bit
        rw [zeroExponent] at whole ⊢
        rw [pack_subnormal _ _ _ _ small (by simp [Format.exponentBias]), BitVec.ofNat_toNat,
          BitVec.setWidth_eq]
        exact whole
    · rename_i nonzeroExponent
      have positive : (unpackExponent b).toNat ≠ 0 := fun zero =>
        nonzeroExponent (BitVec.eq_of_toNat_eq (by simpa using zero))
      -- a normal double: the mantissa carries the hidden bit above the fraction
      have mantissa : (1#1 ++ unpackMantissa b).toNat = 2 ^ 52 + (unpackMantissa b).toNat := by
        change 2 ^ 52 ||| (unpackMantissa b).toNat = _
        rw [Nat.or_comm, Nat.or_two_pow_eq_add_of_lt small, Nat.add_comm]
      have fraction : BitVec.ofNat 52 (1#1 ++ unpackMantissa b).toNat = unpackMantissa b := by
        apply BitVec.eq_of_toNat_eq
        rw [mantissa, BitVec.toNat_ofNat, Nat.add_mod_left, Nat.mod_eq_of_lt small]
      rw [pack_normal _ _ _ _ (by omega) (by omega) (by simp [Format.exponentBias]; omega)
        (by simp [Format.exponentBias]; omega), fraction]
      norm_num [Format.exponentBias]
      exact whole

end Binary64

/-! ## Floats and their bits -/

theorem Float.ofBits_toBits (x : Float) : Float.ofBits x.toBits = x := by
  obtain ⟨⟨bits, valid⟩⟩ := x
  simp only [Float.ofBits, Float.toBits, Float.Model.ofBits, Float.Model.pack, Binary64.pack_unpack _ valid,
    UInt64.ofBitVec_toBitVec]

theorem Float.toBits_ofBits (bits : UInt64) (valid : Float.Model.Format.binary64.Valid bits.toBitVec) :
    (Float.ofBits bits).toBits = bits := by
  simp only [Float.ofBits, Float.toBits, Float.Model.ofBits, Float.Model.pack, Binary64.pack_unpack _ valid,
    UInt64.ofBitVec_toBitVec]

theorem Float.toBits_inj {x y : Float} (same : x.toBits = y.toBits) : x = y := by
  rw [← Float.ofBits_toBits x, same, Float.ofBits_toBits]

/-- A double is NaN or an infinity exactly when its exponent field is all ones. -/
theorem Float.isNaN_or_isInf_iff (x : Float) :
    (x.isNaN || x.isInf) = true ↔ x.toBits.toNat / 2 ^ 52 % 2 ^ 11 = 2047 := by
  have fields := Binary64.exponent_allOnes_iff x.toBits.toBitVec
  simp only [UInt64.toNat_toBitVec] at fields
  rw [← fields]
  simp only [Float.isNaN, Float.isInf, Float.Model.isNaN, Float.Model.isInf, Float.Model.unpack,
    Float.toBits, Float.Model.UnpackedFloat.unpack]
  split
  · rename_i allOnes
    simp only [allOnes, iff_true]
    split <;> rfl
  · rename_i notOnes
    simp only [notOnes, iff_false]
    split
    · split <;> simp [Float.Model.UnpackedFloat.isNaN, Float.Model.UnpackedFloat.isInf]
    · simp [Float.Model.UnpackedFloat.isNaN, Float.Model.UnpackedFloat.isInf]

namespace Binary64

/-! ## Shapes of finite doubles -/

/-- A mantissa and an exponent that name one finite double: a subnormal or zero
with the least exponent, or a normal double with a 53-bit mantissa. -/
def Canonical (m : Nat) (e : Int) : Prop :=
  (m < 2 ^ 52 ∧ e = -1074) ∨ (2 ^ 52 ≤ m ∧ m < 2 ^ 53 ∧ -1074 ≤ e ∧ e ≤ 971)

theorem toNat_ofNat_pattern {n : Nat} (small : n < 2 ^ 64) : (UInt64.ofNat n).toBitVec.toNat = n := by
  rw [UInt64.toBitVec_ofNat', BitVec.toNat_ofNat, Nat.mod_eq_of_lt small]

theorem compose_bits (negative : Bool) (m : Nat) (e : Int) (canonical : Canonical m e) :
    (compose negative m e).toBits.toNat =
      (if negative then 2 ^ 63 else 0) + (if m < 2 ^ 52 then m else (e + 1075).toNat * 2 ^ 52 + (m - 2 ^ 52)) := by
  unfold compose
  unfold Canonical at canonical
  simp only [hiddenBit, Nat.pow_eq]
  generalize word : (if negative then 2 ^ 63 else 0) +
    (if m < 2 ^ 52 then m else (e + 1075).toNat * 2 ^ 52 + (m - 2 ^ 52)) = n
  have split : (if m < 2 ^ 52 then (if negative then 2 ^ 63 else 0) + m
      else (if negative then 2 ^ 63 else 0) + (e + 1075).toNat * 2 ^ 52 + (m - 2 ^ 52)) = n := by
    rw [← word]
    split <;> omega
  rw [split]
  have small : n < 2 ^ 64 := by
    rw [← word]
    split <;> split <;> omega
  have exponent : n / 2 ^ 52 % 2 ^ 11 ≠ 2047 := by
    rw [← word]
    split <;> split <;> omega
  rw [Float.toBits_ofBits _ (valid_of_exponent _ (by rw [toNat_ofNat_pattern small]; exact exponent)),
    UInt64.toNat, toNat_ofNat_pattern small]

/-- The shape of a double read off its sign, its biased exponent and its fraction. -/
theorem shape_of_fields {x : Float} {negative : Bool} {biased fraction : Nat}
    (bits : x.toBits.toNat = (if negative then 2 ^ 63 else 0) + biased * 2 ^ 52 + fraction)
    (finite : biased < 2047) (fits : fraction < 2 ^ 52) :
    shape x = if biased = 0 then .finite negative fraction (-1074)
      else .finite negative (fraction + 2 ^ 52) ((biased : Int) - 1075) := by
  have exponent : x.toBits.toNat / 2 ^ 52 % 2 ^ 11 = biased := by
    rw [bits]
    split <;> omega
  have low : x.toBits.toNat % 2 ^ 52 = fraction := by
    rw [bits]
    split <;> omega
  have sign : decide (x.toBits.toNat ≥ 2 ^ 63) = negative := by
    rw [bits]
    cases negative <;> simp <;> omega
  unfold shape
  simp only [Nat.pow_eq, exponent, low, sign, minExponent, hiddenBit]
  rw [if_neg (by omega)]

theorem shape_compose (negative : Bool) (m : Nat) (e : Int) (canonical : Canonical m e) :
    shape (compose negative m e) = .finite negative m e := by
  have bits := compose_bits negative m e canonical
  rcases canonical with ⟨small, rfl⟩ | ⟨large, fits, least, most⟩
  · rw [if_pos small] at bits
    rw [@shape_of_fields _ negative 0 m (by rw [bits]; simp) (by omega) small, if_pos rfl]
  · rw [if_neg (show ¬m < 2 ^ 52 by omega)] at bits
    rw [@shape_of_fields _ negative (e + 1075).toNat (m - 2 ^ 52) (by rw [bits]; omega)
      (by omega) (by omega), if_neg (by omega)]
    congr 1 <;> omega

theorem compose_shape {x : Float} {negative : Bool} {m : Nat} {e : Int}
    (finite : shape x = .finite negative m e) : Canonical m e ∧ compose negative m e = x := by
  have lt : x.toBits.toNat < 2 ^ 64 := x.toBits.toNat_lt
  unfold shape at finite
  simp only [Nat.pow_eq, minExponent, hiddenBit] at finite
  split_ifs at finite with allOnes zero
  case pos =>
    injection finite with sign mantissa exponent
    have canonical : Canonical m e := .inl ⟨by omega, exponent.symm⟩
    refine ⟨canonical, Float.toBits_inj (UInt64.toNat_inj.mp ?_)⟩
    subst sign
    rw [compose_bits _ m e canonical, if_pos (show m < 2 ^ 52 by omega)]
    by_cases top : x.toBits.toNat ≥ 2 ^ 63 <;> simp only [top, decide_true, decide_false] <;> simp <;> omega
  case neg =>
    injection finite with sign mantissa exponent
    have canonical : Canonical m e := .inr ⟨by omega, by omega, by omega, by omega⟩
    refine ⟨canonical, Float.toBits_inj (UInt64.toNat_inj.mp ?_)⟩
    subst sign
    rw [compose_bits _ m e canonical, if_neg (show ¬m < 2 ^ 52 by omega)]
    by_cases top : x.toBits.toNat ≥ 2 ^ 63 <;> simp only [top, decide_true, decide_false] <;> simp <;> omega

/-- A double has a finite shape exactly when it is neither NaN nor an infinity. -/
theorem shape_finite_iff (x : Float) :
    (∃ negative m e, shape x = .finite negative m e) ↔ (x.isNaN || x.isInf) = false := by
  rw [Bool.eq_false_iff, ne_eq, Float.isNaN_or_isInf_iff]
  unfold shape
  simp only [Nat.pow_eq]
  constructor
  · rintro ⟨negative, m, e, finite⟩ allOnes
    rw [if_pos (by omega)] at finite
    split at finite <;> cases finite
  · intro notOnes
    rw [if_neg (by omega)]
    split
    · exact ⟨_, _, _, rfl⟩
    · exact ⟨_, _, _, rfl⟩

end Binary64

end Vernacular
