import Mathlib.Algebra.GroupWithZero.Nat
import Mathlib.Algebra.Ring.Int.Defs
import MovieScript.Document

namespace MovieScript

/-!
# Numbers of documents

An integer of a document that a script integer can hold stays what it is.  Any
other is replaced by the nearest double, which is finite for every integer of
sixty-four bits.
-/

open Float.Model

/-- The exponent is held by eleven bits above the fifty-two of the significand. -/
theorem toNat_unpackExponent (bits : BitVec 64) :
    (@UnpackedFloat.unpackExponent .binary64 bits).toNat =
      bits.toNat / 2 ^ 52 % 2 ^ 11 := by
  simp [UnpackedFloat.unpackExponent, BitVec.extractLsb,
    Nat.shiftRight_eq_div_pow]

/-- A pattern whose exponent is not full stands for zero or a finite number. -/
theorem unpack_cases
    {motive : UnpackedFloat → Prop}
    {bits : BitVec 64}
    (notFull : @UnpackedFloat.unpackExponent .binary64 bits ≠ -1#11)
    (zero : ∀ sign, motive (.zero sign))
    (finite : ∀ sign mantissa exponent positive,
      (exponent + 1023 + 52).toNat < 2047 →
        motive (.finite sign mantissa exponent positive)) :
    motive (UnpackedFloat.unpack .binary64 bits) := by
  have notLast :
      (@UnpackedFloat.unpackExponent .binary64 bits).toNat ≠ 2047 :=
    fun last => notFull (BitVec.eq_of_toNat_eq last)
  have inside :
      (@UnpackedFloat.unpackExponent .binary64 bits).toNat < 2048 :=
    BitVec.isLt _
  unfold UnpackedFloat.unpack
  dsimp only
  rw [if_neg notFull]
  by_cases least : @UnpackedFloat.unpackExponent .binary64 bits = 0#11
  · rw [if_pos least]
    by_cases blank : @UnpackedFloat.unpackMantissa .binary64 bits = 0#52
    · rw [dif_pos blank]
      exact zero _
    · rw [dif_neg blank]
      refine finite _ _ _ _ ?_
      rw [least]
      decide
  · rw [if_neg least]
    refine finite _ _ _ _ ?_
    change
      (((@UnpackedFloat.unpackExponent .binary64 bits).toNat : Int) -
        (1023 + 52) + 1023 + 52).toNat < 2047
    omega

/-- A pattern stands for something finite unless its exponent is full. -/
theorem isFinite_unpack
    {bits : BitVec 64}
    (notFull : @UnpackedFloat.unpackExponent .binary64 bits ≠ -1#11) :
    (UnpackedFloat.unpack .binary64 bits).isFinite = true :=
  unpack_cases (motive := fun unpacked => unpacked.isFinite = true) notFull
    (fun _ => rfl) fun _ _ _ _ _ => rfl

/-- An exponent that is not too large is packed into one that is not full. -/
theorem unpackExponent_pack_finite
    {sign : UnpackedFloat.Sign}
    {mantissa : Nat}
    {exponent : Int}
    (positive : 0 < mantissa)
    (low : (exponent + 1023 + 52).toNat < 2047) :
    @UnpackedFloat.unpackExponent .binary64
        ((UnpackedFloat.finite sign mantissa exponent positive).pack
          .binary64) ≠
      -1#11 := by
  unfold UnpackedFloat.pack
  dsimp only
  split
  · rename_i large
    change 2048 ≤ (exponent + 1023 + 52).toNat + 1 at large
    omega
  · split
    · rw [UnpackedFloat.unpackExponent_packComponents]
      intro full
      have toNat := congrArg BitVec.toNat full
      change (exponent + 1023 + 52).toNat % 2 ^ 11 = 2047 at toNat
      omega
    · rw [UnpackedFloat.unpackExponent_packComponents]
      decide

/-- What is unpacked from such a pattern is packed into one again. -/
theorem unpackExponent_pack_unpack
    {bits : BitVec 64}
    (exponent : bits.toNat / 2 ^ 52 % 2 ^ 11 ≠ 2047) :
    @UnpackedFloat.unpackExponent .binary64
        ((UnpackedFloat.unpack .binary64 bits).pack .binary64) ≠
      -1#11 := by
  have toNat := toNat_unpackExponent bits
  have notFull : @UnpackedFloat.unpackExponent .binary64 bits ≠ -1#11 := by
    intro full
    rw [full] at toNat
    exact exponent toNat.symm
  refine unpack_cases
    (motive := fun unpacked =>
      @UnpackedFloat.unpackExponent .binary64 (unpacked.pack .binary64) ≠ -1#11)
    notFull ?_ fun _ _ _ positive low =>
      unpackExponent_pack_finite positive low
  intro sign
  change
    UnpackedFloat.unpackExponent (UnpackedFloat.packComponents _ _ _ _) ≠ _
  rw [UnpackedFloat.unpackExponent_packComponents]
  decide

/-- A double is finite unless all bits of its exponent are set. -/
theorem isFinite_ofBits
    {bits : UInt64}
    (exponent : bits.toNat / 2 ^ 52 % 2 ^ 11 ≠ 2047) :
    (Float.ofBits bits).isFinite = true :=
  isFinite_unpack (unpackExponent_pack_unpack exponent)

namespace Decimal

theorem roundHalfEven_le
    (numerator denominator : Nat) :
    roundHalfEven numerator denominator ≤ numerator / denominator + 1 := by
  unfold roundHalfEven
  dsimp only
  split
  · omega
  · split
    · omega
    · omega

/-- The last significand bit is at most one place below the fifty-third. -/
theorem lastBitExponent_bounds
    {numerator : Nat}
    (small : numerator < 2 ^ 64) :
    (numerator.log2 : Int) - 53 ≤ lastBitExponent numerator 1 ∧
      lastBitExponent numerator 1 ≤ 11 := by
  have bits : numerator.log2 < 64 := by
    by_cases zero : numerator = 0
    · subst zero
      decide
    · exact (Nat.log2_lt zero).mpr small
  have one : Nat.log2 1 = 0 := by decide
  unfold lastBitExponent lowestExponent
  dsimp only
  rw [one]
  split
  · omega
  · omega

theorem scaleByTwo_quotient_lt
    {numerator : Nat}
    {exponent : Int}
    (low : (numerator.log2 : Int) - 53 ≤ exponent) :
    (scaleByTwo numerator 1 exponent).1 /
      (scaleByTwo numerator 1 exponent).2 < 2 ^ 54 := by
  have width : numerator < 2 ^ (numerator.log2 + 1) := Nat.lt_log2_self
  unfold scaleByTwo
  split
  · rename_i up
    obtain ⟨shift, rfl⟩ := Int.eq_ofNat_of_zero_le up
    dsimp only
    rw [Int.toNat_natCast, Nat.one_mul]
    refine Nat.div_lt_of_lt_mul ?_
    change numerator < 2 ^ shift * 2 ^ 54
    rw [← Nat.pow_add]
    exact Nat.lt_of_lt_of_le width
      (Nat.pow_le_pow_right Nat.two_pos (by omega))
  · rename_i down
    have positive : 0 ≤ -exponent := by omega
    obtain ⟨shift, negative⟩ := Int.eq_ofNat_of_zero_le positive
    dsimp only
    rw [Nat.div_one, negative, Int.toNat_natCast]
    change numerator * 2 ^ shift < 2 ^ 54
    calc
      numerator * 2 ^ shift < 2 ^ (numerator.log2 + 1) * 2 ^ shift :=
        Nat.mul_lt_mul_of_pos_right width (Nat.two_pow_pos shift)
      _ = 2 ^ (numerator.log2 + 1 + shift) := (Nat.pow_add ..).symm
      _ ≤ 2 ^ 54 := Nat.pow_le_pow_right Nat.two_pos (by omega)

/-- The pattern of an integer of sixty-four bits is below that of infinity. -/
theorem nearestPattern_lt
    {numerator : Nat}
    (small : numerator < 2 ^ 64) :
    nearestPattern numerator 1 < 2047 * 2 ^ 52 := by
  unfold nearestPattern
  split
  · decide
  · obtain ⟨low, high⟩ := lastBitExponent_bounds small
    have quotient := scaleByTwo_quotient_lt low
    have significand :=
      roundHalfEven_le
        (scaleByTwo numerator 1 (lastBitExponent numerator 1)).1
        (scaleByTwo numerator 1 (lastBitExponent numerator 1)).2
    have field :
        (lastBitExponent numerator 1 - lowestExponent).toNat ≤ 1085 := by
      unfold lowestExponent
      omega
    dsimp only
    refine Nat.lt_of_le_of_lt (Nat.min_le_right _ _) ?_
    have scaled :
        (lastBitExponent numerator 1 - lowestExponent).toNat *
            Nat.pow 2 52 ≤ 1085 * 2 ^ 52 :=
      Nat.mul_le_mul_right _ field
    omega

/-- The double nearest to an integer of sixty-four bits is finite. -/
theorem isFinite_nearestToInt
    {value : Int}
    (low : -2 ^ 63 ≤ value)
    (high : value < 2 ^ 64) :
    (nearestToInt value).isFinite = true := by
  have small : value.natAbs < 2 ^ 64 := by omega
  have pattern := nearestPattern_lt small
  have toNat (bits : Nat) : bits.toUInt64.toNat = bits % 2 ^ 64 :=
    UInt64.toNat_ofNat'
  have signBit : Nat.pow 2 63 = 2 ^ 63 := rfl
  unfold nearestToInt nearest
  apply isFinite_ofBits
  rw [toNat, signBit]
  split
  · omega
  · omega

end Decimal

end MovieScript
