import EyesFree.Number.Binary
import Mathlib.Algebra.Order.Field.Basic
import Mathlib.Data.Rat.Cast.Defs
import Mathlib.Tactic.Ring

namespace EyesFree

/-! The values of single precision numbers. An integer of up to 24 binary digits
is its own nearest number, so that nothing is lost where pixel coordinates are
given in single precision. -/

/-! ## Quotients -/

namespace Quotient

def toRat (value : Quotient) : ℚ := value.numerator / value.denominator

@[simp] theorem toRat_ofNat (number : Nat) : (ofNat number).toRat = number := by
  simp [toRat, ofNat]

private theorem toRat_scale (value : Quotient) (base : Nat) (exponent : Int) :
    (value.scale base exponent).toRat = value.toRat * (base : ℚ) ^ exponent := by
  unfold scale
  split
  next upward =>
    obtain ⟨places, rfl⟩ := Int.eq_ofNat_of_zero_le upward
    simp only [toRat, Int.toNat_natCast, zpow_natCast, Nat.pow_eq, Nat.cast_mul, Nat.cast_pow]
    ring
  next downward =>
    obtain ⟨places, negated⟩ := Int.eq_ofNat_of_zero_le (a := -exponent) (by omega)
    obtain rfl : exponent = -(places : Int) := by omega
    simp only [toRat, neg_neg, Int.toNat_natCast, zpow_neg, zpow_natCast, Nat.pow_eq, Nat.cast_mul,
      Nat.cast_pow, div_eq_mul_inv, mul_inv, mul_assoc]

private theorem nearest_of_whole (number : Nat) : nearest ⟨number, 1⟩ = number := by
  simp [nearest, floor, Nat.mod_one]

private theorem reaches_ofNat_iff (number places : Nat) :
    let scaled := (ofNat number).scale 2 (-(places : Int))
    scaled.denominator ≤ scaled.numerator ↔ 2 ^ places ≤ number := by
  cases places with
  | zero => simp [scale, ofNat]
  | succ places =>
      have downward : ¬0 ≤ -((places + 1 : Nat) : Int) := by omega
      simp only [scale, if_neg downward, neg_neg, Int.toNat_natCast, ofNat, one_mul, Nat.pow_eq]

private theorem log2_ofNat {number : Nat} (positive : number ≠ 0) :
    (ofNat number).log2 = (number.log2 : Int) := by
  have guess : ((number.log2 : Int) - ((1 : Nat).log2 : Nat)) = number.log2 := by
    have one : (1 : Nat).log2 = 0 := by decide
    simp [one]
  have above : ¬2 ^ (number.log2 + 1) ≤ number := Nat.not_le.mpr Nat.lt_log2_self
  have below : 2 ^ number.log2 ≤ number := Nat.log2_self_le positive
  have missed := (reaches_ofNat_iff number (number.log2 + 1)).not.mpr above
  have reached := (reaches_ofNat_iff number number.log2).mpr below
  push_cast at missed
  unfold log2
  rw [show (ofNat number).numerator = number from rfl, show (ofNat number).denominator = 1 from rfl,
    guess, adjustLog]
  simp only [missed, reached, decide_true, decide_false, Bool.false_eq_true, ↓reduceIte]

end Quotient

/-! ## Magnitudes -/

namespace BinaryFormat

def toRat (format : BinaryFormat) (magnitude : Nat) : ℚ := (format.value magnitude).toRat

private theorem toRat_of_normal {format : BinaryFormat} {field significand : Nat}
    (low : format.hiddenDigit ≤ significand) (high : significand < 2 * format.hiddenDigit) :
    format.toRat (field * format.hiddenDigit + significand) =
      significand * 2 ^ (format.leastExponent + field) := by
  have positive : 0 < format.hiddenDigit := by omega
  obtain ⟨rest, rfl⟩ := Nat.exists_eq_add_of_le low
  have whole : (field * format.hiddenDigit + (format.hiddenDigit + rest)) / format.hiddenDigit =
      field + 1 := by
    rw [← Nat.add_assoc, ← Nat.succ_mul, Nat.mul_comm, Nat.mul_add_div positive,
      Nat.div_eq_of_lt (by omega), Nat.add_zero]
  have remainder : (field * format.hiddenDigit + (format.hiddenDigit + rest)) %
      format.hiddenDigit = rest := by
    rw [← Nat.add_assoc, ← Nat.succ_mul, Nat.mul_comm, Nat.mul_add_mod,
      Nat.mod_eq_of_lt (by omega)]
  rw [toRat, value]
  simp only [whole, remainder, Nat.add_one_ne_zero, ↓reduceIte, Nat.add_sub_cancel,
    Quotient.toRat_scale, Quotient.toRat_ofNat, Nat.cast_ofNat]

variable {number shift : Nat}

private theorem significand_bounds (positive : number ≠ 0) (digits : number.log2 + shift = 23) :
    single.hiddenDigit ≤ number * 2 ^ shift ∧ number * 2 ^ shift < 2 * single.hiddenDigit := by
  have low : 2 ^ number.log2 * 2 ^ shift ≤ number * 2 ^ shift :=
    Nat.mul_le_mul_right _ (Nat.log2_self_le positive)
  have high : number * 2 ^ shift < 2 ^ (number.log2 + 1) * 2 ^ shift :=
    Nat.mul_lt_mul_of_pos_right Nat.lt_log2_self (Nat.two_pow_pos shift)
  rw [← Nat.pow_add, digits] at low
  rw [← Nat.pow_add, Nat.add_right_comm, digits] at high
  exact ⟨low, high⟩

private theorem round_ofNat (positive : number ≠ 0) (digits : number.log2 + shift = 23) :
    single.round (.ofNat number) = (149 - shift) * single.hiddenDigit + number * 2 ^ shift := by
  obtain ⟨low, high⟩ := significand_bounds positive digits
  have hidden : single.hiddenDigit = 8388608 := rfl
  have infinite : single.infinity = 2139095040 := rfl
  have least : single.leastExponent = -149 := rfl
  have exponent : max (-149) ((number.log2 : Int) - (single.precision - 1 : Nat)) =
      -(shift : Int) := by
    have precision : single.precision - 1 = 23 := rfl
    omega
  have moved : (Quotient.ofNat number).scale 2 (shift : Int) = ⟨number * 2 ^ shift, 1⟩ := by
    simp [Quotient.scale, Quotient.ofNat]
  unfold round
  rw [if_neg (show (Quotient.ofNat number).numerator ≠ 0 from positive)]
  simp only [Quotient.log2_ofNat positive, least, exponent, neg_neg, moved,
    Quotient.nearest_of_whole, hidden, infinite] at low high ⊢
  omega

/-- A whole number of up to 24 digits is a magnitude. -/
theorem toRat_round_ofNat (small : number < 2 ^ 24) :
    single.toRat (single.round (.ofNat number)) = number := by
  by_cases positive : number = 0
  · have zero : single.round (.ofNat 0) = 0 := rfl
    have vanishes : single.value 0 = (Quotient.ofNat 0).scale 2 single.leastExponent := rfl
    rw [positive, zero, toRat, vanishes, Quotient.toRat_scale, Quotient.toRat_ofNat, Nat.cast_zero,
      zero_mul]
  · have short : number.log2 < 24 := (Nat.log2_lt positive).mpr small
    obtain ⟨shift, digits⟩ := Nat.exists_eq_add_of_le (show number.log2 ≤ 23 by omega)
    obtain ⟨low, high⟩ := significand_bounds positive digits.symm
    have least : single.leastExponent + (149 - shift : Nat) = -(shift : Int) := by
      have least : single.leastExponent = -149 := rfl
      omega
    rw [round_ofNat positive digits.symm, toRat_of_normal low high, least, zpow_neg, zpow_natCast]
    push_cast
    exact mul_inv_cancel_right₀ (pow_ne_zero shift two_ne_zero) _

private theorem round_lt_signWeight (value : Quotient) :
    single.round value < single.signWeight := by
  have bounded : single.round value ≤ single.infinity := by
    unfold round
    split
    · exact Nat.zero_le _
    · exact Nat.min_le_left _ _
  exact Nat.lt_of_le_of_lt bounded (by decide)

end BinaryFormat

/-! ## Single precision -/

namespace Single

def toRat (value : Single) : ℚ :=
  if value.negative then -BinaryFormat.single.toRat value.magnitude
  else BinaryFormat.single.toRat value.magnitude

private theorem toNat_ofSigned {value : Signed}
    (bounded : value.magnitude < BinaryFormat.single.signWeight) :
    (ofSigned value).bits.toNat = value.pattern .single := by
  have weight : BinaryFormat.single.signWeight = 2147483648 := rfl
  apply UInt32.toNat_ofNat_of_lt
  rw [Signed.pattern, UInt32.size]
  split <;> omega

private theorem negative_ofSigned {value : Signed}
    (bounded : value.magnitude < BinaryFormat.single.signWeight) :
    (ofSigned value).negative = value.negative := by
  rw [negative, toNat_ofSigned bounded, Signed.pattern]
  cases value.negative
  · simpa using bounded
  · simp

private theorem magnitude_ofSigned {value : Signed}
    (bounded : value.magnitude < BinaryFormat.single.signWeight) :
    (ofSigned value).magnitude = value.magnitude := by
  rw [magnitude, toNat_ofSigned bounded, Signed.pattern]
  cases value.negative <;> simp [Nat.mod_eq_of_lt bounded]

theorem toRat_ofInt {value : Int} (small : value.natAbs < 2 ^ 24) :
    (ofInt value).toRat = value := by
  have bounded := BinaryFormat.round_lt_signWeight (.ofNat value.natAbs)
  rw [toRat, ofInt, negative_ofSigned bounded, magnitude_ofSigned bounded, Signed.ofInt,
    BinaryFormat.toRat_round_ofNat small, Nat.cast_natAbs]
  by_cases below : value < 0
  · simp [below, abs_of_neg below]
  · simp [below, abs_of_nonneg (Int.not_lt.mp below)]

end Single

end EyesFree
