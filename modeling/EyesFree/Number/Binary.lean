namespace EyesFree

/-! Binary floating point as bit patterns. A magnitude is the bit pattern without its sign, a
natural number; the order of magnitudes is the order of the values they denote. Rounding is exact
integer arithmetic on quotients, so every result here can be computed and reasoned about. -/

structure Quotient where
  numerator : Nat
  denominator : Nat

namespace Quotient

def ofNat (value : Nat) : Quotient := ⟨value, 1⟩

def mul (left right : Quotient) : Quotient :=
  ⟨left.numerator * right.numerator, left.denominator * right.denominator⟩

def div (left right : Quotient) : Quotient :=
  ⟨left.numerator * right.denominator, left.denominator * right.numerator⟩

/-- `value.scale base exponent` is `value` times `base ^ exponent`. -/
def scale (value : Quotient) (base : Nat) (exponent : Int) : Quotient :=
  if 0 ≤ exponent then ⟨value.numerator * Nat.pow base exponent.toNat, value.denominator⟩
  else ⟨value.numerator, value.denominator * Nat.pow base (-exponent).toNat⟩

def floor (value : Quotient) : Nat := value.numerator / value.denominator

/-- The nearest natural number; a half goes to the even neighbour. -/
def nearest (value : Quotient) : Nat :=
  let below := value.floor
  let remainder := value.numerator % value.denominator
  if 2 * remainder < value.denominator then below
  else if value.denominator < 2 * remainder then below + 1
  else below + below % 2

/-- The greatest `exponent` with `base ^ exponent ≤ value`, for a positive value, given a guess
that is at most one away from it. -/
def adjustLog (value : Quotient) (base : Nat) (guess : Int) : Int :=
  let reaches (exponent : Int) : Bool :=
    let scaled := value.scale base (-exponent)
    decide (scaled.denominator ≤ scaled.numerator)
  if reaches (guess + 1) then guess + 1 else if reaches guess then guess else guess - 1

def log2 (value : Quotient) : Int :=
  value.adjustLog 2 ((value.numerator.log2 : Int) - value.denominator.log2)

/-- The position of the leading decimal digit of a positive value. -/
def log10 (value : Quotient) : Int :=
  value.adjustLog 10 (value.log2 * 30103 / 100000)

end Quotient

/-- A binary interchange format: how many digits a significand has, the hidden one included, and
how wide the exponent field is. -/
structure BinaryFormat where
  precision : Nat
  exponentWidth : Nat

namespace BinaryFormat

def single : BinaryFormat := ⟨24, 8⟩

def double : BinaryFormat := ⟨53, 11⟩

def leastExponent (format : BinaryFormat) : Int :=
  3 - Nat.pow 2 (format.exponentWidth - 1) - format.precision

def hiddenDigit (format : BinaryFormat) : Nat := Nat.pow 2 (format.precision - 1)

/-- The magnitude of infinity. Greater magnitudes are not numbers. -/
def infinity (format : BinaryFormat) : Nat :=
  (Nat.pow 2 format.exponentWidth - 1) * format.hiddenDigit

def signWeight (format : BinaryFormat) : Nat :=
  Nat.pow 2 format.exponentWidth * format.hiddenDigit

/-- The magnitude nearest to a quotient, a tie going to the even one, and infinity from half a
unit above the greatest finite value. A significand is counted from the first magnitude of its
exponent, so one that rounds up to the next power of two needs no case of its own. -/
def round (format : BinaryFormat) (value : Quotient) : Nat :=
  if value.numerator = 0 then 0
  else
    let exponent := max format.leastExponent (value.log2 - (format.precision - 1 : Nat))
    let significand := (value.scale 2 (-exponent)).nearest
    min format.infinity
      ((exponent - format.leastExponent).toNat * format.hiddenDigit + significand)

def value (format : BinaryFormat) (magnitude : Nat) : Quotient :=
  let exponentField := magnitude / format.hiddenDigit
  if exponentField = 0 then (Quotient.ofNat magnitude).scale 2 format.leastExponent
  else
    (Quotient.ofNat (format.hiddenDigit + magnitude % format.hiddenDigit)).scale 2
      (format.leastExponent + (exponentField - 1 : Nat))

def mul (format : BinaryFormat) (left right : Nat) : Nat :=
  format.round ((format.value left).mul (format.value right))

/-- The quotient of two finite magnitudes, rounded. The divisor must not be zero. -/
def div (format : BinaryFormat) (left right : Nat) : Nat :=
  format.round ((format.value left).div (format.value right))

end BinaryFormat

/-- A signed number of a binary format: a sign and a magnitude. -/
structure Signed where
  negative : Bool
  magnitude : Nat
deriving DecidableEq, Repr

namespace Signed

def ofInt (format : BinaryFormat) (value : Int) : Signed :=
  ⟨decide (value < 0), format.round (.ofNat value.natAbs)⟩

def pattern (format : BinaryFormat) (value : Signed) : Nat :=
  (if value.negative then format.signWeight else 0) + value.magnitude

/-- The same number in another format, rounded. Only for finite numbers. -/
def convert (source target : BinaryFormat) (value : Signed) : Signed :=
  ⟨value.negative, target.round (source.value value.magnitude)⟩

end Signed

/-- A single precision number by its bit pattern, so that zeros of both signs and all patterns
that are not numbers stay apart. -/
structure Single where
  bits : UInt32
deriving DecidableEq, Repr

namespace Single

def ofSigned (value : Signed) : Single :=
  ⟨UInt32.ofNat (value.pattern .single)⟩

def ofInt (value : Int) : Single := ofSigned (.ofInt .single value)

def negative (value : Single) : Bool :=
  decide (BinaryFormat.single.signWeight ≤ value.bits.toNat)

def magnitude (value : Single) : Nat :=
  value.bits.toNat % BinaryFormat.single.signWeight

/-- Neither infinite nor a pattern that is not a number. -/
def isFinite (value : Single) : Bool :=
  decide (value.magnitude < BinaryFormat.single.infinity)

end Single

end EyesFree
