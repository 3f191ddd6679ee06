import EyesFree.Number.Binary
import EyesFree.Number.Digit

namespace EyesFree

/-! The fewest decimal digits that read back as a given binary number, and of those the digits
nearest to it. A grid of decimals with a given number of digits has at most two neighbours of the
value, so trying the nearer one and then the other decides whether any of its points reads back. -/

/-- The number `significand * 10 ^ exponent`. -/
structure Scientific where
  significand : Nat
  exponent : Int
deriving DecidableEq, Repr

namespace Scientific

def toQuotient (number : Scientific) : Quotient :=
  (Quotient.ofNat number.significand).scale 10 number.exponent

/-- Whether the format rounds the number to this magnitude. -/
def readsAs (number : Scientific) (format : BinaryFormat) (magnitude : Nat) : Bool :=
  decide (format.round number.toQuotient = magnitude)

/-- The same number without trailing zeros, of which at most `bound` are removed. -/
def withoutTrailingZeros : (bound : Nat) → Scientific → Scientific
  | 0, number => number
  | bound + 1, number =>
      if number.significand ≠ 0 ∧ number.significand % 10 = 0 then
        withoutTrailingZeros bound ⟨number.significand / 10, number.exponent + 1⟩
      else number

end Scientific

namespace BinaryFormat

/-- The neighbour of a magnitude among the decimals with `count` digits that reads back as the
magnitude, the nearer one first. -/
def onGrid? (format : BinaryFormat) (magnitude count : Nat) : Option Scientific :=
  let value := format.value magnitude
  let exponent := value.log10 - (count : Int) + 1
  let scaled := value.scale 10 (-exponent)
  let nearer := scaled.nearest
  let other := if nearer = scaled.floor then nearer + 1 else scaled.floor
  [⟨nearer, exponent⟩, ⟨other, exponent⟩].find? (·.readsAs format magnitude)

/-- So many digits tell any two values of the format apart. -/
def digitLimit (format : BinaryFormat) : Nat := format.precision * 30103 / 100000 + 2

/-- The shortest decimal that reads back as a positive finite magnitude. -/
def shortest (format : BinaryFormat) (magnitude : Nat) : Scientific :=
  let found := (List.range format.digitLimit).findSome? fun count =>
    format.onGrid? magnitude (count + 1)
  (found.getD ⟨0, 0⟩).withoutTrailingZeros format.digitLimit

end BinaryFormat

end EyesFree
