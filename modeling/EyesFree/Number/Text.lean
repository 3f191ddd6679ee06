import EyesFree.Number.Numeral

namespace EyesFree

/-! Numbers in texts that are not JSON: arguments of a command and figures for people. -/

namespace Decimal

/-- A number with a fixed count of digits after the point; a half goes to the even neighbour. -/
def fixed (places : Nat) (value : Quotient) : String :=
  let digits := Decimal.digits (value.scale 10 places).nearest
  let padded := List.replicate (places + 1 - digits.length) .zero ++ digits
  let whole := padded.take (padded.length - places)
  let fraction := padded.drop (padded.length - places)
  String.ofList (toChars whole ++ if places = 0 then [] else '.' :: toChars fraction)

def natural? (text : List Char) : Option Nat :=
  match span text with
  | ([], _) => none
  | (digits, []) => some (ofDigits digits)
  | _ => none

/-- The integer that a text of digits writes, with a sign or without. -/
def integer? (text : List Char) : Option Int :=
  let (sign, digits) := Numeral.scanSign text
  (natural? digits).map fun (value : Nat) => if sign = some true then -value else value

end Decimal

namespace Single

/-- Decimals with a leading digit beyond this position are infinite in single precision. -/
def highestPosition : Int := 40

/-- Decimals with a leading digit below this position are zero in single precision. -/
def lowestPosition : Int := -50

def magnitudeOf (digits : List Digit) (exponent : Int) : Nat :=
  let significant := digits.dropWhile (· = Digit.zero)
  let position := significant.length + exponent
  if significant = [] ∨ position < lowestPosition then 0
  else if highestPosition < position then BinaryFormat.single.infinity
  else BinaryFormat.single.round ((Quotient.ofNat (Decimal.ofDigits significant)).scale 10 exponent)

def notANumber : Nat := BinaryFormat.single.infinity + BinaryFormat.single.hiddenDigit / 2

/-- The digits of a decimal and the power of ten they count: digits before or after a point, or
both, and an exponent if there is one. -/
def scanDecimal (text : List Char) : Option (List Digit × Int) := do
  let (whole, rest) := Decimal.span text
  let (fraction, rest) := match rest with
    | '.' :: rest => Decimal.span rest
    | _ => ([], rest)
  let (exponent, rest) ← Numeral.scanExponent rest
  let shift : Int := match exponent with
    | none => 0
    | some written =>
        let size := Decimal.ofDigits written.digits
        if written.sign = some true then -size else size
  if whole ++ fraction = [] ∨ rest ≠ [] then none
  else some (whole ++ fraction, shift - fraction.length)

/-- The number that a text writes: a decimal, or a word for what is not finite, in letters of
either case, after a sign or without one. -/
def ofText? (text : String) : Option Single :=
  let (sign, unsigned) := Numeral.scanSign text.toList
  let negative := sign = some true
  let word := String.ofList (unsigned.map Char.toLower)
  if word = "inf" ∨ word = "infinity" then
    some (.ofSigned ⟨negative, BinaryFormat.single.infinity⟩)
  else if word = "nan" then some (.ofSigned ⟨negative, notANumber⟩)
  else
    (scanDecimal unsigned).map fun (digits, exponent) =>
      .ofSigned ⟨negative, magnitudeOf digits exponent⟩

end Single

end EyesFree
