import EyesFree.Number.Shortest

namespace EyesFree

/-! Number literals as they are written: digits before and after the point, and an exponent. The
spelling is kept because it decides what a literal is: `5` is an integer, `5.0` and `-0` are not. -/

structure DecimalExponent where
  /-- The sign, when one is written; `true` for minus. -/
  sign : Option Bool
  digits : List Digit
deriving DecidableEq, Repr

structure Numeral where
  negative : Bool
  whole : List Digit
  /-- Empty when no point is written. -/
  fraction : List Digit
  exponent : Option DecimalExponent
deriving DecidableEq, Repr

/-! ## What a literal means -/

/-- The meaning of a literal: an integer of 64 bits, or a double precision number. -/
inductive NumericValue
  | natural (value : Nat)
  | negative (value : Int)
  | real (value : Signed)
deriving DecidableEq, Repr

namespace Numeral

def significandLimit : Nat := UInt64.size - 1

/-- The greatest exponent that reading tells from a still greater one. -/
def exponentLimit : Nat := 0x7FFFFFFF

/-- Append digits to a number as long as the result stays within a limit. The digits that were
not taken are returned. -/
def appendDigits (limit : Nat) : Nat → List Digit → Nat × List Digit
  | value, [] => (value, [])
  | value, digit :: rest =>
      if 10 * value + digit.val ≤ limit then appendDigits limit (10 * value + digit.val) rest
      else (value, digit :: rest)

/-- Powers of ten up to this one are double precision numbers. -/
def greatestPower : Nat := 308

def powerOfTen (exponent : Nat) : Nat := BinaryFormat.double.round (.ofNat (Nat.pow 10 exponent))

/-- The double precision number for `significand * 10 ^ exponent`, computed by one multiplication
or by one or two divisions in that precision; nothing when it is too large. -/
def scaleDouble (significand : Nat) (exponent : Int) : Option Nat :=
  let start := BinaryFormat.double.round (.ofNat significand)
  let size := exponent.natAbs
  if start = 0 then some 0
  else if 0 ≤ exponent then
    if size ≤ greatestPower then
      let product := BinaryFormat.double.mul start (powerOfTen size)
      if product = BinaryFormat.double.infinity then none else some product
    else none
  else if size ≤ greatestPower then some (BinaryFormat.double.div start (powerOfTen size))
  else if size ≤ 2 * greatestPower then
    let partly := BinaryFormat.double.div start (powerOfTen greatestPower)
    some (BinaryFormat.double.div partly (powerOfTen (size - greatestPower)))
  else some 0

/-- The written exponent applied to `significand * 10 ^ shift`. An exponent beyond the limit makes
the number zero, or too large unless its significand is zero. -/
def applyExponent (significand : Nat) (shift : Int) : Option DecimalExponent → Option Nat
  | none => scaleDouble significand shift
  | some written =>
      let (size, beyond) := appendDigits exponentLimit 0 written.digits
      let downward := written.sign = some true
      if beyond ≠ [] then if significand = 0 ∨ downward then some 0 else none
      else scaleDouble significand (if downward then shift - size else shift + size)

/-- The meaning of a literal, or nothing when it is too large. Of the digits that do not fit a
significand of 64 bits, those before the point still count as powers of ten. -/
def meaning? (numeral : Numeral) : Option NumericValue :=
  let (significand, beyond) := appendDigits significandLimit 0 numeral.whole
  if numeral.fraction = [] ∧ numeral.exponent = none ∧ beyond = [] then
    if numeral.negative then
      if 0 < significand ∧ significand ≤ 0x8000000000000000 then some (.negative (-significand))
      else some (.real ⟨true, BinaryFormat.double.round (.ofNat significand)⟩)
    else some (.natural significand)
  else
    let (full, unread) := appendDigits significandLimit significand numeral.fraction
    let shift : Int := beyond.length - (numeral.fraction.length - unread.length : Nat)
    (applyExponent full shift numeral.exponent).map fun magnitude =>
      .real ⟨numeral.negative, magnitude⟩

/-- The integer that a literal denotes. A literal with a point or an exponent, minus zero, and
literals beyond 64 bits denote none. -/
def integer? (numeral : Numeral) : Option Int :=
  match numeral.meaning? with
  | some (.natural value) => some value
  | some (.negative value) => some value
  | _ => none

/-- The single precision number that a literal denotes. Integers are rounded once; other numbers
are read in double precision first, and may become infinite on the way to single precision. -/
def single? (numeral : Numeral) : Option Single :=
  numeral.meaning?.map fun
    | .natural value => .ofInt value
    | .negative value => .ofInt value
    | .real value => .ofSigned (value.convert .double .single)

/-! ## Literals for numbers -/

def ofInt (value : Int) : Numeral :=
  ⟨decide (value < 0), Decimal.digits value.natAbs, [], none⟩

/-- How real numbers are written. Positions of the leading digit above `lowest` and up to
`highest`, counted from the point, are written without an exponent. -/
structure RealStyle where
  lowest : Int
  highest : Int

/-- Single precision: without an exponent from `1e-6` up to `1e13`. -/
def singleStyle : RealStyle := ⟨-6, 13⟩

/-- Double precision: without an exponent from `1e-5` up to `1e16`. -/
def doubleStyle : RealStyle := ⟨-5, 16⟩

/-- The literal of a decimal: positional with at least one digit after the point, or one digit
before the point and an exponent whose sign is always written. -/
def ofScientific (style : RealStyle) (negative : Bool) (number : Scientific) : Numeral :=
  let digits := Decimal.digits number.significand
  let point : Int := digits.length + number.exponent
  if 0 ≤ number.exponent ∧ point ≤ style.highest then
    ⟨negative, digits ++ List.replicate number.exponent.toNat .zero, [.zero], none⟩
  else if 0 < point ∧ point ≤ style.highest then
    ⟨negative, digits.take point.toNat, digits.drop point.toNat, none⟩
  else if style.lowest < point ∧ point ≤ 0 then
    ⟨negative, [.zero], List.replicate (-point).toNat .zero ++ digits, none⟩
  else
    ⟨negative, digits.take 1, digits.drop 1,
      some ⟨some (decide (point - 1 < 0)), Decimal.digits (point - 1).natAbs⟩⟩

def ofSigned (format : BinaryFormat) (style : RealStyle) (value : Signed) : Numeral :=
  if value.magnitude = 0 then ⟨value.negative, [.zero], [.zero], none⟩
  else ofScientific style value.negative (format.shortest value.magnitude)

def ofSingle (value : Single) : Numeral :=
  ofSigned .single singleStyle ⟨value.negative, value.magnitude⟩

/-! ## Text -/

def signChars : Option Bool → List Char
  | none => []
  | some true => ['-']
  | some false => ['+']

def toChars (numeral : Numeral) : List Char :=
  (if numeral.negative then ['-'] else []) ++ Decimal.toChars numeral.whole ++
    (if numeral.fraction = [] then [] else '.' :: Decimal.toChars numeral.fraction) ++
    (match numeral.exponent with
      | none => []
      | some exponent => 'e' :: (signChars exponent.sign ++ Decimal.toChars exponent.digits))

/-- A literal has digits before the point, the first of which is a zero only if it is the only
one, and digits in its exponent. -/
def IsValid (numeral : Numeral) : Prop :=
  numeral.whole ≠ [] ∧ (numeral.whole.head? = some .zero → numeral.whole.length = 1) ∧
    ∀ exponent ∈ numeral.exponent, exponent.digits ≠ []

def scanSign : List Char → Option Bool × List Char
  | '-' :: rest => (some true, rest)
  | '+' :: rest => (some false, rest)
  | text => (none, text)

/-- The digits before the point: a single zero, or digits that start with another one. -/
def scanWhole (text : List Char) : Option (List Digit × List Char) :=
  match Decimal.span text with
  | ([], _) => none
  | ([digit], rest) => some ([digit], rest)
  | (first :: others, rest) => if first = .zero then none else some (first :: others, rest)

def scanFraction : List Char → Option (List Digit × List Char)
  | '.' :: text =>
      match Decimal.span text with
      | ([], _) => none
      | (digits, rest) => some (digits, rest)
  | text => some ([], text)

def scanExponentDigits (text : List Char) : Option (Option DecimalExponent × List Char) :=
  let (sign, unsigned) := scanSign text
  match Decimal.span unsigned with
  | ([], _) => none
  | (digits, rest) => some (some ⟨sign, digits⟩, rest)

def scanExponent : List Char → Option (Option DecimalExponent × List Char)
  | 'e' :: text => scanExponentDigits text
  | 'E' :: text => scanExponentDigits text
  | text => some (none, text)

def scan (text : List Char) : Option (Numeral × List Char) := do
  let (negative, unsigned) := match text with
    | '-' :: rest => (true, rest)
    | _ => (false, text)
  let (whole, rest) ← scanWhole unsigned
  let (fraction, rest) ← scanFraction rest
  let (exponent, rest) ← scanExponent rest
  return (⟨negative, whole, fraction, exponent⟩, rest)

end Numeral

end EyesFree
