import EyesFree.Number.Numeral

namespace EyesFree

/-! Number literals are read as they are written, whichever letter stands before the
exponent, and integers keep their value. -/

/-! ## Digits -/

private theorem Digit.toChar_ne_minus : ∀ digit : Digit, digit.toChar ≠ '-' := by decide

private theorem Digit.toChar_ne_plus : ∀ digit : Digit, digit.toChar ≠ '+' := by decide

namespace Decimal

private theorem digitsFrom_ne_nil (bound number : Nat) {digits : List Digit}
    (written : digits ≠ []) :
    digitsFrom bound number digits ≠ [] := by
  induction bound generalizing number digits with
  | zero => exact written
  | succ bound induction =>
      unfold digitsFrom
      split
      · exact List.cons_ne_nil _ _
      · exact induction _ (List.cons_ne_nil _ _)

private theorem digits_ne_nil (number : Nat) : digits number ≠ [] := by
  unfold digits digitsFrom
  split
  · exact List.cons_ne_nil _ _
  · exact digitsFrom_ne_nil _ _ (List.cons_ne_nil _ _)

private theorem head?_digitsFrom {bound number : Nat} (digits : List Digit)
    (fits : number < bound)
    (positive : 0 < number) : (digitsFrom bound number digits).head? ≠ some .zero := by
  induction bound generalizing number digits with
  | zero => omega
  | succ bound induction =>
      unfold digitsFrom
      split
      next small =>
        intro leading
        have same := congrArg Fin.val (Option.some.inj leading)
        simp only [Digit.zero, Nat.mod_eq_of_lt small] at same
        omega
      next => exact induction _ (by omega) (by omega)

private theorem eq_zero_of_head? {number : Nat} (leading : (digits number).head? = some .zero) :
    number = 0 :=
  Nat.eq_zero_of_not_pos fun positive =>
    head?_digitsFrom [] (Nat.lt_succ_self number) positive leading

private theorem digits_zero : digits 0 = [.zero] := rfl

end Decimal

/-! ## Literals for numbers -/

namespace Numeral

theorem isValid_ofInt (value : Int) : (ofInt value).IsValid := by
  refine ⟨Decimal.digits_ne_nil _, fun leading => ?_, by simp [ofInt]⟩
  have zero : value.natAbs = 0 := Decimal.eq_zero_of_head? leading
  simp [ofInt, zero, Decimal.digits_zero]

private theorem le_foldl_digits (digits : List Digit) (value : Nat) :
    value ≤ digits.foldl (fun value digit => 10 * value + digit.val) value := by
  induction digits generalizing value with
  | nil => exact Nat.le_refl value
  | cons digit rest induction =>
      have further := induction (10 * value + digit.val)
      rw [List.foldl_cons]
      omega

private theorem appendDigits_eq {limit : Nat} (digits : List Digit) {value : Nat}
    (fits : digits.foldl (fun value digit => 10 * value + digit.val) value ≤ limit) :
    appendDigits limit value digits =
      (digits.foldl (fun value digit => 10 * value + digit.val) value, []) := by
  induction digits generalizing value with
  | nil => rfl
  | cons digit rest induction =>
      have within := Nat.le_trans (le_foldl_digits rest (10 * value + digit.val)) fits
      rw [appendDigits, if_pos within, induction fits, List.foldl_cons]

private theorem appendDigits_digits {limit number : Nat} (fits : number ≤ limit) :
    appendDigits limit 0 (Decimal.digits number) = (number, []) := by
  have same : (Decimal.digits number).foldl (fun value digit => 10 * value + digit.val) 0 =
      number := Decimal.ofDigits_digits number
  rw [appendDigits_eq _ (same.symm ▸ fits), same]

theorem integer?_ofInt {value : Int} (low : -0x8000000000000000 ≤ value)
    (high : value ≤ 0xFFFFFFFFFFFFFFFF) : (ofInt value).integer? = some value := by
  have limit : significandLimit = 0xFFFFFFFFFFFFFFFF := rfl
  have fits : value.natAbs ≤ significandLimit := by omega
  rw [integer?, meaning?]
  simp only [ofInt, appendDigits_digits fits, and_self, if_true]
  by_cases negative : value < 0
  · have within : 0 < value.natAbs ∧ value.natAbs ≤ 0x8000000000000000 := by omega
    simp only [negative, decide_true, if_true, within, and_self]
    exact congrArg some (by omega)
  · simp only [negative, decide_false, Bool.false_eq_true, if_false]
    congr 1
    omega

theorem isSome_meaning?_ofInt {value : Int} (low : -0x8000000000000000 ≤ value)
    (high : value ≤ 0xFFFFFFFFFFFFFFFF) : (ofInt value).meaning?.isSome = true := by
  have meant := integer?_ofInt low high
  unfold integer? at meant
  cases means : (ofInt value).meaning? with
  | none => simp [means] at meant
  | some _ => rfl

end Numeral

/-! ### Real numbers -/

namespace Scientific

def IsPlain (number : Scientific) : Prop := number.significand ≠ 0 ∨ number = ⟨0, 0⟩

private theorem isPlain_withoutTrailingZeros (bound : Nat) {number : Scientific}
    (plain : number.IsPlain) : (number.withoutTrailingZeros bound).IsPlain := by
  induction bound generalizing number with
  | zero => exact plain
  | succ bound induction =>
      unfold withoutTrailingZeros
      split
      next zeros =>
        refine induction (.inl ?_)
        change number.significand / 10 ≠ 0
        omega
      next => exact plain

private theorem significand_ne_zero_of_readsAs {number : Scientific} {format : BinaryFormat}
    {magnitude : Nat} (positive : magnitude ≠ 0) (reads : number.readsAs format magnitude) :
    number.significand ≠ 0 := by
  intro zero
  have rounded : format.round number.toQuotient = magnitude := of_decide_eq_true reads
  have nothing : number.toQuotient.numerator = 0 := by
    unfold toQuotient Quotient.scale
    split <;> simp [Quotient.ofNat, zero]
  rw [BinaryFormat.round, if_pos nothing] at rounded
  exact positive rounded.symm

end Scientific

private theorem BinaryFormat.readsAs_of_onGrid {format : BinaryFormat} {magnitude count : Nat}
    {number : Scientific} (found : format.onGrid? magnitude count = some number) :
    number.readsAs format magnitude = true := by
  unfold onGrid? at found
  extract_lets value exponent scaled nearer other at found
  exact @List.find?_some _ (·.readsAs format magnitude) number _ found

private theorem BinaryFormat.isPlain_shortest {format : BinaryFormat} {magnitude : Nat}
    (positive : magnitude ≠ 0) : (format.shortest magnitude).IsPlain := by
  apply Scientific.isPlain_withoutTrailingZeros
  cases found : (List.range format.digitLimit).findSome? fun count =>
      format.onGrid? magnitude (count + 1) with
  | none => exact .inr rfl
  | some number =>
      obtain ⟨count, _, onGrid⟩ := List.exists_of_findSome?_eq_some found
      exact .inl (Scientific.significand_ne_zero_of_readsAs positive (readsAs_of_onGrid onGrid))

namespace Numeral

private theorem length_take_digits {number place : Nat}
    (leading : ((Decimal.digits number).take place).head? = some .zero) :
    ((Decimal.digits number).take place).length = 1 := by
  cases place with
  | zero => simp at leading
  | succ place =>
      rw [List.head?_take, if_neg (Nat.succ_ne_zero place)] at leading
      rw [Decimal.eq_zero_of_head? leading, Decimal.digits_zero]
      simp

private theorem take_digits_ne_nil (number : Nat) {place : Nat} (positive : 0 < place) :
    (Decimal.digits number).take place ≠ [] := by
  intro empty
  rcases List.take_eq_nil_iff.mp empty with zero | none
  · omega
  · exact Decimal.digits_ne_nil number none

private theorem isValid_ofScientific (style : RealStyle) (negative : Bool) {number : Scientific}
    (plain : number.IsPlain) : (ofScientific style negative number).IsValid := by
  unfold ofScientific
  extract_lets digits point
  split
  next =>
    refine ⟨?_, fun leading => ?_, by simp⟩
    · exact fun empty => Decimal.digits_ne_nil _ (List.append_eq_nil_iff.mp empty).1
    · have first := List.head?_eq_some_head (Decimal.digits_ne_nil number.significand)
      rw [List.head?_append, first, Option.some_or] at leading
      have zero := Decimal.eq_zero_of_head? (first.trans leading)
      rcases plain with positive | rfl
      · exact absurd zero positive
      · rfl
  next =>
    split
    next inside =>
      exact ⟨take_digits_ne_nil _ (by omega), length_take_digits, by simp⟩
    next =>
      split
      next => exact ⟨by simp, fun _ => rfl, by simp⟩
      next =>
        refine ⟨take_digits_ne_nil _ Nat.one_pos, length_take_digits, ?_⟩
        simp [Decimal.digits_ne_nil]

theorem isValid_ofSingle (value : Single) : (ofSingle value).IsValid := by
  unfold ofSingle ofSigned
  split
  next => exact ⟨by simp, fun _ => rfl, by simp⟩
  next positive => exact isValid_ofScientific _ _ (BinaryFormat.isPlain_shortest positive)

/-! ## Reading -/

def Stops (rest : List Char) : Prop :=
  ∀ character ∈ rest.head?, Digit.ofChar? character = none ∧ character ≠ '.' ∧
    character ≠ 'e' ∧ character ≠ 'E'

def fractionChars (fraction : List Digit) : List Char :=
  if fraction = [] then [] else '.' :: Decimal.toChars fraction

def exponentChars (letter : Char) : Option DecimalExponent → List Char
  | none => []
  | some exponent => letter :: (signChars exponent.sign ++ Decimal.toChars exponent.digits)

/-- The text of a literal with a given letter before its exponent. -/
def spelling (letter : Char) (numeral : Numeral) : List Char :=
  (if numeral.negative then ['-'] else []) ++
    (Decimal.toChars numeral.whole ++
      (fractionChars numeral.fraction ++ exponentChars letter numeral.exponent))

theorem spelling_small (numeral : Numeral) : numeral.spelling 'e' = numeral.toChars := by
  unfold toChars spelling fractionChars exponentChars
  cases numeral.exponent <;> simp

variable {rest : List Char} {letter : Char}

private theorem scanWhole_append {whole : List Digit} (written : whole ≠ [])
    (leading : whole.head? = some .zero → whole.length = 1)
    (stops : ∀ character ∈ rest.head?, Digit.ofChar? character = none) :
    scanWhole (Decimal.toChars whole ++ rest) = some (whole, rest) := by
  rw [scanWhole, Decimal.span_toChars_append whole rest stops]
  match whole, written, leading with
  | [digit], _, _ => rfl
  | first :: second :: others, _, leading =>
      have nonzero : first ≠ .zero := fun zero => by simp [zero] at leading
      exact if_neg nonzero

private theorem scanFraction_append {fraction : List Digit}
    (stops : ∀ character ∈ rest.head?, Digit.ofChar? character = none ∧ character ≠ '.') :
    scanFraction (fractionChars fraction ++ rest) = some (fraction, rest) := by
  unfold fractionChars
  split
  next none =>
    subst none
    cases rest with
    | nil => rfl
    | cons head tail =>
        have other : head ≠ '.' := (stops head rfl).2
        simp [scanFraction, other]
  next written =>
    have spanned := Decimal.span_toChars_append fraction rest fun character member =>
      (stops character member).1
    simp only [List.cons_append, scanFraction, spanned]

private theorem scanSign_append (sign : Option Bool) {digits : List Digit}
    (written : digits ≠ []) :
    scanSign (signChars sign ++ (Decimal.toChars digits ++ rest)) =
      (sign, Decimal.toChars digits ++ rest) := by
  match sign with
  | some true => rfl
  | some false => rfl
  | none =>
      match digits, written with
      | digit :: others, _ =>
          simp [signChars, Decimal.toChars, scanSign, digit.toChar_ne_minus, digit.toChar_ne_plus]

private theorem scanExponent_append {exponent : Option DecimalExponent}
    (known : letter = 'e' ∨ letter = 'E') (valid : ∀ written ∈ exponent, written.digits ≠ [])
    (stops : Stops rest) :
    scanExponent (exponentChars letter exponent ++ rest) = some (exponent, rest) := by
  cases exponent with
  | none =>
      cases rest with
      | nil => rfl
      | cons head tail =>
          obtain ⟨_, _, lower, upper⟩ := stops head rfl
          simp [exponentChars, scanExponent, lower, upper]
  | some exponent =>
      have written := valid exponent rfl
      have spanned := Decimal.span_toChars_append exponent.digits rest fun character member =>
        (stops character member).1
      rcases known with rfl | rfl <;>
        simp only [exponentChars, List.cons_append, List.append_assoc, scanExponent,
          scanExponentDigits, scanSign_append _ written, spanned]

theorem scan_spelling_append {numeral : Numeral} (valid : numeral.IsValid)
    (known : letter = 'e' ∨ letter = 'E') (stops : Stops rest) :
    scan (numeral.spelling letter ++ rest) = some (numeral, rest) := by
  obtain ⟨written, leading, exponent⟩ := valid
  have stopsFraction : ∀ character ∈ (exponentChars letter numeral.exponent ++ rest).head?,
      Digit.ofChar? character = none ∧ character ≠ '.' := by
    intro character member
    cases same : numeral.exponent with
    | none =>
        rw [same] at member
        exact ⟨(stops character member).1, (stops character member).2.1⟩
    | some exponent =>
        rw [same] at member
        cases member
        rcases known with rfl | rfl <;> decide
  have stopsWhole : ∀ character ∈ (fractionChars numeral.fraction ++
      (exponentChars letter numeral.exponent ++ rest)).head?, Digit.ofChar? character = none := by
    intro character member
    unfold fractionChars at member
    split at member
    next => exact (stopsFraction character member).1
    next =>
      cases member
      decide
  have whole := scanWhole_append written leading stopsWhole
  have fraction := @scanFraction_append _ numeral.fraction stopsFraction
  have last := scanExponent_append known exponent stops
  obtain ⟨negative, digits, others, power⟩ := numeral
  simp only [spelling, List.append_assoc]
  cases negative with
  | true =>
      simp [scan, whole, fraction, last]
  | false =>
      simp only [scan, Bool.false_eq_true, if_false, List.nil_append]
      split
      next after sign =>
        match digits, written with
        | digit :: more, _ => exact absurd (List.cons.inj sign).1 digit.toChar_ne_minus
      next => simp [whole, fraction, last]

end Numeral

end EyesFree
