namespace EyesFree

/-! Decimal digits, most significant first. -/

abbrev Digit := Fin 10

namespace Digit

def zero : Digit := ⟨0, by decide⟩

def toChar (digit : Digit) : Char := Char.ofNat (48 + digit.val)

def ofChar? (character : Char) : Option Digit :=
  if inRange : 48 ≤ character.toNat ∧ character.toNat < 58 then
    some ⟨character.toNat - 48, by omega⟩
  else none

@[simp] theorem ofChar?_toChar (digit : Digit) : ofChar? digit.toChar = some digit := by
  revert digit
  decide

end Digit

namespace Decimal

def ofDigits (digits : List Digit) : Nat :=
  digits.foldl (fun value digit => 10 * value + digit.val) 0

/-- `digitsFrom bound number digits` writes `number` before `digits`, provided that `number`
has at most `bound` digits. -/
def digitsFrom : (bound number : Nat) → List Digit → List Digit
  | 0, _, digits => digits
  | bound + 1, number, digits =>
      let last : Digit := ⟨number % 10, Nat.mod_lt _ (by decide)⟩
      if number < 10 then last :: digits else digitsFrom bound (number / 10) (last :: digits)

/-- The decimal digits of a number: one zero for zero, no leading zero otherwise. -/
def digits (number : Nat) : List Digit :=
  digitsFrom (number + 1) number []

def toChars (digits : List Digit) : List Char :=
  digits.map Digit.toChar

/-- Digits read back as the number that they were written for. -/
theorem ofDigits_digitsFrom (bound number : Nat) (digits : List Digit) (fits : number < bound) :
    ofDigits (digitsFrom bound number digits) =
      digits.foldl (fun value digit => 10 * value + digit.val) number := by
  induction bound generalizing number digits with
  | zero => omega
  | succ bound induction =>
      unfold digitsFrom
      split
      · simp only [ofDigits, List.foldl_cons]
        congr 1
        omega
      · rw [induction (number / 10) _ (by omega), List.foldl_cons]
        congr 1
        change 10 * (number / 10) + number % 10 = number
        omega

@[simp] theorem ofDigits_digits (number : Nat) : ofDigits (digits number) = number := by
  rw [digits, ofDigits_digitsFrom _ _ _ (by omega), List.foldl_nil]

/-- The longest run of digits at the front of a text, and what follows it. -/
def span : List Char → List Digit × List Char
  | [] => ([], [])
  | character :: rest =>
      match Digit.ofChar? character with
      | some digit => ((digit :: (span rest).1), (span rest).2)
      | none => ([], character :: rest)

/-- Digits are read back in full, up to a character that is none. -/
theorem span_toChars_append (digits : List Digit) (rest : List Char)
    (stops : ∀ character ∈ rest.head?, Digit.ofChar? character = none) :
    span (toChars digits ++ rest) = (digits, rest) := by
  induction digits with
  | nil =>
      cases rest with
      | nil => rfl
      | cons head tail => simp [toChars, span, stops head rfl]
  | cons head tail induction =>
      change span (head.toChar :: (toChars tail ++ rest)) = _
      simp [span, induction]

end Decimal

end EyesFree
