import EyesFree.Proofs.Grammar

namespace EyesFree

/-! Which texts are read at all: those that the grammar has for some value, which is then
the value that is read. -/

/-! ## Literals -/

private theorem Digit.toChar_of_ofChar? {character : Char} {digit : Digit}
    (read : ofChar? character = some digit) : digit.toChar = character := by
  unfold ofChar? at read
  split at read
  next inRange =>
    obtain rfl := Option.some.inj read
    have whole : 48 + (character.toNat - 48) = character.toNat := by omega
    rw [toChar, whole, Char.ofNat_toNat]
  next => cases read

private theorem Decimal.toChars_span (text : List Char) :
    toChars (span text).1 ++ (span text).2 = text := by
  induction text with
  | nil => rfl
  | cons character rest induction =>
      unfold span
      split
      next digit read =>
        change digit.toChar :: (toChars (span rest).1 ++ (span rest).2) = _
        rw [Digit.toChar_of_ofChar? read, induction]
      next => rfl

namespace Numeral

variable {text rest : List Char}

private theorem of_scanWhole {whole : List Digit} (read : scanWhole text = some (whole, rest)) :
    text = Decimal.toChars whole ++ rest ∧ whole ≠ [] ∧
      (whole.head? = some .zero → whole.length = 1) := by
  have spanned := Decimal.toChars_span text
  unfold scanWhole at read
  split at read
  next => cases read
  next digit after same =>
    cases read
    rw [same] at spanned
    exact ⟨spanned.symm, List.cons_ne_nil _ _, fun _ => rfl⟩
  next first others after _ same =>
    split at read
    next => cases read
    next positive =>
      cases read
      rw [same] at spanned
      exact ⟨spanned.symm, List.cons_ne_nil _ _, fun zero => absurd (Option.some.inj zero) positive⟩

private theorem of_scanFraction {fraction : List Digit}
    (read : scanFraction text = some (fraction, rest)) : text = fractionChars fraction ++ rest := by
  unfold scanFraction at read
  split at read
  next after =>
    have spanned := Decimal.toChars_span after
    split at read
    next => cases read
    next digits _ written same =>
      cases read
      rw [same] at spanned
      rw [fractionChars, if_neg (by simpa using written), List.cons_append, spanned]
  next =>
    cases read
    rfl

private theorem of_scanSign {sign : Option Bool} {unsigned : List Char}
    (read : scanSign text = (sign, unsigned)) : text = signChars sign ++ unsigned := by
  unfold scanSign at read
  split at read <;> cases read <;> rfl

private theorem of_scanExponentDigits {exponent : Option DecimalExponent}
    (read : scanExponentDigits text = some (exponent, rest)) :
    ∃ written, exponent = some written ∧ written.digits ≠ [] ∧
      text = signChars written.sign ++ Decimal.toChars written.digits ++ rest := by
  unfold scanExponentDigits at read
  split at read
  next sign unsigned signed =>
    have spanned := Decimal.toChars_span unsigned
    split at read
    next => cases read
    next digits after written same =>
      cases read
      rw [same] at spanned
      refine ⟨_, rfl, by simpa using written, ?_⟩
      rw [List.append_assoc, spanned]
      exact of_scanSign signed

private theorem of_scanExponent {exponent : Option DecimalExponent}
    (read : scanExponent text = some (exponent, rest)) :
    (∀ written ∈ exponent, written.digits ≠ []) ∧
      ∃ letter, (letter = 'e' ∨ letter = 'E') ∧ text = exponentChars letter exponent ++ rest := by
  unfold scanExponent at read
  split at read
  next =>
    obtain ⟨written, rfl, digits, rfl⟩ := of_scanExponentDigits read
    exact ⟨by simpa using digits, 'e', .inl rfl, rfl⟩
  next =>
    obtain ⟨written, rfl, digits, rfl⟩ := of_scanExponentDigits read
    exact ⟨by simpa using digits, 'E', .inr rfl, rfl⟩
  next =>
    cases read
    exact ⟨nofun, 'e', .inl rfl, rfl⟩

private theorem of_scan {numeral : Numeral} (read : scan text = some (numeral, rest)) :
    numeral.IsValid ∧ ∃ letter, (letter = 'e' ∨ letter = 'E') ∧
      text = numeral.spelling letter ++ rest := by
  unfold scan at read
  split at read
  next negative unsigned opened =>
    have signed : text = (if negative then ['-'] else []) ++ unsigned := by
      split at opened <;> (cases opened; rfl)
    simp only [bind, Option.bind_eq_some_iff] at read
    obtain ⟨⟨whole, afterWhole⟩, wholeRead, ⟨fraction, afterFraction⟩, fractionRead,
      ⟨exponent, after⟩, exponentRead, same⟩ := read
    cases same
    obtain ⟨rfl, digits, leading⟩ := of_scanWhole wholeRead
    obtain rfl := of_scanFraction fractionRead
    obtain ⟨valid, letter, known, rfl⟩ := of_scanExponent exponentRead
    exact ⟨⟨digits, leading, valid⟩, letter, known, by simp [signed, spelling]⟩

end Numeral

/-! ## Strings -/

namespace TextUnit

private theorem of_scan {text rest : List Char} {units : List TextUnit}
    (read : scan text = some (units, rest)) :
    ∃ front, AllSpelledBy units front ∧ text = front ++ '"' :: rest := by
  fun_induction scan text generalizing units with
  | case1 => cases read
  | case2 rest =>
      cases read
      exact ⟨[], .nil, rfl⟩
  | case3 first second third fourth rest induction =>
      simp only [bind, Option.bind_eq_some_iff] at read
      obtain ⟨one, firstValue, two, secondValue, three, thirdValue, four, fourthValue,
        ⟨others, after⟩, scanned, same⟩ := read
      cases same
      obtain ⟨front, spelled, rfl⟩ := induction scanned
      exact ⟨_, .cons (.number firstValue secondValue thirdValue fourthValue) spelled, rfl⟩
  | case4 letter rest _ induction =>
      simp only [bind, Option.bind_eq_some_iff] at read
      obtain ⟨character, escape, ⟨others, after⟩, scanned, same⟩ := read
      cases same
      obtain ⟨front, spelled, rfl⟩ := induction scanned
      exact ⟨_, .cons (.letter escape) spelled, rfl⟩
  | case5 character rest _ _ _ other => cases read
  | case6 character rest quote _ _ plain induction =>
      simp only [bind, Option.bind_eq_some_iff] at read
      obtain ⟨⟨others, after⟩, scanned, same⟩ := read
      cases same
      obtain ⟨front, spelled, rfl⟩ := induction scanned
      obtain ⟨printable, backslash⟩ := not_or.mp plain
      exact ⟨_, .cons (.plain (Nat.not_lt.mp printable) quote backslash) spelled, rfl⟩

end TextUnit

/-! ## Values -/

namespace Json

private theorem exists_skipBlanks (text : List Char) :
    ∃ blanks, IsBlanks blanks ∧ text = blanks ++ skipBlanks text := by
  induction text with
  | nil => exact ⟨[], isBlanks_nil, rfl⟩
  | cons character rest induction =>
      unfold skipBlanks
      split
      next blank =>
        obtain ⟨blanks, others, same⟩ := induction
        exact ⟨character :: blanks, List.forall_mem_cons.mpr ⟨blank, others⟩,
          congrArg (character :: ·) same⟩
      next => exact ⟨[], isBlanks_nil, rfl⟩

private theorem of_after? {word text rest : List Char} (read : after? word text = some rest) :
    text = word ++ rest := by
  fun_induction after? word text with
  | case1 text => exact Option.some.inj read
  | case2 letter word text induction => rw [induction read, List.cons_append]
  | case3 | case4 => cases read

private theorem of_scanName {text rest : List Char} {name : List TextUnit}
    (read : scanName text = some (name, rest)) :
    ∃ front, NameSpelledBy name front ∧ text = front ++ rest := by
  obtain ⟨before, blankBefore, opened⟩ := exists_skipBlanks text
  unfold scanName at read
  split at read
  next quoted same =>
    simp only [bind, Option.bind_eq_some_iff] at read
    obtain ⟨⟨units, closed⟩, scanned, read⟩ := read
    obtain ⟨front, spelled, rfl⟩ := TextUnit.of_scan scanned
    obtain ⟨after, blankAfter, parted⟩ := exists_skipBlanks closed
    split at read
    next colon =>
      cases read
      refine ⟨_, .between blankBefore spelled blankAfter, ?_⟩
      rw [opened, same, parted, colon]
      simp
    next => cases read
  next => cases read

/-- What so many nested calls read from a text is spelled at the front of it. -/
structure Accepts (bound : Nat) : Prop where
  value {text rest : List Char} {json : Json} (read : scanValue bound text = some (json, rest)) :
    ∃ before front, IsBlanks before ∧ SpelledBy json front ∧ text = before ++ (front ++ rest)
  items {text rest : List Char} {items : List Json}
    (read : scanItems bound text = some (items, rest)) :
    ∃ front, ItemsSpelledBy items front ∧ text = front ++ ']' :: rest
  members {text rest : List Char} {members : List (List TextUnit × Json)}
    (read : scanMembers bound text = some (members, rest)) :
    ∃ front, MembersSpelledBy members front ∧ text = front ++ '\x7d' :: rest

namespace Accepts

variable {bound : Nat} {text rest : List Char}

private theorem padded (accepts : Accepts bound) {json : Json}
    (read : scanValue bound text = some (json, rest)) :
    ∃ front, PaddedBy json front ∧ text = front ++ skipBlanks rest := by
  obtain ⟨before, front, blankBefore, spelled, rfl⟩ := accepts.value read
  obtain ⟨after, blankAfter, same⟩ := exists_skipBlanks rest
  refine ⟨_, .between blankBefore spelled blankAfter, ?_⟩
  rw [List.append_assoc, List.append_assoc, ← same]

private theorem items_succ (accepts : Accepts bound) {items : List Json}
    (read : scanItems (bound + 1) text = some (items, rest)) :
    ∃ front, ItemsSpelledBy items front ∧ text = front ++ ']' :: rest := by
  rw [scanItems] at read
  simp only [bind, Option.bind_eq_some_iff] at read
  obtain ⟨⟨item, others⟩, valueRead, read⟩ := read
  obtain ⟨front, padded, rfl⟩ := accepts.padded valueRead
  split at read
  next later comma =>
    simp only [Option.bind_eq_some_iff] at read
    obtain ⟨⟨more, after⟩, itemsRead, same⟩ := read
    cases same
    obtain ⟨back, spelled, rfl⟩ := accepts.items itemsRead
    exact ⟨_, .more padded spelled, by simp [comma]⟩
  next closed =>
    cases read
    exact ⟨_, .last padded, by rw [closed]⟩
  next => cases read

private theorem members_succ (accepts : Accepts bound) {members : List (List TextUnit × Json)}
    (read : scanMembers (bound + 1) text = some (members, rest)) :
    ∃ front, MembersSpelledBy members front ∧ text = front ++ '\x7d' :: rest := by
  rw [scanMembers] at read
  simp only [bind, Option.bind_eq_some_iff] at read
  obtain ⟨⟨name, unnamed⟩, nameRead, ⟨value, others⟩, valueRead, read⟩ := read
  obtain ⟨title, named, rfl⟩ := of_scanName nameRead
  obtain ⟨front, padded, rfl⟩ := accepts.padded valueRead
  split at read
  next later comma =>
    simp only [Option.bind_eq_some_iff] at read
    obtain ⟨⟨more, after⟩, membersRead, same⟩ := read
    cases same
    obtain ⟨back, spelled, rfl⟩ := accepts.members membersRead
    exact ⟨_, .more named padded spelled, by simp [comma]⟩
  next closed =>
    cases read
    exact ⟨_, .last named padded, by simp [closed]⟩
  next => cases read

private theorem value_succ (accepts : Accepts bound) {json : Json}
    (read : scanValue (bound + 1) text = some (json, rest)) :
    ∃ before front, IsBlanks before ∧ SpelledBy json front ∧ text = before ++ (front ++ rest) := by
  obtain ⟨before, blankBefore, opened⟩ := exists_skipBlanks text
  suffices spelled : ∃ front, SpelledBy json front ∧ skipBlanks text = front ++ rest by
    obtain ⟨front, spelled, same⟩ := spelled
    exact ⟨before, front, blankBefore, spelled, same ▸ opened⟩
  rw [scanValue] at read
  split at read
  next after same =>
    obtain ⟨_, word, read⟩ := Option.map_eq_some_iff.mp read
    cases read
    exact ⟨_, .null, by rw [same, of_after? word]; rfl⟩
  next after same =>
    obtain ⟨_, word, read⟩ := Option.map_eq_some_iff.mp read
    cases read
    exact ⟨_, .yes, by rw [same, of_after? word]; rfl⟩
  next after same =>
    obtain ⟨_, word, read⟩ := Option.map_eq_some_iff.mp read
    cases read
    exact ⟨_, .no, by rw [same, of_after? word]; rfl⟩
  next after same =>
    obtain ⟨⟨units, _⟩, scanned, read⟩ := Option.map_eq_some_iff.mp read
    cases read
    obtain ⟨front, spelled, rfl⟩ := TextUnit.of_scan scanned
    exact ⟨_, .string spelled, by rw [same]; simp⟩
  next inner same =>
    split at read
    next closed =>
      cases read
      obtain ⟨blanks, blank, inside⟩ := exists_skipBlanks inner
      rw [closed] at inside
      exact ⟨_, .noItems blank, by rw [same, inside]; simp⟩
    next =>
      obtain ⟨⟨items, _⟩, scanned, read⟩ := Option.map_eq_some_iff.mp read
      cases read
      obtain ⟨front, spelled, rfl⟩ := accepts.items scanned
      exact ⟨_, .array spelled, by rw [same]; simp⟩
  next inner same =>
    split at read
    next closed =>
      cases read
      obtain ⟨blanks, blank, inside⟩ := exists_skipBlanks inner
      rw [closed] at inside
      exact ⟨_, .noMembers blank, by rw [same, inside]; simp⟩
    next =>
      obtain ⟨⟨members, _⟩, scanned, read⟩ := Option.map_eq_some_iff.mp read
      cases read
      obtain ⟨front, spelled, rfl⟩ := accepts.members scanned
      exact ⟨_, .object spelled, by rw [same]; simp⟩
  next =>
    obtain ⟨⟨numeral, _⟩, scanned, read⟩ := Option.map_eq_some_iff.mp read
    cases read
    obtain ⟨valid, letter, known, same⟩ := Numeral.of_scan scanned
    exact ⟨_, .number valid known, same⟩

end Accepts

private theorem accepts (bound : Nat) : Accepts bound := by
  induction bound with
  | zero => exact ⟨nofun, nofun, nofun⟩
  | succ bound induction =>
      exact ⟨induction.value_succ, induction.items_succ, induction.members_succ⟩

/-- The texts that are read as a value are the texts of the value. -/
theorem parse?_eq_some_iff {text : String} {json : Json} :
    parse? text = some json ↔ IsTextOf text json := by
  constructor
  · intro read
    simp only [parse?, parseChars?, bind, Option.bind_eq_some_iff] at read
    obtain ⟨⟨value, rest⟩, scanned, read⟩ := read
    split at read
    next last =>
      cases read
      obtain ⟨front, padded, same⟩ := (accepts _).padded scanned
      rw [last, List.append_nil] at same
      rwa [IsTextOf, same]
    next => cases read
  · exact IsTextOf.parse?

end Json

end EyesFree
