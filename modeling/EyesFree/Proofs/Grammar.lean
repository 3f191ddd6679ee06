import EyesFree.Json.Parser
import EyesFree.Proofs.Literals

namespace EyesFree

/-! The grammar of JSON texts: what may stand between the parts of a value, and in how
many ways a string or a literal may be spelled. Every text of a value by this grammar
is read as the value. -/

/-! ## Strings -/

namespace TextUnit

/-- One unit of a string: a character that stands for itself, or an escape with a
letter or with a number. -/
inductive SpelledBy : TextUnit → List Char → Prop
  | plain {character : Char} (printable : 0x20 ≤ character.toNat) (quote : character ≠ '"')
      (backslash : character ≠ '\\') : SpelledBy (.scalar character) [character]
  | letter {letter character : Char} (escape : ofEscape? letter = some character) :
      SpelledBy (.scalar character) ['\\', letter]
  | number {first second third fourth : Char} {one two three four : Nat}
      (firstValue : hexValue? first = some one) (secondValue : hexValue? second = some two)
      (thirdValue : hexValue? third = some three) (fourthValue : hexValue? fourth = some four) :
      SpelledBy (ofNumber (4096 * one + 256 * two + 16 * three + four))
        ['\\', 'u', first, second, third, fourth]

/-- A string without its quotes. -/
inductive AllSpelledBy : List TextUnit → List Char → Prop
  | nil : AllSpelledBy [] []
  | cons {unit : TextUnit} {others : List TextUnit} {front back : List Char}
      (first : unit.SpelledBy front) (rest : AllSpelledBy others back) :
      AllSpelledBy (unit :: others) (front ++ back)

def prepend (unit : TextUnit) (scanned : Option (List TextUnit × List Char)) :
    Option (List TextUnit × List Char) :=
  scanned.map fun (units, after) => (unit :: units, after)

private theorem scan_plain {character : Char} (printable : 0x20 ≤ character.toNat)
    (quote : character ≠ '"') (backslash : character ≠ '\\') (rest : List Char) :
    scan (character :: rest) = prepend (.scalar character) (scan rest) := by
  rw [scan]
  · rw [if_neg (not_or.mpr ⟨Nat.not_lt.mpr printable, backslash⟩)]
    cases scan rest <;> rfl
  · exact quote
  · exact fun _ _ _ _ _ same => absurd same backslash
  · exact fun _ _ same => absurd same backslash

private theorem scan_letter {letter character : Char} (escape : ofEscape? letter = some character)
    (rest : List Char) :
    scan ('\\' :: letter :: rest) = prepend (.scalar character) (scan rest) := by
  have other : letter ≠ 'u' := by
    rintro rfl
    cases escape
  rw [scan]
  · simp only [escape, bind, Option.bind_some]
    cases scan rest <;> rfl
  · exact fun _ _ _ _ _ same => absurd same other

private theorem SpelledBy.scan_append {unit : TextUnit} {text : List Char}
    (spelled : unit.SpelledBy text)
    (rest : List Char) : scan (text ++ rest) = prepend unit (scan rest) := by
  cases spelled with
  | plain printable quote backslash => exact scan_plain printable quote backslash rest
  | letter escape => exact scan_letter escape rest
  | number first second third fourth =>
      simp only [List.cons_append, List.nil_append, scan, first, second, third, fourth, bind,
        Option.bind_some]
      cases scan rest <;> rfl

private theorem AllSpelledBy.scan_append {units : List TextUnit} {text : List Char}
    (spelled : AllSpelledBy units text) (rest : List Char) :
    scan (text ++ '"' :: rest) = some (units, rest) := by
  induction spelled with
  | nil => rw [List.nil_append, scan]
  | cons first _ induction =>
      rw [List.append_assoc, first.scan_append, induction]
      rfl

end TextUnit

/-! ## Values -/

namespace Json

def IsBlanks (text : List Char) : Prop := ∀ character ∈ text, isBlank character = true

/-- The name of a member with blanks around it, and the colon after it. -/
inductive NameSpelledBy : List TextUnit → List Char → Prop
  | between {before text after : List Char} {name : List TextUnit} (blankBefore : IsBlanks before)
      (spelled : TextUnit.AllSpelledBy name text) (blankAfter : IsBlanks after) :
      NameSpelledBy name (before ++ '"' :: (text ++ '"' :: (after ++ [':'])))

mutual

/-- A value without blanks around it. -/
inductive SpelledBy : Json → List Char → Prop
  | null : SpelledBy .null ['n', 'u', 'l', 'l']
  | yes : SpelledBy (.bool true) ['t', 'r', 'u', 'e']
  | no : SpelledBy (.bool false) ['f', 'a', 'l', 's', 'e']
  | number {numeral : Numeral} {letter : Char} (valid : numeral.IsValid)
      (exponent : letter = 'e' ∨ letter = 'E') :
      SpelledBy (.number numeral) (numeral.spelling letter)
  | string {units : List TextUnit} {text : List Char}
      (spelled : TextUnit.AllSpelledBy units text) :
      SpelledBy (.string units) ('"' :: (text ++ ['"']))
  | noItems {blanks : List Char} (blank : IsBlanks blanks) :
      SpelledBy (.array []) ('[' :: (blanks ++ [']']))
  | array {items : List Json} {text : List Char} (spelled : ItemsSpelledBy items text) :
      SpelledBy (.array items) ('[' :: (text ++ [']']))
  | noMembers {blanks : List Char} (blank : IsBlanks blanks) :
      SpelledBy (.object []) ('\x7b' :: (blanks ++ ['\x7d']))
  | object {members : List (List TextUnit × Json)} {text : List Char}
      (spelled : MembersSpelledBy members text) :
      SpelledBy (.object members) ('\x7b' :: (text ++ ['\x7d']))

/-- A value with blanks around it: an item of an array, or a whole text. -/
inductive PaddedBy : Json → List Char → Prop
  | between {json : Json} {before text after : List Char} (blankBefore : IsBlanks before)
      (spelled : SpelledBy json text) (blankAfter : IsBlanks after) :
      PaddedBy json (before ++ (text ++ after))

inductive ItemsSpelledBy : List Json → List Char → Prop
  | last {item : Json} {text : List Char} (padded : PaddedBy item text) :
      ItemsSpelledBy [item] text
  | more {item : Json} {items : List Json} {text later : List Char} (padded : PaddedBy item text)
      (others : ItemsSpelledBy items later) :
      ItemsSpelledBy (item :: items) (text ++ ',' :: later)

inductive MembersSpelledBy : List (List TextUnit × Json) → List Char → Prop
  | last {name : List TextUnit} {value : Json} {front text : List Char}
      (named : NameSpelledBy name front) (padded : PaddedBy value text) :
      MembersSpelledBy [(name, value)] (front ++ text)
  | more {name : List TextUnit} {value : Json} {members : List (List TextUnit × Json)}
      {front text later : List Char} (named : NameSpelledBy name front)
      (padded : PaddedBy value text) (others : MembersSpelledBy members later) :
      MembersSpelledBy ((name, value) :: members) (front ++ (text ++ ',' :: later))

end

def IsTextOf (text : String) (json : Json) : Prop := PaddedBy json text.toList

/-! ### Blanks -/

theorem isBlanks_nil : IsBlanks [] := nofun

private theorem skipBlanks_append {blanks : List Char} (blank : IsBlanks blanks)
    (text : List Char) :
    skipBlanks (blanks ++ text) = skipBlanks text := by
  induction blanks with
  | nil => rfl
  | cons character rest induction =>
      obtain ⟨first, others⟩ := List.forall_mem_cons.mp blank
      rw [List.cons_append, skipBlanks, if_pos first, induction others]

private theorem stops_of_isBlank {character : Char} (blank : isBlank character = true)
    (rest : List Char) : Numeral.Stops (character :: rest) := by
  have cases : ((character = ' ' ∨ character = '\t') ∨ character = '\n') ∨ character = '\r' := by
    simpa [isBlank] using blank
  intro head same
  cases same
  rcases cases with ((rfl | rfl) | rfl) | rfl <;> decide

private theorem stops_append {blanks rest : List Char} (blank : IsBlanks blanks)
    (stops : Numeral.Stops rest) : Numeral.Stops (blanks ++ rest) := by
  cases blanks with
  | nil => exact stops
  | cons character others => exact stops_of_isBlank (blank character List.mem_cons_self) _

private theorem stops_of_delimiter {delimiter : Char} (known : delimiter ∈ [',', ']', '\x7d'])
    (rest : List Char) : Numeral.Stops (delimiter :: rest) := by
  intro head same
  cases same
  rcases List.mem_cons.mp known with rfl | known
  · decide
  rcases List.mem_cons.mp known with rfl | known
  · decide
  · obtain rfl := List.mem_singleton.mp known
    decide

/-! ### What is read from a text

Each statement is about all texts that may follow. -/

/-- The text is read as the value, whatever follows it. -/
def Reads (json : Json) (text : List Char) : Prop :=
  ∀ bound rest, 2 * text.length ≤ bound → Numeral.Stops rest →
    scanValue bound (text ++ rest) = some (json, rest)

/-- The text is read as the value, up to blanks that are skipped later. -/
def ReadsPadded (json : Json) (text : List Char) : Prop :=
  ∀ bound rest, 2 * text.length ≤ bound → Numeral.Stops rest →
    ∃ after, scanValue bound (text ++ rest) = some (json, after) ∧
      skipBlanks after = skipBlanks rest

def ReadsItems (items : List Json) (text : List Char) : Prop :=
  ∀ bound rest, 2 * text.length + 1 ≤ bound →
    scanItems bound (text ++ ']' :: rest) = some (items, rest)

def ReadsMembers (members : List (List TextUnit × Json)) (text : List Char) : Prop :=
  ∀ bound rest, 2 * text.length + 1 ≤ bound →
    scanMembers bound (text ++ '\x7d' :: rest) = some (members, rest)

variable {json : Json} {text later : List Char}

private theorem exists_inner_bound {bound : Nat} {character : Char} {others : List Char}
    (fits : 2 * (character :: others).length ≤ bound) :
    ∃ inner, bound = inner + 1 ∧ 2 * others.length + 1 ≤ inner := by
  rw [List.length_cons] at fits
  exact ⟨bound - 1, by omega, by omega⟩

private theorem reads_null : Reads .null ['n', 'u', 'l', 'l'] := by
  intro bound rest fits _
  obtain ⟨bound, rfl, _⟩ := exists_inner_bound fits
  rfl

private theorem reads_true : Reads (.bool true) ['t', 'r', 'u', 'e'] := by
  intro bound rest fits _
  obtain ⟨bound, rfl, _⟩ := exists_inner_bound fits
  rfl

private theorem reads_false : Reads (.bool false) ['f', 'a', 'l', 's', 'e'] := by
  intro bound rest fits _
  obtain ⟨bound, rfl, _⟩ := exists_inner_bound fits
  rfl

private theorem reads_string {units : List TextUnit}
    (spelled : TextUnit.AllSpelledBy units text) :
    Reads (.string units) ('"' :: (text ++ ['"'])) := by
  intro bound rest fits _
  obtain ⟨bound, rfl, _⟩ := exists_inner_bound fits
  have scanned := spelled.scan_append rest
  simp only [List.cons_append, List.append_assoc, List.nil_append]
  rw [scanValue]
  simp only [skipBlanks, isBlank, Char.reduceEq, decide_false, Bool.or_false, Bool.false_eq_true,
    if_false, scanned, Option.map_some]

/-! ### Literals -/

def leaders : List Char := ['n', 't', 'f', '"', '[', '\x7b', ' ', '\t', '\n', '\r']

private theorem exists_head {numeral : Numeral} (valid : numeral.IsValid) (letter : Char) :
    ∃ character text, numeral.spelling letter = character :: text ∧ character ∉ leaders := by
  have digits : ∀ digit : Digit, digit.toChar ∉ leaders := by decide
  rw [Numeral.spelling]
  cases numeral.negative with
  | true => exact ⟨'-', _, rfl, by decide⟩
  | false =>
      cases written : numeral.whole with
      | nil => exact absurd written valid.1
      | cons digit others => exact ⟨digit.toChar, _, rfl, digits digit⟩

private theorem scanValue_of_literal {character : Char} (other : character ∉ leaders)
    (bound : Nat) (text : List Char) :
    scanValue (bound + 1) (character :: text) =
      (Numeral.scan (character :: text)).map fun (numeral, rest) => (.number numeral, rest) := by
  simp only [leaders, List.mem_cons, List.not_mem_nil, or_false, not_or] at other
  obtain ⟨null, yes, no, string, array, object, blanks⟩ := other
  have blank : isBlank character = false := by simp [isBlank, blanks]
  rw [scanValue, skipBlanks, if_neg (by simp [blank])]
  split
  next same => exact absurd (List.cons.inj same).1 null
  next same => exact absurd (List.cons.inj same).1 yes
  next same => exact absurd (List.cons.inj same).1 no
  next same => exact absurd (List.cons.inj same).1 string
  next same => exact absurd (List.cons.inj same).1 array
  next same => exact absurd (List.cons.inj same).1 object
  next => rfl

private theorem reads_number {numeral : Numeral} {letter : Char} (valid : numeral.IsValid)
    (known : letter = 'e' ∨ letter = 'E') : Reads (.number numeral) (numeral.spelling letter) := by
  intro bound rest fits stops
  have scanned := Numeral.scan_spelling_append valid known stops
  obtain ⟨character, text, spelled, other⟩ := exists_head valid letter
  rw [spelled] at fits scanned ⊢
  obtain ⟨bound, rfl, _⟩ := exists_inner_bound fits
  rw [List.cons_append] at scanned ⊢
  rw [scanValue_of_literal other, scanned]
  rfl

/-! ### Values with blanks -/

private theorem scanValue_blanks {blanks : List Char} (bound : Nat) (blank : IsBlanks blanks)
    (text : List Char) : scanValue bound (blanks ++ text) = scanValue bound text := by
  cases bound with
  | zero => rw [scanValue, scanValue]
  | succ bound => rw [scanValue, scanValue, skipBlanks_append blank]

private theorem Reads.padded {before after : List Char} (reads : Reads json text)
    (blankBefore : IsBlanks before) (blankAfter : IsBlanks after) :
    ReadsPadded json (before ++ (text ++ after)) := by
  intro bound rest fits stops
  rw [List.length_append, List.length_append] at fits
  refine ⟨after ++ rest, ?_, skipBlanks_append blankAfter rest⟩
  rw [List.append_assoc, scanValue_blanks bound blankBefore, List.append_assoc]
  exact reads bound (after ++ rest) (by omega) (stops_append blankAfter stops)

/-! ### Arrays -/

variable {items : List Json} {members : List (List TextUnit × Json)} {name : List TextUnit}

private theorem ReadsItems.last (reads : ReadsPadded json text) : ReadsItems [json] text := by
  intro bound rest fits
  obtain ⟨bound, rfl⟩ : ∃ inner, bound = inner + 1 := ⟨bound - 1, by omega⟩
  have stops := stops_of_delimiter (by decide : ']' ∈ [',', ']', '\x7d']) rest
  obtain ⟨after, read, skipped⟩ := reads bound (']' :: rest) (by omega) stops
  rw [scanItems, read]
  simp only [bind, Option.bind_some, skipped]
  rfl

private theorem ReadsItems.more (reads : ReadsPadded json text)
    (others : ReadsItems items later) :
    ReadsItems (json :: items) (text ++ ',' :: later) := by
  intro bound rest fits
  obtain ⟨bound, rfl⟩ : ∃ inner, bound = inner + 1 := ⟨bound - 1, by omega⟩
  rw [List.length_append, List.length_cons] at fits
  have stops := stops_of_delimiter (by decide : ',' ∈ [',', ']', '\x7d']) (later ++ ']' :: rest)
  obtain ⟨after, read, skipped⟩ := reads bound _ (by omega) stops
  rw [scanItems, List.append_assoc, List.cons_append, read]
  simp only [bind, Option.bind_some, skipped]
  change (scanItems bound (later ++ ']' :: rest)).bind _ = _
  rw [others bound rest (by omega)]
  rfl

/-- What closes an array is not the text of an item. -/
theorem skipBlanks_ne_of_readsItems (reads : ReadsItems items text) (rest after : List Char) :
    skipBlanks (text ++ ']' :: rest) ≠ ']' :: after := by
  intro closed
  have read := reads (2 * text.length + 2) rest (by omega)
  have unread : scanValue (2 * text.length + 1) (text ++ ']' :: rest) = none := by
    rw [scanValue, closed]
    rfl
  rw [scanItems, unread] at read
  cases read

private theorem scanValue_bracket (bound : Nat) (text : List Char) :
    scanValue (bound + 1) ('[' :: text) =
      match skipBlanks text with
      | ']' :: rest => some (.array [], rest)
      | _ => (scanItems bound text).map fun (items, rest) => (.array items, rest) := by
  rw [scanValue]
  rfl

private theorem reads_array (reads : ReadsItems items text) :
    Reads (.array items) ('[' :: (text ++ [']'])) := by
  intro bound rest fits _
  obtain ⟨bound, rfl, within⟩ := exists_inner_bound fits
  rw [List.length_append] at within
  have read := reads bound rest (by omega)
  have opened : '[' :: (text ++ [']']) ++ rest = '[' :: (text ++ ']' :: rest) := by simp
  rw [opened, scanValue_bracket]
  split
  next after closed => exact absurd closed (skipBlanks_ne_of_readsItems reads rest after)
  next => rw [read, Option.map_some]

private theorem reads_array_nil {blanks : List Char} (blank : IsBlanks blanks) :
    Reads (.array []) ('[' :: (blanks ++ [']'])) := by
  intro bound rest fits _
  obtain ⟨bound, rfl, _⟩ := exists_inner_bound fits
  have opened : '[' :: (blanks ++ [']']) ++ rest = '[' :: (blanks ++ ']' :: rest) := by simp
  rw [opened, scanValue_bracket, skipBlanks_append blank]
  rfl

/-! ### Objects -/

private theorem NameSpelledBy.scanName_append (named : NameSpelledBy name text)
    (rest : List Char) :
    scanName (text ++ rest) = some (name, rest) := by
  cases named with
  | @between before text after _ blankBefore spelled blankAfter =>
      have scanned := spelled.scan_append (after ++ ':' :: rest)
      have opened : before ++ '"' :: (text ++ '"' :: (after ++ [':'])) ++ rest =
          before ++ '"' :: (text ++ '"' :: (after ++ ':' :: rest)) := by simp
      have first : skipBlanks ('"' :: (text ++ '"' :: (after ++ ':' :: rest))) =
          '"' :: (text ++ '"' :: (after ++ ':' :: rest)) := rfl
      rw [opened, scanName, skipBlanks_append blankBefore, first]
      change (TextUnit.scan (text ++ '"' :: (after ++ ':' :: rest))).bind _ = _
      simp only [scanned, Option.bind_some, skipBlanks_append blankAfter]
      rfl

private theorem ReadsMembers.last {front : List Char} (named : NameSpelledBy name front)
    (reads : ReadsPadded json text) : ReadsMembers [(name, json)] (front ++ text) := by
  intro bound rest fits
  obtain ⟨bound, rfl⟩ : ∃ inner, bound = inner + 1 := ⟨bound - 1, by omega⟩
  rw [List.length_append] at fits
  have stops := stops_of_delimiter (by decide : '\x7d' ∈ [',', ']', '\x7d']) rest
  obtain ⟨after, read, skipped⟩ := reads bound ('\x7d' :: rest) (by omega) stops
  rw [scanMembers, List.append_assoc, named.scanName_append]
  simp only [bind, Option.bind_some, read, skipped]
  rfl

private theorem ReadsMembers.more {front : List Char} (named : NameSpelledBy name front)
    (reads : ReadsPadded json text) (others : ReadsMembers members later) :
    ReadsMembers ((name, json) :: members) (front ++ (text ++ ',' :: later)) := by
  intro bound rest fits
  obtain ⟨bound, rfl⟩ : ∃ inner, bound = inner + 1 := ⟨bound - 1, by omega⟩
  rw [List.length_append, List.length_append, List.length_cons] at fits
  have stops := stops_of_delimiter (by decide : ',' ∈ [',', ']', '\x7d'])
    (later ++ '\x7d' :: rest)
  obtain ⟨after, read, skipped⟩ := reads bound _ (by omega) stops
  rw [scanMembers, List.append_assoc, named.scanName_append, List.append_assoc, List.cons_append]
  simp only [bind, Option.bind_some, read, skipped]
  change (scanMembers bound (later ++ '\x7d' :: rest)).bind _ = _
  rw [others bound rest (by omega)]
  rfl

private theorem skipBlanks_ne_of_readsMembers (reads : ReadsMembers members text)
    (rest after : List Char) : skipBlanks (text ++ '\x7d' :: rest) ≠ '\x7d' :: after := by
  intro closed
  have read := reads (2 * text.length + 1) rest (by omega)
  have unnamed : scanName (text ++ '\x7d' :: rest) = none := by
    rw [scanName, closed]
    rfl
  rw [scanMembers, unnamed] at read
  cases read

private theorem scanValue_brace (bound : Nat) (text : List Char) :
    scanValue (bound + 1) ('\x7b' :: text) =
      match skipBlanks text with
      | '\x7d' :: rest => some (.object [], rest)
      | _ => (scanMembers bound text).map fun (members, rest) => (.object members, rest) := by
  rw [scanValue]
  rfl

private theorem reads_object (reads : ReadsMembers members text) :
    Reads (.object members) ('\x7b' :: (text ++ ['\x7d'])) := by
  intro bound rest fits _
  obtain ⟨bound, rfl, within⟩ := exists_inner_bound fits
  rw [List.length_append] at within
  have read := reads bound rest (by omega)
  have opened : '\x7b' :: (text ++ ['\x7d']) ++ rest = '\x7b' :: (text ++ '\x7d' :: rest) := by
    simp
  rw [opened, scanValue_brace]
  split
  next after closed => exact absurd closed (skipBlanks_ne_of_readsMembers reads rest after)
  next => rw [read, Option.map_some]

private theorem reads_object_nil {blanks : List Char} (blank : IsBlanks blanks) :
    Reads (.object []) ('\x7b' :: (blanks ++ ['\x7d'])) := by
  intro bound rest fits _
  obtain ⟨bound, rfl, _⟩ := exists_inner_bound fits
  have opened : '\x7b' :: (blanks ++ ['\x7d']) ++ rest = '\x7b' :: (blanks ++ '\x7d' :: rest) := by
    simp
  rw [opened, scanValue_brace, skipBlanks_append blank]
  rfl

/-! ### Whole texts -/

mutual

/-- What is spelled by the grammar is read, whatever follows it. -/
theorem SpelledBy.reads : {json : Json} → {text : List Char} → SpelledBy json text →
    Reads json text
  | _, _, .null => reads_null
  | _, _, .yes => reads_true
  | _, _, .no => reads_false
  | _, _, .number valid known => reads_number valid known
  | _, _, .string spelled => reads_string spelled
  | _, _, .noItems blank => reads_array_nil blank
  | _, _, .array spelled => reads_array spelled.reads
  | _, _, .noMembers blank => reads_object_nil blank
  | _, _, .object spelled => reads_object spelled.reads

theorem PaddedBy.reads : {json : Json} → {text : List Char} → PaddedBy json text →
    ReadsPadded json text
  | _, _, .between blankBefore spelled blankAfter => spelled.reads.padded blankBefore blankAfter

theorem ItemsSpelledBy.reads : {items : List Json} → {text : List Char} →
    ItemsSpelledBy items text → ReadsItems items text
  | _, _, .last padded => .last padded.reads
  | _, _, .more padded others => .more padded.reads others.reads

theorem MembersSpelledBy.reads : {members : List (List TextUnit × Json)} → {text : List Char} →
    MembersSpelledBy members text → ReadsMembers members text
  | _, _, .last named padded => .last named padded.reads
  | _, _, .more named padded others => .more named padded.reads others.reads

end

theorem IsTextOf.parse? {text : String} (written : IsTextOf text json) :
    parse? text = some json := by
  obtain ⟨after, read, skipped⟩ :=
    PaddedBy.reads written (scanBound text.toList) [] (Nat.le_add_right _ _) nofun
  rw [List.append_nil] at read
  have last : skipBlanks after = [] := skipped
  simp only [Json.parse?, parseChars?, read, bind, Option.bind_some, last, if_true]
  rfl

end Json

end EyesFree
