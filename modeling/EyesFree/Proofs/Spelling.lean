import EyesFree.Json.Codec
import EyesFree.Json.Printer
import EyesFree.Proofs.Grammar

namespace EyesFree

/-! Text of JSON values is read back as what it was written for, whether it stands on one
line or on several: both are texts of the value by the grammar. -/

/-! ## Strings -/

namespace TextUnit

private theorem hexValue?_hexDigit :
    ∀ digit < 16, hexValue? (hexDigit digit) = some digit := by decide

private theorem spelledBy_escapeNumber {unit : Nat} (fits : unit < 65536) :
    (ofNumber unit).SpelledBy (escapeNumber unit) := by
  have digits : 4096 * (unit / 4096 % 16) + 256 * (unit / 256 % 16) + 16 * (unit / 16 % 16) +
      unit % 16 = unit := by omega
  have read (number : Nat) : hexValue? (hexDigit (number % 16)) = some (number % 16) :=
    hexValue?_hexDigit _ (Nat.mod_lt _ (by decide))
  have spelled := SpelledBy.number (read (unit / 4096)) (read (unit / 256)) (read (unit / 16))
    (read unit)
  rwa [digits] at spelled

private theorem spelledBy_escapeChar (character : Char) :
    (scalar character).SpelledBy (escapeChar character) := by
  unfold escapeChar
  -- characters that have a letter of their own, then those that have a number
  iterate 7
    split
    next same =>
      subst same
      exact .letter rfl
  split
  next control =>
    have number : ofNumber character.toNat = .scalar character := by
      rw [ofNumber, if_neg (by omega), if_neg (by omega), Char.ofNat_toNat]
    exact number ▸ spelledBy_escapeNumber (by omega)
  next quote backslash _ _ _ _ _ printable => exact .plain (by omega) quote backslash

private theorem ofNumber_leading (offset : Fin 1024) :
    ofNumber (0xD800 + offset.val) = .leading offset := by
  rw [ofNumber, if_pos (by omega)]
  congr 1
  exact Fin.ext (by simp only [Fin.ofNat]; omega)

private theorem ofNumber_trailing (offset : Fin 1024) :
    ofNumber (0xDC00 + offset.val) = .trailing offset := by
  rw [ofNumber, if_neg (by omega), if_pos (by omega)]
  congr 1
  exact Fin.ext (by simp only [Fin.ofNat]; omega)

private theorem spelledBy_escape (unit : TextUnit) : unit.SpelledBy unit.escape := by
  cases unit with
  | scalar character => exact spelledBy_escapeChar character
  | leading offset =>
      have spelled := @spelledBy_escapeNumber (0xD800 + offset.val) (by omega)
      rwa [ofNumber_leading] at spelled
  | trailing offset =>
      have spelled := @spelledBy_escapeNumber (0xDC00 + offset.val) (by omega)
      rwa [ofNumber_trailing] at spelled

private theorem allSpelledBy_escape (text : List TextUnit) :
    AllSpelledBy text (text.flatMap escape) := by
  induction text with
  | nil => exact .nil
  | cons unit others induction => exact .cons (spelledBy_escape unit) induction

end TextUnit

/-! ## Values -/

namespace Json

/-- Literals are valid and within range, strings have a text, and the nesting is limited. -/
inductive Regular : (height : Nat) → Json → Prop
  | null {height : Nat} : Regular height .null
  | bool {height : Nat} (value : Bool) : Regular height (.bool value)
  | number {height : Nat} {numeral : Numeral} (valid : numeral.IsValid)
      (within : numeral.meaning?.isSome) : Regular height (.number numeral)
  | string {height : Nat} {text : List TextUnit} (written : (TextUnit.toString? text).isSome) :
      Regular height (.string text)
  | array {height : Nat} {items : List Json} (regular : ∀ item ∈ items, Regular height item) :
      Regular (height + 1) (.array items)
  | object {height : Nat} {members : List (List TextUnit × Json)}
      (named : ∀ member ∈ members, (TextUnit.toString? member.1).isSome)
      (regular : ∀ member ∈ members, Regular height member.2) :
      Regular (height + 1) (.object members)

inductive Legible : Json → Prop
  | null : Legible .null
  | bool (value : Bool) : Legible (.bool value)
  | number {numeral : Numeral} (valid : numeral.IsValid) : Legible (.number numeral)
  | string (text : List TextUnit) : Legible (.string text)
  | array {items : List Json} (legible : ∀ item ∈ items, Legible item) : Legible (.array items)
  | object {members : List (List TextUnit × Json)}
      (legible : ∀ member ∈ members, Legible member.2) : Legible (.object members)

theorem Regular.legible {height : Nat} {json : Json} (regular : json.Regular height) :
    json.Legible := by
  induction regular with
  | null => exact .null
  | bool value => exact .bool value
  | number valid _ => exact .number valid
  | string _ => exact .string _
  | array _ induction => exact .array induction
  | object _ _ induction => exact .object induction

/-! ### Blanks -/

private theorem isBlanks_lineBreak (level : Nat) : IsBlanks (lineBreak level) := by
  intro character member
  rcases List.mem_cons.mp member with rfl | member
  · rfl
  · rw [List.eq_of_mem_replicate member]
    rfl

private theorem isBlanks_blank : IsBlanks [' '] := by simp [IsBlanks, isBlank]

variable {json : Json} {text blanks : List Char}

private theorem SpelledBy.padded (spelled : SpelledBy json text) : PaddedBy json text := by
  simpa using PaddedBy.between isBlanks_nil spelled isBlanks_nil

private theorem SpelledBy.after_blanks (spelled : SpelledBy json text) (blank : IsBlanks blanks) :
    PaddedBy json (blanks ++ text) := by
  simpa using PaddedBy.between blank spelled isBlanks_nil

private theorem nameSpelledBy_quote (blank : IsBlanks blanks) (name : List TextUnit) :
    NameSpelledBy name (blanks ++ (TextUnit.quote name ++ [':'])) := by
  simpa [TextUnit.quote] using
    NameSpelledBy.between blank (TextUnit.allSpelledBy_escape name) isBlanks_nil

/-! ### On one line -/

private theorem spelledBy_bool (value : Bool) :
    SpelledBy (.bool value) (toChars (.bool value)) := by
  cases value with
  | true => exact .yes
  | false => exact .no

private theorem spelledBy_number {numeral : Numeral} (valid : numeral.IsValid) :
    SpelledBy (.number numeral) numeral.toChars :=
  numeral.spelling_small ▸ .number valid (.inl rfl)

private theorem itemsSpelledBy_toChars : ∀ {items : List Json}, items ≠ [] →
    (∀ item ∈ items, SpelledBy item item.toChars) → ItemsSpelledBy items (itemsToChars items)
  | [], written, _ => absurd rfl written
  | [item], _, spelled => .last (spelled item List.mem_cons_self).padded
  | item :: next :: rest, _, spelled =>
      .more (spelled item List.mem_cons_self).padded
        (itemsSpelledBy_toChars (List.cons_ne_nil next rest) fun item member =>
          spelled item (List.mem_cons_of_mem _ member))

private theorem membersSpelledBy_toChars :
    ∀ {members : List (List TextUnit × Json)}, members ≠ [] →
    (∀ member ∈ members, SpelledBy member.2 member.2.toChars) →
    MembersSpelledBy members (membersToChars members)
  | [], written, _ => absurd rfl written
  | [(name, value)], _, spelled => by
      have last := MembersSpelledBy.last (nameSpelledBy_quote isBlanks_nil name)
        (spelled (name, value) List.mem_cons_self).padded
      simpa [membersToChars] using last
  | (name, value) :: next :: rest, _, spelled => by
      have others := membersSpelledBy_toChars (List.cons_ne_nil next rest) fun member inside =>
        spelled member (List.mem_cons_of_mem _ inside)
      have all := MembersSpelledBy.more (nameSpelledBy_quote isBlanks_nil name)
        (spelled (name, value) List.mem_cons_self).padded others
      simpa [membersToChars] using all

theorem Legible.spelledBy_toChars {json : Json} (legible : json.Legible) :
    json.SpelledBy json.toChars := by
  induction legible with
  | null => exact .null
  | bool value => exact spelledBy_bool value
  | number valid => exact spelledBy_number valid
  | string text => exact .string (TextUnit.allSpelledBy_escape text)
  | @array items _ induction =>
      cases items with
      | nil => exact .noItems isBlanks_nil
      | cons item rest => exact .array (itemsSpelledBy_toChars (List.cons_ne_nil _ _) induction)
  | @object members _ induction =>
      cases members with
      | nil => exact .noMembers isBlanks_nil
      | cons member rest =>
          exact .object (membersSpelledBy_toChars (List.cons_ne_nil _ _) induction)

/-! ### On several lines -/

private theorem itemsSpelledBy_prettyItems (level : Nat) (blank : IsBlanks blanks) :
    ∀ {items : List Json}, items ≠ [] →
      (∀ item ∈ items, SpelledBy item (prettyChars level item)) →
      ItemsSpelledBy items (prettyItems level items ++ blanks)
  | [], written, _ => absurd rfl written
  | [item], _, spelled => by
      have last := ItemsSpelledBy.last (.between (isBlanks_lineBreak level)
        (spelled item List.mem_cons_self) blank)
      simpa [prettyItems] using last
  | item :: next :: rest, _, spelled => by
      have others := itemsSpelledBy_prettyItems level blank (List.cons_ne_nil next rest)
        fun item member => spelled item (List.mem_cons_of_mem _ member)
      have all := ItemsSpelledBy.more
        ((spelled item List.mem_cons_self).after_blanks (isBlanks_lineBreak level)) others
      simpa [prettyItems] using all

private theorem membersSpelledBy_prettyMembers (level : Nat) (blank : IsBlanks blanks) :
    ∀ {members : List (List TextUnit × Json)}, members ≠ [] →
      (∀ member ∈ members, SpelledBy member.2 (prettyChars level member.2)) →
      MembersSpelledBy members (prettyMembers level members ++ blanks)
  | [], written, _ => absurd rfl written
  | [(name, value)], _, spelled => by
      have last := MembersSpelledBy.last (nameSpelledBy_quote (isBlanks_lineBreak level) name)
        (.between isBlanks_blank (spelled (name, value) List.mem_cons_self) blank)
      simpa [prettyMembers] using last
  | (name, value) :: next :: rest, _, spelled => by
      have others := membersSpelledBy_prettyMembers level blank (List.cons_ne_nil next rest)
        fun member inside => spelled member (List.mem_cons_of_mem _ inside)
      have all := MembersSpelledBy.more (nameSpelledBy_quote (isBlanks_lineBreak level) name)
        ((spelled (name, value) List.mem_cons_self).after_blanks isBlanks_blank) others
      simpa [prettyMembers] using all

private theorem Legible.spelledBy_prettyChars {json : Json} (legible : json.Legible)
    (level : Nat) :
    json.SpelledBy (prettyChars level json) := by
  induction legible generalizing level with
  | null => exact .null
  | bool value => exact spelledBy_bool value
  | number valid => exact spelledBy_number valid
  | string text => exact .string (TextUnit.allSpelledBy_escape text)
  | @array items _ induction =>
      cases items with
      | nil => exact .noItems isBlanks_nil
      | cons item rest =>
          have items := itemsSpelledBy_prettyItems (level + 1) (isBlanks_lineBreak level)
            (List.cons_ne_nil item rest) fun item member => induction item member (level + 1)
          simpa only [prettyChars] using SpelledBy.array items
  | @object members _ induction =>
      cases members with
      | nil => exact .noMembers isBlanks_nil
      | cons member rest =>
          have members := membersSpelledBy_prettyMembers (level + 1) (isBlanks_lineBreak level)
            (List.cons_ne_nil member rest) fun member inside =>
              induction member inside (level + 1)
          simpa only [prettyChars] using SpelledBy.object members

/-! ### Whole texts -/

theorem SpelledBy.isTextOf (spelled : SpelledBy json text) :
    IsTextOf (String.ofList text) json := by
  rw [IsTextOf, String.toList_ofList]
  exact spelled.padded

theorem Legible.parse?_compact {json : Json} (legible : json.Legible) :
    parse? json.compact = some json :=
  legible.spelledBy_toChars.isTextOf.parse?

theorem Legible.parse?_pretty {json : Json} (legible : json.Legible) :
    parse? json.pretty = some json :=
  (legible.spelledBy_prettyChars 0).isTextOf.parse?

/-! ## Values that can be set aside -/

private theorem itemsExact_iff {items : List Json} :
    itemsExact items = true ↔ ∀ item ∈ items, item.isExact = true := by
  induction items with
  | nil => simp [itemsExact]
  | cons item rest induction => simp [itemsExact, induction]

private theorem membersExact_iff {members : List (List TextUnit × Json)} :
    membersExact members = true ↔ ∀ member ∈ members,
      (TextUnit.toString? member.1).isSome = true ∧ member.2.isExact = true := by
  induction members with
  | nil => simp [membersExact]
  | cons member rest induction => simp [membersExact, induction]

private theorem itemsDepth_le {items : List Json} {height : Nat}
    (within : ∀ item ∈ items, item.depth ≤ height) : itemsDepth items ≤ height := by
  induction items with
  | nil => exact Nat.zero_le _
  | cons item rest induction =>
      obtain ⟨first, others⟩ := List.forall_mem_cons.mp within
      exact Nat.max_le.mpr ⟨first, induction others⟩

private theorem membersDepth_le {members : List (List TextUnit × Json)} {height : Nat}
    (within : ∀ member ∈ members, member.2.depth ≤ height) : membersDepth members ≤ height := by
  induction members with
  | nil => exact Nat.zero_le _
  | cons member rest induction =>
      obtain ⟨first, others⟩ := List.forall_mem_cons.mp within
      exact Nat.max_le.mpr ⟨first, induction others⟩

private theorem Regular.isExact {height : Nat} {json : Json} (regular : json.Regular height) :
    json.isExact = true := by
  induction regular with
  | null => rfl
  | bool _ => rfl
  | number _ within => exact within
  | string written => exact written
  | array _ induction => exact itemsExact_iff.mpr induction
  | object named _ induction =>
      exact membersExact_iff.mpr fun member inside => ⟨named member inside, induction member inside⟩

private theorem Regular.depth_le {height : Nat} {json : Json} (regular : json.Regular height) :
    json.depth ≤ height := by
  induction regular with
  | null => exact Nat.zero_le _
  | bool _ => exact Nat.zero_le _
  | number _ _ => exact Nat.zero_le _
  | string _ => exact Nat.zero_le _
  | array _ induction =>
      have inner := itemsDepth_le induction
      rw [depth]
      omega
  | object _ _ induction =>
      have inner := membersDepth_le induction
      rw [depth]
      omega

/-- A regular value that is not nested too deep can be set aside. -/
theorem Regular.canBeRetained {height : Nat} {json : Json} (regular : json.Regular height)
    {depth : Nat} (within : depth + height ≤ depthLimit) : json.canBeRetained depth = true := by
  have low := regular.depth_le
  rw [Json.canBeRetained, regular.isExact, Bool.true_and, decide_eq_true_eq]
  omega

theorem Regular.record {height : Nat} {members : List (String × Json)}
    (regular : ∀ member ∈ members, member.2.Regular height) :
    (Json.record members).Regular (height + 1) := by
  refine .object (fun member inside => ?_) fun member inside => ?_
  · obtain ⟨written, _, rfl⟩ := List.mem_map.mp inside
    simp
  · obtain ⟨written, listed, rfl⟩ := List.mem_map.mp inside
    exact regular written listed

theorem Regular.ofString {height : Nat} (text : String) : (Json.ofString text).Regular height :=
  .string (by simp)

theorem Regular.ofInt {height : Nat} {value : Int} (low : -0x8000000000000000 ≤ value)
    (high : value ≤ 0xFFFFFFFFFFFFFFFF) : (Json.ofInt value).Regular height :=
  .number (Numeral.isValid_ofInt value) (Numeral.isSome_meaning?_ofInt low high)

end Json

end EyesFree
