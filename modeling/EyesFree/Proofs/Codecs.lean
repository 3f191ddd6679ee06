import EyesFree.Metadata.Key
import EyesFree.Proofs.Spelling
import Mathlib.Data.List.Forall2

namespace EyesFree

/-! Values whose JSON form is read as the same value. What is built of such values, a list,
a record or a map, is such a value again. -/

/-! ## Objects with given members -/

theorem exists_of_forall₂ {α β : Type} {relation : α → β → Prop} {left : List α} {right : List β}
    (related : List.Forall₂ relation left right) {value : α} (inside : value ∈ left) :
    ∃ other ∈ right, relation value other := by
  induction related with
  | nil => cases inside
  | @cons first second _ _ same _ induction =>
      rcases List.mem_cons.mp inside with rfl | inside
      · exact ⟨second, List.mem_cons_self, same⟩
      · obtain ⟨other, found, holds⟩ := induction inside
        exact ⟨other, List.mem_cons_of_mem _ found, holds⟩

theorem mapM_eq_some_iff {α β : Type} {read : α → Option β} {values : List α} {kept : List β} :
    values.mapM read = some kept ↔
      List.Forall₂ (fun value one => read value = some one) values kept := by
  induction values generalizing kept with
  | nil => simp [eq_comm]
  | cons value others induction =>
      rw [List.mapM_cons, List.forall₂_cons_left_iff]
      simp only [← induction]
      cases read value with
      | none => simp
      | some one => cases others.mapM read <;> simp [eq_comm]

theorem exists_mapM {α β : Type} {read : α → Option β} {relation : α → β → Prop} {values : List α}
    (each : ∀ value ∈ values, ∃ one, read value = some one ∧ relation value one) :
    ∃ kept, values.mapM read = some kept ∧ List.Forall₂ relation values kept := by
  induction values with
  | nil => exact ⟨[], rfl, .nil⟩
  | cons value others induction =>
      obtain ⟨⟨one, read, holds⟩, rest⟩ := List.forall_mem_cons.mp each
      obtain ⟨kept, readRest, holdsRest⟩ := induction rest
      exact ⟨one :: kept, by simp [read, readRest], .cons holds holdsRest⟩

theorem mapM_eq_self_iff {α : Type} {read : α → Option α} {values : List α} :
    values.mapM read = some values ↔ ∀ value ∈ values, read value = some value := by
  rw [mapM_eq_some_iff, List.forall₂_same]

theorem mapM_map_eq_some {α β γ : Type} {read : β → Option γ} {write : α → β} {kept : α → γ}
    {values : List α} (readsBack : ∀ value ∈ values, read (write value) = some (kept value)) :
    (values.map write).mapM read = some (values.map kept) := by
  rw [mapM_eq_some_iff, List.forall₂_map_left_iff, List.forall₂_map_right_iff, List.forall₂_same]
  exact readsBack

theorem mapM_map_eq_self_iff {α β : Type} {read : β → Option α} {write : α → β}
    {values : List α} :
    (values.map write).mapM read = some values ↔
      ∀ value ∈ values, read (write value) = some value := by
  rw [List.mapM_map, mapM_eq_self_iff]
  rfl

namespace Json

variable {members listed : List (String × Json)} {names : List String}

theorem filter_name {member : String × Json} (distinct : (members.map (·.1)).Nodup)
    (inside : member ∈ members) : members.filter (·.1 = member.1) = [member] := by
  induction members with
  | nil => cases inside
  | cons first rest induction =>
      rw [List.map_cons, List.nodup_cons] at distinct
      obtain ⟨fresh, others⟩ := distinct
      rcases List.mem_cons.mp inside with rfl | inside
      · have none : rest.filter (·.1 = member.1) = [] := by
          refine List.filter_eq_nil_iff.mpr fun other found same => fresh ?_
          rw [← of_decide_eq_true same]
          exact List.mem_map_of_mem found
        simp [none]
      · have different : first.1 ≠ member.1 := fun same =>
          fresh (same ▸ List.mem_map_of_mem inside)
        rw [List.filter_cons_of_neg (by simpa using different), induction others inside]

/-- Some of the members of an object, by their names. -/
theorem membersNamed?_record (distinct : (members.map (·.1)).Nodup)
    (inside : ∀ member ∈ listed, member ∈ members) (named : listed.map (·.1) = names) :
    membersNamed? names (members.map fun member => (TextUnit.ofString member.1, member.2)) =
      some (listed.map fun member => some member.2) := by
  subst named
  rw [membersNamed?, mapM_map_eq_self_iff.mpr]
  · refine mapM_map_eq_some fun member found => ?_
    rw [filter_name distinct (inside member found)]
  · intro member _
    simp

end Json

/-! ## Values that are read back -/

/-- The JSON form of a value is regular, and is read as the value wherever it stands. -/
structure Faithful {α : Type} [Encode α] [Decode α] (height : Nat) (value : α) : Prop where
  regular : (encode value).Regular height
  decoded : ∀ position, Decode.decode position (encode value) = some value

theorem decode_option {α : Type} [Decode α] {json : Json} (written : json ≠ .null)
    (position : Position) :
    (Decode.decode position json : Option (Option α)) =
      (Decode.decode position json).map some := by
  cases json with
  | null => exact absurd rfl written
  | _ => rfl

namespace Faithful

section

variable {α : Type} [Encode α] [Decode α] {height : Nat} {value : α}

theorem field? (faithful : Faithful height value) (position : Position) :
    Json.field? position (some (encode value)) = some value :=
  faithful.decoded position.inner

theorem fieldOr? (faithful : Faithful height value) (position : Position) (absent : α) :
    Json.fieldOr? position absent (some (encode value)) = some value :=
  faithful.decoded position.inner

theorem map {β : Type} (faithful : Faithful height value) (wrap : α → β) (position : Position) :
    (Decode.decode position (encode value)).map wrap = some (wrap value) := by
  rw [faithful.decoded, Option.map_some]

theorem list {values : List α} (faithful : ∀ value ∈ values, Faithful height value) :
    Faithful (height + 1) values where
  regular := by
    refine .array fun item found => ?_
    obtain ⟨value, inside, rfl⟩ := List.mem_map.mp found
    exact (faithful value inside).regular
  decoded position :=
    mapM_map_eq_self_iff.mpr fun value inside => (faithful value inside).decoded position.inner

theorem option {value : Option α} (faithful : ∀ inner ∈ value, Faithful height inner)
    (written : ∀ inner ∈ value, encode inner ≠ .null) : Faithful height value := by
  cases value with
  | none => exact ⟨.null, fun _ => rfl⟩
  | some inner =>
      refine ⟨(faithful inner rfl).regular, fun position => ?_⟩
      change Decode.decode position (encode inner) = _
      rw [decode_option (written inner rfl), (faithful inner rfl).map]

theorem record {members : List (String × Json)} (written : encode value = .record members)
    (distinct : (members.map (·.1)).Nodup) (regular : ∀ member ∈ members, member.2.Regular height)
    {build : Position → List (Option Json) → Option α}
    (reads : ∀ position, Decode.decode position (.record members) =
      ((Json.record members).fields? (members.map (·.1))).bind (build position))
    (built : ∀ position, build position (members.map fun member => some member.2) = some value) :
    Faithful (height + 1) value := by
  refine ⟨written ▸ .record regular, fun position => ?_⟩
  have fields : (Json.record members).fields? (members.map (·.1)) =
      some (members.map fun member => some member.2) :=
    Json.membersNamed?_record distinct (fun _ inside => inside) rfl
  rw [written, reads, fields]
  exact built position

end

variable {height : Nat}

theorem bool (value : Bool) : Faithful height value := ⟨.bool value, fun _ => rfl⟩

theorem string (value : String) : Faithful height value :=
  ⟨.ofString value, fun _ => TextUnit.toString?_ofString value⟩

/-! ### Integers -/

/-- A number is read back if its type has it between bounds that are
themselves read as integers. -/
theorem integer {α : Type} [Encode α] [Decode α] {value : α} {number lowest highest : Int}
    {convert : Int → α} (low : -0x8000000000000000 ≤ lowest) (high : highest ≤ 0xFFFFFFFFFFFFFFFF)
    (encoded : encode value = Json.ofInt number)
    (decoded : ∀ position, Decode.decode position = decodeInteger lowest highest convert)
    (inside : lowest ≤ number ∧ number ≤ highest) (back : convert number = value) :
    Faithful height value where
  regular := by
    rw [encoded]
    exact .ofInt (Int.le_trans low inside.1) (Int.le_trans inside.2 high)
  decoded position := by
    have read : (Numeral.ofInt number).integer? = some number :=
      Numeral.integer?_ofInt (Int.le_trans low inside.1) (Int.le_trans inside.2 high)
    rw [decoded, encoded, ← back]
    simp only [Json.ofInt, decodeInteger, read, bind, Option.bind_some, inside, and_self, if_true]
    rfl

theorem int32 (value : Int32) : Faithful height value :=
  .integer (by decide) (by decide) rfl (fun _ => rfl) ⟨value.minValue_le_toInt, value.toInt_le⟩
    (Int32.ofInt_toInt value)

theorem int64 (value : Int64) : Faithful height value :=
  .integer (by decide) (by decide) rfl (fun _ => rfl) ⟨value.minValue_le_toInt, value.toInt_le⟩
    (Int64.ofInt_toInt value)

theorem uint32 (value : UInt32) : Faithful height value :=
  .integer (by decide) (by decide) rfl (fun _ => rfl)
    ⟨Int.natCast_nonneg _, Int.le_sub_one_of_lt (Int.ofNat_lt.mpr value.toNat_lt_size)⟩
    UInt32.ofNat_toNat

theorem uint64 (value : UInt64) : Faithful height value :=
  .integer (by decide) (by decide) rfl (fun _ => rfl)
    ⟨Int.natCast_nonneg _, Int.le_sub_one_of_lt (Int.ofNat_lt.mpr value.toNat_lt_size)⟩
    UInt64.ofNat_toNat

end Faithful

/-! ### Real numbers -/

namespace Single

structure Printable (value : Single) : Prop where
  finite : value.isFinite = true
  read : decodeText Single (encode value).compact = some value

variable {value : Single}

theorem encode_of_isFinite (finite : value.isFinite = true) :
    encode value = .number (.ofSingle value) := if_pos finite

theorem encode_of_infinite (infinite : value.isFinite = false) : encode value = .null :=
  if_neg (Bool.eq_false_iff.mp infinite)

private theorem decodeText_encode (finite : value.isFinite = true) :
    decodeText Single (encode value).compact = (Numeral.ofSingle value).single? := by
  have parsed := (Json.Legible.number (Numeral.isValid_ofSingle value)).parse?_compact
  rw [encode_of_isFinite finite, decodeText, parsed]
  rfl

private theorem printable_iff :
    value.Printable ↔ value.isFinite = true ∧ (Numeral.ofSingle value).single? = some value := by
  constructor
  · intro ⟨finite, read⟩
    exact ⟨finite, decodeText_encode finite ▸ read⟩
  · intro ⟨finite, read⟩
    exact ⟨finite, (decodeText_encode finite).trans read⟩

instance (value : Single) : Decidable value.Printable := decidable_of_iff' _ printable_iff

end Single

theorem Faithful.single {height : Nat} {value : Single} (printable : value.Printable) :
    Faithful height value := by
  obtain ⟨finite, read⟩ := Single.printable_iff.mp printable
  have within : (Numeral.ofSingle value).meaning?.isSome = true := by
    have denotes := Option.isSome_of_eq_some read
    rwa [Numeral.single?, Option.isSome_map] at denotes
  constructor
  · rw [Single.encode_of_isFinite finite]
    exact .number (Numeral.isValid_ofSingle value) within
  · intro position
    rw [Single.encode_of_isFinite finite]
    exact read

/-! ### Names -/

theorem Json.variant?_name {α : Type} [Enumeration α] {name : α → String}
    (distinct : Function.Injective name) (position : Position) (value : α) :
    variant? name position (Json.ofString (name value)) = some value := by
  rw [variant?, Json.ofString, variantName?, TextUnit.toString?_ofString]
  exact Enumeration.named?_name distinct value

theorem Faithful.key {κ : Type} [MetadataKey κ] {height : Nat} (key : κ) : Faithful height key :=
  ⟨.ofString _, fun position => Json.variant?_name MetadataKey.name_injective position key⟩

theorem Faithful.keySet {κ : Type} [MetadataKey κ] {height : Nat} (keys : KeySet κ) :
    Faithful (height + 1) keys := by
  have list : Faithful (height + 1) keys.toList := .list fun key _ => .key key
  refine ⟨list.regular, fun position => ?_⟩
  change (Decode.decode position (encode keys.toList)).map KeySet.ofList = _
  rw [list.decoded, Option.map_some, KeySet.ofList_toList]

end EyesFree
