import EyesFree.Proofs.RoundTrip

namespace EyesFree

/-! Which documents with real numbers are read back from their text: exactly those all of
whose numbers can be printed. A number that is not finite is written as null, which no
reader takes for a number. -/

/-! ## What is written can be parsed -/

namespace Json.Legible

private theorem record {members : List (String × Json)}
    (legible : ∀ member ∈ members, member.2.Legible) : (Json.record members).Legible := by
  refine .object fun member inside => ?_
  obtain ⟨written, listed, rfl⟩ := List.mem_map.mp inside
  exact legible written listed

private theorem ofString (text : String) : (Json.ofString text).Legible := .string _

private theorem ofInt (value : Int) :
    (Json.ofInt value).Legible := .number (Numeral.isValid_ofInt value)

private theorem list {α : Type} [Encode α] {values : List α}
    (legible : ∀ value ∈ values, (encode value).Legible) : (encode values).Legible := by
  refine .array fun item found => ?_
  obtain ⟨value, inside, rfl⟩ := List.mem_map.mp found
  exact legible value inside

private theorem single (value : Single) : (encode value).Legible := by
  cases finite : value.isFinite with
  | true =>
      rw [Single.encode_of_isFinite finite]
      exact .number (Numeral.isValid_ofSingle value)
  | false =>
      rw [Single.encode_of_infinite finite]
      exact .null

theorem value (value : Value) : (encode value).Legible := by
  have int (number : Int32) : (encode number).Legible := .ofInt _
  have content : value.content.Legible := by
    cases value with
    | bool value => exact .bool value
    | int value => exact .ofInt _
    | long value => exact .ofInt _
    | float value => exact .single value
    | intPair first second => exact .array (by simp [int])
    | intArray values => exact .list fun number _ => int number
    | regions rects => exact .list fun rect _ => .record (by simp [int])
    | points points => exact .list fun point _ => .record (by simp [Json.Legible.single])
  exact .record (by simp [content, Json.Legible.ofString])

theorem metadata {κ : Type} [MetadataKey κ] (metadata : Metadata κ) :
    (encode metadata).Legible := by
  refine .record fun member inside => ?_
  obtain ⟨entry, _, rfl⟩ := List.mem_map.mp inside
  exact .value entry.2

theorem event (event : CaptureEvent) : (encode event).Legible := by
  have id (sequence : SequenceId) : (encode sequence).Legible := .ofInt _
  have time (timestamp : Timestamp) : (encode timestamp).Legible := .ofInt _
  have cause (reason : FailureReason) : (encode reason).Legible := .ofString _
  refine .record ?_
  cases event <;>
    simp [CaptureEvent.fields, Json.Legible.ofString, Json.Legible.metadata, id, time, cause]

end Json.Legible

theorem decodeText_compact {α : Type} [Encode α] [Decode α] {value : α}
    (legible : (encode value).Legible) :
    decodeText α (encode value).compact = Decode.decode (.direct 0) (encode value) := by
  rw [decodeText, legible.parse?_compact]
  rfl

/-! ## Numbers -/

namespace Single

variable {value read : Single} {position : Position}

private theorem isFinite_of_decode_encode
    (decoded : (Decode.decode position (encode value) : Option Single) = some read) :
    value.isFinite = true := by
  cases finite : value.isFinite with
  | true => rfl
  | false =>
      rw [encode_of_infinite finite] at decoded
      cases decoded

private theorem decode_encode_iff :
    (Decode.decode position (encode value) : Option Single) = some value ↔ value.Printable := by
  constructor
  · intro decoded
    refine ⟨isFinite_of_decode_encode decoded, ?_⟩
    rw [decodeText_compact (.single value)]
    exact decoded
  · intro printable
    exact (@Faithful.single 0 value printable).decoded position

end Single

/-! ## Points and values -/

private theorem exists_of_mapM {α β : Type} {read : α → Option β} {values : List α}
    {kept : List β}
    (known : values.mapM read = some kept) {value : α} (inside : value ∈ values) :
    ∃ one ∈ kept, read value = some one :=
  exists_of_forall₂ (mapM_eq_some_iff.mp known) inside

namespace Point

variable {point read : Point} {position : Position}

private theorem decode_encode_eq_some_iff :
    (Decode.decode position (encode point) : Option Point) = some read ↔
      (Decode.decode position.inner (encode point.x) : Option Single) = some read.x ∧
        (Decode.decode position.inner (encode point.y) : Option Single) = some read.y := by
  have fields : Json.fields? ["x", "y"] (encode point) =
      some [some (encode point.x), some (encode point.y)] :=
    @Json.membersNamed?_record [("x", encode point.x), ("y", encode point.y)] _ _ (by simp)
      (fun _ inside => inside) rfl
  change (Json.fields? ["x", "y"] (encode point)).bind _ = _ ↔ _
  rw [fields]
  simp only [Option.bind_some, Json.field?, bind, Option.bind_eq_some_iff, pure, Option.some.injEq]
  constructor
  · rintro ⟨x, readX, y, readY, rfl⟩
    exact ⟨readX, readY⟩
  · rintro ⟨readX, readY⟩
    exact ⟨_, readX, _, readY, rfl⟩

end Point

namespace Value

variable {value read : Value} {position : Position}

theorem decode_encode_iff :
    (Decode.decode position (encode value) : Option Value) = some value ↔
      ∀ single ∈ value.singles, single.Printable := by
  constructor
  · intro decoded
    rw [decode_encode] at decoded
    cases value with
    | float number =>
        obtain ⟨_, known, same⟩ := Option.map_eq_some_iff.mp decoded
        cases same
        simpa [singles] using Single.decode_encode_iff.mp known
    | points points =>
        obtain ⟨_, known, same⟩ := Option.map_eq_some_iff.mp decoded
        cases same
        have each := mapM_map_eq_self_iff.mp known
        simp only [singles, List.mem_flatMap, List.mem_cons, List.not_mem_nil, or_false]
        rintro single ⟨point, inside, coordinate⟩
        obtain ⟨x, y⟩ := Point.decode_encode_eq_some_iff.mp (each point inside)
        rcases coordinate with rfl | rfl
        · exact Single.decode_encode_iff.mp x
        · exact Single.decode_encode_iff.mp y
    | _ => simp [singles]
  · intro printable
    exact (@faithful 0 value printable).decoded position

/-- A value with a number that is not finite is not read at all. -/
theorem isFinite_of_decode_encode
    (decoded : (Decode.decode position (encode value) : Option Value) = some read) :
    ∀ single ∈ value.singles, single.isFinite = true := by
  rw [decode_encode] at decoded
  cases value with
  | float number =>
      obtain ⟨_, known, _⟩ := Option.map_eq_some_iff.mp decoded
      simpa [singles] using Single.isFinite_of_decode_encode known
  | points points =>
      obtain ⟨_, known, _⟩ := Option.map_eq_some_iff.mp decoded
      simp only [singles, List.mem_flatMap, List.mem_cons, List.not_mem_nil, or_false]
      rintro single ⟨point, inside, coordinate⟩
      obtain ⟨other, _, found⟩ := exists_of_mapM known (List.mem_map_of_mem inside)
      obtain ⟨x, y⟩ := Point.decode_encode_eq_some_iff.mp found
      rcases coordinate with rfl | rfl
      · exact Single.isFinite_of_decode_encode x
      · exact Single.isFinite_of_decode_encode y
  | _ => simp [singles]

end Value

/-! ## Maps -/

namespace Metadata

variable {κ : Type} [MetadataKey κ] {metadata read : Metadata κ} {position : Position}

theorem mem_singles {single : Single} :
    single ∈ metadata.singles ↔ ∃ key value, metadata.get key = some value ∧
      single ∈ value.singles := by
  constructor
  · intro member
    obtain ⟨⟨key, value⟩, held, inside⟩ := List.mem_flatMap.mp member
    exact ⟨key, value, mem_entries.mp held, inside⟩
  · rintro ⟨key, value, held, inside⟩
    exact List.mem_flatMap.mpr ⟨(key, value), mem_entries.mpr held, inside⟩

private theorem get_of_decode_encode
    (decoded : (Decode.decode position (encode metadata) : Option (Metadata κ)) = some read)
    {entry : κ × Value} (inside : entry ∈ metadata.entries) :
    ∃ value, read.get entry.1 = some value ∧
      (Decode.decode position.inner (encode entry.2) : Option Value) = some value := by
  rw [decode_encode] at decoded
  obtain ⟨list, known, rfl⟩ := Option.map_eq_some_iff.mp decoded
  have keys : metadata.entries.map (·.1) = list.map (·.1) := by
    rw [← List.forall₂_eq_eq_eq, List.forall₂_map_left_iff, List.forall₂_map_right_iff]
    refine (mapM_eq_some_iff.mp known).imp fun entry one found => ?_
    obtain ⟨_, _, rfl⟩ := Option.map_eq_some_iff.mp found
    rfl
  obtain ⟨one, listed, found⟩ := exists_of_mapM known inside
  obtain ⟨value, decoded, rfl⟩ := Option.map_eq_some_iff.mp found
  have distinct := keys ▸ metadata.entries_distinct
  exact ⟨value, (get_ofEntries_eq_some_iff distinct).mpr listed, decoded⟩

theorem decode_encode_iff :
    (Decode.decode position (encode metadata) : Option (Metadata κ)) = some metadata ↔
      ∀ single ∈ metadata.singles, single.Printable := by
  constructor
  · intro decoded single member
    obtain ⟨⟨key, value⟩, inside, found⟩ := List.mem_flatMap.mp member
    obtain ⟨other, same, read⟩ := get_of_decode_encode decoded inside
    cases (mem_entries.mp inside).symm.trans same
    exact Value.decode_encode_iff.mp read single found
  · intro printable
    exact (@faithful _ _ 0 metadata printable).decoded position

theorem isFinite_of_decode_encode
    (decoded : (Decode.decode position (encode metadata) : Option (Metadata κ)) = some read) :
    ∀ single ∈ metadata.singles, single.isFinite = true := by
  intro single member
  obtain ⟨entry, inside, found⟩ := List.mem_flatMap.mp member
  obtain ⟨value, _, read⟩ := get_of_decode_encode decoded inside
  exact Value.isFinite_of_decode_encode read single found

end Metadata

/-! ## Events -/

namespace CaptureEvent

variable {event read : CaptureEvent} {position : Position}

private theorem result_of_decode_encode {sequence : SequenceId} {timestamp : Timestamp}
    {result : CaptureResult}
    (decoded : CaptureEvent.decode position (encode (completed sequence timestamp result)) =
      some read) :
    ∃ other, read = completed sequence timestamp other ∧
      (Decode.decode .retained (encode result) : Option CaptureResult) = some other := by
  have fields : (completed sequence timestamp result).fields =
      ("event", Json.ofString "completed") :: [("sequence_id", encode sequence),
        ("timestamp_ns", encode timestamp), ("result", encode result)] := rfl
  have distinct : ("event" :: ([("sequence_id", encode sequence),
      ("timestamp_ns", encode timestamp), ("result", encode result)].map (·.1))).Nodup := by simp
  cases retained : position.canRetain (encode (completed sequence timestamp result)) with
  | false =>
      simp only [CaptureEvent.decode, retained, bind] at decoded
      cases decoded
  | true =>
      have known := fields?_encode fields distinct
      rw [decode_encode_of_retained fields distinct retained] at decoded
      simp only [List.map_cons, List.map_nil] at known
      have id : Faithful 4 sequence := .sequenceId sequence
      have time : Faithful 4 timestamp := .int64 timestamp
      simp only [ofFields?, known, bind, Option.bind_some, id.field?, time.field?] at decoded
      obtain ⟨other, found, same⟩ := Option.bind_eq_some_iff.mp decoded
      exact ⟨other, (Option.some.inj same).symm, found⟩

theorem decode_encode_iff :
    (Decode.decode (.direct 0) (encode event) : Option CaptureEvent) = some event ↔
      ∀ single ∈ event.singles, single.Printable := by
  constructor
  · intro decoded
    cases event with
    | completed sequence timestamp result =>
        obtain ⟨other, same, known⟩ := result_of_decode_encode decoded
        cases same
        exact Metadata.decode_encode_iff.mp known
    | _ => simp [singles]
  · intro printable
    obtain ⟨kind, others, written⟩ := exists_writtenAs printable
    exact written.decode

theorem isFinite_of_decode_encode
    (decoded : (Decode.decode position (encode event) : Option CaptureEvent) = some read) :
    ∀ single ∈ event.singles, single.isFinite = true := by
  cases event with
  | completed sequence timestamp result =>
      obtain ⟨other, _, known⟩ := result_of_decode_encode decoded
      exact Metadata.isFinite_of_decode_encode known
  | _ => simp [singles]

end CaptureEvent

end EyesFree
