import EyesFree.Proofs.Codecs
import EyesFree.Session.Extender
import Mathlib.Data.List.Nodup

namespace EyesFree

/-! Whatever the camera service stores or sends as JSON is read back as it was,
from either of its texts. -/

namespace Faithful

variable {height : Nat}

/-! ## Geometry -/

private theorem size (size : Size) : Faithful (height + 1) size := by
  have width : Faithful height size.width := .uint32 _
  have length : Faithful height size.height := .uint32 _
  exact .record rfl (by simp) (by simp [width.regular, length.regular]) (fun _ => rfl)
    fun position => by simp [width.field?, length.field?]

private theorem rect (rect : Rect) : Faithful (height + 1) rect := by
  have left : Faithful height rect.left := .int32 _
  have top : Faithful height rect.top := .int32 _
  have right : Faithful height rect.right := .int32 _
  have bottom : Faithful height rect.bottom := .int32 _
  exact .record rfl (by simp)
    (by simp [left.regular, top.regular, right.regular, bottom.regular]) (fun _ => rfl)
    fun position => by simp [left.field?, top.field?, right.field?, bottom.field?]

private theorem point {point : Point} (x : point.x.Printable) (y : point.y.Printable) :
    Faithful (height + 1) point := by
  have x : Faithful height point.x := .single x
  have y : Faithful height point.y := .single y
  exact .record rfl (by simp) (by simp [x.regular, y.regular]) (fun _ => rfl)
    fun position => by simp [x.field?, y.field?]

private theorem imageFormat (format : ImageFormat) : Faithful height format := by
  have distinct : Function.Injective ImageFormat.name := fun left right => by
    cases left <;> cases right <;> decide
  exact ⟨.ofString _, fun position => Json.variant?_name distinct position format⟩

end Faithful

/-! ## Values of metadata -/

namespace Value

def singles : Value → List Single
  | .float value => [value]
  | .points list => list.flatMap fun point => [point.x, point.y]
  | _ => []

private theorem name_injective : Function.Injective ValueType.name := fun left right => by
  cases left <;> cases right <;> decide

private theorem content_readsBack {height : Nat} {value : Value}
    (printable : ∀ single ∈ value.singles, single.Printable) :
    value.content.Regular (height + 2) ∧
      ∀ position, ofContent? position value.content value.type = some value := by
  cases value with
  | bool value =>
      have inner : Faithful (height + 2) value := .bool value
      exact ⟨inner.regular, inner.map Value.bool⟩
  | int value =>
      have inner : Faithful (height + 2) value := .int32 value
      exact ⟨inner.regular, inner.map Value.int⟩
  | long value =>
      have inner : Faithful (height + 2) value := .int64 value
      exact ⟨inner.regular, inner.map Value.long⟩
  | float value =>
      have single : Faithful (height + 2) value :=
        .single (printable value (List.mem_singleton.mpr rfl))
      exact ⟨single.regular, single.map Value.float⟩
  | intPair first second =>
      have first : Faithful (height + 1) first := .int32 _
      have second : Faithful (height + 1) second := .int32 _
      refine ⟨.array (by simp [first.regular, second.regular]), fun position => ?_⟩
      simp only [ofContent?, content, type, Json.pair?, first.decoded, second.decoded, bind,
        Option.bind_some]
      rfl
  | intArray values =>
      have list : Faithful (height + 2) values := .list fun value _ => .int32 value
      exact ⟨list.regular, list.map Value.intArray⟩
  | regions rects =>
      have list : Faithful (height + 2) rects := .list fun rect _ => .rect rect
      exact ⟨list.regular, list.map Value.regions⟩
  | points points =>
      have list : Faithful (height + 2) points := .list fun point inside =>
        .point (printable point.x (List.mem_flatMap.mpr ⟨point, inside, by simp⟩))
          (printable point.y (List.mem_flatMap.mpr ⟨point, inside, by simp⟩))
      exact ⟨list.regular, list.map Value.points⟩

/-- The type is written first, so that the content is not set aside. -/
theorem decode_encode (position : Position) (value : Value) :
    Decode.decode position (encode value) =
      ofContent? position.inner value.content value.type := by
  have members : Json.membersNamed? ["type", "value"]
      [(TextUnit.ofString "type", Json.ofString value.type.name),
        (TextUnit.ofString "value", value.content)] =
      some [some (Json.ofString value.type.name), some value.content] :=
    @Json.membersNamed?_record
      [("type", Json.ofString value.type.name), ("value", value.content)] _ _ (by simp)
      (fun _ inside => inside) rfl
  have order : memberOrder [(TextUnit.ofString "type", Json.ofString value.type.name),
      (TextUnit.ofString "value", value.content)] = ["type", "value"] := by simp [memberOrder]
  change decode position (.object [(TextUnit.ofString "type", Json.ofString value.type.name),
    (TextUnit.ofString "value", value.content)]) = _
  simp only [decode, members, order, if_true, bind, Option.bind_some,
    Json.variant?_name name_injective]

theorem faithful {height : Nat} {value : Value}
    (printable : ∀ single ∈ value.singles, single.Printable) : Faithful (height + 3) value := by
  obtain ⟨regular, read⟩ := @content_readsBack height value printable
  have type : (Json.ofString value.type.name).Regular (height + 2) := .ofString _
  exact ⟨.record (by simp [type, regular]), fun position => decode_encode position value ▸ read _⟩

end Value

/-! ## Maps and lists of metadata -/

namespace Metadata

variable {κ : Type} [MetadataKey κ]

def singles (metadata : Metadata κ) : List Single :=
  metadata.entries.flatMap fun entry => entry.2.singles

private theorem keys_sublist (metadata : Metadata κ) :
    metadata.keys.Sublist (Enumeration.values : List κ) := List.filter_sublist

theorem entries_distinct (metadata : Metadata κ) : (metadata.entries.map (·.1)).Nodup :=
  metadata.entries_keys ▸ metadata.keys_sublist.nodup Enumeration.nodup

theorem get_ofEntries_eq_some_iff {entries : List (κ × Value)}
    (distinct : (entries.map (·.1)).Nodup) {key : κ} {value : Value} :
    (ofEntries entries).get key = some value ↔ (key, value) ∈ entries := by
  have listed {other : κ × Value} (found : entries.reverse.find? (·.1 = key) = some other) :
      other ∈ entries ∧ other.1 = key :=
    ⟨List.mem_reverse.mp (List.mem_of_find?_eq_some found), by simpa using List.find?_some found⟩
  rw [get_ofEntries]
  constructor
  · intro given
    obtain ⟨other, found, rfl⟩ := Option.map_eq_some_iff.mp given
    obtain ⟨inside, rfl⟩ := listed found
    exact inside
  · intro inside
    cases found : entries.reverse.find? (·.1 = key) with
    | none =>
        have absent := List.find?_eq_none.mp found (key, value) (List.mem_reverse.mpr inside)
        exact absurd (decide_eq_true rfl) absent
    | some other =>
        obtain ⟨otherInside, same⟩ := listed found
        rw [List.inj_on_of_nodup_map distinct otherInside inside same]
        rfl

theorem ofEntries_entries (metadata : Metadata κ) : ofEntries metadata.entries = metadata := by
  refine Metadata.ext (funext fun key => Option.ext fun value => ?_)
  rw [get_ofEntries_eq_some_iff metadata.entries_distinct, mem_entries]

theorem decode_encode (position : Position) (metadata : Metadata κ) :
    (Decode.decode position (encode metadata) : Option (Metadata κ)) =
      (metadata.entries.mapM fun entry =>
        (Decode.decode position.inner (encode entry.2) : Option Value).map (entry.1, ·)).map
        ofEntries := by
  change Option.map ofEntries (decodeMembers position.inner (List.map _ (List.map _ _))) = _
  rw [List.map_map, decodeMembers, List.mapM_map]
  congr 2
  funext entry
  have name := Enumeration.named?_name MetadataKey.name_injective entry.1
  simp only [Function.comp_apply, TextUnit.toString?_ofString, bind, Option.bind_some, name]
  cases (Decode.decode position.inner (encode entry.2) : Option Value) <;> rfl

theorem faithful {height : Nat} {metadata : Metadata κ}
    (printable : ∀ single ∈ metadata.singles, single.Printable) :
    Faithful (height + 4) metadata := by
  have value : ∀ entry ∈ metadata.entries, Faithful (height + 3) entry.2 := fun entry inside =>
    Value.faithful fun single found =>
      printable single (List.mem_flatMap.mpr ⟨entry, inside, found⟩)
  refine ⟨.record fun member inside => ?_, fun position => ?_⟩
  · obtain ⟨entry, listed, rfl⟩ := List.mem_map.mp inside
    exact (value entry listed).regular
  · rw [decode_encode, mapM_eq_self_iff.mpr, Option.map_some, ofEntries_entries]
    intro entry inside
    rw [(value entry inside).decoded, Option.map_some]

end Metadata

namespace Snapshot

def singles (snapshot : Snapshot) : List Single :=
  snapshot.entries.flatMap fun entry => entry.2.singles

private theorem faithful {height : Nat} {snapshot : Snapshot}
    (printable : ∀ single ∈ snapshot.singles, single.Printable) :
    Faithful (height + 5) snapshot := by
  have key (entry : RequestKey × Value) : Faithful (height + 3) entry.1 := .key _
  have value : ∀ entry ∈ snapshot.entries, Faithful (height + 3) entry.2 := fun entry inside =>
    Value.faithful fun single found =>
      printable single (List.mem_flatMap.mpr ⟨entry, inside, found⟩)
  refine ⟨.array fun item inside => ?_, fun position => ?_⟩
  · obtain ⟨entry, listed, rfl⟩ := List.mem_map.mp inside
    exact .array (by simp [(key entry).regular, (value entry listed).regular])
  · change Option.map Snapshot.mk (List.mapM _ (List.map _ _)) = _
    rw [mapM_map_eq_self_iff.mpr, Option.map_some]
    intro entry inside
    simp only [Json.pair?, (key entry).decoded, (value entry inside).decoded, bind,
      Option.bind_some]
    rfl

end Snapshot

namespace Faithful

variable {height : Nat}

private theorem capabilities (capabilities : Capabilities) :
    Faithful (height + 2) capabilities := by
  have requests : Faithful (height + 1) capabilities.requestKeys := .keySet _
  have results : Faithful (height + 1) capabilities.resultKeys := .keySet _
  have area : Faithful (height + 1) capabilities.activeArray := .rect _
  exact .record rfl (by simp)
    (by simp [requests.regular, results.regular, area.regular]) (fun _ => rfl)
    fun position => by simp [requests.field?, results.field?, area.field?]

/-! ## Outputs and cameras -/

private theorem outputSurface (output : OutputSurface) : Faithful (height + 2) output := by
  have surface : Faithful (height + 1) output.surface :=
    .option (fun surface _ => .uint64 surface) fun _ _ => nofun
  have size : Faithful (height + 1) output.size := .size _
  have format : Faithful (height + 1) output.format := .imageFormat _
  have usage : Faithful (height + 1) output.usage := .uint64 _
  exact .record rfl (by simp)
    (by simp [surface.regular, size.regular, format.regular, usage.regular]) (fun _ => rfl)
    fun position => by simp [surface.field?, size.field?, format.field?, usage.field?]

private theorem outputConfiguration (configuration : OutputConfiguration) :
    Faithful (height + 4) configuration := by
  have output : Faithful (height + 3) configuration.output := .int32 _
  have surfaces : Faithful (height + 3) configuration.surfaces :=
    .list fun surface _ => .outputSurface surface
  exact .record rfl (by simp) (by simp [output.regular, surfaces.regular]) (fun _ => rfl)
    fun position => by simp [output.field?, surfaces.field?]

private theorem stackConfiguration (configuration : StackConfiguration) :
    Faithful (height + 6) configuration := by
  have sessionType : Faithful (height + 5) configuration.sessionType := .int32 _
  have outputs : Faithful (height + 5) configuration.outputs :=
    .list fun output _ => .outputConfiguration output
  exact .record rfl (by simp) (by simp [sessionType.regular, outputs.regular]) (fun _ => rfl)
    fun position => by simp [sessionType.field?, outputs.field?]

private theorem streamConfiguration (configuration : StreamConfiguration) :
    Faithful (height + 3) configuration := by
  have format : Faithful (height + 2) configuration.format := .imageFormat _
  have sizes : Faithful (height + 2) configuration.sizes := .list fun size _ => .size size
  exact .record rfl (by simp) (by simp [format.regular, sizes.regular]) (fun _ => rfl)
    fun position => by simp [format.field?, sizes.field?]

private theorem cameraCharacteristics (camera : CameraCharacteristics) :
    Faithful (height + 5) camera := by
  have area : Faithful (height + 4) camera.activeArray := .rect _
  have streams : Faithful (height + 4) camera.streams :=
    .list fun stream _ => .streamConfiguration stream
  exact .record rfl (by simp) (by simp [area.regular, streams.regular]) (fun _ => rfl)
    fun position => by simp [area.field?, streams.field?]

/-! ## Settings -/

private theorem sessionSettings (settings : SessionSettings) :
    Faithful (height + 1) settings := by
  have images : Faithful height settings.maxImages := .uint64 _
  have thread : Faithful height settings.relayThreadName := .string _
  exact .record rfl (by simp) (by simp [images.regular, thread.regular]) (fun _ => rfl)
    fun position => by simp [images.fieldOr?, thread.fieldOr?]

private theorem simulationSettings (settings : SimulationSettings) :
    Faithful (height + 1) settings := by
  have fps : Faithful height settings.fps := .uint32 _
  have frames : Faithful height settings.frames := .uint32 _
  have previewWidth : Faithful height settings.previewWidth := .uint32 _
  have previewHeight : Faithful height settings.previewHeight := .uint32 _
  have arrayWidth : Faithful height settings.activeArrayWidth := .int32 _
  have arrayHeight : Faithful height settings.activeArrayHeight := .int32 _
  have delay : Faithful height settings.forwardDelay := .uint64 _
  exact .record rfl (by simp)
    (by simp [fps.regular, frames.regular, previewWidth.regular, previewHeight.regular,
      arrayWidth.regular, arrayHeight.regular, delay.regular]) (fun _ => rfl)
    fun position => by
      simp [fps.fieldOr?, frames.fieldOr?, previewWidth.fieldOr?, previewHeight.fieldOr?,
        arrayWidth.fieldOr?, arrayHeight.fieldOr?, delay.fieldOr?]

private theorem loggingSettings (settings : LoggingSettings) :
    Faithful (height + 1) settings := by
  have level : Faithful height settings.level := .string _
  have asJson : Faithful height settings.json := .bool _
  have file : Faithful height settings.file :=
    .option (fun path _ => .string path) fun _ _ => nofun
  exact .record rfl (by simp) (by simp [level.regular, asJson.regular, file.regular]) (fun _ => rfl)
    fun position => by simp [level.fieldOr?, asJson.fieldOr?, file.fieldOr?]

theorem settings (settings : Settings) : Faithful (height + 2) settings := by
  have session : Faithful (height + 1) settings.session := .sessionSettings _
  have simulation : Faithful (height + 1) settings.simulation := .simulationSettings _
  have logging : Faithful (height + 1) settings.logging := .loggingSettings _
  exact .record rfl (by simp)
    (by simp [session.regular, simulation.regular, logging.regular]) (fun _ => rfl)
    fun position => by simp [session.fieldOr?, simulation.fieldOr?, logging.fieldOr?]

/-! ## Events -/

theorem sequenceId (sequence : SequenceId) : Faithful height sequence := by
  have number : Faithful height sequence.number := .uint32 _
  exact ⟨number.regular, number.map SequenceId.mk⟩

private theorem failureReason (reason : FailureReason) : Faithful height reason := by
  have distinct : Function.Injective FailureReason.name := fun left right => by
    cases left <;> cases right <;> decide
  exact ⟨.ofString _, fun position => Json.variant?_name distinct position reason⟩

end Faithful

namespace CaptureEvent

def singles : CaptureEvent → List Single
  | .completed _ _ result => result.singles
  | _ => []

/-- An event is written as its kind and other members, of which it is read again. -/
structure WrittenAs (event : CaptureEvent) (kind : String) (others : List (String × Json)) :
    Prop where
  fields : event.fields = ("event", Json.ofString kind) :: others
  distinct : ("event" :: others.map (·.1)).Nodup
  regular : ∀ member ∈ others, member.2.Regular 4
  read : ∀ record : Json, record.fields? (others.map (·.1)) = some (others.map (some ·.2)) →
    ofFields? .retained kind record = some event

theorem exists_writtenAs {event : CaptureEvent}
    (printable : ∀ single ∈ event.singles, single.Printable) :
    ∃ kind others, event.WrittenAs kind others := by
  have id (sequence : SequenceId) : Faithful 4 sequence := .sequenceId sequence
  have time (timestamp : Timestamp) : Faithful 4 timestamp := .int64 timestamp
  have cause (reason : FailureReason) : Faithful 4 reason := .failureReason reason
  cases event with
  | started sequence timestamp =>
      refine ⟨_, _, rfl, by simp, by simp [(id sequence).regular, (time timestamp).regular],
        fun record read => ?_⟩
      simp only [List.map_cons, List.map_nil] at read
      simp only [ofFields?, read, bind, Option.bind_some, (id sequence).field?,
        (time timestamp).field?]
      rfl
  | completed sequence timestamp result =>
      have outcome : Faithful 4 result := Metadata.faithful printable
      refine ⟨_, _, rfl, by simp, by
        simp [(id sequence).regular, (time timestamp).regular, outcome.regular],
        fun record read => ?_⟩
      simp only [List.map_cons, List.map_nil] at read
      simp only [ofFields?, read, bind, Option.bind_some, (id sequence).field?,
        (time timestamp).field?, outcome.field?]
      rfl
  | failed sequence reason =>
      refine ⟨_, _, rfl, by simp, by simp [(id sequence).regular, (cause reason).regular],
        fun record read => ?_⟩
      simp only [List.map_cons, List.map_nil] at read
      simp only [ofFields?, read, bind, Option.bind_some, (id sequence).field?,
        (cause reason).field?]
      rfl
  | processStarted sequence | sequenceCompleted sequence | sequenceAborted sequence =>
      refine ⟨_, _, rfl, by simp, by simp [(id sequence).regular], fun record read => ?_⟩
      simp only [List.map_cons, List.map_nil] at read
      simp only [ofFields?, read, bind, Option.bind_some, (id sequence).field?]
      rfl

variable {event : CaptureEvent} {kind : String} {others : List (String × Json)}

theorem fields?_encode (fields : event.fields = ("event", Json.ofString kind) :: others)
    (distinct : ("event" :: others.map (·.1)).Nodup) :
    (encode event).fields? (others.map (·.1)) = some (others.map (some ·.2)) :=
  @Json.membersNamed?_record event.fields others _ (fields ▸ distinct)
    (fun _ inside => fields ▸ List.mem_cons_of_mem _ inside) rfl

/-- An event that can be set aside is read by its kind. -/
theorem decode_encode_of_retained {position : Position}
    (fields : event.fields = ("event", Json.ofString kind) :: others)
    (distinct : ("event" :: others.map (·.1)).Nodup)
    (retained : position.canRetain (encode event) = true) :
    CaptureEvent.decode position (encode event) = ofFields? .retained kind (encode event) := by
  have kinds := @Json.membersNamed?_record event.fields
    [("event", Json.ofString kind)] ["event"] (fields ▸ distinct) (by simp [fields]) rfl
  change Position.canRetain (.object _) _ = _ at retained
  change CaptureEvent.decode _ (.object _) = _
  simp only [CaptureEvent.decode, retained, kinds, Json.ofString, List.map_cons, List.map_nil,
    TextUnit.toString?_ofString, bind, Option.bind_some, Bool.not_true, Bool.false_eq_true,
    if_false]
  rfl

private theorem WrittenAs.regular_encode (written : event.WrittenAs kind others) :
    (encode event).Regular 5 := by
  refine .record fun member inside => ?_
  rw [written.fields] at inside
  rcases List.mem_cons.mp inside with rfl | inside
  · exact .ofString kind
  · exact written.regular member inside

theorem WrittenAs.decode (written : event.WrittenAs kind others) :
    CaptureEvent.decode (.direct 0) (encode event) = some event := by
  have retained : Position.canRetain (encode event) (.direct 0) = true :=
    written.regular_encode.canBeRetained (by decide)
  rw [decode_encode_of_retained written.fields written.distinct retained]
  exact written.read _ (fields?_encode written.fields written.distinct)

end CaptureEvent

/-! ## Both texts -/

def TextsReadBack {α : Type} [Encode α] [Decode α] (value : α) : Prop :=
  decodeText α (encode value).compact = some value ∧
    decodeText α (encode value).pretty = some value

section

variable {α : Type} [Encode α] [Decode α] {height : Nat} {value : α}

private theorem textsReadBack_of_decode (regular : (encode value).Regular height)
    (decoded : Decode.decode (.direct 0) (encode value) = some value) : TextsReadBack value := by
  constructor
  · rw [decodeText, regular.legible.parse?_compact]
    exact decoded
  · rw [decodeText, regular.legible.parse?_pretty]
    exact decoded

theorem Faithful.textsReadBack (faithful : Faithful height value) : TextsReadBack value :=
  textsReadBack_of_decode faithful.regular (faithful.decoded _)

end

private theorem CaptureEvent.textsReadBack {event : CaptureEvent}
    (printable : ∀ single ∈ event.singles, single.Printable) : TextsReadBack event := by
  obtain ⟨kind, others, written⟩ := exists_writtenAs printable
  exact textsReadBack_of_decode written.regular_encode written.decode

/-- Every value whose real numbers can be printed is read back from its texts. The order
and the repetitions of a snapshot are part of it; maps and key sets list their keys in
the order of the keys. -/
theorem documents_readBack :
    (∀ value : Value, (∀ single ∈ value.singles, single.Printable) → TextsReadBack value) ∧
    (∀ request : CaptureRequest, (∀ single ∈ request.singles, single.Printable) →
      TextsReadBack request ∧ (request.entries.map (·.1)).Sublist Enumeration.values) ∧
    (∀ result : CaptureResult, (∀ single ∈ result.singles, single.Printable) →
      TextsReadBack result ∧ (result.entries.map (·.1)).Sublist Enumeration.values) ∧
    (∀ snapshot : Snapshot, (∀ single ∈ snapshot.singles, single.Printable) →
      TextsReadBack snapshot) ∧
    (∀ capabilities : Capabilities, TextsReadBack capabilities ∧
      capabilities.requestKeys.toList.Sublist Enumeration.values ∧
      capabilities.resultKeys.toList.Sublist Enumeration.values) ∧
    (∀ event : CaptureEvent, (∀ single ∈ event.singles, single.Printable) →
      TextsReadBack event) ∧
    (∀ output : OutputSurface, TextsReadBack output) ∧
    (∀ configuration : StackConfiguration, TextsReadBack configuration) ∧
    (∀ configuration : StreamConfiguration, TextsReadBack configuration) ∧
    (∀ camera : CameraCharacteristics, TextsReadBack camera) ∧
    (∀ settings : Settings, TextsReadBack settings) := by
  refine ⟨fun value printable => ?_, fun request printable => ⟨?_, ?_⟩,
    fun result printable => ⟨?_, ?_⟩, fun snapshot printable => ?_,
    fun capabilities => ⟨?_, List.filter_sublist, List.filter_sublist⟩,
    fun event printable => ?_, fun output => ?_, fun configuration => ?_,
    fun configuration => ?_, fun camera => ?_, fun settings => ?_⟩
  · exact (@Value.faithful 0 value printable).textsReadBack
  · exact (@Metadata.faithful _ _ 0 request printable).textsReadBack
  · exact Metadata.entries_keys request ▸ request.keys_sublist
  · exact (@Metadata.faithful _ _ 0 result printable).textsReadBack
  · exact Metadata.entries_keys result ▸ result.keys_sublist
  · exact (@Snapshot.faithful 0 snapshot printable).textsReadBack
  · exact (@Faithful.capabilities 0 capabilities).textsReadBack
  · exact CaptureEvent.textsReadBack printable
  · exact (@Faithful.outputSurface 0 output).textsReadBack
  · exact (@Faithful.stackConfiguration 0 configuration).textsReadBack
  · exact (@Faithful.streamConfiguration 0 configuration).textsReadBack
  · exact (@Faithful.cameraCharacteristics 0 camera).textsReadBack
  · exact (@Faithful.settings 0 settings).textsReadBack

/-- A zoom ratio of one and a half, asked for twice and reported with
the point it is around. -/
theorem documents_readBack_zoom :
    let ratio : Value := .float ⟨0x3FC00000⟩
    let result : CaptureResult := (Metadata.empty.set .controlZoomRatio ratio).set
      .targetCoordinates (.points [⟨⟨0x3DCCCCCD⟩, ⟨0xBE800000⟩⟩])
    TextsReadBack ratio ∧
      TextsReadBack (Metadata.empty.set RequestKey.controlZoomRatio ratio) ∧
      TextsReadBack result ∧
      TextsReadBack (Snapshot.mk [(.controlZoomRatio, ratio), (.controlZoomRatio, ratio)]) ∧
      TextsReadBack (CaptureEvent.completed ⟨7⟩ 1000000 result) :=
  have ⟨value, request, result, snapshot, _, event, _⟩ := documents_readBack
  ⟨value _ (by decide +kernel), (request _ (by decide +kernel)).1, (result _ (by decide +kernel)).1,
    snapshot _ (by decide +kernel), event _ (by decide +kernel)⟩

end EyesFree
