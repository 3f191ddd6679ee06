import EyesFree.Program.Printout
import EyesFree.Proofs.SimulationRun

namespace EyesFree

/-! Which lines that are printed for events can be read again. A client or a camera may give
any real number; it is delivered and printed as it is, and a line is read as its event
exactly if all its numbers can be printed. -/

/-- The text of a value is read as the value exactly if some numbers can be printed, and it
is not read at all if one of them is not finite. -/
structure ReadBackBy {α : Type} [Encode α] [Decode α] (value : α) (singles : List Single) :
    Prop where
  readBack_iff : decodeText α (encode value).compact = some value ↔
    ∀ single ∈ singles, single.Printable
  finite : ∀ read, decodeText α (encode value).compact = some read →
    ∀ single ∈ singles, single.isFinite = true

private theorem Value.readBackBy (value : Value) : ReadBackBy value value.singles where
  readBack_iff := by rw [decodeText_compact (.value value), decode_encode_iff]
  finite := fun read decoded => by
    rw [decodeText_compact (.value value)] at decoded
    exact isFinite_of_decode_encode decoded

private theorem Metadata.readBackBy {κ : Type} [MetadataKey κ] (metadata : Metadata κ) :
    ReadBackBy metadata metadata.singles where
  readBack_iff := by rw [decodeText_compact (.metadata metadata), decode_encode_iff]
  finite := fun read decoded => by
    rw [decodeText_compact (.metadata metadata)] at decoded
    exact isFinite_of_decode_encode decoded

private theorem CaptureEvent.readBackBy (event : CaptureEvent) :
    ReadBackBy event event.singles where
  readBack_iff := by rw [decodeText_compact (.event event), decode_encode_iff]
  finite := fun read decoded => by
    rw [decodeText_compact (.event event)] at decoded
    exact isFinite_of_decode_encode decoded

/-! ## Runs of a session -/

section

variable {capabilities : Capabilities} {config : SessionConfig} {surfaces : Surfaces}

/-- What the parameters of a start have to report back is unchanged in a result, and no
number of the result comes from elsewhere than from a request of the client before the step,
the camera's report in it or the target. -/
structure Start.Accounts (start : Start) (capabilities : Capabilities) (steps : List SessionStep)
    (step : SessionStep) (bundle : CaptureResult) : Prop where
  echoed : ∀ requestKey resultKey, (requestKey, resultKey) ∈ echoedKeys → ∀ value,
    start.parameters.get? requestKey = some value → bundle.get resultKey = some value
  origin : ∀ single ∈ bundle.singles,
    (∃ request ∈ requestsOf steps, single ∈ request.singles) ∨
      (∃ result, step.result? = some result ∧ single ∈ result.singles) ∨
        ∃ corners, capabilities.activeArray.targetCoordinates = .ok corners ∧
          single ∈ (Value.points corners).singles

/-- The line of a completed event is read back exactly if the numbers of its result can be
printed, and its start accounts for them. -/
theorem readBackBy_of_completed (steps : List SessionStep) (step : SessionStep)
    {delivery : Delivery} {sequence : SequenceId} {timestamp : Timestamp} {bundle : CaptureResult}
    (completed : delivery.event = .completed sequence timestamp bundle) :
    let fresh := World.fresh capabilities config surfaces
    delivery ∈ (step.perform (stateAfter SessionStep.perform fresh steps)).emitted →
      ReadBackBy delivery.event bundle.singles ∧
      ∃ start ∈ acceptedStarts fresh steps, start.sequence = sequence ∧
        start.Accounts capabilities steps step bundle := by
  intro fresh told
  have text := CaptureEvent.readBackBy delivery.event
  rw [completed] at text ⊢
  obtain ⟨start, accepted, same, _, result, reported, _, synthesized⟩ :=
    start_of_completed steps step completed told
  refine ⟨text, start, accepted, same, ?_, ?_⟩
  · intro requestKey resultKey echoed value held
    exact Capabilities.get_of_synthesize_of_echoed synthesized echoed held
  · intro single member
    rcases Capabilities.origin_of_synthesize synthesized member with asked | given | target
    · obtain ⟨⟨key, value⟩, held, inside⟩ := List.mem_flatMap.mp asked
      obtain ⟨request, made, holds⟩ := origin_of_start accepted held
      exact .inl ⟨request, made,
        List.mem_flatMap.mpr ⟨(key, value), Metadata.mem_entries.mpr holds, inside⟩⟩
    · exact .inr (.inl ⟨result, reported, given⟩)
    · exact .inr (.inr target)

end

/-! ## Simulations -/

namespace Simulation

variable {arguments : SimulateArguments} {configured : Settings} {simulation : Simulation}

def deliveries (simulation : Simulation) (readings : List Reading) : List Delivery :=
  let started := start simulation
  started.emitted ++ (run readings started.state).emitted

private theorem synthesize_of_completed (set : setUp arguments configured = .ok simulation)
    {readings : List Reading} {delivery : Delivery}
    (told : delivery ∈ simulation.deliveries readings) {sequence : SequenceId}
    {timestamp : Timestamp} {bundle : CaptureResult}
    (completed : delivery.event = .completed sequence timestamp bundle) :
    let settings := arguments.settings configured.simulation
    (Capabilities.eyesFree settings.activeArray).synthesize
      (Parameters.mk arguments.parameters).snapshot (sampleResult timestamp) = .ok bundle := by
  obtain ⟨steps, routine, emitted⟩ := exists_steps set readings
  rw [deliveries, emitted, emittedBy_append, (world_of_setUp set).2, List.nil_append,
    mem_emittedBy] at told
  obtain ⟨place, step, found, told⟩ := told
  rw [← stateAfter_append] at told
  obtain ⟨start, accepted, _, _, result, reported, timed, synthesized⟩ :=
    start_of_completed _ step completed told
  obtain ⟨moment, rfl⟩ := (routine step (List.mem_of_getElem? found)).2 result reported
  obtain rfl : moment = timestamp := Option.some.inj timed
  obtain ⟨unstarted, stored⟩ := @parameters_of_opening arguments configured
  have late : start ∈ acceptedStarts (stateAfter SessionStep.perform (fresh arguments configured)
      (opening arguments configured)) (steps.take place) := by
    have split := acceptedStarts_append (fresh arguments configured)
      (opening arguments configured) (steps.take place)
    rw [unstarted, List.nil_append] at split
    exact split ▸ accepted
  have same := parameters_of_start_of_unasked
    (fun other member => (routine other (List.mem_of_mem_take member)).1) late
  rw [same] at synthesized
  exact stored ▸ synthesized

/-! ### The numbers of a simulation -/

private theorem autoZoom_parameters :
    (Parameters.mk arguments.parameters).snapshot.autoZoom = arguments.autoZoom := by
  have given : arguments.parameters.get .autoZoom =
      if arguments.autoZoom then some (.bool true) else none := by
    simp [SimulateArguments.parameters, Metadata.get_setSome]
  rw [Snapshot.autoZoom, Parameters.get?_snapshot, given]
  cases arguments.autoZoom <;> rfl

private theorem locked_parameters_iff :
    (Parameters.mk arguments.parameters).snapshot.locked ↔
      arguments.stabilization = some .locked := by
  have given : arguments.parameters.get .stabilizationMode =
      arguments.stabilization.map StabilizationMode.toValue := by
    simp [SimulateArguments.parameters, Metadata.get_setSome]
  rw [Snapshot.locked_iff, Parameters.get?_snapshot, given]
  cases arguments.stabilization with
  | none => simp
  | some mode => cases mode <;> decide

private theorem get?_parameters_zoom :
    (Parameters.mk arguments.parameters).snapshot.get? .paddingZoomFactor =
        arguments.paddingZoom.map .float ∧
      (Parameters.mk arguments.parameters).snapshot.get? .maxPaddingZoomFactor =
        arguments.maxPaddingZoom.map .float := by
  simp [Parameters.get?_snapshot, SimulateArguments.parameters, Metadata.get_setSome]

private theorem origin_of_overlay {corners : List Point} {key : ResultKey} {value : Value}
    (overlaid : (Parameters.mk arguments.parameters).snapshot.overlay? corners key = some value)
    {single : Single} (inside : single ∈ value.singles) :
    arguments.paddingZoom = some single ∨
      arguments.autoZoom = true ∧ arguments.maxPaddingZoom = some single ∨
        arguments.stabilization = some .locked ∧ single ∈ (Value.points corners).singles := by
  have zoom {asked : Option Single} (known : asked.map Value.float = some value) :
      asked = some single := by
    obtain ⟨zoom, asked, rfl⟩ := Option.map_eq_some_iff.mp known
    rw [asked, List.mem_singleton.mp inside]
  obtain ⟨padding, maximum⟩ := @get?_parameters_zoom arguments
  cases key with
  | paddingZoomFactor => exact .inl (zoom (padding.symm.trans overlaid))
  | maxPaddingZoomFactor =>
      rw [Snapshot.overlay?, autoZoom_parameters, maximum] at overlaid
      split at overlaid
      next automatic => exact .inr (.inl ⟨automatic, zoom overlaid⟩)
      next => cases overlaid
  | targetCoordinates =>
      rw [Snapshot.overlay?] at overlaid
      split at overlaid
      next stable =>
        cases overlaid
        exact .inr (.inr ⟨locked_parameters_iff.mp stable, inside⟩)
      next => cases overlaid
  | translateViewport | rotateViewport =>
      rw [Snapshot.overlay?, Parameters.get?_snapshot] at overlaid
      simp [SimulateArguments.parameters, Metadata.get_setSome] at overlaid
  | autoZoom | paddingRegion | autoZoomPaddingRegion =>
      rw [Snapshot.overlay?] at overlaid
      split at overlaid <;> cases overlaid
      cases inside
  | _ => cases overlaid

/-- The numbers that the results of a simulation depend on can be printed: those of the
arguments, and where the image is locked, those of the target. -/
structure PrintableNumbers (arguments : SimulateArguments) (activeArray : Rect) : Prop where
  padding : ∀ zoom, arguments.paddingZoom = some zoom → zoom.Printable
  maximum : arguments.autoZoom = true → ∀ zoom, arguments.maxPaddingZoom = some zoom →
    zoom.Printable
  target : arguments.stabilization = some .locked → ∀ corners,
    activeArray.targetCoordinates = .ok corners →
      ∀ single ∈ (Value.points corners).singles, single.Printable

private theorem printable_iff {activeArray : Rect} {timestamp : Timestamp}
    {bundle : CaptureResult} (synthesized : (Capabilities.eyesFree activeArray).synthesize
      (Parameters.mk arguments.parameters).snapshot (sampleResult timestamp) = .ok bundle) :
    (∀ single ∈ bundle.singles, single.Printable) ↔ PrintableNumbers arguments activeArray := by
  obtain ⟨corners, target⟩ := Capabilities.exists_target_of_synthesize synthesized
  have given := Capabilities.get_of_synthesize_of_target target synthesized
  constructor
  · intro printable
    obtain ⟨padding, maximum⟩ := @get?_parameters_zoom arguments
    have held (key : ResultKey) {value : Value}
        (overlaid : (Parameters.mk arguments.parameters).snapshot.overlay? corners key =
          some value) : ∀ single ∈ value.singles, single.Printable := fun single inside =>
      printable single (Metadata.mem_singles.mpr
        ⟨key, value, by rw [given, overlaid, Option.some_or], inside⟩)
    refine ⟨fun zoom asked => ?padding, fun automatic zoom asked => ?maximum,
      fun stable other same => ?target⟩
    case padding =>
      have overlaid := padding.trans (congrArg (Option.map Value.float) asked)
      exact held .paddingZoomFactor overlaid zoom (List.mem_singleton_self zoom)
    case maximum =>
      have overlaid := maximum.trans (congrArg (Option.map Value.float) asked)
      exact held .maxPaddingZoomFactor
        ((if_pos (autoZoom_parameters.trans automatic)).trans overlaid) zoom
        (List.mem_singleton_self zoom)
    case target =>
      have locked := locked_parameters_iff.mpr stable
      cases same.symm.trans (target locked)
      exact held .targetCoordinates (if_pos locked)
  · rintro numbers single member
    obtain ⟨key, value, held, inside⟩ := Metadata.mem_singles.mp member
    rw [given, Option.or_eq_some_iff] at held
    rcases held with overlaid | ⟨_, reported⟩
    · rcases origin_of_overlay overlaid inside with asked | ⟨automatic, asked⟩ | ⟨stable, corner⟩
      · exact numbers.padding single asked
      · exact numbers.maximum automatic single asked
      · have locked := locked_parameters_iff.mpr stable
        exact numbers.target stable corners (target locked) single corner
    · -- A sample has one number, and it can be printed.
      rw [Metadata.get_restrict] at reported
      split at reported
      · have sampled : single ∈ (sampleResult timestamp).singles :=
          Metadata.mem_singles.mpr ⟨key, value, reported, inside⟩
        cases List.mem_singleton.mp sampled
        decide +kernel
      · cases reported

private theorem line_of_delivery (set : setUp arguments configured = .ok simulation)
    (shown : arguments.events = true) {readings : List Reading} {delivery : Delivery}
    (told : delivery ∈ simulation.deliveries readings) (startedAt : String) (elapsed : Nat) :
    (encode delivery.event).compact ∈
      (Printout.simulation arguments configured readings startedAt elapsed).lines := by
  have line : (encode delivery.event).compact ∈
      Printout.eventLines arguments (simulation.deliveries readings) := by
    rw [Printout.eventLines, if_pos shown]
    exact List.mem_map.mpr ⟨delivery, told, rfl⟩
  simp only [Printout.simulation, set]
  exact List.mem_append_left _ (List.mem_append_right _ line)

end Simulation

/-! ## Everything that is printed -/

/-- What is printed of a value, of a request or of an event is read back exactly if all its
numbers can be printed. The result of a completed event has the numbers that the client, the
camera and the target gave it, so that its line is read back exactly if these can be
printed. In a simulation they are those of its options. -/
theorem printed_readBack (value : Value) (request : CaptureRequest) (event : CaptureEvent)
    (capabilities : Capabilities) (config : SessionConfig) (surfaces : Surfaces)
    (steps : List SessionStep) (step : SessionStep) (arguments : SimulateArguments)
    (configured : Settings) (readings : List Simulation.Reading) :
    ReadBackBy value value.singles ∧ ReadBackBy request request.singles ∧
    ReadBackBy event event.singles ∧
    (let fresh := World.fresh capabilities config surfaces
      ∀ delivery ∈ (step.perform (stateAfter SessionStep.perform fresh steps)).emitted,
        ∀ sequence timestamp bundle, delivery.event = .completed sequence timestamp bundle →
          ReadBackBy delivery.event bundle.singles ∧
          ∃ start ∈ acceptedStarts fresh steps, start.sequence = sequence ∧
            start.Accounts capabilities steps step bundle) ∧
    ∀ simulation, Simulation.setUp arguments configured = .ok simulation →
      ∀ delivery ∈ simulation.deliveries readings,
        ∀ sequence timestamp bundle, delivery.event = .completed sequence timestamp bundle →
          (arguments.events = true → ∀ startedAt elapsed, (encode delivery.event).compact ∈
            (Printout.simulation arguments configured readings startedAt elapsed).lines) ∧
          (decodeText CaptureEvent (encode delivery.event).compact = some delivery.event ↔
            Simulation.PrintableNumbers arguments
              (arguments.settings configured.simulation).activeArray) := by
  refine ⟨value.readBackBy, request.readBackBy, event.readBackBy, ?run, ?simulation⟩
  case run =>
    intro fresh delivery told sequence timestamp bundle completed
    exact readBackBy_of_completed steps step completed told
  case simulation =>
    intro simulation set delivery told sequence timestamp bundle completed
    have synthesized := Simulation.synthesize_of_completed set told completed
    refine ⟨fun shown => Simulation.line_of_delivery set shown told, ?_⟩
    rw [(CaptureEvent.readBackBy delivery.event).readBack_iff,
      ← Simulation.printable_iff synthesized, completed]
    rfl

def boundlessStill : List SessionStep :=
  [.operation (.initSession "0" .absent .absent), .operation .startSession,
    .operation (.setParameters (.ofEntries [(.paddingZoomFactor, .float ⟨0x7F800000⟩)])),
    .operation (.startMultiFrame "still")]

def zoomedSimulation : SimulateArguments := { paddingZoom := some ⟨0x3FC00000⟩, events := true }

/-- The infinite zoom is delivered in an event whose line is not read. The finite one is in
a line that is read back. -/
theorem printed_readBack_zoomed :
    (∃ bundle, ⟨"still", .completed .first 9 bundle⟩ ∈
        ((SessionStep.channel (.completePending 9)).perform
          (stateAfter SessionStep.perform World.ordinary boundlessStill)).emitted ∧
      decodeText CaptureEvent (encode (CaptureEvent.completed .first 9 bundle)).compact = none) ∧
    ∃ simulation, Simulation.setUp zoomedSimulation {} = .ok simulation ∧
      ∃ delivery ∈ simulation.deliveries [⟨0, false⟩], ∃ sequence timestamp bundle,
        delivery.event = .completed sequence timestamp bundle ∧
          decodeText CaptureEvent (encode delivery.event).compact = some delivery.event := by
  obtain ⟨_, _, _, boundlessRun, zoomedRun⟩ := printed_readBack (.float ⟨0x7F800000⟩)
    zoomedSimulation.parameters (.processStarted .first) (.eyesFree (.ofExtent 4000 3000))
    ⟨4, "relay"⟩ {} boundlessStill (.channel (.completePending 9)) zoomedSimulation {} [⟨0, false⟩]
  constructor
  · have told : ∃ bundle, ⟨"still", .completed .first 9 bundle⟩ ∈
        ((SessionStep.channel (.completePending 9)).perform
          (stateAfter SessionStep.perform World.ordinary boundlessStill)).emitted ∧
        bundle.get .paddingZoomFactor = some (.float ⟨0x7F800000⟩) :=
      ⟨_, .tail _ (.head _), rfl⟩
    obtain ⟨bundle, told, boundless⟩ := told
    obtain ⟨text, _⟩ := boundlessRun _ told _ _ _ rfl
    refine ⟨bundle, told, Option.eq_none_iff_forall_ne_some.mpr fun read decoded => ?_⟩
    have finite := text.finite read decoded ⟨0x7F800000⟩
      (Metadata.mem_singles.mpr ⟨_, _, boundless, List.mem_singleton_self _⟩)
    exact absurd finite (by decide)
  · obtain ⟨simulation, set, shown⟩ : ∃ simulation,
        Simulation.setUp zoomedSimulation {} = .ok simulation ∧
          (simulation.deliveries [⟨0, false⟩]).any fun delivery =>
            !delivery.event.singles.isEmpty := ⟨_, rfl, by decide +kernel⟩
    obtain ⟨delivery, told, shown⟩ := List.any_eq_true.mp shown
    obtain ⟨sequence, timestamp, bundle, completed⟩ : ∃ sequence timestamp bundle,
        delivery.event = .completed sequence timestamp bundle := by
      cases event : delivery.event with
      | completed sequence timestamp bundle => exact ⟨_, _, _, rfl⟩
      | _ => simp [event, CaptureEvent.singles] at shown
    obtain ⟨_, readBack⟩ := zoomedRun simulation set delivery told _ _ _ completed
    refine ⟨simulation, set, delivery, told, _, _, _, completed, readBack.mpr ?_⟩
    exact {
      padding := by
        rintro _ ⟨⟩
        decide +kernel
      maximum := by rintro ⟨⟩
      target := by rintro ⟨⟩ }

/-- A text is read as an infinite number, which is printed as null. -/
theorem printed_overflow :
    ∃ value, decodeText Value "\x7b\"type\":\"float\",\"value\":1e39\x7d" = some value ∧
      decodeText Value (encode value).compact = none := by
  refine ⟨.float ⟨0x7F800000⟩, by decide +kernel, by decide +kernel⟩

end EyesFree
