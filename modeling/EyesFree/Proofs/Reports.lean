import EyesFree.Proofs.Progress

namespace EyesFree

/-! Where deliveries come from: each one comes of a report about a request in the channel,
or tells of a capture that was started. -/

private theorem CaptureMove.comes_of_report {captures after : Captures} {step : SessionStep}
    {emitted : List Delivery} {outcome : Except Fault Reply}
    (move : CaptureMove captures step emitted outcome after) {delivery : Delivery}
    (told : delivery ∈ emitted) :
    (∃ flight ∈ captures.flights, ∃ context report,
      context.capabilities = captures.context.capabilities ∧
        delivery ∈ flight.told (CaptureContext.hear context) report ∧ step.Makes report) ∨
      ∃ start, step.start? captures.context outcome = some start ∧
        delivery = ⟨start.receiver, .processStarted start.sequence⟩ := by
  cases move with
  | renew active bound room asked =>
      obtain ⟨flight, running, told⟩ := List.mem_flatMap.mp told
      exact .inl ⟨flight, List.mem_append_left _ running, _, _, rfl, told, nofun⟩
  | submit active bound room asked once =>
      exact .inr ⟨_, SessionStep.start?_of_started asked _, List.mem_singleton.mp told⟩
  | stop active bound recorded =>
      obtain ⟨flight, running, told⟩ := List.mem_flatMap.mp told
      exact .inl ⟨flight, List.mem_append_left _ running, _, _, rfl, told, nofun⟩
  | frame about running =>
      obtain ⟨report, member, told⟩ := List.mem_flatMap.mp told
      exact .inl ⟨_, List.mem_append_left _ (Option.mem_toList.mpr running), _, report, rfl, told,
        SessionStep.makes_of_repeatingReports about _ report member⟩
  | drain about =>
      obtain ⟨⟨flight, frame⟩, numbered, told⟩ := List.mem_flatMap.mp told
      obtain ⟨report, member, told⟩ := List.mem_flatMap.mp told
      exact .inl ⟨flight, List.mem_append_right _ (List.fst_mem_of_mem_zipIdx numbered), _, report,
        rfl, told, SessionStep.makes_of_pendingReports about flight frame report member⟩
  | finish bound state later parameters =>
      obtain ⟨flight, carried, told⟩ := List.mem_flatMap.mp told
      exact .inl ⟨flight, carried, { captures.context with ended := true }, _, rfl, told, nofun⟩
  | _ => cases told

theorem CaptureStep.comes_of_report {captures after : Captures} {step : SessionStep}
    {emitted : List Delivery} {outcome : Except Fault Reply}
    (next : CaptureStep captures step emitted outcome after) {delivery : Delivery}
    (told : delivery ∈ emitted) :
    (∃ flight ∈ captures.flights, ∃ context report,
      context.capabilities = captures.context.capabilities ∧
        delivery ∈ flight.told (CaptureContext.hear context) report ∧ step.Makes report) ∨
      ∃ start, step.start? captures.context outcome = some start ∧
        delivery = ⟨start.receiver, .processStarted start.sequence⟩ := by
  cases next with
  | moved move => exact move.comes_of_report told
  | cut remaining tells =>
      obtain ⟨flight, carried, report, made, reported⟩ := tells delivery told
      exact .inl ⟨flight, carried, captures.context, report, rfl, reported, made⟩

theorem CaptureMove.belongsTo {captures after : Captures} {step : SessionStep}
    {emitted : List Delivery} {outcome : Except Fault Reply}
    (move : CaptureMove captures step emitted outcome after) {delivery : Delivery}
    (told : delivery ∈ emitted) :
    (∃ flight ∈ captures.flights, delivery.BelongsTo flight.client) ∨
      ∃ start, step.start? captures.context outcome = some start ∧
        delivery.BelongsTo start.subscription := by
  rcases move.comes_of_report told with
    ⟨flight, carried, _, _, _, told, _⟩ | ⟨start, started, rfl⟩
  · exact .inl ⟨flight, carried, flight.belongsTo_of_mem_told delivery told⟩
  · exact .inr ⟨start, started, rfl, rfl⟩

end EyesFree
