import EyesFree.Proofs.Reports

namespace EyesFree

/-! The parameters of a capture on their way from its start through the channel to
the results that its client gets. Whatever is set, started or replaced in between
does not change them. -/

/-- A start was made by a step, with the parameters that were stored then, or, for a
trigger, with the published entries of its own request. -/
inductive Start.MadeBy (capabilities : Capabilities) (before : ReplayWorld) (start : Start) :
    SessionStep → Prop
  | repeating (kind : start.kind = .repeating)
      (parameters : start.parameters = before.session.context.parameters.snapshot) :
      MadeBy capabilities before start (.operation (.startRepeating start.receiver))
  | multiFrame (kind : start.kind = .multiFrame)
      (parameters : start.parameters = before.session.context.parameters.snapshot) :
      MadeBy capabilities before start (.operation (.startMultiFrame start.receiver))
  | trigger (request : CaptureRequest) (kind : start.kind = .trigger)
      (parameters : start.parameters =
        ⟨request.entries.filter fun entry => capabilities.requestKeys.contains entry.1⟩) :
      MadeBy capabilities before start (.operation (.startTrigger request start.receiver))

/-! ## Starts and the steps that made them -/

private theorem RequestKind.outputs_eq (kind : RequestKind) :
    kind.outputs = if kind = .multiFrame then [0] else [1] := by
  cases kind <;> rfl

theorem SessionStep.madeBy_of_start? {capabilities : Capabilities} {before : ReplayWorld}
    (published : before.session.context.capabilities = capabilities) {step : SessionStep}
    {outcome : Except Fault Reply} {start : Start}
    (started : step.start? before.session.context outcome = some start) :
    start.MadeBy capabilities before step ∧ outcome = .ok (.started start.sequence) := by
  unfold SessionStep.start? at started
  split at started
  next kind parameters receiver id asked =>
    cases started
    refine ⟨?_, rfl⟩
    unfold SessionStep.capture? at asked
    split at asked
    · cases asked
      exact .repeating rfl rfl
    · cases asked
      exact .multiFrame rfl rfl
    · cases asked
      subst published
      exact .trigger _ rfl rfl
    · cases asked
  next => cases started

theorem mem_acceptedStarts {world : ReplayWorld} {steps : List SessionStep} {start : Start}
    (member : start ∈ acceptedStarts world steps) :
    ∃ place step, steps[place]? = some step ∧
      let before := stateAfter SessionStep.perform world (steps.take place)
      step.start? before.session.context (step.perform before).outcome = some start := by
  induction steps generalizing world with
  | nil => cases member
  | cons step rest induction =>
      rcases List.mem_append.mp member with first | later
      · exact ⟨0, step, rfl, Option.mem_toList.mp first⟩
      · obtain ⟨place, other, found, started⟩ := induction later
        exact ⟨place + 1, other, found, started⟩

/-! ## Results -/

theorem Subscription.completed_of_mem_events {capabilities : Capabilities}
    {subscription : Subscription} {request : Request} {report : Report}
    {events : List CaptureEvent}
    (equal : subscription.events capabilities request report = .ok events)
    {sequence : SequenceId} {timestamp : Timestamp} {bundle : CaptureResult}
    (member : .completed sequence timestamp bundle ∈ events) :
    ∃ result, report = .completed result ∧ result.sensorTimestamp = some timestamp ∧
      capabilities.synthesize request.parameters result = .ok bundle := by
  have unlike : .completed sequence timestamp bundle ∉ subscription.next := by
    unfold Subscription.next
    split <;> simp
  cases report with
  | completed result =>
      refine ⟨result, rfl, ?_⟩
      cases timed : result.sensorTimestamp with
      | none =>
          rw [events_eq_of_untimed timed] at equal
          cases equal
          exact absurd member unlike
      | some stamp =>
          cases synthesized : capabilities.synthesize request.parameters result with
          | error fault =>
              rw [events_eq_of_fault timed synthesized] at equal
              cases equal
          | ok given =>
              rw [events_eq_of_timed timed synthesized] at equal
              cases equal
              rcases List.mem_cons.mp member with same | next
              · cases same
                exact ⟨rfl, rfl⟩
              · exact absurd next unlike
  | _ =>
      cases equal
      simp at member

private theorem Flight.completed_of_mem_told {context : CaptureContext}
    {flight : Flight Subscription}
    {report : Report} {delivery : Delivery} (told : delivery ∈ flight.told context.hear report)
    {sequence : SequenceId} {timestamp : Timestamp} {bundle : CaptureResult}
    (completed : delivery.event = .completed sequence timestamp bundle) :
    ∃ result, report = .completed result ∧ result.sensorTimestamp = some timestamp ∧
      context.capabilities.synthesize flight.request.parameters result = .ok bundle := by
  by_cases held : flight.client.kind = .repeating ∧ context.ended = true
  · rw [told_hear_of_held held.1 held.2] at told
    cases told
  have heard : flight.client.kind = .repeating → context.ended = false := fun repeating =>
    Bool.eq_false_iff.mpr fun ended => held ⟨repeating, ended⟩
  cases equal : flight.client.events context.capabilities flight.request report with
  | error fault =>
      rw [told_hear_of_fault equal] at told
      cases told
  | ok events =>
      rw [told_hear heard equal] at told
      obtain ⟨event, member, rfl⟩ := List.mem_map.mp told
      subst completed
      exact Subscription.completed_of_mem_events equal member

private theorem CaptureStep.completed {captures after : Captures} {step : SessionStep}
    {emitted : List Delivery} {outcome : Except Fault Reply}
    (next : CaptureStep captures step emitted outcome after) {delivery : Delivery}
    (told : delivery ∈ emitted) {sequence : SequenceId} {timestamp : Timestamp}
    {bundle : CaptureResult} (completed : delivery.event = .completed sequence timestamp bundle) :
    ∃ flight ∈ captures.flights, delivery.BelongsTo flight.client ∧
      ∃ result, step.result? = some result ∧ result.sensorTimestamp = some timestamp ∧
        captures.context.capabilities.synthesize flight.request.parameters result = .ok bundle := by
  rcases next.comes_of_report told with
    ⟨flight, carried, context, report, same, told, made⟩ | ⟨start, _, rfl⟩
  · obtain ⟨result, rfl, timed, synthesized⟩ := flight.completed_of_mem_told told completed
    exact ⟨flight, carried, flight.belongsTo_of_mem_told delivery told, result, made result rfl,
      timed, same ▸ synthesized⟩
  · cases completed

/-! ## Runs -/

/-- Every completed frame of a run is told about with what the parameters of its start and the
reported result give. -/
theorem start_of_completed {capabilities : Capabilities} {config : SessionConfig}
    {surfaces : Surfaces} (steps : List SessionStep) (step : SessionStep) {delivery : Delivery}
    {sequence : SequenceId} {timestamp : Timestamp} {bundle : CaptureResult}
    (completed : delivery.event = .completed sequence timestamp bundle) :
    let fresh := World.fresh capabilities config surfaces
    delivery ∈ (step.perform (stateAfter SessionStep.perform fresh steps)).emitted →
      ∃ start ∈ acceptedStarts fresh steps,
        start.sequence = sequence ∧ start.receiver = delivery.receiver ∧
          ∃ result, step.result? = some result ∧ result.sensorTimestamp = some timestamp ∧
            capabilities.synthesize start.parameters result = .ok bundle := by
  intro fresh told
  have ledger : Ledger capabilities (acceptedStarts fresh steps)
      (stateAfter SessionStep.perform fresh steps).captures := Ledger.reached steps
  obtain ⟨flight, carried, belongs, result, reported, timed, synthesized⟩ :=
    (ledger.captureStep step).completed told completed
  obtain ⟨start, member, client, request⟩ := ledger.mem_of_mem_flights carried
  rw [client] at belongs
  rw [ledger.published, request] at synthesized
  refine ⟨start, member, ?_, belongs.1.symm, result, reported, timed, synthesized⟩
  have same := belongs.2
  rw [completed] at same
  exact same.symm

section

variable {capabilities : Capabilities} (extent : capabilities.activeArray.HasExtent)
  (config : SessionConfig) (surfaces : Surfaces)
include extent

/-- The channel was given the requests of the accepted starts, in order, each with the
parameters of its start, a still for the stream of captures and any other one for the
preview; and every completed frame is told about with what those parameters and the
reported result give. -/
theorem submission_faithful (steps : List SessionStep) :
    let fresh := World.fresh capabilities config surfaces
    let starts := acceptedStarts fresh steps
    (stateAfter SessionStep.perform fresh steps).channel.submitted =
        starts.map (fun start =>
          ⟨start.kind, if start.kind = .multiFrame then [0] else [1], start.parameters⟩) ∧
      (starts.map Start.sequence).Nodup ∧
      (∀ start ∈ starts, ∃ place step, steps[place]? = some step ∧
        let before := stateAfter SessionStep.perform fresh (steps.take place)
        start.MadeBy capabilities before step ∧
          (step.perform before).outcome = .ok (.started start.sequence)) ∧
      ∀ place step, steps[place]? = some step →
        let before := stateAfter SessionStep.perform fresh (steps.take place)
        ∀ delivery ∈ (step.perform before).emitted, ∀ sequence timestamp bundle,
          delivery.event = .completed sequence timestamp bundle →
            ∃ start ∈ acceptedStarts fresh (steps.take place),
              start.sequence = sequence ∧ start.receiver = delivery.receiver ∧
                ∃ result, step.result? = some result ∧
                  result.sensorTimestamp = some timestamp ∧
                  capabilities.synthesize start.parameters result = .ok bundle := by
  intro fresh starts
  have run (steps : List SessionStep) : Ledger capabilities (acceptedStarts fresh steps)
      (stateAfter SessionStep.perform fresh steps).captures := Ledger.run extent steps
  refine ⟨?_, (run steps).distinct, ?_, ?_⟩
  · refine (run steps).submitted.trans (List.map_congr_left fun start _ => ?_)
    rw [Start.request, Request.of, RequestKind.outputs_eq]
  · intro start member
    obtain ⟨place, step, found, started⟩ := mem_acceptedStarts member
    exact ⟨place, step, found,
      SessionStep.madeBy_of_start? (run (steps.take place)).published started⟩
  · intro place step found before delivery told sequence timestamp bundle completed
    exact start_of_completed (steps.take place) step completed told

end

def overtaken : List SessionStep :=
  [.operation (.initSession "0" .absent .absent), .operation .startSession,
    .operation (.startRepeating "preview"),
    .operation (.setParameters (.ofEntries [(.autoZoom, .bool true)])),
    .operation (.startMultiFrame "still"),
    .operation (.setParameters (.ofEntries [(.autoZoom, .bool false)])),
    .operation (.startTrigger
      (.ofEntries [(.paddingZoomFactor, .int 2), (.controlAeMode, .int 1)]) "trigger"),
    .channel (.completePending 9)]

theorem submission_faithful_overtaken :
    (stateAfter SessionStep.perform World.ordinary overtaken).channel.submitted =
      [⟨.repeating, [1], ⟨[]⟩⟩, ⟨.multiFrame, [0], ⟨[(.autoZoom, .bool true)]⟩⟩,
        ⟨.trigger, [1], ⟨[(.paddingZoomFactor, .int 2)]⟩⟩] := by
  have extent : (Capabilities.eyesFree (.ofExtent 4000 3000)).activeArray.HasExtent :=
    Rect.hasExtent_ofExtent 4000 3000
  obtain ⟨submitted, _⟩ := submission_faithful extent ⟨4, "relay"⟩ {} overtaken
  refine submitted.trans ?_
  decide +kernel

end EyesFree
