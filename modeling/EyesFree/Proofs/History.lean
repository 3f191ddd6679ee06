import EyesFree.Proofs.Reports

namespace EyesFree

/-! The history of a capture: the events of its sequence from the start of the run on, at
every point of the run. -/

/-- The events of a start so far, and whether the channel still has its request. -/
inductive History (start : Start) : Prop → List CaptureEvent → Prop
  | running {carried} {frames : List (List CaptureEvent)} (repeating : start.kind = .repeating)
      (has : carried) (told : ∀ frame ∈ frames, FrameEvents start.sequence frame) :
      History start carried frames.flatten
  | stopped {carried} {frames : List (List CaptureEvent)} (repeating : start.kind = .repeating)
      (gone : ¬carried) (told : ∀ frame ∈ frames, FrameEvents start.sequence frame) :
      History start carried (frames.flatten ++ [.sequenceCompleted start.sequence])
  | pending {carried} (once : start.kind ≠ .repeating) (has : carried) :
      History start carried [.processStarted start.sequence]
  | finished {carried last} (once : start.kind ≠ .repeating) (gone : ¬carried)
      (told : FinalEvents start.sequence last) :
      History start carried (.processStarted start.sequence :: last)

private theorem History.unheard {start : Start} {carried : Prop}
    (repeating : start.kind = .repeating) (has : carried) : History start carried [] :=
  @History.running start carried [] repeating has (by simp)

private theorem History.progress {start : Start} {before after : Prop}
    {events more : List CaptureEvent}
    (history : History start before events) (progress : Progress start before after more) :
    History start after (events ++ more) := by
  cases progress with
  | untouched same =>
      rw [propext same, List.append_nil]
      exact history
  | frame repeating has keeps frameTold =>
      cases history with
      | @running frames _ _ told =>
          have flattened : frames.flatten ++ more = (frames ++ [more]).flatten := by simp
          rw [flattened]
          refine .running repeating keeps ?_
          intro frame frameMember
          rcases List.mem_append.mp frameMember with earlier | last
          · exact told frame earlier
          · rw [List.mem_singleton.mp last]
            exact frameTold
      | stopped _ gone => exact absurd has gone
      | pending once => exact absurd repeating once
      | finished once => exact absurd repeating once
  | stop repeating has gone =>
      cases history with
      | running _ _ told => exact .stopped repeating gone told
      | stopped _ gone => exact absurd has gone
      | pending once => exact absurd repeating once
      | finished once => exact absurd repeating once
  | last once has gone finalTold =>
      cases history with
      | running repeating => exact absurd repeating once
      | stopped repeating => exact absurd repeating once
      | pending => exact .finished once gone finalTold
      | finished _ gone => exact absurd has gone

/-! ## Everything that was told -/

/-- What is known about the deliveries of a run: each belongs to a start, and each start has a
history, a repeating one as long as the session did not end. -/
structure Told (starts : List Start) (captures : Captures) (past : List Delivery) : Prop where
  addressed : ∀ delivery ∈ past, ∃ start ∈ starts, delivery.BelongsTo start.subscription
  histories : ∀ start ∈ starts, (start.kind = .repeating → captures.context.ended = false) →
    History start (captures.Carries start) (eventsOf start.sequence past)

namespace Ledger

variable {capabilities : Capabilities} {starts : List Start} {captures after : Captures}
  {step : SessionStep} {emitted : List Delivery} {outcome : Except Fault Reply}
  (ledger : Ledger capabilities starts captures)
  (move : CaptureMove captures step emitted outcome after)
include ledger move

omit move in
/-- A delivery belongs to a start, also if a fault cut the step off. -/
theorem addressed (next : CaptureStep captures step emitted outcome after) {delivery : Delivery}
    (told : delivery ∈ emitted) :
    ∃ start ∈ starts ++ (step.start? captures.context outcome).toList,
      delivery.BelongsTo start.subscription := by
  cases next with
  | moved move =>
      rcases move.belongsTo told with
        ⟨flight, carried, belongs⟩ | ⟨start, started, belongs⟩
      · obtain ⟨start, member, client, _⟩ := ledger.mem_of_mem_flights carried
        exact ⟨start, List.mem_append_left _ member, client ▸ belongs⟩
      · exact ⟨start, List.mem_append_right _ (Option.mem_toList.mpr started), belongs⟩
  | cut remaining tells =>
      obtain ⟨flight, carried, report, _, reported⟩ := tells delivery told
      obtain ⟨start, member, client, _⟩ := ledger.mem_of_mem_flights carried
      exact ⟨start, List.mem_append_left _ member,
        client ▸ flight.belongsTo_of_mem_told delivery reported⟩

private theorem history_of_started {start : Start}
    (started : step.start? captures.context outcome = some start) :
    History start (after.Carries start) (eventsOf start.sequence emitted) := by
  cases move with
  | @renew step sequencer snapshot receiver active bound room asked =>
      rw [SessionStep.start?_of_started asked] at started
      obtain rfl := Option.some.inj started
      have silent : eventsOf sequencer.nextId (captures.channel.repeating.toList.flatMap
          (ReplayChannel.toldEnd captures.context.hear captures.channel.nextFrame)) = [] := by
        apply eventsOf_eq_nil
        intro delivery told same
        obtain ⟨flight, running, told⟩ := List.mem_flatMap.mp told
        obtain ⟨other, member, client, _⟩ :=
          ledger.mem_of_mem_flights (List.mem_append_left _ running)
        rw [(flight.belongsTo_of_mem_told delivery told).2, client] at same
        exact ledger.nextId_ne bound room member same
      change History _ _ (eventsOf sequencer.nextId _)
      rw [silent]
      let flight := sequencer.flightOf captures.channel .repeating snapshot receiver
      exact .unheard rfl ⟨flight, List.mem_append_left _ (Option.mem_toList.mpr rfl), rfl⟩
  | @submit step sequencer kind snapshot receiver active bound room asked once =>
      rw [SessionStep.start?_of_started asked] at started
      obtain rfl := Option.some.inj started
      have told : eventsOf sequencer.nextId [⟨receiver, .processStarted sequencer.nextId⟩] =
          [.processStarted sequencer.nextId] := eventsOf_eq_map (by simp [CaptureEvent.sequence])
      change History _ _ (eventsOf sequencer.nextId _)
      rw [told]
      let flight := sequencer.flightOf captures.channel kind snapshot receiver
      have member : flight ∈ captures.channel.pending ++ [flight] :=
        List.mem_append_right _ (List.mem_singleton_self flight)
      exact .pending once ⟨flight, List.mem_append_right _ member, rfl⟩
  | stay unstarted =>
      rw [SessionStep.start?_of_unstarted unstarted] at started
      cases started
  | _ =>
      rw [SessionStep.start?_of_unstarted (by simp)] at started
      cases started

private theorem sequence_ne_of_started {start other : Start}
    (started : step.start? captures.context outcome = some start) (member : other ∈ starts) :
    other.sequence ≠ start.sequence := by
  have distinct := (ledger.move move).distinct
  rw [started, Option.toList_some, List.map_append, List.nodup_append] at distinct
  exact distinct.2.2 _ (List.mem_map_of_mem member) _ (by simp)

omit ledger in
private theorem opened_before (opened : after.context.ended = false) :
    captures.context.ended = false := by
  cases move with
  | finish => cases opened
  | _ => exact opened

/-- After the end of the session nothing is told about repeating requests, not even by
the step that ends it. -/
theorem silent_of_ended {start : Start} (member : start ∈ starts)
    (repeating : start.kind = .repeating) (ended : after.context.ended = true) :
    eventsOf start.sequence emitted = [] := by
  cases move with
  | renew active bound =>
      rw [ledger.opened (by simp [bound])] at ended
      cases ended
  | submit active bound =>
      rw [ledger.opened (by simp [bound])] at ended
      cases ended
  | stop active bound =>
      rw [ledger.opened (by simp [bound])] at ended
      cases ended
  | frame about running =>
      have empty := ledger.flights_eq_nil ended
      simp [Captures.flights, running] at empty
  | drain about =>
      have empty : captures.channel.pending = [] :=
        (List.append_eq_nil_iff.mp (ledger.flights_eq_nil ended)).2
      rw [empty]
      rfl
  | finish bound state later parameters =>
      apply eventsOf_eq_nil
      intro delivery told same
      obtain ⟨flight, carried, told⟩ := List.mem_flatMap.mp told
      rw [(flight.belongsTo_of_mem_told delivery told).2] at same
      have client := ledger.client_eq carried member same
      have kind : flight.client.kind = .repeating := by
        rw [client]
        exact repeating
      unfold ReplayChannel.toldAbort at told
      rw [Flight.told_hear_of_held kind rfl] at told
      cases told
  | _ => rfl

private theorem start?_of_ended (ended : after.context.ended = true) :
    step.start? captures.context outcome = none := by
  cases move with
  | renew active bound =>
      rw [ledger.opened (by simp [bound])] at ended
      cases ended
  | submit active bound =>
      rw [ledger.opened (by simp [bound])] at ended
      cases ended
  | stay unstarted => exact SessionStep.start?_of_unstarted unstarted
  | _ => exact SessionStep.start?_of_unstarted (by simp)

private theorem told (extent : capabilities.activeArray.HasExtent) {past : List Delivery}
    (told : Told starts captures past) :
    Told (starts ++ (step.start? captures.context outcome).toList) after (past ++ emitted) where
  addressed := by
    intro delivery member
    rcases List.mem_append.mp member with earlier | new
    · obtain ⟨start, startMember, belongs⟩ := told.addressed delivery earlier
      exact ⟨start, List.mem_append_left _ startMember, belongs⟩
    · exact ledger.addressed (.moved move) new
  histories := by
    intro start member heard
    rw [eventsOf_append]
    rcases List.mem_append.mp member with earlier | new
    · have history := told.histories start earlier fun repeating =>
        opened_before move (heard repeating)
      exact history.progress (ledger.progress earlier extent move heard)
    · have started := Option.mem_toList.mp new
      have silent : eventsOf start.sequence past = [] := by
        apply eventsOf_eq_nil
        intro delivery deliveryMember same
        obtain ⟨other, otherMember, _, otherSequence⟩ := told.addressed delivery deliveryMember
        rw [otherSequence] at same
        exact ledger.sequence_ne_of_started move started otherMember same
      rw [silent, List.nil_append]
      exact ledger.history_of_started move started

end Ledger

/-! ## Runs -/

theorem addressed_run (capabilities : Capabilities) (config : SessionConfig) (surfaces : Surfaces)
    (steps : List SessionStep) :
    let fresh := World.fresh capabilities config surfaces
    ∀ delivery ∈ emittedBy SessionStep.perform fresh steps,
      ∃ start ∈ acceptedStarts fresh steps, delivery.BelongsTo start.subscription := by
  let fresh := World.fresh capabilities config surfaces
  refine run_invariant SessionStep.perform
    (motive := fun steps _ past => ∀ delivery ∈ past,
      ∃ start ∈ acceptedStarts fresh steps, delivery.BelongsTo start.subscription)
    (by simp) ?_ steps
  intro steps step world addressed delivery member
  have ledger := @Ledger.reached capabilities config surfaces steps
  rw [acceptedStarts_concat]
  rcases List.mem_append.mp member with earlier | new
  · obtain ⟨start, startMember, belongs⟩ := addressed delivery earlier
    exact ⟨start, List.mem_append_left _ startMember, belongs⟩
  · exact ledger.addressed (ledger.captureStep step) new

section

variable {capabilities : Capabilities} (extent : capabilities.activeArray.HasExtent)
  (config : SessionConfig) (surfaces : Surfaces)
include extent

private theorem told_run (steps : List SessionStep) :
    let fresh := World.fresh capabilities config surfaces
    Told (acceptedStarts fresh steps) (stateAfter SessionStep.perform fresh steps).captures
      (emittedBy SessionStep.perform fresh steps) := by
  refine (Ledger.run_moves extent ⟨by simp, by simp⟩ ?_ steps).2
  intro starts captures past step emitted outcome after ledger move told
  exact ledger.told move extent told

private theorem eventsOf_repeating_of_inactive (steps : List SessionStep) :
    let fresh := World.fresh capabilities config surfaces
    ∀ start ∈ acceptedStarts fresh steps, start.kind = .repeating →
      (stateAfter SessionStep.perform fresh steps).session.state ≠ .active →
        ∃ before step after, steps = before ++ step :: after ∧
          start ∈ acceptedStarts fresh before ∧
          (stateAfter SessionStep.perform fresh before).session.state = .active ∧
          (stateAfter SessionStep.perform fresh (before ++ [step])).session.state ≠ .active ∧
          eventsOf start.sequence (emittedBy SessionStep.perform fresh steps) =
            eventsOf start.sequence (emittedBy SessionStep.perform fresh before) := by
  intro fresh
  induction steps using List.reverseRecOn with
  | nil => simp [acceptedStarts]
  | append_singleton steps step induction =>
      intro start member repeating inactive
      let last := stateAfter SessionStep.perform fresh steps
      have ledger : Ledger capabilities (acceptedStarts fresh steps) last.captures :=
        Ledger.run extent steps
      have move := ledger.moves extent step
      rw [acceptedStarts_concat] at member
      rw [stateAfter_concat] at inactive
      have ended := (ledger.move move).signaled (List.ne_nil_of_mem member) inactive
      have unstarted := ledger.start?_of_ended move ended
      change start ∈ acceptedStarts fresh steps ++
        (step.start? last.captures.context _).toList at member
      rw [unstarted, Option.toList_none, List.append_nil] at member
      have silent := ledger.silent_of_ended move member repeating ended
      rw [emittedBy_concat, eventsOf_append, silent, List.append_nil]
      by_cases active : last.session.state = .active
      · refine ⟨steps, step, [], rfl, member, active, ?_, rfl⟩
        rw [stateAfter_concat]
        exact inactive
      · obtain ⟨before, ending, between, rfl, rest⟩ := induction start member repeating active
        exact ⟨before, ending, between ++ [step], by simp, rest⟩

private theorem exists_start_of_answered (steps : List SessionStep) :
    let fresh := World.fresh capabilities config surfaces
    ∀ recorded ∈ runSteps SessionStep.perform fresh steps, ∀ id,
      recorded.outcome = .ok (.started id) →
        ∃ start ∈ acceptedStarts fresh steps, start.sequence = id := by
  intro fresh recorded member id answered
  obtain ⟨place, found⟩ := List.mem_iff_getElem?.mp member
  rw [getElem?_runSteps] at found
  obtain ⟨step, stepFound, rfl⟩ := Option.map_eq_some_iff.mp found
  obtain ⟨later, starts⟩ := acceptedStarts_eq_of_getElem? stepFound fresh
  have ledger : Ledger capabilities (acceptedStarts fresh (steps.take place))
      (stateAfter SessionStep.perform fresh (steps.take place)).captures := Ledger.run extent _
  have move := ledger.moves extent step
  dsimp only at answered
  rw [SessionStep.Moves, answered] at move
  obtain ⟨start, started, sequence⟩ := move.exists_start
  refine ⟨start, ?_, sequence⟩
  rw [starts, answered]
  exact List.mem_append_left _ (List.mem_append_right _ (Option.mem_toList.mpr started))

/-- Every id that is answered is that of a start. The events of its sequence reach only the
client that started it, and are a history at every point of the run. A repeating request has
its history while the session is active; afterwards it stays as it was. -/
theorem sequence_history (steps : List SessionStep) :
    let fresh := World.fresh capabilities config surfaces
    let world := stateAfter SessionStep.perform fresh steps
    let deliveries := emittedBy SessionStep.perform fresh steps
    (∀ recorded ∈ runSteps SessionStep.perform fresh steps, ∀ id,
      recorded.outcome = .ok (.started id) →
        ∃ start ∈ acceptedStarts fresh steps, start.sequence = id) ∧
    ∀ start ∈ acceptedStarts fresh steps,
      (∀ delivery ∈ deliveries, delivery.event.sequence = start.sequence →
        delivery.receiver = start.receiver) ∧
      (start.kind ≠ .repeating ∨ world.session.state = .active →
        History start (world.captures.Carries start) (eventsOf start.sequence deliveries)) ∧
      (start.kind = .repeating → world.session.state ≠ .active →
        ∃ before step after, steps = before ++ step :: after ∧
          start ∈ acceptedStarts fresh before ∧
          (stateAfter SessionStep.perform fresh before).session.state = .active ∧
          (stateAfter SessionStep.perform fresh (before ++ [step])).session.state ≠ .active ∧
          History start ((stateAfter SessionStep.perform fresh before).captures.Carries start)
            (eventsOf start.sequence deliveries) ∧
          eventsOf start.sequence deliveries =
            eventsOf start.sequence (emittedBy SessionStep.perform fresh before)) := by
  intro fresh world deliveries
  refine ⟨exists_start_of_answered extent config surfaces steps, ?_⟩
  intro start member
  have ledger : Ledger capabilities (acceptedStarts fresh steps) world.captures :=
    Ledger.run extent steps
  have told := told_run extent config surfaces steps
  refine ⟨?_, ?_, ?_⟩
  · intro delivery deliveryMember same
    obtain ⟨other, otherMember, receiver, sequence⟩ := told.addressed delivery deliveryMember
    rw [ledger.eq_of_sequence_eq member otherMember (same.symm.trans sequence)]
    exact receiver
  · intro kept
    apply told.histories start member
    intro repeating
    rcases kept with once | active
    · exact absurd repeating once
    · exact ledger.opened (ledger.lively active)
  · intro repeating inactive
    obtain ⟨before, step, after, split, earlier, active, ends, same⟩ :=
      eventsOf_repeating_of_inactive extent config surfaces steps start member repeating inactive
    refine ⟨before, step, after, split, earlier, active, ends, ?_, same⟩
    have ledgerBefore := @Ledger.run capabilities config surfaces extent before
    rw [same]
    exact (told_run extent config surfaces before).histories start earlier fun _ =>
      ledgerBefore.opened (ledgerBefore.lively active)

end

def replacement : List SessionStep :=
  [.operation (.initSession "0" .absent .absent), .operation .startSession,
    .operation (.startRepeating "preview"), .channel (.fireRepeating 7),
    .operation (.startMultiFrame "still"), .operation (.startRepeating "again"),
    .channel (.completePending 9)]

theorem sequence_history_replacement :
    (acceptedStarts World.ordinary replacement).map Start.subscription =
        [⟨⟨1⟩, .repeating, "preview"⟩, ⟨⟨2⟩, .multiFrame, "still"⟩, ⟨⟨3⟩, .repeating, "again"⟩] ∧
      (stateAfter SessionStep.perform World.ordinary replacement).session.state = .active ∧
      ∀ start ∈ acceptedStarts World.ordinary replacement,
        History start
          ((stateAfter SessionStep.perform World.ordinary replacement).captures.Carries start)
          (eventsOf start.sequence (emittedBy SessionStep.perform World.ordinary replacement)) := by
  have active : (stateAfter SessionStep.perform World.ordinary replacement).session.state =
      .active := by decide +kernel
  refine ⟨by decide +kernel, active, ?_⟩
  intro start member
  have extent : (Capabilities.eyesFree (.ofExtent 4000 3000)).activeArray.HasExtent :=
    Rect.hasExtent_ofExtent 4000 3000
  obtain ⟨_, history, _⟩ :=
    (sequence_history extent ⟨4, "relay"⟩ {} replacement).2 start member
  exact history (.inr active)

end EyesFree
