import EyesFree.Capture.SequencerRun
import EyesFree.Proofs.Ledger

namespace EyesFree

/-! The record of the running repeating capture. A sequencer remembers the id of the
repeating request in its channel, so that the same fact is kept twice; as long as nobody
else uses the channel the two agree after every step. -/

/-! ## Starts of a sequencer -/

def SequencerStep.capture? (context : CaptureContext) :
    SequencerStep → Option (RequestKind × Snapshot × Receiver)
  | .startRepeating receiver => some (.repeating, context.parameters.snapshot, receiver)
  | .startMultiFrame receiver => some (.multiFrame, context.parameters.snapshot, receiver)
  | .startTrigger request receiver =>
      some (.trigger, request.supported context.capabilities, receiver)
  | _ => none

def SequencerStep.start? (context : CaptureContext) (step : SequencerStep)
    (outcome : Except Fault SequencerReply) : Option Start :=
  match step.capture? context, outcome with
  | some (kind, parameters, receiver), .ok (.started id) => some ⟨⟨id, kind, receiver⟩, parameters⟩
  | _, _ => none

def SequencerStage.starts (stage : SequencerStage) (steps : List SequencerStep) : List Start :=
  notedBy perform
    (fun stage step => (step.start? stage.context (perform step stage).outcome).toList) stage steps

theorem SequencerStep.start?_of_unstarted {context : CaptureContext} {step : SequencerStep}
    {outcome : Except Fault SequencerReply}
    (unstarted : ∀ id, outcome ≠ .ok (.started id)) : step.start? context outcome = none := by
  unfold start?
  split
  next id _ => exact absurd rfl (unstarted id)
  next => rfl

theorem SequencerStep.start?_of_started {context : CaptureContext} {step : SequencerStep}
    {kind : RequestKind} {snapshot : Snapshot} {receiver : Receiver}
    (asked : step.capture? context = some (kind, snapshot, receiver)) (id : SequenceId) :
    step.start? context (.ok (.started id)) = some ⟨⟨id, kind, receiver⟩, snapshot⟩ := by
  simp [start?, asked]

/-! ## Steps -/

/-- What a step can do to the record and the slot, and to the counter of ids. -/
inductive SequencerMove (stage : SequencerStage) (step : SequencerStep) :
    Except Fault SequencerReply → SequencerStage → Prop
  /-- Neither of them is concerned; an id may get lost. -/
  | keep {outcome : Except Fault SequencerReply} {after : SequencerStage}
      (unstarted : ∀ id, outcome ≠ .ok (.started id))
      (counted : stage.sequencer.next ≤ after.sequencer.next)
      (record : after.sequencer.repeating = stage.sequencer.repeating)
      (slot : after.channel.repeating = stage.channel.repeating) :
      SequencerMove stage step outcome after
  /-- A repeating capture is started, in place of one that may be running. -/
  | renew {after : SequencerStage} {flight : Flight Subscription} {snapshot : Snapshot}
      {receiver : Receiver} (room : stage.sequencer.next ≤ SequenceId.limit)
      (asked : step.capture? stage.context = some (.repeating, snapshot, receiver))
      (counted : after.sequencer.next = stage.sequencer.next + 1)
      (client : flight.client = ⟨stage.sequencer.nextId, .repeating, receiver⟩)
      (request : flight.request = .of .repeating snapshot)
      (record : after.sequencer.repeating = some stage.sequencer.nextId)
      (slot : after.channel.repeating = some flight) :
      SequencerMove stage step (.ok (.started stage.sequencer.nextId)) after
  /-- A request for one capture is submitted. -/
  | submit {after : SequencerStage} {kind : RequestKind} {snapshot : Snapshot}
      {receiver : Receiver} (room : stage.sequencer.next ≤ SequenceId.limit)
      (asked : step.capture? stage.context = some (kind, snapshot, receiver))
      (counted : after.sequencer.next = stage.sequencer.next + 1)
      (record : after.sequencer.repeating = stage.sequencer.repeating)
      (slot : after.channel.repeating = stage.channel.repeating) :
      SequencerMove stage step (.ok (.started stage.sequencer.nextId)) after
  /-- The repeating capture is ended. -/
  | clear {outcome : Except Fault SequencerReply} {after : SequencerStage}
      (unstarted : ∀ id, outcome ≠ .ok (.started id))
      (counted : after.sequencer.next = stage.sequencer.next)
      (record : after.sequencer.repeating = none) (slot : after.channel.repeating = none) :
      SequencerMove stage step outcome after

private theorem ChannelStep.keeps_repeating {κ ε : Type} {hear : Hearing κ ε}
    (step : ChannelStep) :
    (step.perform hear : Activity (ReplayChannel κ) ε ChannelReply).Keeps (·.repeating) := by
  intro channel
  rcases step.cases_reports with ⟨rejecting, rfl⟩ | ⟨reports, about⟩ | ⟨reports, about⟩
  · rfl
  · cases running : channel.repeating with
    | none =>
        rw [perform_eq_of_idle about running]
    | some flight =>
        rw [perform_of_repeatingReports about, Activity.bind_pure_apply]
        rcases @ReplayChannel.replayRepeating_cases κ ε hear channel flight running reports
            (fun _ => True) (fun _ _ _ => trivial) with
          made | ⟨_, _, _, made⟩
        · rw [made]
          rfl
        · rw [made]
          rfl
  · rw [perform_of_pendingReports about, Activity.bind_pure_apply]
    rcases @ReplayChannel.drain_cases κ ε hear reports (fun _ => True)
      (fun _ _ _ _ => trivial) channel with drained | ⟨_, _, _, _, cut⟩
    · rw [drained]
      rfl
    · rw [cut]

namespace SequencerStage

variable {stage : SequencerStage}

theorem onSequencer_apply {α : Type} (inner : CaptureContext →
      Activity (Sequencer × ReplayChannel Subscription) Delivery α) (stage : SequencerStage) :
    let performed := inner stage.context (stage.sequencer, stage.channel)
    onSequencer inner stage =
      ⟨{ stage with sequencer := performed.state.1, channel := performed.state.2 },
        performed.emitted, performed.outcome⟩ := rfl

private theorem move_startRepeating (receiver : Receiver) :
    let performed := perform (.startRepeating receiver) stage
    SequencerMove stage (.startRepeating receiver) performed.outcome performed.state := by
  simp only [perform, Activity.bind_pure_apply, onSequencer_apply]
  rcases Nat.lt_or_ge SequenceId.limit stage.sequencer.next with exhausted | room
  · rw [Sequencer.startRepeating_eq_of_exhausted exhausted]
    exact .keep (by simp [startedOrRefused, Except.map]) (Nat.le_refl _) rfl rfl
  · cases rejecting : stage.channel.rejecting with
    | true =>
        rw [Sequencer.startRepeating_eq_of_rejecting room rejecting]
        exact .keep (by simp [startedOrRefused, Except.map]) (Nat.le_succ _) rfl rfl
    | false =>
        rw [Sequencer.startRepeating_eq room rejecting]
        exact .renew room rfl rfl rfl rfl rfl rfl

private theorem move_submitOne {step : SequencerStep} {kind : RequestKind} {receiver : Receiver}
    (snapshot : CaptureContext → Snapshot)
    (asked : step.capture? stage.context = some (kind, snapshot stage.context, receiver)) :
    let performed :=
      onSequencer (fun context => Sequencer.submitOne kind (snapshot context) receiver) stage
    SequencerMove stage step (performed.outcome.map startedOrRefused) performed.state := by
  simp only [onSequencer_apply]
  rcases Nat.lt_or_ge SequenceId.limit stage.sequencer.next with exhausted | room
  · rw [Sequencer.submitOne_eq_of_exhausted exhausted]
    exact .keep (by simp [startedOrRefused, Except.map]) (Nat.le_refl _) rfl rfl
  · cases rejecting : stage.channel.rejecting with
    | true =>
        rw [Sequencer.submitOne_eq_of_rejecting room rejecting]
        exact .keep (by simp [startedOrRefused, Except.map]) (Nat.le_succ _) rfl rfl
    | false =>
        rw [Sequencer.submitOne_eq room rejecting]
        exact .submit room asked rfl rfl rfl

private theorem move_stopRepeating :
    let performed := perform .stopRepeating stage
    SequencerMove stage .stopRepeating performed.outcome performed.state := by
  simp only [perform, Activity.bind_pure_apply, onSequencer_apply]
  cases recorded : stage.sequencer.repeating with
  | none =>
      rw [Sequencer.stopRepeating_eq_of_none recorded]
      exact .keep (by simp [Except.map]) (Nat.le_refl _) rfl rfl
  | some id =>
      rw [Sequencer.stopRepeating_eq_of_some recorded]
      exact .clear (by simp [Except.map]) rfl rfl rfl

private theorem move_abortAll :
    let performed := perform .abortAll stage
    SequencerMove stage .abortAll performed.outcome performed.state := by
  simp only [perform, Activity.bind_pure_apply, onSequencer_apply, Sequencer.abortAll_eq]
  exact .clear (by simp [Except.map]) rfl rfl rfl

private theorem move_channel (step : ChannelStep) :
    let performed := perform (.channel step) stage
    SequencerMove stage (.channel step) performed.outcome performed.state := by
  have kept := @ChannelStep.keeps_repeating _ _ stage.context.hear step stage.channel
  have reported : perform (.channel step) stage =
      ⟨{ stage with channel := (step.perform stage.context.hear stage.channel).state },
        (step.perform stage.context.hear stage.channel).emitted,
        (step.perform stage.context.hear stage.channel).outcome.map SequencerReply.channel⟩ := by
    simp only [perform]
    rw [Activity.bind_of_ok (Activity.read_apply stage)]
    simp only [Activity.bind_pure_apply, Activity.on_apply, List.nil_append]
  rw [reported]
  refine .keep ?_ (Nat.le_refl _) rfl kept
  intro id
  cases (step.perform stage.context.hear stage.channel).outcome <;> simp [Except.map]

private theorem move (step : SequencerStep) :
    let performed := perform step stage
    SequencerMove stage step performed.outcome performed.state := by
  cases step with
  | startRepeating receiver => exact move_startRepeating receiver
  | startMultiFrame receiver =>
      simp only [perform, Activity.bind_pure_apply]
      exact move_submitOne (fun context => context.parameters.snapshot) rfl
  | startTrigger request receiver =>
      simp only [perform, Activity.bind_pure_apply]
      exact move_submitOne (fun context => request.supported context.capabilities) rfl
  | stopRepeating => exact move_stopRepeating
  | abortAll => exact move_abortAll
  | setParameters request => exact .keep (by rintro _ ⟨⟩) (Nat.le_refl _) rfl rfl
  | clearParameters => exact .keep (by rintro _ ⟨⟩) (Nat.le_refl _) rfl rfl
  | signalEnd ended => exact .keep (by rintro _ ⟨⟩) (Nat.le_refl _) rfl rfl
  | channel step => exact move_channel step

end SequencerStage

/-! ## Runs -/

/-- The record agrees with the slot, which holds the request of an accepted start. -/
structure RecordAgrees (starts : List Start) (stage : SequencerStage) : Prop where
  agree : stage.sequencer.repeating = stage.channel.repeating.map (·.client.sequence)
  slot : ∀ flight, stage.channel.repeating = some flight →
    ∃ start ∈ starts, flight.IsOf start ∧ start.kind = .repeating
  issued : ∀ start ∈ starts, start.sequence.number.toNat < stage.sequencer.next
  distinct : (starts.map Start.sequence).Nodup

namespace RecordAgrees

variable {starts : List Start} {stage after : SequencerStage}

private theorem move (recorded : RecordAgrees starts stage) {step : SequencerStep}
    {outcome : Except Fault SequencerReply} (move : SequencerMove stage step outcome after) :
    RecordAgrees (starts ++ (step.start? stage.context outcome).toList) after := by
  obtain ⟨agree, slot, issued, distinct⟩ := recorded
  cases move with
  | keep unstarted counted record kept =>
      rw [SequencerStep.start?_of_unstarted unstarted, Option.toList_none, List.append_nil]
      exact {
        agree := by rw [record, kept, agree]
        slot := fun flight running => slot flight (kept ▸ running)
        issued := fun start member => Nat.lt_of_lt_of_le (issued start member) counted
        distinct }
  | @renew _ flight snapshot receiver room asked counted client request record renewed =>
      rw [SequencerStep.start?_of_started asked, Option.toList_some]
      let start : Start := ⟨⟨stage.sequencer.nextId, .repeating, receiver⟩, snapshot⟩
      obtain ⟨apart, below⟩ := @Sequencer.issued_append stage.sequencer room starts distinct
        issued start rfl
      exact {
        agree := by simp [record, renewed, client]
        slot := fun other running => by
          rw [renewed] at running
          cases running
          exact ⟨start, List.mem_concat_self, ⟨client, request⟩, rfl⟩
        issued := counted ▸ below
        distinct := apart }
  | @submit _ kind snapshot receiver room asked counted record kept =>
      rw [SequencerStep.start?_of_started asked, Option.toList_some]
      let start : Start := ⟨⟨stage.sequencer.nextId, kind, receiver⟩, snapshot⟩
      obtain ⟨apart, below⟩ := @Sequencer.issued_append stage.sequencer room starts distinct
        issued start rfl
      exact {
        agree := by rw [record, kept, agree]
        slot := fun flight running => by
          obtain ⟨known, member, rest⟩ := slot flight (kept ▸ running)
          exact ⟨known, List.mem_append_left _ member, rest⟩
        issued := counted ▸ below
        distinct := apart }
  | clear unstarted counted record cleared =>
      rw [SequencerStep.start?_of_unstarted unstarted, Option.toList_none, List.append_nil]
      exact {
        agree := by rw [record, cleared]; rfl
        slot := fun flight running => by rw [cleared] at running; cases running
        issued := fun start member => counted ▸ issued start member
        distinct }

private theorem fresh (context : CaptureContext) : RecordAgrees [] ⟨context, {}, {}⟩ where
  agree := rfl
  slot := by simp
  issued := by simp
  distinct := List.nodup_nil

private theorem run (context : CaptureContext) (steps : List SequencerStep) :
    RecordAgrees (SequencerStage.starts ⟨context, {}, {}⟩ steps)
      (stateAfter SequencerStage.perform ⟨context, {}, {}⟩ steps) := by
  refine run_invariant SequencerStage.perform
    (motive := fun steps stage _ =>
      RecordAgrees (SequencerStage.starts ⟨context, {}, {}⟩ steps) stage)
    (fresh context) ?_ steps
  intro steps step stage recorded
  rw [SequencerStage.starts, notedBy_concat]
  exact recorded.move (SequencerStage.move step)

/-- The record is the id of the start whose request is in the slot. -/
theorem record_iff (recorded : RecordAgrees starts stage) (id : SequenceId) :
    stage.sequencer.repeating = some id ↔
      ∃ flight, stage.channel.repeating = some flight ∧
        ∃ start ∈ starts, start.sequence = id ∧ start.kind = .repeating ∧ flight.IsOf start := by
  constructor
  · intro record
    obtain ⟨flight, running, same⟩ := Option.map_eq_some_iff.mp (recorded.agree.symm.trans record)
    obtain ⟨start, member, isOf, kind⟩ := recorded.slot flight running
    have sequence : start.sequence = id :=
      (congrArg Subscription.sequence isOf.1).symm.trans same
    exact ⟨flight, running, start, member, sequence, kind, isOf⟩
  · rintro ⟨flight, running, start, _, sequence, _, isOf⟩
    rw [recorded.agree, running, Option.map_some, isOf.1]
    exact congrArg some sequence

end RecordAgrees

/-! ## Stopping, and starts that are refused -/

private theorem Flight.toldEnd_of_repeating {context : CaptureContext}
    {flight : Flight Subscription} (repeating : flight.client.kind = .repeating) (frame : Nat) :
    ReplayChannel.toldEnd context.hear frame flight =
      if context.ended then []
      else [⟨flight.client.receiver, .sequenceCompleted flight.client.sequence⟩] := by
  cases ended : context.ended with
  | true =>
      simp [ReplayChannel.toldEnd, told, Hearing.told, CaptureContext.hear,
        Subscription.deliveries, repeating, ended]
  | false =>
      simp [ReplayChannel.toldEnd, told, Hearing.told, CaptureContext.hear,
        Subscription.deliveries, Subscription.events, ended]

namespace SequencerStage

variable {stage : SequencerStage}

theorem perform_stopRepeating_of_none (idle : stage.sequencer.repeating = none) :
    perform .stopRepeating stage = ⟨stage, [], .ok .done⟩ := by
  simp only [perform, Activity.bind_pure_apply, onSequencer_apply,
    Sequencer.stopRepeating_eq_of_none idle]
  rfl

theorem perform_stopRepeating_of_some {id : SequenceId}
    (running : stage.sequencer.repeating = some id) :
    perform .stopRepeating stage =
      ⟨{ stage with sequencer := stage.sequencer.cleared, channel := stage.channel.stopped },
        stage.channel.repeating.toList.flatMap
          (ReplayChannel.toldEnd stage.context.hear stage.channel.nextFrame), .ok .done⟩ := by
  simp only [perform, Activity.bind_pure_apply, onSequencer_apply,
    Sequencer.stopRepeating_eq_of_some running]
  rfl

private theorem perform_startRepeating_of_refused {receiver : Receiver} {error : Error}
    (refused : (perform (.startRepeating receiver) stage).outcome = .ok (.refused error)) :
    let after := (perform (.startRepeating receiver) stage).state
    after.channel = stage.channel ∧ after.sequencer.repeating = stage.sequencer.repeating := by
  simp only [perform, Activity.bind_pure_apply, onSequencer_apply] at refused ⊢
  rcases Nat.lt_or_ge SequenceId.limit stage.sequencer.next with exhausted | room
  · rw [Sequencer.startRepeating_eq_of_exhausted exhausted]
    exact ⟨rfl, rfl⟩
  · cases rejecting : stage.channel.rejecting with
    | true =>
        rw [Sequencer.startRepeating_eq_of_rejecting room rejecting]
        exact ⟨rfl, rfl⟩
    | false =>
        rw [Sequencer.startRepeating_eq room rejecting] at refused
        cases refused

end SequencerStage

/-- After every step the record is the id of the request in the slot. So a stop ends the
sequence that is recorded and calls the channel only if there is one, and a start that is
refused changes neither of the two. -/
theorem repeating_recorded {context : CaptureContext} {steps : List SequencerStep} :
    let stage := stateAfter SequencerStage.perform ⟨context, {}, {}⟩ steps
    let starts := SequencerStage.starts ⟨context, {}, {}⟩ steps
    let record := stage.sequencer.repeating
    let stopped := SequencerStage.perform .stopRepeating stage
    (starts.map Start.sequence).Nodup ∧
    (∀ id, record = some id ↔ ∃ flight, stage.channel.repeating = some flight ∧
      ∃ start ∈ starts, start.sequence = id ∧ start.kind = .repeating ∧ flight.IsOf start) ∧
    (record = none ↔ stage.channel.repeating = none) ∧
    (record = none → stopped = ⟨stage, [], .ok .done⟩) ∧
    (∀ id, record = some id → ∃ flight, stage.channel.repeating = some flight ∧
      flight.client.sequence = id ∧ stopped.outcome = .ok .done ∧
      stopped.state.channel = stage.channel.stopped ∧
      stopped.state.channel.stops = stage.channel.stops + 1 ∧
      stopped.state.sequencer.repeating = none ∧ stopped.state.channel.repeating = none ∧
      stopped.emitted = if stage.context.ended then []
        else [⟨flight.client.receiver, .sequenceCompleted id⟩]) ∧
    ∀ receiver error, let refused := SequencerStage.perform (.startRepeating receiver) stage
      refused.outcome = .ok (.refused error) →
        refused.state.channel = stage.channel ∧ refused.state.sequencer.repeating = record := by
  intro stage starts record stopped
  have recorded : RecordAgrees starts stage := RecordAgrees.run context steps
  have vacant : record = none ↔ stage.channel.repeating = none := by
    rw [show record = _ from recorded.agree, Option.map_eq_none_iff]
  refine ⟨recorded.distinct, recorded.record_iff, vacant,
    SequencerStage.perform_stopRepeating_of_none, ?_,
    fun receiver error => SequencerStage.perform_startRepeating_of_refused⟩
  intro id running
  obtain ⟨flight, present, start, _, sequence, kind, isOf⟩ := (recorded.record_iff id).mp running
  have repeating : flight.client.kind = .repeating := (congrArg Subscription.kind isOf.1).trans kind
  have same : flight.client.sequence = id := (congrArg Subscription.sequence isOf.1).trans sequence
  have stopping : stopped = _ := SequencerStage.perform_stopRepeating_of_some running
  rw [stopping, present, ← same]
  refine ⟨flight, rfl, rfl, rfl, rfl, rfl, rfl, rfl, ?_⟩
  simp [Flight.toldEnd_of_repeating repeating]

def replacedStart : List SequencerStep :=
  [.startRepeating "first", .startRepeating "second", .channel (.reject true),
    .startRepeating "third"]

theorem repeating_recorded_replaced :
    let stage := stateAfter SequencerStage.perform
      ⟨{ capabilities := .eyesFree (.ofExtent 4000 3000) }, {}, {}⟩ replacedStart
    ∃ flight, stage.channel.repeating = some flight ∧ flight.client.sequence = ⟨2⟩ ∧
      (SequencerStage.perform .stopRepeating stage).emitted =
        [⟨flight.client.receiver, .sequenceCompleted ⟨2⟩⟩] := by
  intro stage
  have record : stage.sequencer.repeating = some ⟨2⟩ := by decide +kernel
  have opened : stage.context.ended = false := by decide +kernel
  obtain ⟨_, _, _, _, running, _⟩ :=
    @repeating_recorded { capabilities := .eyesFree (.ofExtent 4000 3000) } replacedStart
  obtain ⟨flight, present, same, _, _, _, _, _, told⟩ := running ⟨2⟩ record
  refine ⟨flight, present, same, told.trans ?_⟩
  rw [opened]
  rfl

end EyesFree
