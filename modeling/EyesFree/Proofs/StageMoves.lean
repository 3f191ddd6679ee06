import EyesFree.Proofs.Deliveries
import EyesFree.Proofs.RepeatingRecord

namespace EyesFree

/-! What a step of a sequencer over the replaying channel does, said once, apart from what
its clients hear of it: which reports are made about which requests is the same whether the
end of the session was signaled or not. -/

/-! ## Moves -/

def SequencerStage.signaled (ended : Bool) (stage : SequencerStage) : SequencerStage :=
  { stage with context := { stage.context with ended } }

def SequencerStep.signals : SequencerStep → Bool
  | .signalEnd _ => true
  | _ => false

@[simp] theorem SequencerStage.channel_signaled (ended : Bool) (stage : SequencerStage) :
    (stage.signaled ended).channel = stage.channel := rfl

/-- What a step announces itself, what is reported about which requests, what it answers,
and the stage after it. -/
inductive StageMove (stage : SequencerStage) :
    SequencerStep → List Delivery → List (Flight Subscription × Report) → SequencerReply →
      SequencerStage → Prop
  | stay {step reply} (unstarted : ∀ id, reply ≠ .started id) :
      StageMove stage step [] [] reply stage
  | parametrize {step reply} (unstarted : ∀ id, reply ≠ .started id) (parameters : Parameters) :
      StageMove stage step [] [] reply
        { stage with context := { stage.context with parameters } }
  /-- A start is refused by the channel; its id is lost. -/
  | refuse {step} (asked : (step.capture? stage.context).isSome) :
      StageMove stage step [] [] (.refused ReplayChannel.rejection)
        { stage with sequencer := stage.sequencer.advanced }
  /-- A repeating request takes the slot; one that was there before is completed. -/
  | renew {step snapshot receiver} (room : stage.sequencer.next ≤ SequenceId.limit)
      (asked : step.capture? stage.context = some (.repeating, snapshot, receiver)) :
      StageMove stage step [] stage.channel.endReports (.started stage.sequencer.nextId)
        { stage with
          sequencer := stage.sequencer.advanced.record stage.sequencer.nextId
          channel := stage.channel.renewed
            (stage.sequencer.flightOf stage.channel .repeating snapshot receiver) }
  /-- A request for one capture becomes pending. -/
  | submit {step kind snapshot receiver} (room : stage.sequencer.next ≤ SequenceId.limit)
      (asked : step.capture? stage.context = some (kind, snapshot, receiver))
      (once : kind ≠ .repeating) :
      StageMove stage step [⟨receiver, .processStarted stage.sequencer.nextId⟩] []
        (.started stage.sequencer.nextId)
        { stage with
          sequencer := stage.sequencer.advanced
          channel := stage.channel.enqueued
            (stage.sequencer.flightOf stage.channel kind snapshot receiver) }
  | stop {step} : StageMove stage step [] stage.channel.endReports .done
      { stage with sequencer := stage.sequencer.cleared, channel := stage.channel.stopped }
  | abort {step} : StageMove stage step [] stage.channel.abortReports .done
      { stage with sequencer := stage.sequencer.cleared, channel := stage.channel.aborted }
  | switch {step} (rejecting : Bool) : StageMove stage step [] [] (.channel .done)
      { stage with channel := { stage.channel with rejecting } }
  /-- There are reports on a frame of the request in the slot. -/
  | frame {step reports flight} (about : step.repeatingReports? = some reports)
      (running : stage.channel.repeating = some flight) :
      StageMove stage (.channel step) [] ((reports stage.channel.nextFrame).map (flight, ·))
        (.channel (.flag true)) { stage with channel := stage.channel.framed }
  /-- There are reports on a frame of all pending requests, which end. -/
  | drain {step reports} (about : step.pendingReports? = some reports) :
      StageMove stage (.channel step) []
        (ReplayChannel.drainReports reports stage.channel.nextFrame stage.channel.pending)
        (.channel (.count stage.channel.pending.length))
        { stage with channel := stage.channel.drained }

def SequencerStep.Moves (stage : SequencerStage) (step : SequencerStep) : Prop :=
  ∃ announced reports reply after, StageMove stage step announced reports reply after ∧
    ∀ ended, SequencerStage.perform step (stage.signaled ended) =
      ⟨after.signaled ended,
        announced ++ ReplayChannel.tell (stage.signaled ended).context.hear reports, .ok reply⟩

namespace SequencerStage

variable {stage : SequencerStage}

private theorem moves_startRepeating (receiver : Receiver) :
    (SequencerStep.startRepeating receiver).Moves stage := by
  rcases Nat.lt_or_ge SequenceId.limit stage.sequencer.next with exhausted | room
  · refine ⟨[], [], .refused Sequencer.exhaustion, stage, .stay (by simp), fun ended => ?_⟩
    simp only [perform, Activity.bind_pure_apply, onSequencer_apply, signaled,
      Sequencer.startRepeating_eq_of_exhausted exhausted]
    rfl
  · cases rejecting : stage.channel.rejecting with
    | true =>
        refine ⟨_, _, _, _, .refuse rfl, fun ended => ?_⟩
        simp only [perform, Activity.bind_pure_apply, onSequencer_apply, signaled,
          Sequencer.startRepeating_eq_of_rejecting room rejecting]
        rfl
    | false =>
        refine ⟨_, _, _, _, .renew room rfl, fun ended => ?_⟩
        simp only [perform, Activity.bind_pure_apply, onSequencer_apply, signaled,
          Sequencer.startRepeating_eq room rejecting, ReplayChannel.tell_endReports]
        rfl

private theorem moves_submitOne {step : SequencerStep} {kind : RequestKind} {receiver : Receiver}
    {snapshot : Snapshot} (once : kind ≠ .repeating)
    (asked : step.capture? stage.context = some (kind, snapshot, receiver))
    (performed : ∀ ended, let submitted :=
        Sequencer.submitOne kind snapshot receiver (stage.sequencer, stage.channel)
      perform step (stage.signaled ended) =
        ⟨{ stage.signaled ended with sequencer := submitted.state.1, channel := submitted.state.2 },
          submitted.emitted, submitted.outcome.map startedOrRefused⟩) : step.Moves stage := by
  rcases Nat.lt_or_ge SequenceId.limit stage.sequencer.next with exhausted | room
  · refine ⟨[], [], .refused Sequencer.exhaustion, stage, .stay (by simp), fun ended => ?_⟩
    rw [performed, Sequencer.submitOne_eq_of_exhausted exhausted]
    rfl
  · cases rejecting : stage.channel.rejecting with
    | true =>
        refine ⟨_, _, _, _, .refuse (by simp [asked]), fun ended => ?_⟩
        rw [performed, Sequencer.submitOne_eq_of_rejecting room rejecting]
        rfl
    | false =>
        refine ⟨_, _, _, _, .submit room asked once, fun ended => ?_⟩
        rw [performed, Sequencer.submitOne_eq room rejecting]
        rfl

private theorem moves_stopRepeating : SequencerStep.stopRepeating.Moves stage := by
  cases recorded : stage.sequencer.repeating with
  | none =>
      refine ⟨[], [], .done, stage, .stay (by simp), fun ended => ?_⟩
      exact perform_stopRepeating_of_none recorded
  | some id =>
      refine ⟨_, _, _, _, .stop, fun ended => ?_⟩
      rw [ReplayChannel.tell_endReports]
      exact @perform_stopRepeating_of_some (stage.signaled ended) id recorded

private theorem moves_abortAll : SequencerStep.abortAll.Moves stage := by
  refine ⟨_, _, _, _, .abort, fun ended => ?_⟩
  simp only [perform, Activity.bind_pure_apply, onSequencer_apply, signaled, Sequencer.abortAll_eq,
    ReplayChannel.tell_abortReports]
  rfl

theorem perform_channel (step : ChannelStep) :
    let performed := step.perform stage.context.hear stage.channel
    perform (.channel step) stage =
      ⟨{ stage with channel := performed.state }, performed.emitted,
        performed.outcome.map SequencerReply.channel⟩ := by
  simp only [perform]
  rw [Activity.bind_of_ok (Activity.read_apply stage)]
  simp only [Activity.bind_pure_apply, Activity.on_apply, List.nil_append]

variable (extent : stage.context.capabilities.activeArray.HasExtent)
include extent

private theorem moves_channel (step : ChannelStep) :
    (SequencerStep.channel step).Moves stage := by
  have total (ended : Bool) : (stage.signaled ended).context.hear.IsTotal :=
    CaptureContext.hear_isTotal extent
  rcases step.cases_reports with ⟨rejecting, rfl⟩ | ⟨reports, about⟩ | ⟨reports, about⟩
  · exact ⟨_, _, _, _, .switch rejecting, fun ended => perform_channel _⟩
  · cases running : stage.channel.repeating with
    | none =>
        refine ⟨[], [], .channel (.flag false), stage, .stay (by simp), fun ended => ?_⟩
        rw [perform_channel, channel_signaled, ChannelStep.perform_eq_of_idle about running]
        rfl
    | some flight =>
        refine ⟨_, _, _, _, .frame about running, fun ended => ?_⟩
        rw [perform_channel, channel_signaled,
          ChannelStep.perform_eq_of_running (total ended) about running,
          ReplayChannel.tell_map_eq_toldFrame]
        rfl
  · refine ⟨_, _, _, _, .drain about, fun ended => ?_⟩
    rw [perform_channel, channel_signaled, ChannelStep.perform_eq_of_drain (total ended) about,
      ReplayChannel.tell_drainReports]
    rfl

theorem moves {step : SequencerStep} (silent : step.signals = false) : step.Moves stage := by
  cases step with
  | startRepeating receiver => exact moves_startRepeating receiver
  | startMultiFrame receiver =>
      refine moves_submitOne (by decide) rfl fun ended => ?_
      simp only [perform, Activity.bind_pure_apply, onSequencer_apply, Sequencer.startMultiFrame]
      rfl
  | startTrigger request receiver =>
      refine moves_submitOne (by decide) rfl fun ended => ?_
      simp only [perform, Activity.bind_pure_apply, onSequencer_apply, Sequencer.startTrigger]
      rfl
  | stopRepeating => exact moves_stopRepeating
  | abortAll => exact moves_abortAll
  | setParameters request =>
      let stored := stage.context.parameters.set stage.context.capabilities request
      exact ⟨[], [], .stored stored.1, _, .parametrize (by simp) stored.2, fun _ => rfl⟩
  | clearParameters =>
      exact ⟨[], [], .done, _, .parametrize (by simp) .empty, fun _ => rfl⟩
  | signalEnd ended => cases silent
  | channel step => exact moves_channel extent step

end SequencerStage

namespace StageMove

variable {stage after : SequencerStage} {step : SequencerStep} {announced : List Delivery}
  {reports : List (Flight Subscription × Report)} {reply : SequencerReply}

private theorem keeps_ended (move : StageMove stage step announced reports reply after) :
    after.context.ended = stage.context.ended := by
  cases move <;> rfl

theorem keeps_capabilities (move : StageMove stage step announced reports reply after) :
    after.context.capabilities = stage.context.capabilities := by
  cases move <;> rfl

theorem carried_of_report (move : StageMove stage step announced reports reply after)
    {flight : Flight Subscription} {report : Report} (made : (flight, report) ∈ reports) :
    stage.channel.repeating = some flight ∨ flight ∈ stage.channel.pending := by
  cases move with
  | renew => exact .inl (ReplayChannel.mem_of_mem_endReports made)
  | stop => exact .inl (ReplayChannel.mem_of_mem_endReports made)
  | abort => exact ReplayChannel.mem_of_mem_abortReports made
  | frame about running =>
      obtain ⟨_, _, same⟩ := List.mem_map.mp made
      cases same
      exact .inl running
  | drain => exact .inr (ReplayChannel.mem_of_mem_drainReports made)
  | _ => cases made

theorem start_of_announced (move : StageMove stage step announced reports reply after)
    {delivery : Delivery} (told : delivery ∈ announced) :
    ∃ start, step.start? stage.context (.ok reply) = some start ∧ start.kind ≠ .repeating ∧
      delivery = ⟨start.receiver, .processStarted start.sequence⟩ := by
  cases move with
  | submit room asked once =>
      exact ⟨_, SequencerStep.start?_of_started asked _, once, List.mem_singleton.mp told⟩
  | _ => cases told

end StageMove

/-- The flag as it is, is one that may be signaled. -/
theorem StageMove.perform_eq {stage after : SequencerStage} {step : SequencerStep}
    {announced : List Delivery} {reports : List (Flight Subscription × Report)}
    {reply : SequencerReply} (move : StageMove stage step announced reports reply after)
    (performed : ∀ ended, SequencerStage.perform step (stage.signaled ended) =
      ⟨after.signaled ended,
        announced ++ ReplayChannel.tell (stage.signaled ended).context.hear reports, .ok reply⟩) :
    SequencerStage.perform step stage =
      ⟨after, announced ++ ReplayChannel.tell stage.context.hear reports, .ok reply⟩ := by
  have kept : after.signaled stage.context.ended = after := by
    rw [← move.keeps_ended]
    rfl
  exact (performed stage.context.ended).trans (by rw [kept]; rfl)

/-! ## The starts of a run -/

theorem Start.distinct_of_ordered {starts : List Start}
    (ordered : starts.Pairwise fun earlier later =>
      earlier.sequence.number.toNat < later.sequence.number.toNat) :
    (starts.map Start.sequence).Nodup := by
  refine List.pairwise_map.mpr (ordered.imp ?_)
  intro earlier later below same
  rw [same] at below
  exact Nat.lt_irrefl _ below

structure StageLedger (starts : List Start) (stage : SequencerStage) : Prop where
  issued : ∀ start ∈ starts, start.sequence.number.toNat < stage.sequencer.next
  ordered : starts.Pairwise fun earlier later =>
    earlier.sequence.number.toNat < later.sequence.number.toNat
  slot : ∀ flight, stage.channel.repeating = some flight →
    ∃ start ∈ starts, flight.IsOf start ∧ start.kind = .repeating
  queue : ∀ flight ∈ stage.channel.pending,
    ∃ start ∈ starts, flight.IsOf start ∧ start.kind ≠ .repeating

namespace StageLedger

variable {starts : List Start} {stage after : SequencerStage} {step : SequencerStep}
  {announced : List Delivery} {reports : List (Flight Subscription × Report)}
  {reply : SequencerReply}

private theorem fresh (context : CaptureContext) : StageLedger [] ⟨context, {}, {}⟩ where
  issued := by simp
  ordered := .nil
  slot := by simp
  queue := by simp

private theorem signaled (ledger : StageLedger starts stage) (ended : Bool) :
    StageLedger starts (stage.signaled ended) := { ledger with }

theorem distinct (ledger : StageLedger starts stage) : (starts.map Start.sequence).Nodup :=
  Start.distinct_of_ordered ledger.ordered

private theorem started (ledger : StageLedger starts stage)
    (room : stage.sequencer.next ≤ SequenceId.limit) {start : Start}
    (numbered : start.sequence = stage.sequencer.nextId) :
    (∀ other ∈ starts ++ [start], other.sequence.number.toNat < stage.sequencer.next + 1) ∧
      (starts ++ [start]).Pairwise fun earlier later =>
        earlier.sequence.number.toNat < later.sequence.number.toNat := by
  refine ⟨(stage.sequencer.issued_append room ledger.distinct ledger.issued numbered).2, ?_⟩
  refine List.pairwise_append.mpr ⟨ledger.ordered, List.pairwise_singleton .., ?_⟩
  intro other member last lastMember
  rw [List.mem_singleton.mp lastMember, numbered, Sequencer.toNat_nextId room]
  exact ledger.issued other member

theorem move (ledger : StageLedger starts stage)
    (move : StageMove stage step announced reports reply after) :
    StageLedger (starts ++ (step.start? stage.context (.ok reply)).toList) after := by
  have unstarted (none : ∀ id, reply ≠ .started id) :
      starts ++ (step.start? stage.context (.ok reply)).toList = starts := by
    rw [SequencerStep.start?_of_unstarted (by simpa using none), Option.toList_none,
      List.append_nil]
  cases move with
  | stay none => exact (unstarted none).symm ▸ ledger
  | parametrize none parameters => exact (unstarted none).symm ▸ { ledger with }
  | refuse =>
      rw [unstarted (by simp)]
      exact { ledger with
        issued := fun start member => Nat.lt_succ_of_lt (ledger.issued start member) }
  | @renew _ snapshot receiver room asked =>
      rw [SequencerStep.start?_of_started asked, Option.toList_some]
      let start : Start := ⟨⟨stage.sequencer.nextId, .repeating, receiver⟩, snapshot⟩
      obtain ⟨issued, ordered⟩ := @started _ _ ledger room start rfl
      exact {
        issued
        ordered
        slot := by
          intro flight running
          cases running
          exact ⟨start, List.mem_concat_self, ⟨rfl, rfl⟩, rfl⟩
        queue := fun flight member =>
          Ledger.exists_isOf_append [start] (ledger.queue flight member) }
  | @submit _ kind snapshot receiver room asked once =>
      rw [SequencerStep.start?_of_started asked, Option.toList_some]
      let start : Start := ⟨⟨stage.sequencer.nextId, kind, receiver⟩, snapshot⟩
      obtain ⟨issued, ordered⟩ := @started _ _ ledger room start rfl
      exact {
        issued
        ordered
        slot := fun flight running => Ledger.exists_isOf_append [start] (ledger.slot flight running)
        queue := by
          intro flight member
          rcases List.mem_append.mp member with member | member
          · exact Ledger.exists_isOf_append [start] (ledger.queue flight member)
          · rw [List.mem_singleton.mp member]
            exact ⟨start, List.mem_concat_self, ⟨rfl, rfl⟩, once⟩ }
  | stop =>
      rw [unstarted (by simp)]
      exact { ledger with slot := by simp }
  | abort =>
      rw [unstarted (by simp)]
      exact { ledger with slot := by simp, queue := by simp }
  | switch => exact (unstarted (by simp)).symm ▸ { ledger with }
  | frame => exact (unstarted (by simp)).symm ▸ { ledger with }
  | drain =>
      rw [unstarted (by simp)]
      exact { ledger with queue := by simp }

end StageLedger

namespace SequencerStage

variable {stage : SequencerStage}

theorem perform_cases (extent : stage.context.capabilities.activeArray.HasExtent)
    (step : SequencerStep) :
    (∃ ended, perform step stage = ⟨stage.signaled ended, [], .ok .done⟩) ∨
      ∃ announced reports reply after, StageMove stage step announced reports reply after ∧
        perform step stage =
          ⟨after, announced ++ ReplayChannel.tell stage.context.hear reports, .ok reply⟩ := by
  cases signals : step.signals with
  | true =>
      cases step with
      | signalEnd ended => exact .inl ⟨ended, rfl⟩
      | _ => cases signals
  | false =>
      obtain ⟨announced, reports, reply, after, move, performed⟩ := moves extent signals
      exact .inr ⟨announced, reports, reply, after, move, move.perform_eq performed⟩

theorem starts_concat (stage : SequencerStage) (steps : List SequencerStep)
    (step : SequencerStep) :
    let last := stateAfter perform stage steps
    stage.starts (steps ++ [step]) =
      stage.starts steps ++ (step.start? last.context (perform step last).outcome).toList :=
  notedBy_concat ..

variable {context : CaptureContext} (extent : context.capabilities.activeArray.HasExtent)
include extent

theorem ledger_run (steps : List SequencerStep) :
    let stage := stateAfter perform ⟨context, {}, {}⟩ steps
    stage.context.capabilities = context.capabilities ∧
      StageLedger (starts ⟨context, {}, {}⟩ steps) stage := by
  refine run_invariant perform (motive := fun steps stage _ =>
    stage.context.capabilities = context.capabilities ∧
      StageLedger (starts ⟨context, {}, {}⟩ steps) stage) ⟨rfl, .fresh context⟩ ?_ steps
  rintro steps step stage ⟨published, ledger⟩
  rw [starts_concat]
  rcases perform_cases (published ▸ extent) step with
    ⟨ended, performed⟩ | ⟨announced, reports, reply, after, move, performed⟩
  · have unstarted : step.start? stage.context (.ok .done) = none :=
      SequencerStep.start?_of_unstarted (by simp)
    rw [performed, unstarted, Option.toList_none, List.append_nil]
    exact ⟨published, ledger.signaled ended⟩
  · rw [performed]
    exact ⟨move.keeps_capabilities.trans published, ledger.move move⟩

end SequencerStage

end EyesFree
