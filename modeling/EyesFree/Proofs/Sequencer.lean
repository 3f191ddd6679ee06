import EyesFree.Capture.Sequencer
import EyesFree.Proofs.Channel
import EyesFree.Proofs.Extent

namespace EyesFree

/-! What the operations of a sequencer over the replaying channel do, each in one
equation. They report ends only, which cannot fail; no report can if the active
array has a proper extent. -/

/-! ## Reports to clients -/

namespace Subscription

variable {capabilities : Capabilities}

private theorem completed_eq_ok (extent : capabilities.activeArray.HasExtent)
    (subscription : Subscription) (request : Request) (result : CaptureResult) :
    ∃ events, subscription.completed capabilities request result = .ok events := by
  unfold completed
  cases result.sensorTimestamp with
  | none => exact ⟨_, rfl⟩
  | some timestamp =>
      obtain ⟨bundle, equal⟩ := capabilities.synthesize_eq_ok extent request.parameters result
      simp only [equal]
      exact ⟨_, rfl⟩

private theorem events_eq_ok (extent : capabilities.activeArray.HasExtent)
    (subscription : Subscription) (request : Request) (report : Report) :
    ∃ events, subscription.events capabilities request report = .ok events := by
  cases report with
  | completed result => exact completed_eq_ok extent subscription request result
  | _ => exact ⟨_, rfl⟩

private theorem deliveries_isTotal (extent : capabilities.activeArray.HasExtent) (ended : Bool) :
    Hearing.IsTotal (deliveries capabilities ended) := by
  intro subscription request report
  unfold deliveries
  split
  · exact ⟨[], rfl⟩
  · obtain ⟨events, equal⟩ := events_eq_ok extent subscription request report
    exact ⟨_, by rw [equal]; rfl⟩

end Subscription

theorem CaptureContext.hear_tellsEnds (context : CaptureContext) : context.hear.TellsEnds := by
  intro subscription request channelSequence
  simp only [hear, Subscription.deliveries]
  constructor
  · intro frame
    split <;> exact ⟨_, rfl⟩
  · split <;> exact ⟨_, rfl⟩

theorem CaptureContext.hear_isTotal {context : CaptureContext}
    (extent : context.capabilities.activeArray.HasExtent) : context.hear.IsTotal :=
  Subscription.deliveries_isTotal extent context.ended

namespace Sequencer

/-! ## Numbers -/

def nextId (sequencer : Sequencer) : SequenceId := ⟨UInt32.ofNat sequencer.next⟩

def advanced (sequencer : Sequencer) : Sequencer := { sequencer with next := sequencer.next + 1 }

def cleared (sequencer : Sequencer) : Sequencer := { sequencer with repeating := none }

def exhaustion : Error := .submissionRejected "sequence ids exhausted"

theorem takeId_eq {sequencer : Sequencer} (room : sequencer.next ≤ SequenceId.limit) :
    sequencer.takeId = (.ok sequencer.nextId, sequencer.advanced) := by
  simp [takeId, room, nextId, advanced]

theorem takeId_eq_of_exhausted {sequencer : Sequencer}
    (exhausted : SequenceId.limit < sequencer.next) :
    sequencer.takeId = (.error exhaustion, sequencer) := by
  simp [takeId, Nat.not_le.mpr exhausted, exhaustion]

theorem toNat_nextId {sequencer : Sequencer} (room : sequencer.next ≤ SequenceId.limit) :
    sequencer.nextId.number.toNat = sequencer.next := by
  have limit : SequenceId.limit = 2147483647 := rfl
  exact UInt32.toNat_ofNat_of_lt' (by rw [UInt32.size]; omega)

/-! ## Operations -/

variable {context : CaptureContext} {sequencer : Sequencer}
  {channel : ReplayChannel Subscription}

theorem startRepeating_eq_of_exhausted (exhausted : SequenceId.limit < sequencer.next)
    (receiver : Receiver) :
    startRepeating context receiver (sequencer, channel) =
      ⟨(sequencer, channel), [], .ok (.error exhaustion)⟩ := by
  simp only [startRepeating, onSequencer, Activity.bind_apply, Activity.step_apply,
    takeId_eq_of_exhausted exhausted]
  rfl

theorem submitOne_eq_of_exhausted (exhausted : SequenceId.limit < sequencer.next)
    (kind : RequestKind) (snapshot : Snapshot) (receiver : Receiver) :
    submitOne kind snapshot receiver (sequencer, channel) =
      ⟨(sequencer, channel), [], .ok (.error exhaustion)⟩ := by
  simp only [submitOne, onSequencer, Activity.bind_apply, Activity.step_apply,
    takeId_eq_of_exhausted exhausted]
  rfl

theorem startRepeating_eq_of_rejecting (room : sequencer.next ≤ SequenceId.limit)
    (rejecting : channel.rejecting = true) (receiver : Receiver) :
    startRepeating context receiver (sequencer, channel) =
      ⟨(sequencer.advanced, channel), [], .ok (.error ReplayChannel.rejection)⟩ := by
  simp only [startRepeating, onSequencer, onChannel, RequestChannel.setRepeating,
    Activity.bind_apply, Activity.step_apply, Activity.on_apply, takeId_eq room,
    ReplayChannel.setRepeating_eq_of_rejecting rejecting]
  rfl

theorem submitOne_eq_of_rejecting (room : sequencer.next ≤ SequenceId.limit)
    (rejecting : channel.rejecting = true) (kind : RequestKind) (snapshot : Snapshot)
    (receiver : Receiver) :
    submitOne kind snapshot receiver (sequencer, channel) =
      ⟨(sequencer.advanced, channel), [], .ok (.error ReplayChannel.rejection)⟩ := by
  simp only [submitOne, onSequencer, onChannel, RequestChannel.submit, Activity.bind_apply,
    Activity.step_apply, Activity.on_apply, takeId_eq room,
    ReplayChannel.submit_eq_of_rejecting rejecting]
  rfl

def flightOf (sequencer : Sequencer) (channel : ReplayChannel Subscription) (kind : RequestKind)
    (snapshot : Snapshot) (receiver : Receiver) : Flight Subscription :=
  ⟨channel.nextSequence, .of kind snapshot, ⟨sequencer.nextId, kind, receiver⟩⟩

theorem startRepeating_eq (room : sequencer.next ≤ SequenceId.limit)
    (accepting : channel.rejecting = false) (receiver : Receiver) :
    let flight := sequencer.flightOf channel .repeating context.parameters.snapshot receiver
    startRepeating context receiver (sequencer, channel) =
      ⟨(sequencer.advanced.record sequencer.nextId,
          channel.renewed flight),
        channel.repeating.toList.flatMap (ReplayChannel.toldEnd context.hear channel.nextFrame),
        .ok (.ok sequencer.nextId)⟩ := by
  simp only [startRepeating, onSequencer, onChannel, RequestChannel.setRepeating,
    Activity.bind_apply, Activity.step_apply, Activity.on_apply, Activity.pure_apply,
    takeId_eq room, ReplayChannel.setRepeating_eq context.hear_tellsEnds accepting]
  simp [flightOf]

theorem submitOne_eq (room : sequencer.next ≤ SequenceId.limit)
    (accepting : channel.rejecting = false) (kind : RequestKind) (snapshot : Snapshot)
    (receiver : Receiver) :
    let flight := sequencer.flightOf channel kind snapshot receiver
    submitOne kind snapshot receiver (sequencer, channel) =
      ⟨(sequencer.advanced, channel.enqueued flight),
        [⟨receiver, .processStarted sequencer.nextId⟩], .ok (.ok sequencer.nextId)⟩ := by
  simp only [submitOne, onSequencer, onChannel, RequestChannel.submit, Activity.bind_apply,
    Activity.step_apply, Activity.on_apply, Activity.pure_apply, Activity.emit_apply,
    takeId_eq room, ReplayChannel.submit_eq accepting]
  simp [flightOf]

/-- What becomes of a start: there is no id left, or the channel rejects the request and its
id is lost, or the client is given the id. -/
inductive Answers (sequencer : Sequencer) (channel : ReplayChannel Subscription) :
    Performed (Sequencer × ReplayChannel Subscription) Delivery (Except Error SequenceId) → Prop
  | exhausted (used : SequenceId.limit < sequencer.next) :
      Answers sequencer channel ⟨(sequencer, channel), [], .ok (.error exhaustion)⟩
  | rejected (room : sequencer.next ≤ SequenceId.limit) (rejecting : channel.rejecting = true) :
      Answers sequencer channel
        ⟨(sequencer.advanced, channel), [], .ok (.error ReplayChannel.rejection)⟩
  | accepted {after submitted told} (room : sequencer.next ≤ SequenceId.limit)
      (accepting : channel.rejecting = false) (counted : after.next = sequencer.next + 1) :
      Answers sequencer channel ⟨(after, submitted), told, .ok (.ok sequencer.nextId)⟩

theorem answers_startRepeating (receiver : Receiver) :
    Answers sequencer channel (startRepeating context receiver (sequencer, channel)) := by
  rcases Nat.lt_or_ge SequenceId.limit sequencer.next with used | room
  · rw [startRepeating_eq_of_exhausted used]
    exact .exhausted used
  · cases rejecting : channel.rejecting with
    | true =>
        rw [startRepeating_eq_of_rejecting room rejecting]
        exact .rejected room rejecting
    | false =>
        rw [startRepeating_eq room rejecting]
        exact .accepted room rejecting rfl

theorem answers_submitOne (kind : RequestKind) (snapshot : Snapshot) (receiver : Receiver) :
    Answers sequencer channel (submitOne kind snapshot receiver (sequencer, channel)) := by
  rcases Nat.lt_or_ge SequenceId.limit sequencer.next with used | room
  · rw [submitOne_eq_of_exhausted used]
    exact .exhausted used
  · cases rejecting : channel.rejecting with
    | true =>
        rw [submitOne_eq_of_rejecting room rejecting]
        exact .rejected room rejecting
    | false =>
        rw [submitOne_eq room rejecting]
        exact .accepted room rejecting rfl

theorem stopRepeating_eq_of_none (idle : sequencer.repeating = none) :
    stopRepeating context (sequencer, channel) = ⟨(sequencer, channel), [], .ok ()⟩ := by
  simp only [stopRepeating, onSequencer, takeRecorded, idle, Activity.bind_apply,
    Activity.step_apply]
  rw [← idle]
  rfl

theorem stopRepeating_eq_of_some {id : SequenceId}
    (running : sequencer.repeating = some id) :
    stopRepeating context (sequencer, channel) =
      ⟨(sequencer.cleared, channel.stopped),
        channel.repeating.toList.flatMap (ReplayChannel.toldEnd context.hear channel.nextFrame),
        .ok ()⟩ := by
  simp only [stopRepeating, onSequencer, onChannel, takeRecorded, running,
    RequestChannel.stopRepeating, Activity.bind_apply, Activity.step_apply, Activity.on_apply,
    ReplayChannel.stopRepeating_eq context.hear_tellsEnds]
  rfl

theorem abortAll_eq :
    abortAll context (sequencer, channel) =
      ⟨(sequencer.cleared, channel.aborted),
        (channel.repeating.toList ++ channel.pending).flatMap
          (ReplayChannel.toldAbort context.hear), .ok ()⟩ := by
  simp only [abortAll, onSequencer, onChannel, takeRecorded, RequestChannel.abortCaptures,
    Activity.bind_apply, Activity.step_apply, Activity.on_apply,
    ReplayChannel.abortCaptures_eq context.hear_tellsEnds]
  rfl

end Sequencer

end EyesFree
