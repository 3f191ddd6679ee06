import EyesFree.Program.Simulation
import EyesFree.Proofs.Progress
import EyesFree.Proofs.Transfer

namespace EyesFree

/-! A session that streams: preview frames go through the relay one by one, the
repeating request hears of each of them, and stills are completed with the frame after
them. Each operation of such a session is one equation here, together with what it adds
to the tally of events. -/

/-! ## Tallies -/

namespace EventTally

def recordAll (tally : EventTally) (deliveries : List Delivery) : EventTally :=
  (deliveries.map (·.event)).foldl record tally

theorem recordAll_append (tally : EventTally) (first second : List Delivery) :
    tally.recordAll (first ++ second) = (tally.recordAll first).recordAll second := by
  simp [recordAll]

/-- The tally after some frames and stills, of which some are done: each frame and each
still that is done was started and completed, and each frame and each accepted still has the
processing of something started. -/
def ofStream (frames accepted done : Nat) : EventTally :=
  ⟨frames + done, frames + accepted, frames + done, 0, done, 0⟩

end EventTally

namespace ReplayChannel

variable {context : CaptureContext}

private theorem recordAll_toldDrain (extent : context.capabilities.activeArray.HasExtent)
    (timestamp : Timestamp) {flights : List (Flight Subscription)}
    (once : ∀ flight ∈ flights, flight.client.kind ≠ .repeating) (frame : Nat)
    (tally : EventTally) :
    tally.recordAll (toldDrain context.hear
        (fun _ frame => [.started frame timestamp, .completed (sampleResult timestamp)]) frame
        flights) =
      { tally with
        started := tally.started + flights.length
        completed := tally.completed + flights.length
        sequenceCompleted := tally.sequenceCompleted + flights.length } := by
  induction flights generalizing frame tally with
  | nil => rfl
  | cons flight rest induction =>
      obtain ⟨first, others⟩ := List.forall_mem_cons.mp once
      have heard : flight.client.kind = .repeating → context.ended = false := fun repeating =>
        absurd repeating first
      have next : flight.client.next = [] := if_neg first
      obtain ⟨bundle, told⟩ := flight.exists_map_toldFrame_sample extent heard timestamp frame
      have ended := flight.map_toldEnd heard frame
      have split : toldDrain context.hear
          (fun _ frame => [.started frame timestamp, .completed (sampleResult timestamp)]) frame
          (flight :: rest) =
        toldFrame context.hear flight
            [.started frame timestamp, .completed (sampleResult timestamp)] ++
          toldEnd context.hear frame flight ++
          toldDrain context.hear
            (fun _ frame => [.started frame timestamp, .completed (sampleResult timestamp)])
            (frame + 1) rest := by
        simp [toldDrain, toldFrame, toldEnd]
      rw [split, EventTally.recordAll_append, EventTally.recordAll_append, induction others]
      simp only [EventTally.recordAll, told, ended, next, List.foldl_cons, List.foldl_nil,
        EventTally.record, List.length_cons, EventTally.mk.injEq, true_and, and_true]
      omega

end ReplayChannel

namespace World

variable {α : Type} {world : ReplayWorld} {channel : ReplayChannel Subscription}
  {told : List Delivery}

private theorem onChannel_of_performed (inner : Hearing Subscription Delivery →
      Activity (ReplayChannel Subscription) Delivery α) {outcome : Except Fault α}
    (performed : inner world.session.context.hear world.channel = ⟨channel, told, outcome⟩) :
    onChannel inner world = ⟨{ world with channel }, told, outcome⟩ := by
  rw [onChannel_eq, performed]

theorem whileActive_of_performed {operation : String} {before after : Sequencer}
    (inner : CaptureContext → Activity (Sequencer × ReplayChannel Subscription) Delivery
      (Except Error α)) {outcome : Except Fault (Except Error α)}
    (allowed : world.session.activeSequencer operation = .ok before)
    (performed : inner world.session.context (before, world.channel) =
      ⟨(after, channel), told, outcome⟩) :
    whileActive operation inner world =
      ⟨{ world with
          session := { world.session with sequencer := some after }, channel }, told, outcome⟩ := by
  rw [whileActive_eq allowed, performed]

end World

/-! ## Captures of a session that streams -/

/-- The preview runs under the first id, and the stills that were accepted after
it are done or pending. -/
structure Streaming (accepted done : Nat) (captures : Captures) : Prop where
  active : captures.state = .active
  extent : captures.context.capabilities.activeArray.HasExtent
  unended : captures.context.ended = false
  bound : captures.sequencer = some ⟨accepted + 2, some .first⟩
  accepting : captures.channel.rejecting = false
  running : ∃ flight, captures.channel.repeating = some flight ∧ flight.client.kind = .repeating
  once : ∀ flight ∈ captures.channel.pending, flight.client.kind ≠ .repeating
  outstanding : done + captures.channel.pending.length = accepted

namespace Streaming

variable {accepted done : Nat} {world : ReplayWorld}
  (streaming : Streaming accepted done world.captures)
include streaming

private theorem total : world.session.context.hear.IsTotal :=
  CaptureContext.hear_isTotal streaming.extent

private theorem allowed (operation : String) :
    world.session.activeSequencer operation = .ok ⟨accepted + 2, some .first⟩ := by
  have active : world.session.state = .active := streaming.active
  have bound : world.session.sequencer = some ⟨accepted + 2, some .first⟩ := streaming.bound
  simp only [Session.activeSequencer, active, bound]

theorem fireRepeating (timestamp : Timestamp) :
    ∃ after told, World.onChannel (fun hear => ReplayChannel.fireRepeating hear timestamp) world =
        ⟨after, told, .ok true⟩ ∧ after.passage = world.passage ∧
      Streaming accepted done after.captures ∧
      ∀ frames, (EventTally.ofStream frames accepted done).recordAll told =
        .ofStream (frames + 1) accepted done := by
  obtain ⟨flight, running, repeating⟩ := streaming.running
  have fired := World.onChannel_of_performed
    (fun hear => ReplayChannel.fireRepeating hear timestamp)
    (ReplayChannel.replayRepeating_eq_of_some streaming.total running _)
  refine ⟨_, _, fired, rfl, { streaming with }, fun frames => ?_⟩
  obtain ⟨bundle, told⟩ := flight.exists_map_toldFrame_sample streaming.extent
    (fun _ => streaming.unended) timestamp world.channel.nextFrame
  have next : flight.client.next = [.processStarted flight.client.sequence] := if_pos repeating
  rw [next] at told
  refine (congrArg (List.foldl EventTally.record _) told).trans ?_
  simp only [List.foldl_cons, List.foldl_nil, EventTally.record, EventTally.ofStream,
    EventTally.mk.injEq, and_true]
  omega

theorem completePending (timestamp : Timestamp) :
    ∃ after told count,
      World.onChannel (fun hear => ReplayChannel.completePending hear timestamp) world =
        ⟨after, told, .ok count⟩ ∧ after.passage = world.passage ∧
      Streaming accepted accepted after.captures ∧
      ∀ frames, (EventTally.ofStream frames accepted done).recordAll told =
        .ofStream frames accepted accepted := by
  have drained := World.onChannel_of_performed
    (fun hear => ReplayChannel.completePending hear timestamp)
    (ReplayChannel.drain_eq streaming.total _ world.channel)
  have outstanding := streaming.outstanding
  refine ⟨_, _, _, drained, rfl, { streaming with once := ?_, outstanding := ?_ }, fun frames => ?_⟩
  · simp [World.captures]
  · simp [World.captures]
  · have told := ReplayChannel.recordAll_toldDrain streaming.extent timestamp streaming.once
    refine (told _ _).trans ?_
    simp only [EventTally.ofStream, EventTally.mk.injEq, true_and, and_true]
    omega

theorem startMultiFrame (room : accepted + 2 ≤ SequenceId.limit) (receiver : Receiver) :
    ∃ after told id, World.startMultiFrame receiver world = ⟨after, told, .ok (.ok id)⟩ ∧
      after.passage = world.passage ∧ Streaming (accepted + 1) done after.captures ∧
      ∀ frames, (EventTally.ofStream frames accepted done).recordAll told =
        .ofStream frames (accepted + 1) done := by
  have submitted := World.whileActive_of_performed
    (fun context => Sequencer.startMultiFrame context receiver)
    (streaming.allowed "start_multi_frame_capture")
    (Sequencer.submitOne_eq room streaming.accepting .multiFrame _ receiver)
  have outstanding := streaming.outstanding
  refine ⟨_, _, _, submitted, rfl,
    { streaming with bound := rfl, once := ?_, outstanding := ?_ }, fun frames => rfl⟩
  · intro flight member
    rcases List.mem_append.mp member with earlier | last
    · exact streaming.once flight earlier
    · rw [List.mem_singleton.mp last]
      exact nofun
  · simp only [World.captures, ReplayChannel.enqueued_pending, List.length_append,
      List.length_singleton] at outstanding ⊢
    omega

theorem startMultiFrame_of_exhausted (exhausted : SequenceId.limit < accepted + 2)
    (receiver : Receiver) :
    World.startMultiFrame receiver world = ⟨world, [], .ok (.error Sequencer.exhaustion)⟩ := by
  have refused := World.whileActive_of_performed
    (fun context => Sequencer.startMultiFrame context receiver)
    (streaming.allowed "start_multi_frame_capture")
    (Sequencer.submitOne_eq_of_exhausted exhausted .multiFrame _ receiver)
  have bound : world.session.sequencer = some ⟨accepted + 2, some .first⟩ := streaming.bound
  rw [← bound] at refused
  exact refused

theorem stopRepeating (settled : done = accepted) :
    ∃ after told, World.stopRepeating world = ⟨after, told, .ok (.ok ())⟩ ∧
      after.passage = world.passage ∧ after.session.state = .active ∧
      after.session.sequencer = some ⟨accepted + 2, none⟩ ∧ after.channel.repeating = none ∧
      after.channel.pending = [] ∧
      ∀ tally : EventTally, tally.recordAll told =
        { tally with sequenceCompleted := tally.sequenceCompleted + 1 } := by
  obtain ⟨flight, running, repeating⟩ := streaming.running
  have ended := @Sequencer.stopRepeating_eq_of_some world.session.context
    ⟨accepted + 2, some .first⟩ world.channel .first rfl
  have stopped := World.whileActive_of_performed
    (fun context => do
      Sequencer.stopRepeating context
      return .ok ())
    (streaming.allowed "stop_repeating") (Activity.bind_of_ok ended)
  have told := @Flight.map_toldEnd world.session.context flight (fun _ => streaming.unended)
    world.channel.nextFrame
  have outstanding := streaming.outstanding
  refine ⟨_, _, stopped, rfl, streaming.active, rfl, rfl, ?_, fun tally => ?_⟩
  · exact List.length_eq_zero_iff.mp (by
      simp only [World.captures, ReplayChannel.stopped_pending, ReplayChannel.vacated_pending]
        at outstanding ⊢
      omega)
  · have one : world.channel.repeating = some flight := running
    rw [one, Option.toList_some, List.flatMap_singleton, EventTally.recordAll, List.map_append,
      told]
    rfl

end Streaming

theorem World.endSession_of_idle {world : ReplayWorld} (active : world.session.state = .active)
    {sequencer : Sequencer} (bound : world.session.sequencer = some sequencer)
    (vacant : world.channel.repeating = none) (empty : world.channel.pending = []) :
    ∃ after, endSession world = ⟨after, [], .ok (.ok ())⟩ ∧
      after.passage = { world.passage with state := .ending } ∧ after.session.state = .ending ∧
      after.session.sequencer = none ∧ after.channel.repeating = none ∧
      after.channel.pending = [] := by
  have ended := endSession_eq active bound
  rw [vacant, empty] at ended
  exact ⟨_, ended, rfl, rfl, rfl, rfl, rfl⟩

/-! ## The way of the frames -/

/-- Frames go from the source through the relay to the output one by one: each one is taken
out of the source at once, and was dropped or forwarded unless it is under way. -/
structure Passage.Flowing (origin outlet frames : Nat) (queue : FrameSource)
    (relay : Relay Frame) (output : Output) (passage : Passage) : Prop where
  chosen : passage.source = some origin
  attached : passage.relay = some relay
  ready : relay.Ready
  installed : passage.slot = ⟨some outlet⟩
  found : passage.sources[origin]? = some queue
  present : passage.outputs[outlet]? = some output
  kept : output.abandoned = false
  listened : queue.listened = true
  opened : queue.closed = false
  holds : 0 < queue.capacity
  empty : queue.queue = []
  produced : queue.produced = frames
  released : queue.released + relay.slot.toList.length = frames
  accounted : relay.stats.forwarded + relay.stats.dropped + relay.slot.toList.length = frames
  unfailed : relay.stats.failed = 0

private theorem Relay.Ready.arrived_counts {φ : Type} {relay : Relay φ} (ready : relay.Ready)
    (frame : φ) :
    let after := relay.arrived frame
    relay.busy.toNat + after.slot.toList.length = relay.slot.toList.length + 1 ∧
      after.stats.forwarded + after.stats.dropped + after.slot.toList.length =
        relay.stats.forwarded + relay.stats.dropped + relay.slot.toList.length + 1 ∧
      after.stats.failed = relay.stats.failed := by
  have busy := ready.occupied
  cases sent : relay.slot with
  | none =>
      rw [sent, Option.isSome_none] at busy
      simp [Relay.arrived, busy]
  | some other =>
      rw [sent, Option.isSome_some] at busy
      refine ⟨?_, ?_, ?_⟩
      · simp [Relay.arrived, Relay.countDropped, busy, sent]
      · simp only [Relay.arrived, Relay.countDropped, busy, if_true, sent]
        omega
      · simp [Relay.arrived, Relay.countDropped, busy]

namespace World

variable {world : ReplayWorld} {origin outlet frames : Nat} {queue : FrameSource}
  {relay : Relay Frame} {output : Output}
  (flowing : world.passage.Flowing origin outlet frames queue relay output)
include flowing

/-- A frame that is produced is taken by the relay, or dropped if another one is under way. -/
theorem flowing_produce (timestamp : Timestamp) :
    ∃ changed changedRelay,
      (world.produce origin timestamp).2.passage.Flowing origin outlet (frames + 1) changed
        changedRelay output := by
  have room : queue.accepts = true := by
    simp [FrameSource.accepts, flowing.opened, flowing.empty, flowing.holds]
  let frame : Frame := ⟨timestamp, queue.size, queue.format⟩
  have next : queue.queue ++ [frame] = [frame] := by rw [flowing.empty, List.nil_append]
  rw [passage_produce_of_room flowing.found flowing.attached flowing.ready flowing.listened room
    next]
  have accounted := flowing.accounted
  have released := flowing.released
  obtain ⟨held, counted, failed⟩ := flowing.ready.arrived_counts frame
  exact ⟨queue.passed [] relay.busy, relay.arrived frame,
    { flowing with
      attached := rfl
      ready := flowing.ready.arrived frame
      found := by simp [Passage.replaced, flowing.found]
      empty := rfl
      produced := congrArg (· + 1) flowing.produced
      released := by
        simp only [FrameSource.passed]
        omega
      accounted := by omega
      unfailed := failed.trans flowing.unfailed }⟩

theorem flowing_forwardFrame :
    ∃ changed idle offered,
      world.forwardFrame.passage.Flowing origin outlet frames changed idle offered ∧
        idle.slot = none := by
  cases sent : relay.slot with
  | none =>
      rw [forwardFrame_eq_of_idle flowing.attached flowing.ready sent]
      exact ⟨queue, relay, output, flowing, sent⟩
  | some frame =>
      rw [passage_forwardFrame flowing.attached flowing.ready flowing.chosen sent
        flowing.installed flowing.present]
      have accounted := flowing.accounted
      have released := flowing.released
      rw [sent, Option.toList_some, List.length_singleton] at accounted released
      refine ⟨queue.release 1, _, output.offered frame.timestamp,
        { flowing with
          attached := rfl
          ready := ⟨flowing.ready.waiting, flowing.ready.sending, rfl⟩
          found := by simp [flowing.found]
          present := by simp [flowing.present]
          kept := by simp [Output.offered, flowing.kept]
          released := by simpa [FrameSource.release] using released
          accounted := ?_
          unfailed := by simpa [Relay.countOutcome, flowing.kept] using flowing.unfailed }, rfl⟩
      simp only [Relay.countOutcome, flowing.kept, Bool.not_false, if_true, Option.toList_none,
        List.length_nil]
      omega

/-- When everything is released, every frame was forwarded or dropped and is released. -/
theorem flowing_released :
    let after := world.released.passage
    after.relay = none ∧ after.finalStats.forwarded + after.finalStats.dropped = frames ∧
      after.finalStats.failed = 0 ∧
      ∃ closed, after.sources[origin]? = some closed ∧ closed.produced = frames ∧
        closed.released = frames := by
  have ready (other : Relay Frame) (attached : world.session.relay = some other) :
      other.Ready := by
    cases flowing.attached.symm.trans attached
    exact flowing.ready
  obtain ⟨changed, idle, offered, forwarded, empty⟩ := flowing_forwardFrame flowing
  have released := passage_released_of_idle forwarded.attached forwarded.ready forwarded.chosen
    empty
  rw [released_forwardFrame ready] at released
  have accounted := forwarded.accounted
  have balanced := forwarded.released
  rw [empty, Option.toList_none, List.length_nil, Nat.add_zero] at accounted balanced
  rw [released]
  refine ⟨rfl, ?_, ?_, (changed.setListened false).close, ?_, ?_, ?_⟩
  · simpa [Passage.released, forwarded.attached] using accounted
  · simpa [Passage.released, forwarded.attached] using forwarded.unfailed
  · simp [Passage.released, forwarded.chosen, forwarded.found]
  · simpa [FrameSource.close_setListened forwarded.opened] using forwarded.produced
  · simpa [FrameSource.close_setListened forwarded.opened, forwarded.empty] using balanced

end World

end EyesFree
