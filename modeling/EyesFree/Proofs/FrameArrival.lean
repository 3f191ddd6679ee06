import EyesFree.Proofs.Ledger
import EyesFree.Proofs.PreviewMoves

namespace EyesFree

/-! What a frame meets that arrives while the relay listens. Every arrival takes the
oldest frame out of the queue of the source, so that the queue stays as long as it was
when the session started. -/

/-! ## A relay between arrivals -/

namespace Relay

variable {φ : Type} {relay : Relay φ}

/-- The worker waits, frames can be sent, and the flag is up as long as a
frame is in the slot. -/
structure Ready (relay : Relay φ) : Prop where
  waiting : relay.worker = .waiting
  sending : relay.sending = true
  occupied : relay.busy = relay.slot.isSome

/-- A relay that is ready after a frame arrived: a busy one drops it, an idle one takes it. -/
def arrived (frame : φ) (relay : Relay φ) : Relay φ :=
  if relay.busy then relay.countDropped else { relay with busy := true, slot := some frame }

theorem Ready.offer_eq (ready : relay.Ready) (frame : φ) :
    relay.offer frame =
      (if relay.busy then .dropped else .accepted, relay.arrived frame) := by
  have occupied := ready.occupied
  cases busy : relay.busy with
  | true => simp [offer, claim, arrived, busy]
  | false =>
      rw [busy] at occupied
      have empty : relay.slot.isNone = true := by simpa using occupied.symm
      simp [offer, claim, send, arrived, busy, ready.sending, empty]

theorem Ready.arrived (ready : relay.Ready) (frame : φ) : (relay.arrived frame).Ready := by
  unfold Relay.arrived
  split
  · exact ⟨ready.waiting, ready.sending, ready.occupied⟩
  · exact ⟨ready.waiting, ready.sending, rfl⟩

theorem Ready.inFlight (ready : relay.Ready) : relay.inFlight = relay.slot := by
  simp [Relay.inFlight, ready.waiting]

private theorem Ready.complete (ready : relay.Ready) {frame : φ} (sent : relay.slot = some frame)
    (queued : Bool) : (relay.complete queued).Ready := by
  refine ⟨?_, ?_, ?_⟩ <;>
    simp [Relay.complete, receive, write, release, clear, count, lower, ready.waiting, sent,
      ready.sending]

end Relay

/-! ## An arrival -/

namespace Surfaces

theorem source?_updateSource_self (source : Nat) (change : FrameSource → FrameSource)
    (surfaces : Surfaces) :
    (surfaces.updateSource source change).source? source =
      (surfaces.source? source).map change :=
  List.getElem?_modify_eq _ _ _

theorem source?_replace {source : Nat} {queue : FrameSource} {surfaces : Surfaces}
    (found : surfaces.source? source = some queue) (changed : FrameSource) :
    (surfaces.updateSource source fun _ => changed).source? source = some changed := by
  rw [source?_updateSource_self, found]
  rfl

theorem source?_updateSource_ne {source other : Nat} (different : source ≠ other)
    (change : FrameSource → FrameSource) (surfaces : Surfaces) :
    (surfaces.updateSource source change).source? other = surfaces.source? other :=
  List.getElem?_modify_ne _ _ different

end Surfaces

namespace FrameSource

theorem closed_produce (timestamp : Timestamp) (source : FrameSource) :
    (source.produce timestamp).2.closed = source.closed := by
  unfold produce
  dsimp only
  split <;> rfl

theorem capacity_produce (timestamp : Timestamp) (source : FrameSource) :
    (source.produce timestamp).2.capacity = source.capacity := by
  unfold produce
  dsimp only
  split <;> rfl

theorem listened_produce (timestamp : Timestamp) (source : FrameSource) :
    (source.produce timestamp).2.listened = source.listened := by
  unfold produce
  dsimp only
  split <;> rfl

end FrameSource

def FrameSource.passed (rest : List Frame) (busy : Bool) (source : FrameSource) : FrameSource :=
  { source with
    queue := rest
    produced := source.produced + 1
    released := source.released + busy.toNat }

namespace World

variable {world : ReplayWorld} {source : Nat} {queue : FrameSource} {relay : Relay Frame}

theorem produce_eq_of_full (found : world.surfaces.source? source = some queue)
    (full : queue.accepts = false) (timestamp : Timestamp) :
    world.produce source timestamp =
      (false, { world with
        surfaces := world.surfaces.updateSource source fun _ =>
          { queue with produced := queue.produced + 1, released := queue.released + 1 } }) := by
  simp [produce, found, FrameSource.produce, full, FrameSource.release]

private theorem relayFrame_eq {oldest : Frame} {rest : List Frame}
    (found : world.surfaces.source? source = some queue)
    (attached : world.session.relay = some relay) (ready : relay.Ready)
    (next : queue.queue = oldest :: rest) :
    let passed := world.relayFrame source
    passed.session = { world.session with relay := some (relay.arrived oldest) } ∧
      passed.surfaces.source? source =
        some { queue with queue := rest, released := queue.released + relay.busy.toNat } ∧
      ∀ other, source ≠ other →
        passed.surfaces.source? other = world.surfaces.source? other := by
  have offered := ready.offer_eq oldest
  simp only [relayFrame, attached, found, FrameSource.acquire, next, RelayStage.offer, stage,
    offered]
  cases busy : relay.busy with
  | true =>
      refine ⟨rfl, ?_, ?_⟩
      · simp [withStage, Surfaces.source?_updateSource_self, found, FrameSource.release]
      · intro other different
        simp [withStage, Surfaces.source?_updateSource_ne different]
  | false =>
      refine ⟨rfl, ?_, ?_⟩
      · simp [withStage, Surfaces.source?_updateSource_self, found]
      · intro other different
        simp [withStage, Surfaces.source?_updateSource_ne different]

theorem produce_eq_of_room (found : world.surfaces.source? source = some queue)
    (attached : world.session.relay = some relay) (ready : relay.Ready)
    (listened : queue.listened = true) (room : queue.accepts = true) {timestamp : Timestamp}
    {oldest : Frame} {rest : List Frame}
    (next : queue.queue ++ [⟨timestamp, queue.size, queue.format⟩] = oldest :: rest) :
    let produced := world.produce source timestamp
    produced.1 = true ∧
      produced.2.session = { world.session with relay := some (relay.arrived oldest) } ∧
      produced.2.surfaces.source? source = some (queue.passed rest relay.busy) ∧
      ∀ other, source ≠ other →
        produced.2.surfaces.source? other = world.surfaces.source? other := by
  let filled : FrameSource :=
    { queue with
      produced := queue.produced + 1
      queue := queue.queue ++ [⟨timestamp, queue.size, queue.format⟩] }
  let between : ReplayWorld :=
    { world with surfaces := world.surfaces.updateSource source fun _ => filled }
  have equal : world.produce source timestamp = (true, between.relayFrame source) := by
    simp [produce, found, FrameSource.produce, room, listened, between, filled]
  have filledFound : between.surfaces.source? source = some filled :=
    Surfaces.source?_replace found filled
  obtain ⟨session, source?, others⟩ := relayFrame_eq filledFound attached ready next
  rw [equal]
  refine ⟨rfl, session, source?, ?_⟩
  intro other different
  rw [others other different]
  exact Surfaces.source?_updateSource_ne different _ _

end World

/-! ## Forwarding and releasing -/

theorem OutputSlot.source?_queue (slot : OutputSlot) (timestamp : Timestamp) (surfaces : Surfaces)
    (source : Nat) :
    (slot.queue timestamp surfaces).2.source? source = surfaces.source? source := by
  unfold OutputSlot.queue
  split
  · rfl
  · unfold Surfaces.queue
    split
    · rfl
    · split <;> rfl

namespace RelayStage

variable {stage : RelayStage} {source : Nat} {queue : FrameSource}

theorem source?_forward (found : stage.surfaces.source? source = some queue) (origin : Nat) :
    ∃ released, (stage.forward origin).surfaces.source? source = some { queue with released } := by
  unfold forward
  split
  · exact ⟨queue.released, found⟩
  · by_cases same : origin = source
    · subst same
      refine ⟨queue.released + 1, ?_⟩
      simp [Surfaces.source?_updateSource_self, OutputSlot.source?_queue, found,
        FrameSource.release]
    · refine ⟨queue.released, ?_⟩
      simp [Surfaces.source?_updateSource_ne same, OutputSlot.source?_queue, found]

theorem ready_forward (ready : stage.relay.Ready) (origin : Nat) :
    (stage.forward origin).relay.Ready := by
  unfold forward
  rw [ready.inFlight]
  cases sent : stage.relay.slot with
  | none => exact ready
  | some frame => exact ready.complete sent _

end RelayStage

end EyesFree
