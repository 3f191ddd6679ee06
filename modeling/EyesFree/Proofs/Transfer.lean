import EyesFree.Proofs.Backlog

namespace EyesFree

/-! What becomes of the passage of preview frames when a frame is produced, when the
worker of the relay forwards one, and when everything is released. A release that
finds a frame under way has it forwarded, so it is all the same whether the worker
was done with it before. -/

/-! ## Sources, outputs and the relay -/

namespace FrameSource

theorem close_setListened {queue : FrameSource} (opened : queue.closed = false) :
    (queue.setListened false).close =
      { queue with
        queue := []
        listened := false
        closed := true
        closeCalls := queue.closeCalls + 1
        released := queue.released + queue.queue.length } := by
  simp [close, setListened, release, opened]

private theorem close_release (count : Nat) (queue : FrameSource) :
    ((queue.release count).setListened false).close =
      ((queue.setListened false).close).release count := by
  cases closed : queue.closed with
  | true => simp [close, setListened, release, closed]
  | false => simp [close, setListened, release, closed, Nat.add_right_comm]

end FrameSource

/-- An output that a frame was offered to: it is queued unless the
client gave the output up. -/
def Output.offered (timestamp : Timestamp) (output : Output) : Output :=
  if output.abandoned then output else { output with queued := output.queued ++ [timestamp] }

theorem Output.closeCalls_offered {timestamp : Timestamp} (output : Output) :
    (output.offered timestamp).closeCalls = output.closeCalls := by
  unfold offered
  split <;> rfl

private theorem Surfaces.updateOutput_congr {surfaces : Surfaces} {target : Nat} {output : Output}
    (found : surfaces.outputs[target]? = some output) {first second : Output → Output}
    (same : first output = second output) :
    surfaces.updateOutput target first = surfaces.updateOutput target second := by
  simp [updateOutput, List.modify_eq_set_getElem?, found, same]

private theorem OutputSlot.queue_eq {surfaces : Surfaces} {target : Nat} {output : Output}
    (found : surfaces.outputs[target]? = some output) (timestamp : Timestamp) :
    let queued := OutputSlot.queue timestamp ⟨some target⟩ surfaces
    queued.1.toBool = !output.abandoned ∧
      queued.2 = surfaces.updateOutput target (Output.offered timestamp) := by
  have present : surfaces.output? target = some output := found
  cases abandoned : output.abandoned with
  | true =>
      have same : surfaces = surfaces.updateOutput target id := by
        simp [Surfaces.updateOutput]
      refine ⟨by simp [queue, Surfaces.queue, present, abandoned, Except.toBool], ?_⟩
      simp only [queue, Surfaces.queue, present, abandoned, if_true]
      exact same.trans (Surfaces.updateOutput_congr found (by simp [Output.offered, abandoned]))
  | false =>
      refine ⟨by simp [queue, Surfaces.queue, present, abandoned, Except.toBool], ?_⟩
      simp only [queue, Surfaces.queue, present, abandoned, Bool.false_eq_true, if_false]
      exact Surfaces.updateOutput_congr found (by simp [Output.offered, abandoned])

private theorem Relay.Ready.complete_eq {φ : Type} {relay : Relay φ} (ready : relay.Ready)
    {frame : φ} (sent : relay.slot = some frame) (queued : Bool) :
    relay.complete queued =
      { relay with
        busy := false, slot := none, stats := Relay.countOutcome queued relay.stats } := by
  obtain ⟨busy, sending, slot, worker, stats⟩ := relay
  obtain rfl : worker = .waiting := ready.waiting
  obtain rfl : slot = some frame := sent
  rfl

def Passage.replaced (source : Nat) (queue : FrameSource) (passage : Passage) : Passage :=
  { passage with sources := passage.sources.modify source fun _ => queue }

namespace World

variable {world : ReplayWorld} {source : Nat} {queue : FrameSource} {relay : Relay Frame}

/-! ## Producing -/

theorem passage_produce_of_unnoticed (found : world.surfaces.source? source = some queue)
    (unnoticed : world.session.relay = none ∨ queue.listened = false ∨ queue.accepts = false)
    (timestamp : Timestamp) :
    (world.produce source timestamp).2.passage =
      world.passage.replaced source (queue.produce timestamp).2 := by
  rcases unnoticed with detached | silent | full
  · rw [produce_eq_of_detached detached found]
    rfl
  · rw [produce_eq_of_silent found silent]
    rfl
  · have equal : (queue.produce timestamp).2 =
        { queue with produced := queue.produced + 1, released := queue.released + 1 } := by
      simp [FrameSource.produce, full, FrameSource.release]
    rw [produce_eq_of_full found full, equal]
    rfl

private theorem passage_relayFrame {oldest : Frame} {rest : List Frame}
    (found : world.surfaces.source? source = some queue)
    (attached : world.session.relay = some relay) (ready : relay.Ready)
    (next : queue.queue = oldest :: rest) :
    (world.relayFrame source).passage =
      { world.passage.replaced source
          { queue with queue := rest, released := queue.released + relay.busy.toNat } with
        relay := some (relay.arrived oldest) } := by
  simp only [relayFrame, attached, found, FrameSource.acquire, next, RelayStage.offer, stage,
    ready.offer_eq oldest]
  cases busy : relay.busy with
  | true =>
      simp [passage, Passage.replaced, withStage, Surfaces.updateSource, List.modify_modify_eq,
        FrameSource.release, Function.comp_def]
  | false => simp [passage, Passage.replaced, withStage, Surfaces.updateSource]

theorem passage_produce_of_room (found : world.surfaces.source? source = some queue)
    (attached : world.session.relay = some relay) (ready : relay.Ready)
    (listened : queue.listened = true) (room : queue.accepts = true) {timestamp : Timestamp}
    {oldest : Frame} {rest : List Frame}
    (next : queue.queue ++ [⟨timestamp, queue.size, queue.format⟩] = oldest :: rest) :
    (world.produce source timestamp).2.passage =
      { world.passage.replaced source (queue.passed rest relay.busy) with
        relay := some (relay.arrived oldest) } := by
  let filled : FrameSource :=
    { queue with
      produced := queue.produced + 1
      queue := queue.queue ++ [⟨timestamp, queue.size, queue.format⟩] }
  let between : ReplayWorld :=
    { world with surfaces := world.surfaces.updateSource source fun _ => filled }
  have equal : world.produce source timestamp = (true, between.relayFrame source) := by
    simp [produce, found, FrameSource.produce, room, listened, between, filled]
  have filledFound : between.surfaces.source? source = some filled :=
    Surfaces.source?_replace found filled
  rw [equal, passage_relayFrame filledFound attached ready next]
  simp [passage, Passage.replaced, between, filled, FrameSource.passed, Surfaces.updateSource,
    List.modify_modify_eq, Function.comp_def]

/-! ## Forwarding -/

theorem forwardFrame_eq_of_idle (attached : world.session.relay = some relay)
    (ready : relay.Ready) (idle : relay.slot = none) : world.forwardFrame = world := by
  have empty : relay.inFlight = none := ready.inFlight.trans idle
  obtain ⟨session, channel, surfaces⟩ := world
  obtain ⟨_, _, _, _, _, _, _, _, _, _, _⟩ := session
  obtain rfl := attached
  unfold forwardFrame RelayStage.forward
  split
  next attached _ =>
    cases attached
    simp [stage, empty, withStage]
  next => rfl

private theorem forwardFrame_eq_of_sent {frame : Frame}
    (attached : world.session.relay = some relay)
    (ready : relay.Ready) (chosen : world.session.source = some source)
    (sent : relay.slot = some frame) :
    let queued := world.session.slot.queue frame.timestamp world.surfaces
    world.forwardFrame = { world with
      session := { world.session with
        relay := some { relay with
          busy := false
          slot := none
          stats := Relay.countOutcome queued.1.toBool relay.stats } }
      surfaces := queued.2.updateSource source (FrameSource.release 1) } := by
  have underWay : relay.inFlight = some frame := ready.inFlight.trans sent
  simp only [forwardFrame, attached, chosen, RelayStage.forward, stage, underWay, withStage,
    ready.complete_eq sent]

theorem passage_forwardFrame {frame : Frame} {target : Nat} {output : Output}
    (attached : world.session.relay = some relay) (ready : relay.Ready)
    (chosen : world.session.source = some source) (sent : relay.slot = some frame)
    (installed : world.session.slot = ⟨some target⟩)
    (found : world.surfaces.outputs[target]? = some output) :
    world.forwardFrame.passage =
      { world.passage with
        relay := some { relay with
          busy := false
          slot := none
          stats := Relay.countOutcome (!output.abandoned) relay.stats }
        sources := world.passage.sources.modify source (FrameSource.release 1)
        outputs := world.passage.outputs.modify target (Output.offered frame.timestamp) } := by
  obtain ⟨outcome, queued⟩ := OutputSlot.queue_eq found frame.timestamp
  rw [forwardFrame_eq_of_sent attached ready chosen sent, installed, outcome, queued]
  rfl

end World

/-! ## Releasing -/

private theorem OutputSlot.queue_updateSource (slot : OutputSlot) (timestamp : Timestamp)
    (source : Nat) (change : FrameSource → FrameSource) (surfaces : Surfaces) :
    slot.queue timestamp (surfaces.updateSource source change) =
      ((slot.queue timestamp surfaces).1,
        (slot.queue timestamp surfaces).2.updateSource source change) := by
  unfold queue Surfaces.queue
  cases slot.installed with
  | none => rfl
  | some target =>
      have same : (surfaces.updateSource source change).output? target = surfaces.output? target :=
        rfl
      simp only [same]
      cases surfaces.output? target with
      | none => rfl
      | some output =>
          dsimp only
          split <;> rfl

namespace World

variable {world : ReplayWorld} {source : Nat} {relay : Relay Frame}

private theorem closeRelay_eq_of_idle (attached : world.session.relay = some relay)
    (ready : relay.Ready) (chosen : world.session.source = some source)
    (idle : relay.slot = none) :
    world.closeRelay = { world with
      session := { world.session with relay := none, finalStats := relay.stats } } := by
  have nothing : relay.stopSending.inFlight = none := ready.inFlight.trans idle
  have counted : relay.stopSending.receive.stats = relay.stats := by
    simp [Relay.receive, Relay.stopSending, ready.waiting, idle]
  simp only [closeRelay, attached, chosen, RelayStage.shutdown, RelayStage.forward, stage, nothing,
    counted]

private theorem closeRelay_eq_of_sent {frame : Frame}
    (attached : world.session.relay = some relay)
    (ready : relay.Ready) (chosen : world.session.source = some source)
    (sent : relay.slot = some frame) :
    let queued := world.session.slot.queue frame.timestamp world.surfaces
    world.closeRelay = { world with
      session := { world.session with
        relay := none
        finalStats := Relay.countOutcome queued.1.toBool relay.stats }
      surfaces := queued.2.updateSource source (FrameSource.release 1) } := by
  have underWay : relay.stopSending.inFlight = some frame := ready.inFlight.trans sent
  have counted (queued : Bool) : (relay.stopSending.complete queued).receive.stats =
      Relay.countOutcome queued relay.stats := by
    simp [Relay.stopSending, Relay.complete, Relay.receive, Relay.write, Relay.release,
      Relay.clear, Relay.count, Relay.lower, ready.waiting, sent]
  simp only [closeRelay, attached, chosen, RelayStage.shutdown, RelayStage.forward, stage,
    underWay, counted]

private theorem closeSource_eq (chosen : world.session.source = some source) :
    world.closeSource = { world with
      surfaces := world.surfaces.updateSource source fun queue =>
        (queue.setListened false).close } := by
  simp only [closeSource, chosen]

private theorem closeRelay_forwardFrame {frame : Frame}
    (attached : world.session.relay = some relay)
    (ready : relay.Ready) (chosen : world.session.source = some source)
    (sent : relay.slot = some frame) :
    world.forwardFrame.closeSource.closeRelay = world.closeSource.closeRelay := by
  let queued := world.session.slot.queue frame.timestamp world.surfaces
  let idle : Relay Frame := { relay with
    busy := false, slot := none, stats := Relay.countOutcome queued.1.toBool relay.stats }
  have stillReady : idle.Ready := ⟨ready.waiting, ready.sending, rfl⟩
  let closed : ReplayWorld := { world with
    surfaces := world.surfaces.updateSource source fun queue => (queue.setListened false).close }
  rw [forwardFrame_eq_of_sent attached ready chosen sent, closeSource_eq chosen,
    closeSource_eq (by exact chosen)]
  refine Eq.trans (closeRelay_eq_of_idle rfl stillReady chosen rfl) ?_
  have shut := @closeRelay_eq_of_sent closed source relay frame attached ready chosen sent
  refine Eq.trans ?_ shut.symm
  simp only [closed, OutputSlot.queue_updateSource]
  simp [Surfaces.updateSource, List.modify_modify_eq, Function.comp_def,
    FrameSource.close_release]

/-- A release has the frame under way forwarded, unless the worker was done with it. -/
theorem released_forwardFrame
    (ready : ∀ relay, world.session.relay = some relay → relay.Ready) :
    world.forwardFrame.released = world.released := by
  cases attached : world.session.relay with
  | none => rw [forwardFrame_eq_of_detached attached]
  | some relay =>
      cases sent : relay.slot with
      | none => rw [forwardFrame_eq_of_idle attached (ready relay attached) sent]
      | some frame =>
          cases chosen : world.session.source with
          | none => simp [forwardFrame, attached, chosen]
          | some source =>
              simp only [released,
                closeRelay_forwardFrame attached (ready relay attached) chosen sent]

end World

def Passage.released (passage : Passage) : Passage where
  state := .deinitialized
  source := none
  target := passage.target
  relay := none
  slot := {}
  finalStats := (passage.relay.map (·.stats)).getD passage.finalStats
  sources :=
    match passage.source with
    | none => passage.sources
    | some source => passage.sources.modify source fun queue => (queue.setListened false).close
  outputs := passage.slot.closing passage.outputs

namespace World

variable {world : ReplayWorld} {source : Nat} {relay : Relay Frame}

theorem passage_released_of_detached (detached : world.session.relay = none) :
    world.released.passage = world.passage.released := by
  cases chosen : world.session.source with
  | none =>
      simp [World.released, passage, Passage.released, closeSource, closeRelay, closeOutput,
        OutputSlot.release, detached, chosen, sources_closeInstalled, outputs_closeInstalled]
  | some source =>
      simp [World.released, passage, Passage.released, closeSource, closeRelay, closeOutput,
        OutputSlot.release, detached, chosen, sources_closeInstalled, outputs_closeInstalled,
        Surfaces.updateSource]

theorem passage_released_of_idle (attached : world.session.relay = some relay)
    (ready : relay.Ready) (chosen : world.session.source = some source)
    (idle : relay.slot = none) : world.released.passage = world.passage.released := by
  have closed : world.closeSource.closeRelay = { world.closeSource with
      session := { world.session with relay := none, finalStats := relay.stats } } := by
    rw [closeSource_eq chosen]
    exact closeRelay_eq_of_idle attached ready chosen idle
  simp only [World.released, closed]
  simp [closeSource_eq chosen, passage, Passage.released, closeOutput, OutputSlot.release,
    attached, chosen, sources_closeInstalled, outputs_closeInstalled, Surfaces.updateSource]

end World

end EyesFree
